import WordMachine.Text.Basic
import WordMachine.Text.CodeRange

/-!
# Blank characters

The characters that count as white space at the ends of a text: those with the
Unicode property White_Space and the four information separators.
-/

namespace WordMachine
namespace Text

/-- The code points of the blank characters, in ascending order. -/
def blankRanges : List CodeRange :=
  [
    ⟨0x9, 0xD⟩, ⟨0x1C, 0x20⟩, ⟨0x85, 0x85⟩, ⟨0xA0, 0xA0⟩, ⟨0x1680, 0x1680⟩, ⟨0x2000, 0x200A⟩,
    ⟨0x2028, 0x2029⟩, ⟨0x202F, 0x202F⟩, ⟨0x205F, 0x205F⟩, ⟨0x3000, 0x3000⟩]

/-- Whether a code point counts as white space. -/
def isBlank (point : CodePoint) : Bool :=
  CodeRange.anyContains blankRanges point.toNat

/-- A text without the blanks at its end. -/
def trimEnd (text : Text) : Text :=
  ⟨(text.points.reverse.dropWhile isBlank).reverse⟩

/-- A text without the blanks at both ends. -/
def trim (text : Text) : Text :=
  trimEnd ⟨text.points.dropWhile isBlank⟩

end Text
end WordMachine
