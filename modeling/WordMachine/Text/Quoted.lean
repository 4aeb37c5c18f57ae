import WordMachine.Text.Basic
import WordMachine.Text.Hex
import WordMachine.Text.Printable

/-!
# Quoted text

A quoted text stands between single quotes, or between double quotes if it
holds a single quote and no double quote.  The enclosing quote and the backslash
are escaped, and so is every code point that is not a printable character.  A
text can also be shown without quotes; then only surrogates are escaped.
-/

namespace WordMachine
namespace Text

/-- A code point as a backslash, a letter for the width, and that many small hexadecimal digits. -/
def escapeCode (code : Nat) : List Char :=
  let digits := Nat.toDigits 16 code
  if code < 0x100 then
    '\\' :: 'x' :: zeroFill 2 digits
  else if code < 0x10000 then
    '\\' :: 'u' :: zeroFill 4 digits
  else
    '\\' :: 'U' :: zeroFill 8 digits

/-- How one character stands between the given quotes. -/
def quoteCharacter
    (mark character : Char) : List Char :=
  if character = mark || character = '\\' then
    ['\\', character]
  else if character = '\n' then
    ['\\', 'n']
  else if character = '\r' then
    ['\\', 'r']
  else if character = '\t' then
    ['\\', 't']
  else if isPrintable character then
    [character]
  else
    escapeCode character.toNat

/-- How one code point stands between the given quotes. -/
def quotePoint
    (mark : Char)
    (point : CodePoint) : List Char :=
  match point.char? with
  | some character => quoteCharacter mark character
  | none => escapeCode point.toNat

/-- The quote that encloses a text. -/
def quotationMark (text : Text) : Char :=
  let holds (character : Char) := text.points.contains (CodePoint.ofChar character)
  if holds '\'' && !holds '"' then '"' else '\''

/-- A text between quotes. -/
def quoted (text : Text) : String :=
  let mark := quotationMark text
  String.ofList (mark :: text.points.flatMap (quotePoint mark) ++ [mark])

/-- How one code point stands in a text without quotes. -/
def showPoint (point : CodePoint) : List Char :=
  match point.char? with
  | some character => [character]
  | none => escapeCode point.toNat

/-- A text in which surrogates are escaped. -/
def shown (text : Text) : String :=
  String.ofList (text.points.flatMap showPoint)

example : quoted "it's" = "\"it's\"" := by decide +kernel
example : quoted "a\n\x7f" = "'a\\n\\x7f'" := by decide +kernel
example : quoted ⟨[.ofNat 0xD800]⟩ = "'\\ud800'" := by decide +kernel

end Text
end WordMachine
