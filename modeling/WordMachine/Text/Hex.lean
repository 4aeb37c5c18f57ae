/-!
# Hexadecimal numbers

Numbers are written in capital hexadecimal digits.  A minimum width is filled
with zeros after the sign, and the sign counts towards the width.
-/

namespace WordMachine
namespace Text

/-- The hexadecimal digits of a number, in capitals. -/
def hexDigits (number : Nat) : List Char :=
  (Nat.toDigits 16 number).map Char.toUpper

/-- The characters, preceded by as many zeros as the width asks for. -/
def zeroFill
    (width : Nat)
    (characters : List Char) : List Char :=
  List.replicate (width - characters.length) '0' ++ characters

/-- A number in hexadecimal that fills at least the given width, its sign included. -/
def hex
    (width : Nat)
    (number : Int) : String :=
  if number < 0 then
    String.ofList ('-' :: zeroFill (width - 1) (hexDigits number.natAbs))
  else
    String.ofList (zeroFill width (hexDigits number.natAbs))

example : hex 4 26 = "001A" := by decide +kernel
example : hex 4 (-1) = "-001" := by decide +kernel

end Text
end WordMachine
