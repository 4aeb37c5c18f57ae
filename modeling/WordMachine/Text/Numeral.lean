import WordMachine.Text.Blank
import WordMachine.Text.DecimalDigit

/-!
# Integer literals

An integer literal may stand between blanks and carry one sign.  Its digits may
be grouped by single underscores, and a decimal digit may come from any script.
`readInteger?` also accepts hexadecimal, octal and binary literals with their
mark `0x`, `0o` or `0b` and then refuses decimal literals with superfluous
leading zeros; `readDecimal?` accepts decimal literals only, leading zeros
included.  No decimal literal may have more than 4300 digits, whether it is read
or written.
-/

namespace WordMachine
namespace Text
namespace Numeral

/-- The greatest number of digits of a decimal literal. -/
def decimalDigitLimit : Nat := 4300

/-- The least natural number with more decimal digits than so many.  It is not to be worked out
where that is a large number. -/
@[irreducible] def leastBeyond (digits : Nat) : Nat := Nat.pow 10 digits

/-- The least natural number that is too long to be written. -/
def leastUnwritten : Nat := leastBeyond decimalDigitLimit

/-- The words for a number that is too long to be written. -/
def overlong : String :=
  "Exceeds the limit (4300 digits) for integer string conversion; " ++
    "use sys.set_int_max_str_digits() to increase the limit"

/-- Replaces blanks beyond ASCII by spaces and digits of other scripts by their ASCII forms. -/
def toAscii? (point : CodePoint) : Option Char :=
  if point.toNat < 0x7F then
    point.char?
  else if isBlank point then
    some ' '
  else
    (decimalDigit? point).map Nat.digitChar

/-- The ASCII blanks that may surround a literal.  The information separators are not among them. -/
def isPadding (character : Char) : Bool :=
  character = ' ' || (0x09 ≤ character.toNat && character.toNat ≤ 0x0D)

/-- The characters without the padding at both ends. -/
def stripPadding (characters : List Char) : List Char :=
  ((characters.dropWhile isPadding).reverse.dropWhile isPadding).reverse

/-- The value of an ASCII digit in a radix of at most sixteen. -/
def digitValue?
    (radix : Nat)
    (character : Char) : Option Nat :=
  let value? :=
    if '0' ≤ character ∧ character ≤ '9' then
      some (character.toNat - '0'.toNat)
    else if 'a' ≤ character ∧ character ≤ 'f' then
      some (character.toNat - 'a'.toNat + 10)
    else if 'A' ≤ character ∧ character ≤ 'F' then
      some (character.toNat - 'A'.toNat + 10)
    else
      none
  value?.filter (· < radix)

/-- Reads digits with single underscores between them.  There has to be a digit. -/
def digits? (radix : Nat) : List Char -> Option (List Nat)
  | [] => none
  | [character] => (digitValue? radix character).map ([·])
  | character :: '_' :: rest => do
      let digit ← digitValue? radix character
      let digits ← digits? radix rest
      return digit :: digits
  | character :: rest => do
      let digit ← digitValue? radix character
      let digits ← digits? radix rest
      return digit :: digits

/-- The number that digits denote, the most significant digit first. -/
def value
    (radix : Nat)
    (digits : List Nat) : Nat :=
  digits.foldl (fun total digit => total * radix + digit) 0

/-- The digits after a radix mark, where one underscore may come first. -/
def marked?
    (radix : Nat)
    (characters : List Char) : Option Nat :=
  let body :=
    match characters with
    | '_' :: rest => rest
    | rest => rest
  (digits? radix body).map (value radix)

/-- The value of a decimal literal without sign, if it is not too long. -/
def decimal? (characters : List Char) : Option Nat := do
  let digits ← digits? 10 characters
  if digits.length ≤ decimalDigitLimit then
    return value 10 digits
  else
    none

/-- The value of a literal without sign that may carry a radix mark.  A decimal literal that
starts with a zero has to be zero. -/
def unsigned? : List Char -> Option Nat
  | '0' :: 'x' :: rest => marked? 16 rest
  | '0' :: 'X' :: rest => marked? 16 rest
  | '0' :: 'o' :: rest => marked? 8 rest
  | '0' :: 'O' :: rest => marked? 8 rest
  | '0' :: 'b' :: rest => marked? 2 rest
  | '0' :: 'B' :: rest => marked? 2 rest
  | '0' :: rest => (decimal? ('0' :: rest)).filter (· = 0)
  | characters => decimal? characters

/-- Reads an optional sign and then a literal without one. -/
def signed?
    (unsigned : List Char -> Option Nat)
    (characters : List Char) : Option Int :=
  match characters with
  | '+' :: rest => (unsigned rest).map Int.ofNat
  | '-' :: rest => (unsigned rest).map fun magnitude => -Int.ofNat magnitude
  | rest => (unsigned rest).map Int.ofNat

end Numeral

/-- Reads an integer literal whose radix is given by its mark. -/
def readInteger? (text : Text) : Option Int := do
  let characters ← text.points.mapM Numeral.toAscii?
  Numeral.signed? Numeral.unsigned? (Numeral.stripPadding characters)

/-- Reads a decimal integer literal. -/
def readDecimal? (text : Text) : Option Int := do
  let characters ← text.points.mapM Numeral.toAscii?
  Numeral.signed? Numeral.decimal? (Numeral.stripPadding characters)

/-- Writes a decimal integer literal, unless it would be too long. -/
def writeDecimal? (number : Int) : Option String :=
  let digits := toString number.natAbs
  if digits.length ≤ Numeral.decimalDigitLimit then
    some (if number < 0 then "-" ++ digits else digits)
  else
    none

/-- A number has no more than so many digits exactly if it is less than the least that has. -/
theorem Numeral.length_repr_le_iff
    {digits : Nat}
    (positive : 0 < digits)
    (number : Nat) : number.repr.length ≤ digits ↔ number < leastBeyond digits := by
  unfold leastBeyond
  exact Nat.length_repr_le_iff positive

/-- Numbers of up to seven digits are less than any with more. -/
theorem Numeral.le_leastBeyond
    {digits : Nat}
    (enough : 7 ≤ digits) : 10000000 ≤ leastBeyond digits := by
  unfold leastBeyond
  calc
    10000000 = Nat.pow 10 7 := rfl
    _ ≤ Nat.pow 10 digits := Nat.pow_le_pow_right (by decide) enough

/-- Words and code points are far from having too many digits. -/
theorem Numeral.le_leastUnwritten : 10000000 ≤ leastUnwritten :=
  le_leastBeyond (by decide)

/-- A number is written in its usual form exactly if it has few enough digits. -/
theorem writeDecimal?_eq (number : Int) :
    writeDecimal? number =
      if number.natAbs < Numeral.leastUnwritten then some (toString number) else none := by
  have short :
      (toString number.natAbs).length ≤ Numeral.decimalDigitLimit ↔
        number.natAbs < Numeral.leastUnwritten :=
    Numeral.length_repr_le_iff (by decide) number.natAbs
  have form :
      (if number < 0 then "-" ++ toString number.natAbs else toString number.natAbs) =
        toString number := by
    cases number with
    | ofNat number => rfl
    | negSucc number =>
        rw [if_pos (Int.negSucc_lt_zero number)]
        rfl
  unfold writeDecimal?
  simp only [short, form]

example : readInteger? " +0x_fF\n" = some 255 := by decide +kernel
example : readInteger? "017" = none := by decide +kernel
example : readDecimal? "-0_17" = some (-17) := by decide +kernel

end Text
end WordMachine
