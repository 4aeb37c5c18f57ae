/-!
# Code points

A code point is a number from 0 to 0x10FFFF.  Every character is one.  The
others are the surrogates, which mean nothing on their own and may stand in a
text all the same.
-/

namespace WordMachine

/-- A number from 0 to 0x10FFFF. -/
@[ext] structure CodePoint where
  /-- The number. -/
  toNat : Nat
  /-- The number is small enough. -/
  isSmall : toNat < 0x110000
deriving DecidableEq, Repr

namespace CodePoint

theorem toNat_character_lt (character : Char) :
    character.toNat < 0x110000 := by
  have valid : character.toNat < 0xD800 ∨
      0xDFFF < character.toNat ∧ character.toNat < 0x110000 := character.valid
  omega

/-- The code point of a character. -/
def ofChar (character : Char) : CodePoint :=
  ⟨character.toNat, toNat_character_lt character⟩

instance : Coe Char CodePoint := ⟨ofChar⟩

/-- The code point with a given number, or zero for a number that is too large. -/
def ofNat (number : Nat) : CodePoint :=
  if small : number < 0x110000 then ⟨number, small⟩ else ofChar '\x00'

/-- Whether a code point is no character. -/
def isSurrogate (point : CodePoint) : Bool :=
  0xD800 ≤ point.toNat && point.toNat < 0xE000

/-- The character with a given code point. -/
def char? (point : CodePoint) : Option Char :=
  if valid : point.toNat.isValidChar then some (Char.ofNatAux point.toNat valid) else none

@[simp] theorem toNat_ofChar (character : Char) :
    (ofChar character).toNat = character.toNat :=
  rfl

@[simp] theorem char?_ofChar (character : Char) :
    (ofChar character).char? = some character := by
  unfold char?
  exact dif_pos character.valid

/-- The code points without a character are the surrogates. -/
theorem char?_eq_none_iff (point : CodePoint) :
    point.char? = none ↔ point.isSurrogate = true := by
  have small := point.isSmall
  have range : ¬ point.toNat.isValidChar ↔ point.isSurrogate = true := by
    simp only [isSurrogate, Nat.isValidChar, Bool.and_eq_true, decide_eq_true_eq]
    omega
  by_cases valid : point.toNat.isValidChar
  · have found : point.char? = some (Char.ofNatAux point.toNat valid) := dif_pos valid
    exact iff_of_false
      (fun absent => Option.some_ne_none _ (found.symm.trans absent))
      (fun surrogate => range.mpr surrogate valid)
  · have absent : point.char? = none := dif_neg valid
    exact iff_of_true absent (range.mp valid)

theorem ofChar_injective
    {one other : Char}
    (same : ofChar one = ofChar other) :
    one = other := by
  have := congrArg char? same
  simpa using this

end CodePoint
end WordMachine
