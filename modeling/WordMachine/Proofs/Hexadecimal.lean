import Mathlib.Data.List.Basic
import WordMachine.Text.Hex
import WordMachine.Text.Numeral

/-!
# Reading hexadecimal numbers back

A number is written by its digits, which can be read back one by one, and zeros in front
of them count for nothing.  So however wide the field is that a number fills, no other number
fills it in the same way: `Text.hex_inj`.
-/

namespace WordMachine
namespace Text

/-! ## Digits -/

namespace Numeral

theorem value_append_single
    (radix : Nat)
    (digits : List Nat)
    (digit : Nat) :
    value radix (digits ++ [digit]) = value radix digits * radix + digit := by
  simp [value]

/-- Zeros in front of the digits do not count. -/
theorem value_replicate_zero_append
    (radix count : Nat)
    (digits : List Nat) :
    value radix (List.replicate count 0 ++ digits) = value radix digits := by
  induction count with
  | zero => simp
  | succ count inductionHypothesis =>
      rw [List.replicate_succ, List.cons_append]
      simpa [value] using inductionHypothesis

/-- A number is written by the digits that denote it. -/
theorem exists_digits
    {radix : Nat}
    (large : 1 < radix)
    (number : Nat) :
    ∃ digits : List Nat,
      (∀ digit ∈ digits, digit < radix) ∧
        Nat.toDigits radix number = digits.map Nat.digitChar ∧
        value radix digits = number := by
  induction number using Nat.strongRecOn with
  | ind number inductionHypothesis =>
      rw [Nat.toDigits_eq_if large]
      split
      · next small => exact ⟨[number], by simpa using small, by simp, by simp [value]⟩
      · next several =>
          have positive : 0 < number := by omega
          obtain ⟨digits, bounds, written, denoted⟩ :=
            inductionHypothesis (number / radix) (Nat.div_lt_self positive large)
          refine ⟨digits ++ [number % radix], ?_, by simp [written], ?_⟩
          · intro digit isDigit
            rcases List.mem_append.mp isDigit with front | last
            · exact bounds digit front
            · rw [List.mem_singleton.mp last]
              exact Nat.mod_lt number (by omega)
          · rw [value_append_single, denoted, Nat.div_add_mod']

/-- A capital digit is read as its value. -/
theorem digitValue?_capital
    {digit : Nat}
    (small : digit < 16) :
    digitValue? 16 (Nat.digitChar digit).toUpper = some digit := by
  have all : ∀ digit < 16, digitValue? 16 (Nat.digitChar digit).toUpper = some digit := by decide
  exact all digit small

end Numeral

/-! ## Fields -/

/-- The number that stands in a field of hexadecimal digits. -/
def hexValue (characters : List Char) : Nat :=
  Numeral.value 16 (characters.filterMap (Numeral.digitValue? 16))

/-- A number fills a field with digits, and can be read back. -/
theorem zeroFill_hexDigits
    (width number : Nat) :
    (∀ character ∈ zeroFill width (hexDigits number),
      (Numeral.digitValue? 16 character).isSome) ∧
      hexValue (zeroFill width (hexDigits number)) = number := by
  obtain ⟨digits, bounds, written, denoted⟩ :=
    Numeral.exists_digits (show 1 < 16 by decide) number
  have zero : Numeral.digitValue? 16 '0' = some 0 := by decide
  have capitals : (hexDigits number).filterMap (Numeral.digitValue? 16) = digits := by
    rw [hexDigits, written, List.map_map, List.filterMap_map]
    refine (List.filterMap_congr fun digit isDigit => ?_).trans List.filterMap_some
    exact Numeral.digitValue?_capital (bounds digit isDigit)
  constructor
  · intro character isThere
    rcases List.mem_append.mp isThere with front | back
    · rw [List.eq_of_mem_replicate front, zero]
      rfl
    · rw [hexDigits, written, List.map_map] at back
      obtain ⟨digit, isDigit, rfl⟩ := List.mem_map.mp back
      simp [Numeral.digitValue?_capital (bounds digit isDigit)]
  · rw [hexValue, zeroFill, List.filterMap_append, List.filterMap_replicate_of_some zero,
      capitals, Numeral.value_replicate_zero_append, denoted]

/-- The characters of a number: a minus sign if it is negative, and digits. -/
theorem mem_hex
    {width : Nat}
    {number : Int}
    {character : Char}
    (isThere : character ∈ (hex width number).toList) :
    character = '-' ∨ (Numeral.digitValue? 16 character).isSome := by
  unfold hex at isThere
  split at isThere
  · rw [String.toList_ofList] at isThere
    rcases List.mem_cons.mp isThere with sign | digit
    · exact .inl sign
    · exact .inr ((zeroFill_hexDigits _ _).1 character digit)
  · rw [String.toList_ofList] at isThere
    exact .inr ((zeroFill_hexDigits _ _).1 character isThere)

/-- The sign of a number is no digit. -/
theorem zeroFill_ne_minus
    (width number otherWidth other : Nat) :
    zeroFill width (hexDigits number) ≠ '-' :: zeroFill otherWidth (hexDigits other) := by
  intro same
  have digit := (zeroFill_hexDigits width number).1 '-' (by simp [same])
  exact absurd digit (by decide)

/-- Different numbers are written differently. -/
theorem hex_inj
    {width : Nat}
    {number other : Int} :
    hex width number = hex width other ↔ number = other := by
  refine ⟨fun same => ?_, congrArg (hex width)⟩
  have readBack (width : Nat) {magnitude otherMagnitude : Nat}
      (same : zeroFill width (hexDigits magnitude) = zeroFill width (hexDigits otherMagnitude)) :
      magnitude = otherMagnitude := by
    have values := congrArg hexValue same
    rwa [(zeroFill_hexDigits _ _).2, (zeroFill_hexDigits _ _).2] at values
  unfold hex at same
  split at same <;> split at same <;> rw [String.ofList_inj] at same
  · have magnitudes := readBack _ (List.cons.inj same).2
    omega
  · exact absurd same.symm (zeroFill_ne_minus _ _ _ _)
  · exact absurd same (zeroFill_ne_minus _ _ _ _)
  · have magnitudes := readBack _ same
    omega

end Text
end WordMachine
