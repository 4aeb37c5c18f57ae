import Mathlib.Data.Int.Bitwise
import Mathlib.Data.Nat.Bitwise
import WordMachine.Word

/-!
# The numbers of words

What the operations on words do to the numbers that the words stand for, and
that sixteen bits are enough for the result of each of them.
-/

namespace WordMachine
namespace Word

@[simp] theorem toNat_ofBool (flag : Bool) :
    (ofBool flag).toNat = if flag then 1 else 0 := by
  cases flag <;> rfl

@[simp] theorem toNat_add (left right : Word) :
    (add left right).toNat = (left.toNat + right.toNat) % 32768 := by
  have small : (left.toNat + right.toNat) % 32768 < 65536 := by omega
  rw [add, UInt16.toNat_ofNat_of_lt' small]

@[simp] theorem toNat_multiply (left right : Word) :
    (multiply left right).toNat = left.toNat * right.toNat % 32768 := by
  have small : left.toNat * right.toNat % 32768 < 65536 :=
    Nat.lt_trans (Nat.mod_lt _ (by decide)) (by decide)
  rw [multiply, UInt16.toNat_ofNat_of_lt' small]

/-! ## Operations on integers -/

theorem beq_zero_toNat (word : Word) :
    ((word.toNat : Int) == 0) = (word == 0) := by
  rw [Bool.eq_iff_iff]
  simp [← UInt16.toNat_inj]

theorem land_toNat (left right : Word) :
    Int.land left.toNat right.toNat = (left &&& right).toNat := by
  rw [UInt16.toNat_and]
  rfl

theorem lor_toNat (left right : Word) :
    Int.lor left.toNat right.toNat = (left ||| right).toNat := by
  rw [UInt16.toNat_or]
  rfl

theorem fmod_toNat (dividend divisor : Word) :
    (dividend.toNat : Int).fmod divisor.toNat = (dividend % divisor).toNat := by
  rw [Int.fmod_eq_emod_of_nonneg _ (Int.natCast_nonneg _), UInt16.toNat_mod]
  rfl

/-- The bits that a word does not have are those of its complement. -/
theorem land_lnot (word : Word) :
    Int.land (Int.lnot word.toNat) 32767 = (complement word).toNat := by
  have bound : word.toNat < 2 ^ 16 := word.toNat_lt
  have reversed : (complement word).toNat = (2 ^ 16 - (word.toNat + 1)) &&& (2 ^ 15 - 1) := by
    simp [complement]
  have sameBits : Nat.ldiff (2 ^ 15 - 1) word.toNat = (complement word).toNat := by
    rw [reversed]
    apply Nat.eq_of_testBit_eq
    intro place
    rw [Nat.testBit_ldiff, Nat.testBit_and, Nat.testBit_two_pow_sub_one,
      Nat.testBit_two_pow_sub_succ bound]
    by_cases low : place < 15
    · have : place < 16 := by omega
      simp [low, this]
    · simp [low]
  exact congrArg Int.ofNat sameBits

end Word
end WordMachine
