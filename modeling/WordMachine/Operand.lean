import WordMachine.Word

/-!
# Operands

An operand word below 32768 is a literal, one of the eight words from 32768 up
is a register, and every larger word is invalid.
-/

namespace WordMachine

/-- What an operand word denotes. -/
inductive Operand where
  /-- A number that stands for itself.  As a destination it discards what is stored. -/
  | literal (value : Word)
  /-- The contents of a register. -/
  | register (index : RegisterIndex)
deriving DecidableEq, Repr

namespace Operand

/-- Reads an operand word. -/
def ofWord? (word : Word) : Option Operand :=
  if word.toNat < 32768 then
    some (.literal word)
  else if bound : word.toNat - 32768 < 8 then
    some (.register ⟨word.toNat - 32768, bound⟩)
  else
    none

/-- An operand word is a literal, or the word of a register, or too large to be either. -/
theorem ofWord?_cases (word : Word) :
    (word.toNat < 32768 ∧ ofWord? word = some (.literal word)) ∨
      (∃ index : RegisterIndex,
        word.toNat = 32768 + index.val ∧ ofWord? word = some (.register index)) ∨
      (32776 ≤ word.toNat ∧ ofWord? word = none) := by
  unfold ofWord?
  by_cases small : word.toNat < 32768
  · simp [small]
  · by_cases inRange : word.toNat - 32768 < 8
    · refine Or.inr (Or.inl ⟨⟨word.toNat - 32768, inRange⟩, ?_, ?_⟩)
      · simp only
        omega
      · simp [small, inRange]
    · refine Or.inr (Or.inr ⟨by omega, ?_⟩)
      simp [small, inRange]

/-- The operand word of a register. -/
def registerWord (index : RegisterIndex) : Word :=
  UInt16.ofNat (32768 + index.val)

theorem ofWord?_of_lt
    {word : Word}
    (small : word.toNat < 32768) :
    ofWord? word = some (.literal word) := by
  simp [ofWord?, small]

theorem ofWord?_eq_none_iff (word : Word) :
    ofWord? word = none ↔ 32776 ≤ word.toNat := by
  unfold ofWord?
  split
  · simp
    omega
  · split <;> simp <;> omega

@[simp] theorem ofWord?_registerWord (index : RegisterIndex) :
    ofWord? (registerWord index) = some (.register index) := by
  revert index
  decide

end Operand
end WordMachine
