import WordMachine.Machine.Step

/-!
# Evaluation of operands

A plan looks at operand words through `Machine.source`, `Machine.destination` and
`Machine.located`.  The lemmas below say when each of them succeeds, and with
what, in terms of the numbers of the words.
-/

namespace WordMachine
namespace Machine

/-- The number of the operand word at a distance from the program counter. -/
def operandNumber
    (machine : Machine)
    (distance : Nat) : Nat :=
  (machine.operandWord distance).toNat

/-- The operand at a distance from the program counter is valid and resolves to a word. -/
def Evaluates
    (machine : Machine)
    (distance : Nat)
    (word : Word) : Prop :=
  machine.operandNumber distance ≤ 32775 ∧
    machine.resolve (machine.operandNumber distance) = .ok (word.toNat : Int)

theorem denoted_eq_ok_iff
    {word : Word}
    {operand : Operand} :
    denoted word = .ok operand ↔ Operand.ofWord? word = some operand := by
  unfold denoted
  cases Operand.ofWord? word <;> simp

/-- Words up to 32775 denote a literal or a register. -/
theorem denoted_of_small
    {word : Word}
    (small : word.toNat ≤ 32775) :
    ∃ operand, denoted word = .ok operand := by
  rcases Operand.ofWord?_cases word with ⟨_, found⟩ | ⟨index, _, found⟩ | ⟨large, _⟩
  · exact ⟨.literal word, by rw [denoted, found]⟩
  · exact ⟨.register index, by rw [denoted, found]⟩
  · omega

/-- Words above 32775 denote nothing; the fault names the word. -/
theorem denoted_of_large
    {word : Word}
    (large : 32775 < word.toNat) :
    denoted word = .error (.badOperand (toString word.toNat)) := by
  rw [denoted, (Operand.ofWord?_eq_none_iff word).mpr large]

section

variable
  {machine : Machine}
  {distance : Nat}

theorem source_of_large (large : 32775 < machine.operandNumber distance) :
    machine.source distance =
      .error (.badOperand (toString (machine.operandNumber distance))) := by
  rw [source, denoted_of_large large]
  rfl

/-- A valid source operand has the value that its number resolves to. -/
@[simp] theorem source_eq_ok_iff (word : Word) :
    machine.source distance = .ok word ↔ machine.Evaluates distance word := by
  by_cases small : machine.operandNumber distance ≤ 32775
  · obtain ⟨operand, found⟩ := denoted_of_small small
    have sourced : machine.source distance = .ok (machine.valueOf operand) := by
      rw [source, found]
      rfl
    have resolved :
        machine.resolve (machine.operandNumber distance) =
          .ok ((machine.valueOf operand).toNat : Int) := by
      unfold denoted at found
      rw [operandNumber, resolve_word]
      cases known : Operand.ofWord? (machine.operandWord distance) with
      | none => simp [known] at found
      | some other =>
          simp only [known, Except.ok.injEq] at found
          rw [found]
    rw [Evaluates, sourced, resolved]
    simp only [small, true_and, Except.ok.injEq, Int.ofNat_inj, UInt16.toNat_inj]
  · rw [source_of_large (by omega)]
    simp [Evaluates, small]

theorem exists_evaluates_iff :
    (∃ word, machine.Evaluates distance word) ↔ machine.operandNumber distance ≤ 32775 := by
  constructor
  · rintro ⟨word, small, _⟩
    exact small
  · intro small
    obtain ⟨operand, found⟩ := denoted_of_small small
    refine ⟨machine.valueOf operand, (source_eq_ok_iff _).mp ?_⟩
    rw [source, found]
    rfl

/-- An operand has one value at most. -/
theorem Evaluates.unique
    {left right : Word}
    (first : machine.Evaluates distance left)
    (second : machine.Evaluates distance right) :
    left = right := by
  have same := (source_eq_ok_iff left).mpr first
  rw [(source_eq_ok_iff right).mpr second] at same
  exact (Except.ok.inj same).symm

/-- Either an operand is invalid, or there is exactly one word that it resolves to. -/
theorem operand_cases
    (machine : Machine)
    (distance : Nat) :
    (32775 < machine.operandNumber distance ∧ ∀ word, ¬ machine.Evaluates distance word) ∨
      ∃ value, ¬ 32775 < machine.operandNumber distance ∧
        ∀ word, machine.Evaluates distance word ↔ word = value := by
  by_cases small : machine.operandNumber distance ≤ 32775
  · obtain ⟨value, evaluates⟩ := exists_evaluates_iff.mpr small
    refine Or.inr ⟨value, Nat.not_lt.mpr small, fun word => ?_⟩
    constructor
    · exact fun other => other.unique evaluates
    · rintro rfl
      exact evaluates
  · exact Or.inl ⟨Nat.lt_of_not_le small, fun word evaluates => small evaluates.1⟩

@[simp] theorem located_eq_ok_iff
    (access : Access)
    (word : Word)
    (address : Address) :
    located access word = .ok address ↔ word.toNat = address.val := by
  rw [← Word.address?_eq_some_iff, located]
  cases Word.address? word <;> simp

@[simp] theorem exists_address_iff (number : Nat) :
    (∃ address : Address, number = address.val) ↔ number < 32768 := by
  constructor
  · rintro ⟨address, rfl⟩
    exact address.isLt
  · exact fun inRange => ⟨⟨number, inRange⟩, rfl⟩

end

end Machine
end WordMachine
