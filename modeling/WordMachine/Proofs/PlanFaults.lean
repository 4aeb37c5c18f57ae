import WordMachine.Proofs.Operands
import WordMachine.Proofs.Step

/-!
# Faults of plans

`Machine.PlanCondition` says, for every opcode and kind of fault, and in terms of
the words that the machine holds, when the plan fails with this kind.  A plan
fails at the first of its checks that fails, so `Fails` is computed along the
checks of each opcode and then compared with the condition.
-/

namespace WordMachine

variable {World α β : Type}

/-! ## Failing checks -/

/-- A result is a failure of the given kind. -/
def Fails
    (result : Except Cause α)
    (kind : FaultKind) : Prop :=
  ∃ cause, result = .error cause ∧ cause.kind = kind

@[simp] theorem not_fails_ok
    (value : α)
    (kind : FaultKind) :
    ¬ Fails (.ok value) kind := by
  rintro ⟨cause, impossible, _⟩
  cases impossible

@[simp] theorem fails_error
    (cause : Cause)
    (kind : FaultKind) :
    Fails (.error cause : Except Cause α) kind ↔ kind = cause.kind := by
  constructor
  · rintro ⟨thrown, same, rfl⟩
    cases same
    rfl
  · exact fun same => ⟨cause, rfl, same.symm⟩

@[simp] theorem not_fails_pure
    (value : α)
    (kind : FaultKind) :
    ¬ Fails (pure value) kind :=
  not_fails_ok value kind

@[simp] theorem fails_throw
    (cause : Cause)
    (kind : FaultKind) :
    Fails (throw cause : Except Cause α) kind ↔ kind = cause.kind :=
  fails_error cause kind

/-- Of two checks in a row, the first fails, or it succeeds and the second fails. -/
@[simp] theorem fails_bind
    (first : Except Cause α)
    (second : α -> Except Cause β)
    (kind : FaultKind) :
    Fails (first >>= second) kind ↔
      Fails first kind ∨ ∃ value, first = .ok value ∧ Fails (second value) kind := by
  cases first with
  | error cause => simp [Fails, bind, Except.bind]
  | ok value => simp [Fails, bind, Except.bind]

@[simp] theorem fails_map
    (function : α -> β)
    (result : Except Cause α)
    (kind : FaultKind) :
    Fails (function <$> result) kind ↔ Fails result kind := by
  cases result <;> simp [Fails, Functor.map, Except.map]

@[simp] theorem fails_ite
    {condition : Prop}
    [Decidable condition]
    (first second : Except Cause α)
    (kind : FaultKind) :
    Fails (if condition then first else second) kind ↔
      condition ∧ Fails first kind ∨ ¬ condition ∧ Fails second kind := by
  split <;> simp [*]

namespace Machine

section

variable
  {machine : Machine}
  {kind : FaultKind}

@[simp] theorem fails_source
    (distance : Nat) :
    Fails (machine.source distance) kind ↔
      kind = .invalidOperand ∧ 32775 < machine.operandNumber distance := by
  by_cases large : 32775 < machine.operandNumber distance
  · rw [source_of_large large]
    simp [large, Cause.kind]
  · obtain ⟨word, evaluates⟩ := exists_evaluates_iff.mpr (Nat.le_of_not_lt large)
    rw [(source_eq_ok_iff word).mpr evaluates]
    simp [large]

@[simp] theorem fails_destination
    (distance : Nat) :
    Fails (machine.destination distance) kind ↔
      kind = .invalidOperand ∧ 32775 < machine.operandNumber distance := by
  by_cases large : 32775 < machine.operandNumber distance
  · rw [destination, denoted_of_large large]
    simp [large, Cause.kind]
  · obtain ⟨operand, found⟩ := denoted_of_small (Nat.le_of_not_lt large)
    rw [destination, found]
    simp [large]

@[simp] theorem fails_located
    (access : Access)
    (word : Word) :
    Fails (located access word) kind ↔
      kind = .invalidMemoryAccess ∧ 32768 ≤ word.toNat := by
  rw [← Word.address?_eq_none_iff, located]
  cases Word.address? word with
  | none => simp [Cause.kind]
  | some address => simp

/-! ## Conditions -/

/-- The instruction uses a word as an address: to read or write memory, or as the place where
execution goes on. -/
def UsesAddress
    (machine : Machine) : Opcode -> Word -> Prop
  | .readMemory, word => machine.Evaluates 2 word
  | .writeMemory, word | .jump, word | .call, word => machine.Evaluates 1 word
  | .jumpIf, word =>
      (∃ condition, machine.Evaluates 1 condition ∧ condition ≠ 0) ∧ machine.Evaluates 2 word
  | .jumpUnless, word => machine.Evaluates 1 0 ∧ machine.Evaluates 2 word
  | .ret, word => machine.stack.head? = some word
  | _, _ => False

/-- The instruction is a jump that is not taken. -/
def PassesBy
    (machine : Machine) : Opcode -> Prop
  | .jumpIf => machine.Evaluates 1 0
  | .jumpUnless => ∃ condition, machine.Evaluates 1 condition ∧ condition ≠ 0
  | _ => False

/-- The instruction uses a word as an address that is none. -/
def UsesInvalidAddress
    (machine : Machine)
    (opcode : Opcode) : Prop :=
  ∃ word, machine.UsesAddress opcode word ∧ 32768 ≤ word.toNat

/-- One of the operand words is no operand, other than the target of a jump that is not taken. -/
def HasInvalidOperand
    (machine : Machine)
    (opcode : Opcode) : Prop :=
  ∃ distance, (1 ≤ distance ∧ distance ≤ opcode.operandCount) ∧
    32775 < machine.operandNumber distance ∧ ¬ (distance = 2 ∧ machine.PassesBy opcode)

/-- When the plan for an opcode fails with a kind of fault. -/
def PlanCondition
    (machine : Machine)
    (opcode : Opcode) : FaultKind -> Prop
  | .stackUnderflow => opcode = .pop ∧ machine.stack = []
  | .arithmeticFault => opcode = .modulo ∧ machine.Evaluates 3 0
  | .invalidMemoryAccess => machine.UsesInvalidAddress opcode
  | .invalidOperand =>
      machine.HasInvalidOperand opcode ∧
        ¬ (opcode = .pop ∧ machine.stack = []) ∧
        ¬ (opcode = .modulo ∧ machine.Evaluates 3 0) ∧
        ¬ machine.UsesInvalidAddress opcode
  | _ => False

section

variable {opcode : Opcode}

/-- An instruction without operands has no invalid one. -/
theorem hasInvalidOperand_of_zero (count : opcode.operandCount = 0) :
    machine.HasInvalidOperand opcode ↔ False := by
  constructor
  · rintro ⟨distance, ⟨_, _⟩, _⟩
    omega
  · exact False.elim

/-- The only operand of an instruction is always looked at. -/
theorem hasInvalidOperand_of_one (count : opcode.operandCount = 1) :
    machine.HasInvalidOperand opcode ↔ 32775 < machine.operandNumber 1 := by
  constructor
  · rintro ⟨distance, ⟨_, _⟩, large, _⟩
    obtain rfl : distance = 1 := by omega
    exact large
  · exact fun large => ⟨1, by omega, large, by omega⟩

/-- The second operand counts only if the instruction gets to look at it: the target of a jump
that is not taken may be anything. -/
theorem hasInvalidOperand_of_two (count : opcode.operandCount = 2) :
    machine.HasInvalidOperand opcode ↔
      32775 < machine.operandNumber 1 ∨
        32775 < machine.operandNumber 2 ∧ ¬ machine.PassesBy opcode := by
  constructor
  · rintro ⟨distance, ⟨_, _⟩, large, used⟩
    obtain rfl | rfl : distance = 1 ∨ distance = 2 := by omega
    · exact Or.inl large
    · exact Or.inr ⟨large, fun passes => used ⟨rfl, passes⟩⟩
  · rintro (large | ⟨large, used⟩)
    · exact ⟨1, by omega, large, by omega⟩
    · exact ⟨2, by omega, large, fun passed => used passed.2⟩

/-- An instruction with three operands looks at all of them. -/
theorem hasInvalidOperand_of_three
    (count : opcode.operandCount = 3)
    (used : ¬ machine.PassesBy opcode) :
    machine.HasInvalidOperand opcode ↔
      32775 < machine.operandNumber 1 ∨ 32775 < machine.operandNumber 2 ∨
        32775 < machine.operandNumber 3 := by
  constructor
  · rintro ⟨distance, ⟨_, _⟩, large, _⟩
    obtain rfl | rfl | rfl : distance = 1 ∨ distance = 2 ∨ distance = 3 := by omega
    · exact Or.inl large
    · exact Or.inr (Or.inl large)
    · exact Or.inr (Or.inr large)
  · rintro (large | large | large)
    · exact ⟨1, by omega, large, by omega⟩
    · exact ⟨2, by omega, large, fun passed => used passed.2⟩
    · exact ⟨3, by omega, large, by omega⟩

/-- Most opcodes have no faults but those of addresses and operands. -/
theorem planCondition_iff
    (notPop : opcode ≠ .pop)
    (notModulo : opcode ≠ .modulo) :
    machine.PlanCondition opcode kind ↔
      (kind = .invalidMemoryAccess ∧ machine.UsesInvalidAddress opcode) ∨
        (kind = .invalidOperand ∧ machine.HasInvalidOperand opcode ∧
          ¬ machine.UsesInvalidAddress opcode) := by
  cases kind <;> simp [PlanCondition, notPop, notModulo]

end

/-- An empty stack comes before an invalid destination. -/
theorem planCondition_pop :
    machine.PlanCondition .pop kind ↔
      (kind = .stackUnderflow ∧ machine.stack = []) ∨
        (kind = .invalidOperand ∧ machine.HasInvalidOperand .pop ∧ machine.stack ≠ []) := by
  cases kind <;> simp [PlanCondition, UsesInvalidAddress, UsesAddress]

/-- A zero divisor comes before an invalid dividend or destination. -/
theorem planCondition_modulo :
    machine.PlanCondition .modulo kind ↔
      (kind = .arithmeticFault ∧ machine.Evaluates 3 0) ∨
        (kind = .invalidOperand ∧ machine.HasInvalidOperand .modulo ∧
          ¬ machine.Evaluates 3 0) := by
  cases kind <;> simp [PlanCondition, UsesInvalidAddress, UsesAddress]

/-! ## Families of plans -/

section

variable {opcode : Opcode}

/-- Doing what needs no operand. -/
theorem fails_nullary
    (action : Action)
    (count : opcode.operandCount = 0)
    (noAddress : ∀ word, ¬ machine.UsesAddress opcode word) :
    Fails (.ok action) kind ↔ machine.PlanCondition opcode kind := by
  have notPop : opcode ≠ .pop := by
    rintro rfl
    cases count
  have notModulo : opcode ≠ .modulo := by
    rintro rfl
    cases count
  rw [planCondition_iff notPop notModulo, hasInvalidOperand_of_zero count]
  simp [UsesInvalidAddress, noAddress]

/-- Doing what needs one operand, which is no address. -/
theorem fails_single
    {plan : Except Cause Action}
    (fails : Fails plan kind ↔ kind = .invalidOperand ∧ 32775 < machine.operandNumber 1)
    (count : opcode.operandCount = 1)
    (noAddress : ∀ word, ¬ machine.UsesAddress opcode word)
    (notPop : opcode ≠ .pop) :
    Fails plan kind ↔ machine.PlanCondition opcode kind := by
  have notModulo : opcode ≠ .modulo := by
    rintro rfl
    cases count
  rw [fails, planCondition_iff notPop notModulo, hasInvalidOperand_of_one count]
  simp [UsesInvalidAddress, noAddress]

/-- Storing a function of one operand. -/
theorem fails_unary
    (operation : Word -> Word)
    (count : opcode.operandCount = 2)
    (noAddress : ∀ word, ¬ machine.UsesAddress opcode word)
    (noJump : ¬ machine.PassesBy opcode) :
    Fails
        (do
          let word ← machine.source 2
          return Action.settle (.assign (← machine.destination 1) (operation word)))
        kind ↔
      machine.PlanCondition opcode kind := by
  have notPop : opcode ≠ .pop := by
    rintro rfl
    cases count
  have notModulo : opcode ≠ .modulo := by
    rintro rfl
    cases count
  rw [planCondition_iff notPop notModulo, hasInvalidOperand_of_two count]
  rcases machine.operand_cases 2 with ⟨large, none⟩ | ⟨value, small, evaluates⟩
  · simp [UsesInvalidAddress, noAddress, noJump, large, none]
  · simp [UsesInvalidAddress, noAddress, noJump, small, evaluates]

/-- Storing a function of two operands. -/
theorem fails_planBinary
    (operation : Word -> Word -> Word)
    (count : opcode.operandCount = 3)
    (noAddress : ∀ word, ¬ machine.UsesAddress opcode word)
    (noJump : ¬ machine.PassesBy opcode)
    (notModulo : opcode ≠ .modulo) :
    Fails (machine.planBinary operation) kind ↔ machine.PlanCondition opcode kind := by
  have notPop : opcode ≠ .pop := by
    rintro rfl
    cases count
  rw [planCondition_iff notPop notModulo, hasInvalidOperand_of_three count noJump]
  rcases machine.operand_cases 2 with ⟨large, none⟩ | ⟨left, small, evaluates⟩
  · simp [planBinary, UsesInvalidAddress, noAddress, large, none]
  · rcases machine.operand_cases 3 with ⟨large, none⟩ | ⟨right, otherSmall, otherEvaluates⟩
    · simp [planBinary, UsesInvalidAddress, noAddress, small, evaluates, large, none]
    · simp [planBinary, UsesInvalidAddress, noAddress, small, evaluates, otherSmall,
        otherEvaluates]

/-- Going on at the address that an operand names. -/
theorem fails_transfer
    (access : Access)
    (effect : Address -> Effect)
    (count : opcode.operandCount = 1)
    (uses : ∀ word, machine.UsesAddress opcode word ↔ machine.Evaluates 1 word)
    (notPop : opcode ≠ .pop) :
    Fails (do return Action.settle (effect (← located access (← machine.source 1)))) kind ↔
      machine.PlanCondition opcode kind := by
  have notModulo : opcode ≠ .modulo := by
    rintro rfl
    cases count
  rw [planCondition_iff notPop notModulo, hasInvalidOperand_of_one count]
  rcases machine.operand_cases 1 with ⟨large, none⟩ | ⟨value, small, evaluates⟩
  · simp [UsesInvalidAddress, uses, large, none]
  · simp [UsesInvalidAddress, uses, small, evaluates]

/-- Going on at the address that the second operand names, if the first passes a test. -/
theorem fails_planBranch
    (taken : Word -> Bool)
    (count : opcode.operandCount = 2)
    (uses : ∀ word, machine.UsesAddress opcode word ↔
      (∃ condition, machine.Evaluates 1 condition ∧ taken condition = true) ∧
        machine.Evaluates 2 word)
    (passes : machine.PassesBy opcode ↔
      ∃ condition, machine.Evaluates 1 condition ∧ taken condition = false) :
    Fails (machine.planBranch taken) kind ↔ machine.PlanCondition opcode kind := by
  have notPop : opcode ≠ .pop := by
    rintro rfl
    cases count
  have notModulo : opcode ≠ .modulo := by
    rintro rfl
    cases count
  rw [planCondition_iff notPop notModulo, hasInvalidOperand_of_two count, passes]
  rcases machine.operand_cases 1 with ⟨large, none⟩ | ⟨condition, small, evaluates⟩
  · simp [planBranch, UsesInvalidAddress, uses, large, none]
  · rcases machine.operand_cases 2 with ⟨large, none⟩ | ⟨target, targetSmall, targetEvaluates⟩
    · cases test : taken condition <;>
        simp [planBranch, UsesInvalidAddress, uses, small, evaluates, test, large, none]
    · cases test : taken condition <;>
        simp [planBranch, UsesInvalidAddress, uses, small, evaluates, test, targetSmall,
          targetEvaluates]

end

/-! ## Single plans -/

/-- An empty stack is noticed before a bad operand. -/
theorem fails_pop :
    Fails (machine.planOpcode .pop) kind ↔ machine.PlanCondition .pop kind := by
  rw [planCondition_pop, hasInvalidOperand_of_one rfl, planOpcode]
  cases machine.stack with
  | nil => simp [Cause.kind]
  | cons top rest => simp

/-- A zero divisor is noticed before a bad dividend or destination. -/
theorem fails_modulo :
    Fails (machine.planOpcode .modulo) kind ↔ machine.PlanCondition .modulo kind := by
  rw [planCondition_modulo, hasInvalidOperand_of_three rfl (by simp [PassesBy])]
  rcases machine.operand_cases 3 with ⟨large, none⟩ | ⟨divisor, small, evaluates⟩
  · simp [planOpcode, large, none]
  · rcases machine.operand_cases 2 with ⟨large, none⟩ | ⟨dividend, otherSmall, otherEvaluates⟩
    · by_cases zero : divisor = 0
      · simp [planOpcode, Cause.kind, small, evaluates, zero]
      · simp [planOpcode, Cause.kind, small, evaluates, zero, Ne.symm zero, large, none]
    · by_cases zero : divisor = 0
      · simp [planOpcode, Cause.kind, small, evaluates, zero]
      · simp [planOpcode, Cause.kind, small, evaluates, zero, Ne.symm zero, otherSmall,
          otherEvaluates]

/-- The only failure of a return is a word on the stack that is no address. -/
theorem fails_return :
    Fails (machine.planOpcode .ret) kind ↔ machine.PlanCondition .ret kind := by
  rw [planCondition_iff (by decide) (by decide), hasInvalidOperand_of_zero rfl]
  simp only [planOpcode, UsesInvalidAddress, UsesAddress]
  cases machine.stack with
  | nil => simp
  | cons top rest => simp

/-- A bad address is noticed before a bad destination. -/
theorem fails_readMemory :
    Fails (machine.planOpcode .readMemory) kind ↔ machine.PlanCondition .readMemory kind := by
  rw [planCondition_iff (by decide) (by decide), hasInvalidOperand_of_two rfl]
  rcases machine.operand_cases 2 with ⟨large, none⟩ | ⟨word, small, evaluates⟩
  · simp [planOpcode, UsesInvalidAddress, UsesAddress, PassesBy, large, none]
  · by_cases inRange : word.toNat < 32768
    · simp [planOpcode, UsesInvalidAddress, UsesAddress, PassesBy, small, evaluates, inRange]
    · simp [planOpcode, UsesInvalidAddress, UsesAddress, PassesBy, small, evaluates, inRange]

/-- A bad address is noticed before a bad source. -/
theorem fails_writeMemory :
    Fails (machine.planOpcode .writeMemory) kind ↔ machine.PlanCondition .writeMemory kind := by
  rw [planCondition_iff (by decide) (by decide), hasInvalidOperand_of_two rfl]
  rcases machine.operand_cases 1 with ⟨large, none⟩ | ⟨word, small, evaluates⟩
  · simp [planOpcode, UsesInvalidAddress, UsesAddress, PassesBy, large, none]
  · by_cases inRange : word.toNat < 32768
    · simp [planOpcode, UsesInvalidAddress, UsesAddress, PassesBy, small, evaluates, inRange]
    · simp [planOpcode, UsesInvalidAddress, UsesAddress, PassesBy, small, evaluates, inRange]

/-- The plan for an opcode fails exactly under the conditions of its faults. -/
theorem fails_planOpcode (opcode : Opcode) :
    Fails (machine.planOpcode opcode) kind ↔ machine.PlanCondition opcode kind := by
  cases opcode with
  | halt => exact fails_nullary _ rfl (fun _ => id)
  | set => exact fails_unary id rfl (fun _ => id) id
  | push => exact fails_single (by simp [planOpcode]) rfl (fun _ => id) (by decide)
  | pop => exact fails_pop
  | equal | greater | add | multiply | bitAnd | bitOr =>
      exact fails_planBinary _ rfl (fun _ => id) id (by decide)
  | jump => exact fails_transfer .jump .jump rfl (fun _ => Iff.rfl) (by decide)
  | jumpIf => exact fails_planBranch _ rfl (by simp [UsesAddress]) (by simp [PassesBy])
  | jumpUnless => exact fails_planBranch _ rfl (by simp [UsesAddress]) (by simp [PassesBy])
  | modulo => exact fails_modulo
  | bitNot => exact fails_unary Word.complement rfl (fun _ => id) id
  | readMemory => exact fails_readMemory
  | writeMemory => exact fails_writeMemory
  | call => exact fails_transfer .call .call rfl (fun _ => Iff.rfl) (by decide)
  | ret => exact fails_return
  | output => exact fails_single (by simp [planOpcode]) rfl (fun _ => id) (by decide)
  | input => exact fails_single (by simp [planOpcode]) rfl (fun _ => id) (by decide)
  | noop => exact fails_nullary _ rfl (fun _ => id)

end
end Machine
end WordMachine
