import WordMachine.Proofs.Accounting

/-!
# Writes to memory

Which effects an instruction can have is settled by its opcode: `Opcode.Permits`.  In
particular only an executed instruction for writing memory changes a cell, and
`Transition.write?` says which one it is and what comes into it, in terms of the operands
of the instruction.
-/

namespace WordMachine

variable {World : Type}

/-! ## Effects of opcodes -/

/-- The effects that instructions of an opcode can have. -/
def Opcode.Permits : Opcode -> Effect -> Prop
  | .halt, .halt | .ret, .halt => True
  | .noop, .proceed | .output, .proceed => True
  | .jumpIf, .proceed | .jumpUnless, .proceed => True
  | .jump, .jump _ | .jumpIf, .jump _ | .jumpUnless, .jump _ => True
  | .set, .assign .. | .equal, .assign .. | .greater, .assign .. | .add, .assign ..
  | .multiply, .assign .. | .modulo, .assign .. | .bitAnd, .assign .. | .bitOr, .assign ..
  | .bitNot, .assign .. | .readMemory, .assign .. | .input, .assign .. => True
  | .push, .push _ => True
  | .pop, .pop .. => True
  | .writeMemory, .poke .. => True
  | .call, .call _ => True
  | .ret, .leave _ => True
  | _, _ => False

/-- An action that changes the machine alone has an effect that the opcode permits. -/
def Opcode.PermitsAction (opcode : Opcode) : Action -> Prop
  | .settle effect => opcode.Permits effect
  | .send _ | .receive _ => True

namespace Machine

theorem permits_planBinary
    (machine : Machine)
    (operation : Word -> Word -> Word)
    {opcode : Opcode}
    (assigns : ∀ target word, opcode.Permits (.assign target word)) :
    Yields opcode.PermitsAction (machine.planBinary operation) :=
  yields_bind (yields_true _) fun _ _ => yields_bind (yields_true _) fun _ _ =>
    yields_bind (yields_true _) fun target _ => yields_pure (assigns target _)

theorem permits_planBranch
    (machine : Machine)
    (taken : Word -> Bool)
    {opcode : Opcode}
    (jumps : ∀ target, opcode.Permits (.jump target))
    (proceeds : opcode.Permits .proceed) :
    Yields opcode.PermitsAction (machine.planBranch taken) := by
  refine yields_bind (yields_true _) fun word _ => ?_
  cases taken word with
  | true =>
      exact yields_bind (yields_true _) fun _ _ => yields_bind (yields_true _) fun target _ =>
        yields_pure (jumps target)
  | false => exact yields_pure proceeds

/-- Instructions ask only for effects that their opcode permits. -/
theorem permits_planOpcode
    (machine : Machine)
    (opcode : Opcode) :
    Yields opcode.PermitsAction (machine.planOpcode opcode) := by
  cases opcode with
  | halt | noop => exact yields_pure trivial
  | push | output | input => exact yields_bind (yields_true _) fun _ _ => yields_pure trivial
  | set | bitNot | jump | call =>
      exact yields_bind (yields_true _) fun _ _ => yields_bind (yields_true _) fun _ _ =>
        yields_pure trivial
  | readMemory | writeMemory =>
      exact yields_bind (yields_true _) fun _ _ => yields_bind (yields_true _) fun _ _ =>
        yields_bind (yields_true _) fun _ _ => yields_pure trivial
  | equal | greater | add | multiply | bitAnd | bitOr =>
      exact permits_planBinary machine _ fun _ _ => trivial
  | jumpIf | jumpUnless => exact permits_planBranch machine _ (fun _ => trivial) trivial
  | modulo =>
      refine yields_bind (yields_true _) fun divisor _ => ?_
      by_cases zero : divisor = 0
      · rw [if_pos zero]
        exact yields_error _
      · rw [if_neg zero]
        exact yields_bind (yields_true _) fun _ _ => yields_bind (yields_true _) fun _ _ =>
          yields_pure trivial
  | pop =>
      unfold planOpcode
      cases machine.stack with
      | nil => exact yields_error _
      | cons top rest => exact yields_bind (yields_true _) fun _ _ => yields_pure trivial
  | ret =>
      unfold planOpcode
      cases machine.stack with
      | nil => exact yields_pure trivial
      | cons top rest => exact yields_bind (yields_true _) fun _ _ => yields_pure trivial

/-- An instruction that is executed has an effect that its opcode permits. -/
theorem Offers.permits
    {machine : Machine}
    {opcode : Opcode}
    {effect : Effect}
    (offers : machine.Offers opcode effect) : opcode.Permits effect := by
  cases offers with
  | settled planned => exact permits_planOpcode machine opcode _ planned
  | sent planned =>
      obtain ⟨rfl, _⟩ := opcode_of_send planned
      trivial
  | received planned small =>
      obtain rfl := opcode_of_receive planned
      trivial

end Machine

/-! ## Effects on memory -/

namespace Effect

/-- What an effect makes of a memory. -/
def overwrite (memory : Memory) : Effect -> Memory
  | .poke address word => memory.set address word
  | .halt | .proceed | .jump _ | .assign .. | .push _ | .pop .. | .call _ | .leave _ => memory

/-- The address that an effect writes to, and the number that it writes there. -/
def write? : Effect -> Option (Int × Int)
  | .poke address word => some (address.val, word.toNat)
  | .halt | .proceed | .jump _ | .assign .. | .push _ | .pop .. | .call _ | .leave _ => none

theorem write?_of_permits
    {opcode : Opcode}
    {effect : Effect}
    (permits : opcode.Permits effect)
    (otherwise : opcode ≠ .writeMemory) : effect.write? = none := by
  cases effect with
  | poke address word =>
      cases opcode with
      | writeMemory => contradiction
      | _ => exact permits.elim
  | _ => rfl

end Effect

/-- The address and the number that an action writes to memory. -/
def Action.write? : Action -> Option (Int × Int)
  | .settle effect => effect.write?
  | .send _ | .receive _ => none

/-- The number that comes into the cell with an address, if that is the one written to. -/
def enteredAt
    (address : Address)
    (write : Option (Int × Int)) : Option Int :=
  (write.filter fun (place, _) => place = address.val).map Prod.snd

/-- What is in a cell is what the effect writes there, or else what was there before. -/
theorem Effect.get_overwrite
    (effect : Effect)
    (memory : Memory)
    (address : Address) :
    (((effect.overwrite memory).get address).toNat : Int) =
      (enteredAt address effect.write?).getD (memory.get address).toNat := by
  cases effect with
  | poke place word =>
      simp only [overwrite, write?, enteredAt, Memory.get_set, Option.filter_some, Fin.ext_iff,
        Int.ofNat_inj, eq_comm (a := address.val)]
      split <;> simp [*]
  | _ => rfl

namespace Machine

/-- An effect changes memory by its write, if it has one. -/
theorem memory_apply
    (machine : Machine)
    (opcode : Opcode)
    (effect : Effect) :
    (machine.apply opcode effect).memory = effect.overwrite machine.memory := by
  cases effect with
  | assign target word => cases target <;> rfl
  | pop target top => cases target <;> rfl
  | _ => rfl

end Machine

/-! ## Writes of steps -/

/-- What the first two operands of the instruction at the program counter resolve to. -/
def Machine.operandPair? (machine : Machine) : Option (Int × Int) :=
  (machine.resolve (machine.operandNumber 1)).toOption.bind fun first =>
    (machine.resolve (machine.operandNumber 2)).toOption.map fun second => (first, second)

/-- The address that a step writes to and the number that it writes there: the operands of an
instruction for writing memory that is executed. -/
def Transition.write? (transition : Transition) : Option (Int × Int) :=
  if transition.executes .writeMemory then transition.before.operandPair? else none

namespace Machine

section

variable
  {machine : Machine}
  {opcode : Opcode}
  {effect : Effect}

/-- What an instruction that writes memory asks for. -/
theorem yields_writeMemory (machine : Machine) :
    Yields
      (fun action => ∃ place : Address, ∃ word : Word,
        machine.operandPair? = some ((place.val : Int), (word.toNat : Int)) ∧
          action = .settle (.poke place word))
      (machine.planOpcode .writeMemory) := by
  have sourced (distance : Nat) :
      Yields (machine.Evaluates distance) (machine.source distance) :=
    fun word => (source_eq_ok_iff word).mp
  have placed (word : Word) :
      Yields (fun place : Address => word.toNat = place.val) (located .write word) :=
    fun place => (located_eq_ok_iff .write word place).mp
  refine yields_bind (sourced 1) fun target first => ?_
  refine yields_bind (placed target) fun place same => ?_
  refine yields_bind (sourced 2) fun word second => yields_pure ⟨place, word, ?_, rfl⟩
  rw [operandPair?, first.2, second.2, same]
  rfl

theorem Offers.write?_eq (offers : machine.Offers opcode effect) :
    effect.write? = if opcode = .writeMemory then machine.operandPair? else none := by
  by_cases writes : opcode = .writeMemory
  · subst writes
    rw [if_pos rfl]
    cases offers with
    | settled planned =>
        obtain ⟨place, word, operands, same⟩ := yields_writeMemory machine _ planned
        cases same
        exact operands.symm
    | sent planned => cases (opcode_of_send planned).1
    | received planned small => cases opcode_of_receive planned
  · rw [if_neg writes]
    exact Effect.write?_of_permits offers.permits writes

end

section

variable {transition : Transition}

/-- A step that completes no instruction writes nothing. -/
theorem write?_of_incomplete (incomplete : transition.completes = false) :
    transition.write? = none := by
  simp [Transition.write?, Transition.executes, incomplete]

theorem write?_of_ne
    {opcode : Opcode}
    (known : transition.before.opcode? = some opcode)
    (otherwise : opcode ≠ .writeMemory) : transition.write? = none := by
  simp [Transition.write?, Transition.executes, known, otherwise]

theorem write?_of_complete
    {opcode : Opcode}
    {effect : Effect}
    (complete : transition.completes = true)
    (known : transition.before.opcode? = some opcode)
    (offers : transition.before.Offers opcode effect) :
    transition.write? = effect.write? := by
  simp [Transition.write?, Transition.executes, complete, known, offers.write?_eq]

end

section

variable
  (channels : Channels World)
  (machine : Machine)
  (world : World)

/-- A step changes the memory as some effect does, and writes what the effect writes. -/
theorem exists_overwrite :
    ∃ effect : Effect,
      (machine.step channels world).machine.memory = effect.overwrite machine.memory ∧
        (machine.transition channels world).write? = effect.write? := by
  unfold transition
  have ends := machine.ends_step channels world
  generalize machine.step channels world = outcome at ends ⊢
  cases ends with
  | stopped stopped after =>
      exact ⟨.proceed, rfl, write?_of_incomplete (Transition.completes_of_stopped stopped)⟩
  | failed running cause after =>
      refine ⟨.proceed, rfl, write?_of_incomplete ?_⟩
      exact Transition.completes_of_fail rfl
  | interrupted running words after =>
      exact ⟨.proceed, rfl, write?_of_incomplete (by simp [Transition.completes])⟩
  | @executed opcode effect running known offers after =>
      refine ⟨effect, machine.memory_apply opcode effect, ?_⟩
      refine write?_of_complete ?_ known offers
      exact Transition.completes_of_apply running rfl rfl

/-- A step with a plan writes what the plan says. -/
theorem write?_of_plan
    {opcode : Opcode}
    {action : Action}
    (running : machine.condition = .running)
    (planned : machine.plan = .ok (opcode, action)) :
    (machine.transition channels world).write? = action.write? := by
  obtain ⟨known, plannedAction⟩ := plan_eq_ok_iff.mp planned
  cases action with
  | settle effect =>
      have taken : machine.step channels world =
          { machine := machine.apply opcode effect, world } := by
        rw [step_running running, planned]
        rfl
      refine write?_of_complete ?_ known (.settled plannedAction)
      exact Transition.completes_of_apply running (congrArg Outcome.interrupted taken)
        (congrArg Outcome.machine taken)
  | send code =>
      obtain ⟨rfl, _⟩ := opcode_of_send plannedAction
      exact write?_of_ne known (by decide)
  | receive target =>
      obtain rfl := opcode_of_receive plannedAction
      exact write?_of_ne known (by decide)

/-- After a step a cell holds what the step writes there, or else what it held before. -/
theorem get_memory_step (address : Address) :
    ((((machine.step channels world).machine.memory).get address).toNat : Int) =
      (enteredAt address (machine.transition channels world).write?).getD
        (machine.memory.get address).toNat := by
  obtain ⟨effect, memory, write⟩ := machine.exists_overwrite channels world
  rw [memory, write]
  exact effect.get_overwrite machine.memory address

end

end Machine
end WordMachine
