import WordMachine.Proofs.MemoryWrites

/-!
# The footprint of a step

A step changes at most one cell, or one register, or the top of the stack, or, if it pops,
a register and the top of the stack.  Which of these it is, and which cell or register, is
told by the opcode and its first operand: `Machine.Touches`.  Besides, only the program
counter, the condition and the count of executed instructions can change:
`Machine.step_footprint`.
-/

namespace WordMachine

variable {World : Type}

/-! ## Destinations -/

/-- The first operand of an instruction with the opcode says where its result goes. -/
def Opcode.HasDestination : Opcode -> Prop
  | .set | .pop | .equal | .greater | .add | .multiply | .modulo | .bitAnd | .bitOr | .bitNot
  | .readMemory | .input => True
  | .halt | .push | .jump | .jumpIf | .jumpUnless | .writeMemory | .call | .ret | .output
  | .noop => False

/-- The opcodes of the instructions that change memory, registers or stack by an effect. -/
def Effect.IsOf (opcode : Opcode) : Effect -> Prop
  | .halt | .proceed | .jump _ => True
  | .assign .. => opcode.HasDestination
  | .push _ => opcode = .push
  | .pop .. => opcode = .pop
  | .poke .. => opcode = .writeMemory
  | .call _ => opcode = .call
  | .leave _ => opcode = .ret

theorem Effect.isOf_of_permits
    {opcode : Opcode}
    {effect : Effect}
    (permits : opcode.Permits effect) : effect.IsOf opcode := by
  cases effect <;> cases opcode <;> trivial

/-- Where an effect stores a word, if it stores one in a register or discards it. -/
def Effect.destination? : Effect -> Option Operand
  | .assign target _ | .pop target _ => some target
  | .halt | .proceed | .jump _ | .push _ | .poke .. | .call _ | .leave _ => none

/-- Where an action stores a word. -/
def Action.destination? : Action -> Option Operand
  | .settle effect => effect.destination?
  | .send _ => none
  | .receive target => some target

namespace Machine

/-- The action stores a word only where the first operand says. -/
def StoresAtFirst
    (machine : Machine)
    (action : Action) : Prop :=
  ∀ target, action.destination? = some target -> machine.destination 1 = .ok target

section

variable (machine : Machine)

theorem yields_destination :
    Yields (fun target => machine.destination 1 = .ok target) (machine.destination 1) :=
  fun _ found => found

/-- An action that stores nothing. -/
theorem yields_storeless
    {action : Action}
    (storeless : action.destination? = none) :
    Yields machine.StoresAtFirst (pure action) :=
  yields_pure fun _ stores => nomatch storeless.symm.trans stores

/-- An action that stores a word at a destination that was found. -/
theorem yields_stored
    {target : Operand}
    {action : Action}
    (found : machine.destination 1 = .ok target)
    (stores : action.destination? = some target) :
    Yields machine.StoresAtFirst (pure action) :=
  yields_pure fun _ storesToo => Option.some.inj (stores.symm.trans storesToo) ▸ found

theorem storesAtFirst_planBinary (operation : Word -> Word -> Word) :
    Yields machine.StoresAtFirst (machine.planBinary operation) :=
  yields_bind (yields_true _) fun _ _ => yields_bind (yields_true _) fun _ _ =>
    yields_bind machine.yields_destination fun _ found => machine.yields_stored found rfl

theorem storesAtFirst_planBranch (taken : Word -> Bool) :
    Yields machine.StoresAtFirst (machine.planBranch taken) := by
  refine yields_bind (yields_true _) fun word _ => ?_
  cases taken word with
  | true =>
      exact yields_bind (yields_true _) fun _ _ => yields_bind (yields_true _) fun _ _ =>
        machine.yields_storeless rfl
  | false => exact machine.yields_storeless rfl

/-- Instructions store words only where their first operand says. -/
theorem storesAtFirst_planOpcode (opcode : Opcode) :
    Yields machine.StoresAtFirst (machine.planOpcode opcode) := by
  cases opcode with
  | halt | noop => exact machine.yields_storeless rfl
  | push | output => exact yields_bind (yields_true _) fun _ _ => machine.yields_storeless rfl
  | jump | call =>
      exact yields_bind (yields_true _) fun _ _ => yields_bind (yields_true _) fun _ _ =>
        machine.yields_storeless rfl
  | writeMemory =>
      exact yields_bind (yields_true _) fun _ _ => yields_bind (yields_true _) fun _ _ =>
        yields_bind (yields_true _) fun _ _ => machine.yields_storeless rfl
  | input =>
      exact yields_bind machine.yields_destination fun _ found => machine.yields_stored found rfl
  | set | bitNot =>
      exact yields_bind (yields_true _) fun _ _ =>
        yields_bind machine.yields_destination fun _ found => machine.yields_stored found rfl
  | readMemory =>
      exact yields_bind (yields_true _) fun _ _ => yields_bind (yields_true _) fun _ _ =>
        yields_bind machine.yields_destination fun _ found => machine.yields_stored found rfl
  | equal | greater | add | multiply | bitAnd | bitOr =>
      exact machine.storesAtFirst_planBinary _
  | jumpIf | jumpUnless => exact machine.storesAtFirst_planBranch _
  | modulo =>
      refine yields_bind (yields_true _) fun divisor _ => ?_
      by_cases zero : divisor = 0
      · rw [if_pos zero]
        exact yields_error _
      · rw [if_neg zero]
        exact yields_bind (yields_true _) fun _ _ =>
          yields_bind machine.yields_destination fun _ found => machine.yields_stored found rfl
  | pop =>
      unfold planOpcode
      cases machine.stack with
      | nil => exact yields_error _
      | cons top rest =>
          exact yields_bind machine.yields_destination fun _ found =>
            machine.yields_stored found rfl
  | ret =>
      unfold planOpcode
      cases machine.stack with
      | nil => exact machine.yields_storeless rfl
      | cons top rest => exact yields_bind (yields_true _) fun _ _ => machine.yields_storeless rfl

end

section

variable
  {machine : Machine}
  {opcode : Opcode}
  {effect : Effect}

/-- An executed instruction stores a word only where its first operand says. -/
theorem Offers.destination
    {target : Operand}
    (offers : machine.Offers opcode effect)
    (stores : effect.destination? = some target) : machine.destination 1 = .ok target := by
  cases offers with
  | settled planned => exact machine.storesAtFirst_planOpcode opcode _ planned target stores
  | sent planned => cases stores
  | received planned small =>
      exact machine.storesAtFirst_planOpcode opcode _ planned target stores

/-- A destination that is a register is named by the number of the operand. -/
theorem operandNumber_of_register
    {distance : Nat}
    {index : RegisterIndex}
    (found : machine.destination distance = .ok (.register index)) :
    machine.operandNumber distance = 32768 + index.val := by
  have denoted := denoted_eq_ok_iff.mp found
  rcases Operand.ofWord?_cases (machine.operandWord distance) with
    ⟨_, literal⟩ | ⟨other, number, register⟩ | ⟨_, invalid⟩
  · cases literal.symm.trans denoted
  · cases register.symm.trans denoted
    exact number
  · cases invalid.symm.trans denoted

/-- What is popped is the top of the stack. -/
theorem Offers.exists_rest
    {target : Operand}
    {top : Word}
    (offers : machine.Offers opcode (.pop target top)) : ∃ rest, machine.stack = top :: rest := by
  obtain rfl : opcode = .pop := Effect.isOf_of_permits offers.permits
  cases offers with
  | settled planned =>
      rw [planOpcode] at planned
      cases stack : machine.stack with
      | nil =>
          rw [stack] at planned
          cases planned
      | cons other rest =>
          rw [stack] at planned
          cases found : machine.destination 1 with
          | error cause =>
              rw [found] at planned
              cases planned
          | ok place =>
              rw [found] at planned
              cases planned
              exact ⟨rest, rfl⟩

/-- Execution returns only from a stack that is not empty. -/
theorem Offers.exists_top
    {target : Address}
    (offers : machine.Offers opcode (.leave target)) :
    ∃ top rest, machine.stack = top :: rest := by
  obtain rfl : opcode = .ret := Effect.isOf_of_permits offers.permits
  cases offers with
  | settled planned =>
      rw [planOpcode] at planned
      cases stack : machine.stack with
      | nil =>
          rw [stack] at planned
          cases planned
      | cons top rest => exact ⟨top, rest, rfl⟩

end

/-! ## The changes of a step -/

/-- The ways in which a step can change a machine.  Where execution goes on, in which condition
the machine is and how many instructions it has executed is left open. -/
inductive Touches (machine : Machine) : Machine -> Prop where
  /-- Nothing else changes. -/
  | nothing (pc : Address) (condition : Condition) (executed : Nat) :
      Touches machine { machine with pc, condition, executed }
  /-- A cell changes, the one that the first operand of an instruction for writing memory
  resolves to. -/
  | cell {place : Address}
      (known : machine.opcode? = some .writeMemory)
      (resolves : machine.resolve (machine.operandNumber 1) = .ok (place.val : Int))
      (word : Word) (pc : Address) (condition : Condition) (executed : Nat) :
      Touches machine
        { machine with memory := machine.memory.set place word, pc, condition, executed }
  /-- A register changes, the one that the first operand names. -/
  | register {opcode : Opcode} {index : RegisterIndex}
      (known : machine.opcode? = some opcode)
      (hasDestination : opcode.HasDestination)
      (names : machine.operandNumber 1 = 32768 + index.val)
      (word : Word) (pc : Address) (condition : Condition) (executed : Nat) :
      Touches machine
        { machine with
          registers := machine.registers.set index.val word index.isLt, pc, condition, executed }
  /-- An entry is put onto the stack. -/
  | push
      (known : machine.opcode? = some .push ∨ machine.opcode? = some .call)
      (word : Word) (pc : Address) (condition : Condition) (executed : Nat) :
      Touches machine { machine with stack := word :: machine.stack, pc, condition, executed }
  /-- The top is taken off the stack. -/
  | drop {top : Word} {rest : List Word}
      (known : machine.opcode? = some .pop ∨ machine.opcode? = some .ret)
      (stack : machine.stack = top :: rest)
      (pc : Address) (condition : Condition) (executed : Nat) :
      Touches machine { machine with stack := rest, pc, condition, executed }
  /-- The top is taken off the stack and comes into the register that the first operand names. -/
  | pop {index : RegisterIndex} {top : Word} {rest : List Word}
      (known : machine.opcode? = some .pop)
      (names : machine.operandNumber 1 = 32768 + index.val)
      (stack : machine.stack = top :: rest)
      (pc : Address) (condition : Condition) (executed : Nat) :
      Touches machine
        { machine with
          registers := machine.registers.set index.val top index.isLt
          stack := rest, pc, condition, executed }

section

variable
  {machine : Machine}
  {opcode : Opcode}
  {effect : Effect}

theorem resolve_of_operandPair?
    {first second : Int}
    (pair : machine.operandPair? = some (first, second)) :
    machine.resolve (machine.operandNumber 1) = .ok first := by
  obtain ⟨number, found, rest⟩ := Option.bind_eq_some_iff.mp pair
  obtain ⟨_, _, same⟩ := Option.map_eq_some_iff.mp rest
  cases resolved : machine.resolve (machine.operandNumber 1) with
  | error cause =>
      rw [resolved] at found
      cases found
  | ok value =>
      rw [resolved] at found
      cases found
      cases same
      rfl

/-- What an executed instruction changes. -/
theorem touches_apply
    (known : machine.opcode? = some opcode)
    (offers : machine.Offers opcode effect) :
    machine.Touches (machine.apply opcode effect) := by
  have isOf := Effect.isOf_of_permits offers.permits
  cases effect with
  | halt | proceed | jump target => exact .nothing _ _ _
  | assign target word =>
      cases target with
      | literal value => exact .nothing _ _ _
      | register index =>
          exact .register known isOf (operandNumber_of_register (offers.destination rfl)) word _ _ _
  | push word =>
      obtain rfl : opcode = .push := isOf
      exact .push (Or.inl known) word _ _ _
  | call target =>
      obtain rfl : opcode = .call := isOf
      exact .push (Or.inr known) _ _ _ _
  | poke place word =>
      obtain rfl : opcode = .writeMemory := isOf
      exact .cell known (resolve_of_operandPair? offers.write?_eq.symm) word _ _ _
  | pop target top =>
      obtain ⟨rest, stack⟩ := offers.exists_rest
      obtain rfl : opcode = .pop := isOf
      rw [apply, stack]
      cases target with
      | literal value => exact .drop (Or.inl known) stack _ _ _
      | register index =>
          exact .pop known (operandNumber_of_register (offers.destination rfl)) stack _ _ _
  | leave target =>
      obtain ⟨top, rest, stack⟩ := offers.exists_top
      obtain rfl : opcode = .ret := isOf
      rw [apply, stack]
      exact .drop (Or.inr known) stack _ _ _

end

section

variable
  (channels : Channels World)
  (machine : Machine)
  (world : World)

/-- What a step changes. -/
theorem touches_step : machine.Touches (machine.step channels world).machine := by
  have ends := machine.ends_step channels world
  generalize machine.step channels world = outcome at ends ⊢
  cases ends with
  | stopped | failed | interrupted => exact .nothing _ _ _
  | executed running known offers after => exact touches_apply known offers

end

/-! ## What is told by the changes -/

section

variable
  {machine after : Machine}
  (touches : machine.Touches after)

include touches

/-- A cell that changes is the one that an instruction for writing memory resolves. -/
theorem Touches.of_cell
    {place : Address}
    (changed : after.memory.get place ≠ machine.memory.get place) :
    machine.opcode? = some .writeMemory ∧
      machine.resolve (machine.operandNumber 1) = .ok (place.val : Int) := by
  cases touches with
  | nothing | register | push | drop | pop => exact absurd rfl changed
  | @cell target known resolves word =>
      obtain rfl : place = target := by
        by_contra different
        exact changed (Memory.get_set_of_ne machine.memory word different)
      exact ⟨known, resolves⟩

/-- A register that changes is the one that the first operand names as the destination. -/
theorem Touches.of_register
    {index : RegisterIndex}
    (changed : after.registers[index] ≠ machine.registers[index]) :
    (∃ opcode, machine.opcode? = some opcode ∧ opcode.HasDestination) ∧
      machine.operandNumber 1 = 32768 + index.val := by
  have set (target : RegisterIndex) (word : Word)
      (differs : (machine.registers.set target.val word target.isLt)[index] ≠
        machine.registers[index]) : index = target := by
    by_contra different
    refine differs (Vector.getElem_set_ne _ _ ?_)
    exact fun same => different (Fin.ext same.symm)
  cases touches with
  | nothing | cell | push | drop => exact absurd rfl changed
  | register known hasDestination names word =>
      obtain rfl := set _ _ changed
      exact ⟨⟨_, known, hasDestination⟩, names⟩
  | pop known names stack =>
      obtain rfl := set _ _ changed
      exact ⟨⟨_, known, trivial⟩, names⟩

/-- Memory and registers do not change together. -/
theorem Touches.memory_or_registers :
    after.memory = machine.memory ∨ after.registers = machine.registers := by
  cases touches with
  | nothing | register | push | drop | pop => exact Or.inl rfl
  | cell => exact Or.inr rfl

/-- The stack stays, or gains an entry, or loses its last one. -/
theorem Touches.stack :
    after.stackFromBottom = machine.stackFromBottom ∨
      ((machine.opcode? = some .push ∨ machine.opcode? = some .call) ∧
        ∃ word, after.stackFromBottom = machine.stackFromBottom ++ [word]) ∨
      (machine.opcode? = some .pop ∨ machine.opcode? = some .ret) ∧
        machine.stackFromBottom ≠ [] ∧
        after.stackFromBottom = machine.stackFromBottom.dropLast := by
  have dropped {top : Word} {rest : List Word} (stack : machine.stack = top :: rest) :
      machine.stackFromBottom ≠ [] ∧ rest.reverse = machine.stackFromBottom.dropLast := by
    rw [stackFromBottom, stack, List.reverse_cons, List.dropLast_concat]
    exact ⟨List.concat_ne_nil _ _, rfl⟩
  cases touches with
  | nothing | cell | register => exact Or.inl rfl
  | push known word => exact Or.inr (Or.inl ⟨known, word, List.reverse_cons⟩)
  | drop known stack => exact Or.inr (Or.inr ⟨known, dropped stack⟩)
  | pop known names stack => exact Or.inr (Or.inr ⟨Or.inl known, dropped stack⟩)

/-- Stack and registers change together only if an entry is popped. -/
theorem Touches.of_stack_and_registers
    (stackChanged : after.stack ≠ machine.stack)
    (registersChanged : after.registers ≠ machine.registers) :
    machine.opcode? = some .pop := by
  cases touches with
  | nothing | cell | register => exact absurd rfl stackChanged
  | push | drop => exact absurd rfl registersChanged
  | pop known => exact known

end

/-! ## The footprint -/

/-- At most one call is made: an instruction for input reads, or one for output writes. -/
theorem channelCalls_cases
    (channels : Channels World)
    (machine : Machine)
    (world : World) :
    machine.channelCalls channels world = [] ∨
      (machine.opcode? = some .input ∧
        ∃ reply, machine.channelCalls channels world = [.read reply]) ∨
      machine.opcode? = some .output ∧
        ∃ code reply, machine.channelCalls channels world = [.write code reply] := by
  cases machine.nextStep with
  | stopped stopped => exact Or.inl (channelCalls_of_stopped channels world stopped)
  | failing running planned =>
      exact Or.inl (channelCalls_of_error channels world running planned)
  | settling running planned _ =>
      exact Or.inl (channelCalls_of_ok channels world running planned)
  | sending running planned _ =>
      refine Or.inr (Or.inr ⟨(plan_eq_ok_iff.mp planned).1, ?_⟩)
      exact ⟨_, _, channelCalls_of_ok channels world running planned⟩
  | asking asks =>
      refine Or.inr (Or.inl ⟨(plan_eq_ok_iff.mp asks.2).1, ?_⟩)
      exact ⟨_, channelCalls_of_ok channels world asks.1 asks.2⟩

end Machine

/-- What a step changes at most, and which calls it makes at most. -/
structure Transition.Footprint (transition : Transition) : Prop where
  /-- A cell changes only if the opcode is the one for writing memory, and the first operand
  resolves to its address. -/
  of_cell : ∀ place,
    transition.after.memory.get place ≠ transition.before.memory.get place ->
      transition.before.opcode? = some .writeMemory ∧
        transition.before.resolve (transition.before.operandNumber 1) = .ok (place.val : Int)
  /-- No two cells change. -/
  cell_unique : ∀ place other,
    transition.after.memory.get place ≠ transition.before.memory.get place ->
      transition.after.memory.get other ≠ transition.before.memory.get other -> place = other
  /-- A register changes only if the opcode has a destination, and the first operand names the
  register. -/
  of_register : ∀ index : RegisterIndex,
    transition.after.registers[index] ≠ transition.before.registers[index] ->
      (∃ opcode, transition.before.opcode? = some opcode ∧ opcode.HasDestination) ∧
        transition.before.operandNumber 1 = 32768 + index.val
  /-- No two registers change. -/
  register_unique : ∀ index other : RegisterIndex,
    transition.after.registers[index] ≠ transition.before.registers[index] ->
      transition.after.registers[other] ≠ transition.before.registers[other] -> index = other
  /-- Memory and registers do not change together. -/
  memory_or_registers :
    transition.after.memory = transition.before.memory ∨
      transition.after.registers = transition.before.registers
  /-- The stack stays, or gains an entry by a push or a call, or loses its last one by a pop or a
  return. -/
  stack :
    transition.after.stackFromBottom = transition.before.stackFromBottom ∨
      ((transition.before.opcode? = some .push ∨ transition.before.opcode? = some .call) ∧
        ∃ word,
          transition.after.stackFromBottom = transition.before.stackFromBottom ++ [word]) ∨
      (transition.before.opcode? = some .pop ∨ transition.before.opcode? = some .ret) ∧
        transition.before.stackFromBottom ≠ [] ∧
        transition.after.stackFromBottom = transition.before.stackFromBottom.dropLast
  /-- Stack and registers change together only by a pop. -/
  of_stack_and_registers :
    transition.after.stack ≠ transition.before.stack ->
      transition.after.registers ≠ transition.before.registers ->
        transition.before.opcode? = some .pop
  /-- At most one call is made: a read by an instruction for input, or a write by one for output. -/
  calls :
    transition.calls = [] ∨
      (transition.before.opcode? = some .input ∧ ∃ reply, transition.calls = [.read reply]) ∨
      transition.before.opcode? = some .output ∧
        ∃ code reply, transition.calls = [.write code reply]
  /-- Nothing else changes but the program counter, the condition and the count. -/
  touches : transition.before.Touches transition.after

/-- Whatever the machine and its channels, a step changes at most what its opcode and its first
operand say. -/
theorem Machine.step_footprint
    (channels : Channels World)
    (machine : Machine)
    (world : World) : (machine.transition channels world).Footprint := by
  have touches := machine.touches_step channels world
  exact {
    of_cell := fun place changed => touches.of_cell changed
    cell_unique := by
      intro place other changed otherChanged
      have resolves := (touches.of_cell changed).2
      rw [(touches.of_cell otherChanged).2] at resolves
      exact Fin.ext (Int.ofNat_inj.mp (Except.ok.inj resolves).symm)
    of_register := fun index changed => touches.of_register changed
    register_unique := by
      intro index other changed otherChanged
      have names := (touches.of_register changed).2
      rw [(touches.of_register otherChanged).2] at names
      exact Fin.ext (Nat.add_left_cancel names.symm)
    memory_or_registers := touches.memory_or_registers
    stack := touches.stack
    of_stack_and_registers := touches.of_stack_and_registers
    calls := machine.channelCalls_cases channels world
    touches }

end WordMachine
