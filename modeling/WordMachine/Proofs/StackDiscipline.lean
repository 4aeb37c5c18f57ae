import WordMachine.Proofs.History
import WordMachine.Proofs.Operands

/-!
# Stack discipline

An instruction changes only the top of the stack, so whatever lies at the bottom
stays there for as long as the stack does not sink below it.  In particular a call
and the return that takes its address off the stack again enclose whatever happens
in between: execution goes on after the call, with the stack as it was.
-/

namespace WordMachine
namespace Machine

variable {World : Type}

/-- The lowest entries of the stack, up to a depth, the bottom first. -/
def bottom
    (machine : Machine)
    (depth : Nat) : List Word :=
  machine.stackFromBottom.take depth

/-! ## One step -/

/-- One entry at most goes onto the stack or off it. -/
def StackMoves (before after : List Word) : Prop :=
  after = before ∨ (∃ word, after = word :: before) ∨ after = before.tail

theorem stackMoves_apply
    (machine : Machine)
    (opcode : Opcode)
    (effect : Effect) : StackMoves machine.stack (machine.apply opcode effect).stack := by
  cases effect with
  | halt | proceed | jump target | poke address word => exact Or.inl rfl
  | assign target word => exact Or.inl (machine.stack_store target word)
  | push word => exact Or.inr (Or.inl ⟨word, rfl⟩)
  | call target => exact Or.inr (Or.inl ⟨_, rfl⟩)
  | pop target top => exact Or.inr (Or.inr rfl)
  | leave target => exact Or.inr (Or.inr rfl)

theorem stackMoves_step
    (channels : Channels World)
    (machine : Machine)
    (world : World) :
    StackMoves machine.stack (machine.step channels world).machine.stack := by
  have ends := machine.ends_step channels world
  generalize machine.step channels world = outcome at ends ⊢
  cases ends with
  | stopped | failed | interrupted => exact Or.inl rfl
  | executed => exact stackMoves_apply machine _ _

theorem take_reverse_cons
    {depth : Nat}
    {rest : List Word}
    (deep : depth ≤ rest.length)
    (word : Word) : (word :: rest).reverse.take depth = rest.reverse.take depth := by
  rw [List.reverse_cons, List.take_append_of_le_length (by rwa [List.length_reverse])]

/-- What lies below the top of the stack stays. -/
theorem StackMoves.bottom_eq
    {before after : Machine}
    (moves : StackMoves before.stack after.stack)
    {depth : Nat}
    (deepBefore : depth ≤ before.stack.length)
    (deepAfter : depth ≤ after.stack.length) : after.bottom depth = before.bottom depth := by
  unfold bottom stackFromBottom
  rcases moves with same | ⟨word, pushed⟩ | popped
  · rw [same]
  · rw [pushed, take_reverse_cons deepBefore]
  · rw [popped] at deepAfter ⊢
    cases stack : before.stack with
    | nil => rfl
    | cons word rest =>
        rw [stack] at deepAfter
        exact (take_reverse_cons deepAfter word).symm

/-! ## Calls and returns -/

section

variable
  (channels : Channels World)
  {machine : Machine}
  (world : World)

/-- A call that succeeds leaves the address of the next instruction on the stack. -/
theorem stack_step_call
    (running : machine.condition = .running)
    (known : machine.opcode? = some .call)
    (succeeds : ∀ fault, (machine.step channels world).machine.condition ≠ .faulted fault) :
    (machine.step channels world).machine.stack =
      (machine.pc.advance 2).toWord :: machine.stack := by
  rw [step_known running known] at succeeds ⊢
  cases planned : machine.planOpcode .call with
  | error cause =>
      rw [planned] at succeeds
      exact absurd rfl (succeeds _)
  | ok action =>
      have calls : Yields (fun action => ∃ target, action = .settle (.call target))
          (machine.planOpcode .call) :=
        yields_bind (yields_true _) fun word _ =>
          yields_bind (yields_true _) fun target _ => yields_pure ⟨target, rfl⟩
      obtain ⟨target, rfl⟩ := calls action planned
      rfl

/-- A return to an address on top of the stack takes it off and goes on there. -/
theorem step_return
    (running : machine.condition = .running)
    (known : machine.opcode? = some .ret)
    {address : Address}
    {rest : List Word}
    (stack : machine.stack = address.toWord :: rest) :
    machine.step channels world = { machine := machine.apply .ret (.leave address), world } := by
  have located : located .ret address.toWord = .ok address :=
    (located_eq_ok_iff _ _ _).mpr address.toWord_toNat
  rw [step_known running known, planOpcode, stack]
  dsimp only
  rw [located]
  rfl

end

/-- A call, so many steps after it during which its return address stays on the stack, and then a
return at the level of the call. -/
structure CallAndReturn
    (channels : Channels World)
    (machine : Machine)
    (world : World)
    (steps : Nat) : Prop where
  /-- The machine runs. -/
  running : machine.condition = .running
  /-- The next instruction is a call. -/
  calls : machine.opcode? = some .call
  /-- The call succeeds. -/
  succeeds : ∀ fault, (machine.step channels world).machine.condition ≠ .faulted fault
  /-- The stack stays higher than it was before the call. -/
  deep : ∀ state ∈ (machine.step channels world).machine.states channels steps
      (machine.step channels world).world, machine.stack.length < state.stack.length
  /-- The machine runs after the steps. -/
  stillRunning : (machine.afterSteps channels (steps + 1) world).1.condition = .running
  /-- The instruction after the steps is a return. -/
  returns : (machine.afterSteps channels (steps + 1) world).1.opcode? = some .ret
  /-- Only the return address is left of what went onto the stack. -/
  level : (machine.afterSteps channels (steps + 1) world).1.stack.length =
    machine.stack.length + 1

section

variable
  {channels : Channels World}
  {machine : Machine}
  {world : World}
  {steps : Nat}

/-- The bottom of the stack stays as it is during steps that do not sink below it. -/
theorem bottom_afterSteps
    (depth : Nat)
    (deep : ∀ state ∈ machine.states channels steps world, depth ≤ state.stack.length) :
    (machine.afterSteps channels steps world).1.bottom depth = machine.bottom depth := by
  obtain ⟨deepBefore, deepLater⟩ := List.forall_mem_cons.mp deep
  have kept (state : Machine) (stateWorld : World)
      (low : depth ≤ state.stack.length ∧ state.bottom depth = machine.bottom depth)
      (deepAfter : depth ≤ (state.transition channels stateWorld).after.stack.length) :
      depth ≤ (state.step channels stateWorld).machine.stack.length ∧
        (state.step channels stateWorld).machine.bottom depth = machine.bottom depth :=
    ⟨deepAfter,
      ((stackMoves_step channels state stateWorld).bottom_eq low.1 deepAfter).trans low.2⟩
  have last := invariant_history kept steps machine world ⟨deepBefore, rfl⟩
    (List.forall_mem_map.mp deepLater)
  exact last.1.2

/-- Right before the return the stack is what it was right after the call. -/
theorem CallAndReturn.stack_eq
    (enclosed : CallAndReturn channels machine world steps) :
    (machine.afterSteps channels (steps + 1) world).1.stack =
      (machine.pc.advance 2).toWord :: machine.stack := by
  have called :=
    stack_step_call channels world enclosed.running enclosed.calls enclosed.succeeds
  have same := bottom_afterSteps (machine.stack.length + 1) enclosed.deep
  have level := enclosed.level
  rw [afterSteps] at level ⊢
  -- at this level the bottom of the stack is the whole of it, before and after the steps
  unfold bottom stackFromBottom at same
  have levelBefore := congrArg List.length called
  rw [List.length_cons] at levelBefore
  rw [List.take_of_length_le (Nat.le_of_eq (List.length_reverse.trans level)),
    List.take_of_length_le (Nat.le_of_eq (List.length_reverse.trans levelBefore))] at same
  rw [← called]
  exact List.reverse_inj.mp same

end

/-- Steps keep the bottom of the stack, as long as they do not sink below it; and a return at the
level of a call goes on after the call, with the stack as it was before. -/
theorem stack_discipline
    (channels : Channels World)
    (machine : Machine)
    (world : World)
    (steps : Nat) :
    (∀ depth,
      (∀ state ∈ machine.states channels steps world, depth ≤ state.stack.length) ->
        (machine.afterSteps channels steps world).1.bottom depth = machine.bottom depth) ∧
    (CallAndReturn channels machine world steps ->
      let returned := (machine.afterSteps channels (steps + 2) world).1
      returned.condition = .running ∧
        returned.stack = machine.stack ∧
        returned.pc.val = (machine.pc.val + 2) % 32768) := by
  refine ⟨bottom_afterSteps, fun enclosed => ?_⟩
  have stack := enclosed.stack_eq
  have returned := step_return channels (machine.afterSteps channels (steps + 1) world).2
    enclosed.stillRunning enclosed.returns stack
  rw [afterSteps_add channels (steps + 1) 1, afterSteps, afterSteps, returned]
  refine ⟨enclosed.stillRunning, ?_, rfl⟩
  exact congrArg List.tail stack

/-- A call at the end of memory, whose subroutine pushes a number and pops it again. -/
def callAtEnd : Machine :=
  let place := fresh.pc.advance
  { fresh with
    memory :=
      ((((((Memory.empty.set (place 32766) 17).set (place 32767) 5).set (place 5) 2).set
        (place 6) 7).set (place 7) 3).set (place 8) 32768).set (place 9) 18
    pc := place 32766 }

theorem callAtEnd_step :
    callAtEnd.step Channels.vacant () =
      { machine := callAtEnd.apply .call (.call 5), world := () } := by
  have opcode : callAtEnd.opcode? = some .call := by
    simp only [opcode?, callAtEnd, Memory.get_set, Memory.get_empty]
    decide
  have target : callAtEnd.operandWord 1 = 5 := by
    simp only [operandWord, callAtEnd, Memory.get_set, Memory.get_empty]
    decide
  have planned : callAtEnd.planOpcode .call = .ok (.settle (.call 5)) := by
    unfold planOpcode source
    rw [target]
    rfl
  rw [step_known rfl opcode, planned]
  rfl

/-- The call at the end of memory and the return of its subroutine. -/
theorem callAndReturn_callAtEnd : CallAndReturn Channels.vacant callAtEnd () 2 := by
  have called := callAtEnd_step
  have deep : ∀ state ∈ (callAtEnd.apply .call (.call 5)).states Channels.vacant 2 (),
      callAtEnd.stack.length < state.stack.length := by
    decide +kernel
  exact {
    running := rfl
    calls := by
      simp only [opcode?, callAtEnd, Memory.get_set, Memory.get_empty]
      decide
    succeeds := fun fault => by
      rw [called, condition_apply]
      exact fun impossible => nomatch impossible
    deep := by rwa [called]
    stillRunning := by
      rw [afterSteps, called]
      decide +kernel
    returns := by
      rw [afterSteps, called]
      decide +kernel
    level := by
      rw [afterSteps, called]
      decide +kernel }

/-- The return of a call at the end of memory goes on at its start. -/
theorem stack_discipline_callAtEnd :
    CallAndReturn Channels.vacant callAtEnd () 2 ∧
      let returned := (callAtEnd.afterSteps Channels.vacant (2 + 2) ()).1
      returned.condition = .running ∧
        returned.stack = callAtEnd.stack ∧
        returned.pc.val = (32766 + 2) % 32768 :=
  ⟨callAndReturn_callAtEnd,
    (stack_discipline Channels.vacant callAtEnd () 2).2 callAndReturn_callAtEnd⟩

end Machine
end WordMachine
