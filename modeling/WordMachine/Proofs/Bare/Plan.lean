import WordMachine.Proofs.Bare.Correspondence
import WordMachine.Proofs.Operands
import WordMachine.Proofs.Step

/-!
# Handlers carry out the plan

A handler checks and changes the bare machine bit by bit, where the machine first
makes a plan and then does everything at once.  `Follows` says that the two come
to the same; it is proved along the checks that both make in the same order.
-/

namespace WordMachine
namespace Bare

variable {World α β : Type}

/-- Where the first activity returns, the second goes on with its value and from its state. -/
theorem run_bind_of_ok
    {first : Activity World α}
    {second : α -> Activity World β}
    {before after : BareMachine × World}
    {value : α}
    (result : first.run before = .ok value after) :
    (first >>= second).run before = (second value).run after := by
  rw [EStateM.run_bind, result]

/-- Where the first activity is left early, the second never starts. -/
theorem run_bind_of_error
    {first : Activity World α}
    {second : α -> Activity World β}
    {before after : BareMachine × World}
    {exit : Exit}
    (result : first.run before = .error exit after) :
    (first >>= second).run before = .error exit after := by
  rw [EStateM.run_bind, result]

/-! ## Outcomes of handlers -/

/-- What a handler comes back with, and the state in which it leaves the machine and the world. -/
abbrev HandlerResult (World : Type) : Type :=
  EStateM.Result Exit (BareMachine × World) (Option Int)

/-- What comes of a handler that fails for a cause. -/
def blamed
    (machine : Machine)
    (world : World)
    (cause : Cause) : HandlerResult World :=
  .error (.fault cause.kind cause.message) (machine.bare, world)

/-- What comes of a handler that is disrupted. -/
def disrupted
    (machine : Machine)
    (world : World)
    (disruption : Disruption) : HandlerResult World :=
  .error (.disruption disruption) (machine.bare, world)

/-- What comes of a handler that has the given effect. -/
def enacted
    (machine : Machine)
    (world : World)
    (next : Address)
    (effect : Effect) : HandlerResult World :=
  .ok ((effect.target? machine.pc).map fun target => (target.val : Int))
    ((machine.enact next effect).bare, world)

/-- What comes of a handler that writes a character code. -/
def sent
    (channels : Channels World)
    (machine : Machine)
    (world : World)
    (next : Address)
    (code : Word) : HandlerResult World :=
  match channels.write code.toNat world with
  | (⟨.done _, _⟩, world) => enacted machine world next .proceed
  | (⟨.failed failure, _⟩, world) => blamed machine world (.outputFailed failure)
  | (⟨.interrupted words, _⟩, world) => disrupted machine world (.interruption words)

/-- What comes of a handler that reads a character code. -/
def received
    (channels : Channels World)
    (machine : Machine)
    (world : World)
    (next : Address)
    (target : Operand) : HandlerResult World :=
  match channels.read world with
  | (.done value, world) =>
      match Machine.receivedWord value with
      | .ok word => enacted machine world next (.assign target word)
      | .error (.fault cause) => blamed machine world cause
      | .error (.disruption disruption) => disrupted machine world disruption
  | (.failed failure, world) => blamed machine world (Machine.readCause failure)
  | (.interrupted words, world) => disrupted machine world (.interruption words)

/-- What comes of a handler that does what an instruction asks for. -/
def carriedOut
    (channels : Channels World)
    (machine : Machine)
    (world : World)
    (next : Address) : Action -> HandlerResult World
  | .settle effect => enacted machine world next effect
  | .send code => sent channels machine world next code
  | .receive target => received channels machine world next target

/-- A handler comes to what a plan says. -/
def Follows
    (channels : Channels World)
    (machine : Machine)
    (world : World)
    (next : Address)
    (activity : Activity World (Option Int))
    (plan : Except Cause Action) : Prop :=
  activity.run (machine.bare, world) =
    match plan with
    | .ok action => carriedOut channels machine world next action
    | .error cause => blamed machine world cause

section

variable
  {channels : Channels World}
  {machine : Machine}
  {world : World}
  {next : Address}

/-- Both sides make the same check first. -/
theorem follows_bind
    {check : Activity World Int}
    {rest : Int -> Activity World (Option Int)}
    {checked : Except Cause α}
    {number : α -> Int}
    {plan : α -> Except Cause Action}
    (sameCheck : check.run (machine.bare, world) = lookedUp machine world number checked)
    (sameRest : ∀ value, Follows channels machine world next (rest (number value)) (plan value)) :
    Follows channels machine world next (check >>= rest) (checked >>= plan) := by
  cases checked with
  | ok value => exact (run_bind_of_ok sameCheck).trans (sameRest value)
  | error cause => exact run_bind_of_error sameCheck

/-- The plan looks up a source operand where the handler resolves it. -/
theorem follows_resolve
    (distance : Nat)
    {rest : Int -> Activity World (Option Int)}
    {plan : Word -> Except Cause Action}
    (sameRest : ∀ word : Word, Follows channels machine world next (rest word.toNat) (plan word)) :
    Follows channels machine world next
      (resolve ((machine.operandWord distance).toNat : Int) >>= rest)
      (machine.source distance >>= plan) :=
  follows_bind (run_resolve_bare machine world distance) sameRest

/-- The address check refuses the same words on both sides, and lets what follows use the same
address. -/
theorem follows_locate
    (access : Access)
    (word : Word)
    {rest : Int -> Activity World (Option Int)}
    {plan : Address -> Except Cause Action}
    (sameRest : ∀ address : Address,
      Follows channels machine world next (rest address.val) (plan address)) :
    Follows channels machine world next
      (locate access (word.toNat : Int) >>= rest)
      (Machine.located access word >>= plan) :=
  follows_bind (run_locate_bare machine world access word) sameRest

/-- A handler that ends by storing a word follows a plan that ends by assigning it. -/
theorem follows_store
    (distance : Nat)
    (word : Word) :
    Follows channels machine world next
      (do store ((machine.operandWord distance).toNat : Int) (word.toNat : Int); return none)
      (do return .settle (.assign (← machine.destination distance) word)) := by
  have stored := run_store_bare machine world distance word
  cases target : machine.destination distance with
  | ok target =>
      rw [target] at stored
      exact run_bind_of_ok stored
  | error cause =>
      rw [target] at stored
      exact run_bind_of_error stored

/-! ## Single opcodes -/

/-- The number of the operand word at a distance from the program counter. -/
abbrev operandNumber
    (machine : Machine)
    (distance : Nat) : Int :=
  (machine.operandWord distance).toNat

theorem follows_halt (running : machine.condition = .running) :
    Follows channels machine world next handleHalt (machine.planOpcode .halt) := by
  have noFault := Machine.fault?_of_running running
  have halted :
      { machine.bare with status := .halted } = { machine with condition := .halted }.bare := by
    simp only [Machine.bare, noFault]
    rfl
  change EStateM.Result.ok (some (machine.pc.val : Int))
    ({ machine.bare with status := .halted }, world) = _
  rw [halted]
  rfl

theorem follows_set :
    Follows channels machine world next
      (handleSet (operandNumber machine 1) (operandNumber machine 2))
      (machine.planOpcode .set) := by
  apply follows_resolve 2
  intro word
  exact follows_store 1 word

theorem follows_push :
    Follows channels machine world next
      (handlePush (operandNumber machine 1))
      (machine.planOpcode .push) := by
  apply follows_resolve 1
  intro word
  exact run_bind_of_ok (run_push_bare machine world word)

/-- The arithmetic, bitwise and comparing handlers share one body; each follows the plan once
its operation on numbers agrees with the one on words. -/
theorem follows_binary
    {number : Int -> Int -> Int}
    {operation : Word -> Word -> Word}
    (sameOperation : ∀ left right : Word,
      number left.toNat right.toNat = (operation left right).toNat) :
    Follows channels machine world next
      (handleBinary number
        (operandNumber machine 1) (operandNumber machine 2) (operandNumber machine 3))
      (machine.planBinary operation) := by
  apply follows_resolve 2
  intro left
  apply follows_resolve 3
  intro right
  rw [sameOperation]
  exact follows_store 1 (operation left right)

theorem follows_jump :
    Follows channels machine world next
      (handleJump (operandNumber machine 1))
      (machine.planOpcode .jump) := by
  apply follows_resolve 1
  intro word
  apply follows_locate .jump word
  intro address
  rfl

/-- Both conditional jumps share one body, with the test as a parameter. -/
theorem follows_branch
    {numberTaken : Int -> Bool}
    {taken : Word -> Bool}
    (sameTest : ∀ word : Word, numberTaken word.toNat = taken word) :
    Follows channels machine world next
      (handleBranch numberTaken (operandNumber machine 1) (operandNumber machine 2))
      (machine.planBranch taken) := by
  unfold handleBranch Machine.planBranch
  apply follows_resolve 1
  intro word
  rw [sameTest]
  cases taken word with
  | true =>
      rw [if_pos rfl, if_pos rfl]
      apply follows_resolve 2
      intro target
      apply follows_locate .jump target
      intro address
      rfl
  | false =>
      rw [if_neg Bool.false_ne_true, if_neg Bool.false_ne_true]
      rfl

/-- The handler tests the divisor before it divides, so no division by zero can escape. -/
theorem follows_modulo :
    Follows channels machine world next
      (handleModulo
        (operandNumber machine 1) (operandNumber machine 2) (operandNumber machine 3))
      (machine.planOpcode .modulo) := by
  unfold handleModulo Machine.planOpcode
  apply follows_resolve 3
  intro divisor
  by_cases zero : divisor = 0
  · rw [if_pos zero, zero]
    rfl
  · have nonzero : (divisor.toNat : Int) ≠ 0 := by
      intro equal
      exact zero (UInt16.toNat_inj.mp (Int.natCast_inj.mp equal))
    rw [if_neg zero, if_neg nonzero]
    apply follows_resolve 2
    intro dividend
    rw [remainder, if_neg nonzero, Word.fmod_toNat, pure_bind]
    exact follows_store 1 (dividend % divisor)

theorem follows_bitNot :
    Follows channels machine world next
      (handleBitNot (operandNumber machine 1) (operandNumber machine 2))
      (machine.planOpcode .bitNot) := by
  apply follows_resolve 2
  intro word
  rw [Word.land_lnot]
  exact follows_store 1 (Word.complement word)

theorem follows_readMemory :
    Follows channels machine world next
      (handleReadMemory (operandNumber machine 1) (operandNumber machine 2))
      (machine.planOpcode .readMemory) := by
  apply follows_resolve 2
  intro word
  apply follows_locate .read word
  intro address
  refine (run_bind_of_ok (run_cell_bare machine world address)).trans ?_
  exact follows_store 1 (machine.memory.get address)

theorem follows_writeMemory :
    Follows channels machine world next
      (handleWriteMemory (operandNumber machine 1) (operandNumber machine 2))
      (machine.planOpcode .writeMemory) := by
  apply follows_resolve 1
  intro target
  apply follows_locate .write target
  intro address
  apply follows_resolve 2
  intro word
  exact run_bind_of_ok (run_setCell_bare machine world address word)

/-- A test of the stack is decided by the stack of the machine. -/
theorem isEmpty_bare_stack : machine.bare.stack.isEmpty = machine.stack.isEmpty := by
  simp [Machine.bare, Machine.stackFromBottom, numbers]

/-- The handler stores the top word before it drops it, so a refused destination keeps the stack. -/
theorem follows_pop :
    Follows channels machine world next
      (handlePop (operandNumber machine 1))
      (machine.planOpcode .pop) := by
  refine (run_bind_of_ok (run_machine _)).trans ?_
  rw [isEmpty_bare_stack]
  unfold Machine.planOpcode
  cases stack : machine.stack with
  | nil => rfl
  | cons word rest =>
      have dropped (destination : Operand) :
          drop.run ((machine.store destination word).bare, world) =
            .ok () ((machine.enact next (.pop destination word)).bare, world) := by
        have run :=
          run_drop_bare (machine.store destination word) world (by rw [Machine.stack_store, stack])
        rw [Machine.stack_store] at run
        exact run
      refine (run_bind_of_ok (run_top_bare machine world stack)).trans ?_
      have stored := run_store_bare machine world 1 word
      cases target : machine.destination 1 with
      | ok destination =>
          rw [target] at stored
          exact (run_bind_of_ok stored).trans (run_bind_of_ok (dropped destination))
      | error cause =>
          rw [target] at stored
          exact run_bind_of_error stored

/-- The return address is two past the call, wrapped, and hence a word that the stack may hold. -/
theorem follows_call :
    Follows channels machine world (machine.pc.advance 2)
      (handleCall (operandNumber machine 1))
      (machine.planOpcode .call) := by
  unfold handleCall Machine.planOpcode
  apply follows_resolve 1
  intro word
  apply follows_locate .call word
  intro address
  have returnAddress :
      ((machine.pc.val : Int) + 2) % 32768 = ((machine.pc.advance 2).toWord.toNat : Int) := by
    rw [Address.toWord_toNat, Address.advance_val]
    omega
  refine (run_bind_of_ok (run_machine _)).trans ?_
  change EStateM.run (push (((machine.pc.val : Int) + 2) % 32768) >>= _) _ = _
  rw [returnAddress]
  exact run_bind_of_ok (run_push_bare machine world _)

/-- An empty stack halts instead of being popped. -/
theorem follows_return (running : machine.condition = .running) :
    Follows channels machine world next handleReturn (machine.planOpcode .ret) := by
  refine (run_bind_of_ok (run_machine _)).trans ?_
  rw [isEmpty_bare_stack]
  unfold Machine.planOpcode
  cases stack : machine.stack with
  | nil => exact follows_halt running
  | cons word rest =>
      refine (run_bind_of_ok (run_top_bare machine world stack)).trans ?_
      apply follows_locate .ret word
      intro address
      exact run_bind_of_ok (run_drop_bare machine world stack)

theorem follows_noop :
    Follows channels machine world next handleNoop (machine.planOpcode .noop) :=
  rfl

/-- Whatever the sink raises becomes the fault of the plan, or interrupts on both sides. -/
theorem follows_output :
    Follows channels machine world next
      (handleOutput channels (operandNumber machine 1))
      (machine.planOpcode .output) := by
  unfold handleOutput Machine.planOpcode
  apply follows_resolve 1
  intro word
  refine (run_bind_of_ok (run_callWrite channels word.toNat machine.bare world)).trans ?_
  change _ = sent channels machine world next word
  unfold sent
  rcases channels.write word.toNat world with ⟨⟨reply, notices⟩, after⟩
  cases reply <;> rfl

/-- How the examination of a value ends that finds the word, or refuses the value. -/
def examined
    (machine : Machine)
    (world : World) : Except Refusal Word -> EStateM.Result Exit (BareMachine × World) Int
  | .ok word => .ok word.toNat (machine.bare, world)
  | .error (.fault cause) => .error (.fault cause.kind cause.message) (machine.bare, world)
  | .error (.disruption disruption) => .error (.disruption disruption) (machine.bare, world)

/-- A message about something to be shown is written by both sides or by none. -/
theorem run_raise_showing
    (cause : String -> Cause)
    (shown : Except Disruption String)
    (after : World) :
    (do
        let shown ← spell shown
        raise (cause shown).kind (cause shown).message : Activity World Int).run
        (machine.bare, after) =
      examined machine after (.error (.showing cause shown)) := by
  cases shown <;> rfl

/-- A value from the input channel is accepted by both sides or refused by both. -/
theorem run_accept
    (value : Value)
    (after : World) :
    (accept value).run (machine.bare, after) =
      examined machine after (Machine.receivedWord value) := by
  cases value with
  | integer number =>
      unfold accept Machine.receivedWord
      dsimp only
      by_cases inRange : 0 ≤ number ∧ number < 32768
      · have sameNumber : number = ((UInt16.ofNat number.toNat).toNat : Int) := by
          simp
          omega
        rw [if_pos inRange, if_pos (by omega)]
        exact congrArg (fun number => EStateM.Result.ok number (machine.bare, after)) sameNumber
      · rw [if_neg inRange, if_neg (by omega)]
        exact run_raise_showing .inputOutOfRange _ after
  | evasive disruption written => rfl
  | _ => exact run_raise_showing .inputNotInteger _ after

/-- A value from the input channel is stored where the destination says. -/
theorem run_acceptInto
    {target : Operand}
    (destination : machine.destination 1 = .ok target)
    (value : Value)
    (after : World) :
    (do store (operandNumber machine 1) (← accept value); return none :
        Activity World (Option Int)).run (machine.bare, after) =
      match Machine.receivedWord value with
      | .ok word => enacted machine after next (.assign target word)
      | .error (.fault cause) => blamed machine after cause
      | .error (.disruption disruption) => disrupted machine after disruption := by
  have accepted :
      (accept value).run (machine.bare, after) =
        examined machine after (Machine.receivedWord value) :=
    run_accept value after
  rcases received : Machine.receivedWord value with (cause | disruption) | word
  · rw [received] at accepted
    exact run_bind_of_error accepted
  · rw [received] at accepted
    exact run_bind_of_error accepted
  · rw [received] at accepted
    have stored := run_store_bare machine after 1 word
    rw [destination] at stored
    exact (run_bind_of_ok accepted).trans (run_bind_of_ok stored)

/-- Whatever the source returns or raises is stored, becomes the fault of the plan, or
interrupts on both sides. -/
theorem follows_input :
    Follows channels machine world next
      (handleInput channels (operandNumber machine 1))
      (machine.planOpcode .input) := by
  unfold handleInput Machine.planOpcode
  by_cases large : 32775 < (machine.operandWord 1).toNat
  · have destination :
        machine.destination 1 = .error (.badOperand (toString (machine.operandWord 1).toNat)) :=
      Machine.denoted_of_large large
    rw [destination, if_pos (by unfold operandNumber; omega), operandNumber, shownNumber_word]
    rfl
  · obtain ⟨target, destination⟩ : ∃ target, machine.destination 1 = .ok target :=
      Machine.denoted_of_small (by omega)
    rw [destination, if_neg (by unfold operandNumber; omega)]
    refine (run_bind_of_ok (run_callRead channels machine.bare world)).trans ?_
    change _ = received channels machine world next target
    unfold received
    rcases channels.read world with ⟨reply, after⟩
    cases reply with
    | done value => exact run_acceptInto destination value after
    | failed failure =>
        unfold Machine.readCause
        dsimp only
        cases failure.isEndOfInput <;> rfl
    | interrupted words => rfl

end

end Bare
end WordMachine
