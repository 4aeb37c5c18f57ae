import WordMachine.Proofs.Bare.Plan

/-!
# Steps of corresponding machines

Every opcode has a handler that follows the plan, and with it a step of the bare
machine comes to what a step of the machine comes to: `run_step_bare`.
-/

namespace WordMachine
namespace Bare

variable {World : Type}

/-! ## Fetching -/

/-- The numbers of the operand words of an instruction. -/
def operandNumbers
    (machine : Machine)
    (count : Nat) : List Int :=
  (List.range count).map fun index => operandNumber machine (index + 1)

theorem run_mapM
    {α β : Type}
    {activity : α -> Activity World β}
    {result : α -> β}
    {state : BareMachine × World}
    (each : ∀ item, (activity item).run state = .ok (result item) state)
    (items : List α) :
    (items.mapM activity).run state = .ok (items.map result) state := by
  induction items with
  | nil => rfl
  | cons item items rest =>
      rw [List.mapM_cons]
      exact (run_bind_of_ok (each item)).trans (run_bind_of_ok rest)

/-- Every operand of an instruction lies in memory, since its address wraps. -/
theorem run_operands_bare
    (machine : Machine)
    (world : World)
    (count : Nat) :
    (operands (machine.pc.val : Int) count).run (machine.bare, world) =
      .ok (operandNumbers machine count) (machine.bare, world) := by
  refine run_mapM (fun index => ?_) (List.range count)
  have address :
      ((machine.pc.val : Int) + ((index + 1 : Nat) : Int)) % 32768 =
        ((machine.pc.advance (index + 1)).val : Int) := by
    rw [Address.advance_val]
    omega
  rw [address]
  exact run_cell_bare machine world (machine.pc.advance (index + 1))

/-! ## Dispatch -/

section

variable
  (channels : Channels World)
  (machine : Machine)
  (world : World)

/-- Every opcode has a handler, which takes the operands that the opcode has and follows the
plan. -/
theorem exists_handler
    (running : machine.condition = .running)
    (opcode : Opcode) :
    ∃ handler, (handlers channels).lookup opcode = some handler ∧
      Follows channels machine world (machine.pc.advance opcode.width)
        (handler.call (operandNumbers machine opcode.operandCount))
        (machine.planOpcode opcode) := by
  cases opcode with
  | halt => exact ⟨_, rfl, follows_halt running⟩
  | set => exact ⟨_, rfl, follows_set⟩
  | push => exact ⟨_, rfl, follows_push⟩
  | pop => exact ⟨_, rfl, follows_pop⟩
  | equal =>
      refine ⟨_, rfl, follows_binary fun left right => ?_⟩
      simp [← UInt16.toNat_inj]
  | greater =>
      refine ⟨_, rfl, follows_binary fun left right => ?_⟩
      simp [UInt16.lt_iff_toNat_lt]
  | jump => exact ⟨_, rfl, follows_jump⟩
  | jumpIf =>
      refine ⟨_, rfl, follows_branch fun word => ?_⟩
      exact congrArg not (Word.beq_zero_toNat word)
  | jumpUnless => exact ⟨_, rfl, follows_branch Word.beq_zero_toNat⟩
  | add =>
      refine ⟨_, rfl, follows_binary fun left right => ?_⟩
      rw [Word.toNat_add]
      rfl
  | multiply =>
      refine ⟨_, rfl, follows_binary fun left right => ?_⟩
      rw [Word.toNat_multiply]
      rfl
  | modulo => exact ⟨_, rfl, follows_modulo⟩
  | bitAnd => exact ⟨_, rfl, follows_binary Word.land_toNat⟩
  | bitOr => exact ⟨_, rfl, follows_binary Word.lor_toNat⟩
  | bitNot => exact ⟨_, rfl, follows_bitNot⟩
  | readMemory => exact ⟨_, rfl, follows_readMemory⟩
  | writeMemory => exact ⟨_, rfl, follows_writeMemory⟩
  | call => exact ⟨_, rfl, follows_call⟩
  | ret => exact ⟨_, rfl, follows_return running⟩
  | output => exact ⟨_, rfl, follows_output⟩
  | input => exact ⟨_, rfl, follows_input⟩
  | noop => exact ⟨_, rfl, follows_noop⟩

/-- What comes of executing an instruction whose handler comes to the given result. -/
def continued
    (opcode : Opcode) : HandlerResult World -> EStateM.Result Exit (BareMachine × World) Int
  | .ok next state => .ok (next.getD (((machine.pc.val : Int) + opcode.width) % 32768)) state
  | .error exit state => .error exit state

/-- The code of the instruction at the program counter. -/
abbrev codeNumber (machine : Machine) : Int :=
  (machine.memory.get machine.pc).toNat

/-- Fetching and executing an instruction has the outcome of planning it and carrying out the
plan. -/
theorem run_execute_bare (running : machine.condition = .running) :
    (execute channels machine.pc.val (codeNumber machine)).run (machine.bare, world) =
      match machine.plan with
      | .ok (opcode, action) =>
          continued machine opcode
            (carriedOut channels machine world (machine.pc.advance opcode.width) action)
      | .error cause => .error (.fault cause.kind cause.message) (machine.bare, world) := by
  unfold execute Machine.plan Machine.opcode?
  cases found : Opcode.ofCode? (machine.memory.get machine.pc).toNat with
  | none =>
      rw [codeNumber, shownNumber_word, shownNumber_address]
      rfl
  | some opcode =>
      obtain ⟨handler, registered, follows⟩ :=
        exists_handler channels machine world running opcode
      have fetched := run_operands_bare machine world opcode.operandCount
      have dispatched :
          (Bare.handler channels opcode).run (machine.bare, world) =
            .ok handler (machine.bare, world) := by
        rw [Bare.handler, registered]
        rfl
      refine (run_bind_of_ok fetched).trans ((run_bind_of_ok dispatched).trans ?_)
      unfold Follows at follows
      dsimp only
      cases plan : machine.planOpcode opcode with
      | error cause =>
          rw [plan] at follows
          exact run_bind_of_error follows
      | ok action =>
          rw [plan] at follows
          change _ = continued machine opcode
            (carriedOut channels machine world (machine.pc.advance opcode.width) action)
          dsimp only at follows
          rw [← follows]
          rw [EStateM.run_bind]
          cases (handler.call (operandNumbers machine opcode.operandCount)).run
            (machine.bare, world) <;> rfl

/-! ## Steps -/

/-- What comes of a step of the bare machine, if a step of the machine has the given outcome. -/
def stepped (outcome : Machine.Outcome World) : EStateM.Result Exit (BareMachine × World) Status :=
  match outcome.interrupted with
  | some disruption => .error (.disruption disruption) (outcome.machine.bare, outcome.world)
  | none => .ok outcome.machine.status (outcome.machine.bare, outcome.world)

theorem run_conclude_ok
    (pc next : Int)
    (state : BareMachine × World) :
    (conclude pc (.ok next)).run state =
      .ok state.1.status ({ state.1 with pc := next, executed := state.1.executed + 1 }, state.2) :=
  rfl

/-- The program counter moves on in both machines alike. -/
theorem run_conclude_enacted
    (opcode : Opcode)
    (effect : Effect) :
    (conclude (machine.pc.val : Int)
        (.ok (((effect.target? machine.pc).map fun target => (target.val : Int)).getD
          (((machine.pc.val : Int) + opcode.width) % 32768)))).run
        ((machine.enact (machine.pc.advance opcode.width) effect).bare, world) =
      .ok (machine.apply opcode effect).status ((machine.apply opcode effect).bare, world) := by
  have next :
      ((effect.target? machine.pc).map fun target => (target.val : Int)).getD
          (((machine.pc.val : Int) + opcode.width) % 32768) =
        (((effect.target? machine.pc).getD (machine.pc.advance opcode.width)).val : Int) := by
    cases effect.target? machine.pc with
    | some target => rfl
    | none =>
      simp only [Option.map_none, Option.getD_none, Address.advance_val]
      omega
  have counted := Machine.executed_enact machine (machine.pc.advance opcode.width) effect
  rw [next, Machine.apply_eq, ← counted]
  exact run_conclude_ok _ _ _

/-- A handler that fails has the fault recorded where the instruction stands. -/
theorem run_conclude_blamed (cause : Cause) :
    (conclude (machine.pc.val : Int) (.error (cause.kind, cause.message))).run
        (machine.bare, world) =
      .ok .faulted ((machine.fail cause).bare, world) := by
  rw [conclude, shownNumber_address]
  rfl

theorem run_attempt_of_ok
    {α : Type}
    {activity : Activity World α}
    {before after : BareMachine × World}
    {value : α}
    (result : activity.run before = .ok value after) :
    (attempt activity).run before = .ok (.ok value) after := by
  rw [run_attempt, result]

theorem run_attempt_of_fault
    {α : Type}
    {activity : Activity World α}
    {before after : BareMachine × World}
    {kind : FaultKind}
    {message : Text}
    (result : activity.run before = .error (.fault kind message) after) :
    (attempt activity).run before = .ok (.error (kind, message)) after := by
  rw [run_attempt, result]

theorem run_attempt_of_disruption
    {α : Type}
    {activity : Activity World α}
    {before after : BareMachine × World}
    {disruption : Disruption}
    (result : activity.run before = .error (.disruption disruption) after) :
    (attempt activity).run before = .error (.disruption disruption) after := by
  rw [run_attempt, result]

/-- A handler that ends in the given way makes a step that comes to the given outcome. -/
def Concludes
    (opcode : Opcode)
    (result : HandlerResult World)
    (outcome : Machine.Outcome World) : Prop :=
  ∀ activity : Activity World Int, ∀ before,
    activity.run before = continued machine opcode result ->
    (attempt activity >>= conclude machine.pc.val).run before = stepped outcome

/-- An effect that a handler has put into force is concluded by moving on and counting. -/
theorem concludes_enacted
    (opcode : Opcode)
    (effect : Effect)
    (notices : List Notice) :
    Concludes machine opcode
      (enacted machine world (machine.pc.advance opcode.width) effect)
      { machine := machine.apply opcode effect, world, notices } := by
  intro activity before result
  exact (run_bind_of_ok (run_attempt_of_ok result)).trans
    (run_conclude_enacted machine world opcode effect)

/-- A fault that a handler has raised is concluded by recording it. -/
theorem concludes_blamed
    (opcode : Opcode)
    (cause : Cause)
    (notices : List Notice) :
    Concludes machine opcode
      (blamed machine world cause)
      (machine.faultOutcome cause world notices) := by
  intro activity before result
  exact (run_bind_of_ok (run_attempt_of_fault result)).trans
    (run_conclude_blamed machine world cause)

/-- A disruption is not concluded: it leaves the step, and the machine as it was. -/
theorem concludes_disrupted
    (opcode : Opcode)
    (disruption : Disruption)
    (notices : List Notice) :
    Concludes machine opcode
      (disrupted machine world disruption)
      { machine, world, notices, interrupted := some disruption } := by
  intro activity before result
  exact run_bind_of_error (run_attempt_of_disruption result)

/-- What a handler does once its plan is made is what the machine does. -/
theorem concludes_carriedOut
    (opcode : Opcode)
    (action : Action) :
    Concludes machine opcode
      (carriedOut channels machine world (machine.pc.advance opcode.width) action)
      (machine.carryOut channels world opcode action) := by
  cases action with
  | settle effect => exact concludes_enacted machine world opcode effect []
  | send code =>
      unfold carriedOut sent Machine.carryOut
      dsimp only
      rcases channels.write code.toNat world with ⟨⟨reply, notices⟩, after⟩
      cases reply with
      | done value => exact concludes_enacted machine after opcode .proceed notices
      | failed failure =>
          exact concludes_blamed machine after opcode (.outputFailed failure) notices
      | interrupted words =>
          exact concludes_disrupted machine after opcode (.interruption words) notices
  | receive target =>
      unfold carriedOut received Machine.carryOut
      dsimp only
      rcases channels.read world with ⟨reply, after⟩
      cases reply with
      | done value =>
          dsimp only
          rcases Machine.receivedWord value with (cause | disruption) | word
          · exact concludes_blamed machine after opcode cause []
          · exact concludes_disrupted machine after opcode disruption []
          · exact concludes_enacted machine after opcode (.assign target word) []
      | failed failure => exact concludes_blamed machine after opcode (Machine.readCause failure) []
      | interrupted words =>
          exact concludes_disrupted machine after opcode (.interruption words) []

/-- A step of the bare machine comes to what a step of the machine comes to. -/
theorem run_step_bare :
    (step channels).run (machine.bare, world) = stepped (machine.step channels world) := by
  refine (run_bind_of_ok (run_machine _)).trans ?_
  by_cases running : machine.condition = .running
  · have notTerminal : ¬ machine.bare.status.isTerminal = true := by
      simp [Machine.bare, Machine.status, running, Status.isTerminal]
    rw [if_neg notTerminal, Machine.step_running running]
    refine (run_bind_of_ok (run_cell_bare machine world machine.pc)).trans ?_
    have executed := run_execute_bare channels machine world running
    cases plan : machine.plan with
    | error cause =>
        rw [plan] at executed
        exact (run_bind_of_ok (run_attempt_of_fault executed)).trans
          (run_conclude_blamed machine world cause)
    | ok instruction =>
        rw [plan] at executed
        obtain ⟨opcode, action⟩ := instruction
        exact concludes_carriedOut channels machine world opcode action _ _ executed
  · have terminal : machine.bare.status.isTerminal = true := by
      unfold Machine.bare Machine.status
      cases condition : machine.condition with
      | running => contradiction
      | halted => rfl
      | faulted fault => rfl
    rw [if_pos terminal, Machine.step_stopped running]
    rfl

end

end Bare
end WordMachine
