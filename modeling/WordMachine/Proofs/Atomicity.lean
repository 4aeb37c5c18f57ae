import WordMachine.Proofs.Bare.Simulation
import WordMachine.Proofs.ChannelCalls
import WordMachine.Proofs.FaultKinds

/-!
# Atomicity

A step that faults, or is interrupted, be it by a channel or by a failure of the
value that was read, leaves the machine as it was, apart from the note of the fault.
The kind of the fault tells whether a channel was called.  This is so although the
handlers of a bare machine check and change it in turn: whenever one of them fails, it
has not changed anything yet.
-/

namespace WordMachine

variable {World : Type}

/-- How many calls of channels were made by an instruction that faults with a kind of fault. -/
def FaultKind.channelCalls : FaultKind -> Nat
  | .inputExhausted | .channelFailure => 1
  | .stackUnderflow | .unknownOpcode | .invalidMemoryAccess | .arithmeticFault
  | .invalidOperand => 0

namespace Machine

/-- A plan never fails because of a channel. -/
theorem channelCalls_of_plan_error
    {machine : Machine}
    {cause : Cause}
    (planned : machine.plan = .error cause) :
    cause.kind.channelCalls = 0 := by
  cases known : machine.opcode? with
  | none =>
      rw [plan, known] at planned
      cases planned
      rfl
  | some opcode =>
      have fails : Fails machine.plan cause.kind := ⟨cause, planned, rfl⟩
      have condition : machine.PlanCondition opcode cause.kind := by
        simpa [plan, known, fails_planOpcode] using fails
      cases kind : cause.kind <;> rw [kind] at condition <;> first | rfl | exact condition.elim

/-- What an outcome of a step has to do with the machine before it and the calls made by it. -/
structure Outcome.Atomic
    (machine : Machine)
    (calls : List ChannelCall)
    (outcome : Outcome World) : Prop where
  /-- A fault changes only what is known about the fault. -/
  unchanged_of_faulted : ∀ fault, outcome.machine.condition = .faulted fault ->
    outcome.machine = { machine with condition := .faulted fault }
  /-- The kind of a fault tells how many calls were made. -/
  length_of_faulted : ∀ fault, outcome.machine.condition = .faulted fault ->
    machine.condition = .running -> calls.length = fault.cause.kind.channelCalls
  /-- An interruption changes nothing. -/
  unchanged_of_interrupted : outcome.interrupted.isSome -> outcome.machine = machine
  /-- The step is interrupted by what a call of a channel brings up, and by nothing else. -/
  interrupted_eq : outcome.interrupted = calls.findSome? ChannelCall.disruption?

section

variable
  {machine : Machine}
  {calls : List ChannelCall}

theorem atomic_apply
    (running : machine.condition = .running)
    (opcode : Opcode)
    (effect : Effect)
    (world : World)
    (notices : List Notice)
    (undisturbed : calls.findSome? ChannelCall.disruption? = none) :
    Outcome.Atomic machine calls { machine := machine.apply opcode effect, world, notices } := by
  have notFaulted (fault : Fault) : (machine.apply opcode effect).condition ≠ .faulted fault := by
    rw [condition_apply, running]
    split <;> simp
  exact {
    unchanged_of_faulted := fun fault faulted => absurd faulted (notFaulted fault)
    length_of_faulted := fun fault faulted => absurd faulted (notFaulted fault)
    unchanged_of_interrupted := fun impossible => nomatch impossible
    interrupted_eq := undisturbed.symm }

/-- A fault changes nothing but the condition, and needs as many calls as its kind says. -/
theorem atomic_faultOutcome
    (cause : Cause)
    (world : World)
    (notices : List Notice)
    (length : calls.length = cause.kind.channelCalls)
    (undisturbed : calls.findSome? ChannelCall.disruption? = none) :
    (machine.faultOutcome cause world notices).Atomic machine calls where
  unchanged_of_faulted := by
    rintro fault faulted
    cases faulted
    rfl
  length_of_faulted := by
    rintro fault faulted _
    cases faulted
    exact length
  unchanged_of_interrupted := fun impossible => nomatch impossible
  interrupted_eq := undisturbed.symm

theorem atomic_interrupted
    (running : machine.condition = .running)
    (world : World)
    (notices : List Notice)
    {disruption : Disruption}
    (interrupted : calls.findSome? ChannelCall.disruption? = some disruption) :
    Outcome.Atomic machine calls
      { machine, world, notices, interrupted := some disruption } where
  unchanged_of_faulted := by
    rintro fault faulted
    rw [running] at faulted
    cases faulted
  length_of_faulted := by
    rintro fault faulted
    rw [running] at faulted
    cases faulted
  unchanged_of_interrupted := fun _ => rfl
  interrupted_eq := interrupted.symm

end

/-- A single read brings up what comes out of the value. -/
theorem findSome?_read
    {value : Value}
    {found : Option Disruption}
    (same : value.disruption? = found) :
    [ChannelCall.read (.done value)].findSome? ChannelCall.disruption? = found := by
  rw [← same]
  cases disrupts : value.disruption? <;> simp [ChannelCall.disruption?, disrupts]

theorem atomic_carryOut
    {machine : Machine}
    (running : machine.condition = .running)
    (channels : Channels World)
    (world : World)
    (opcode : Opcode)
    (action : Action) :
    (machine.carryOut channels world opcode action).Atomic machine
      (action.channelCalls channels world) := by
  cases action with
  | settle effect => exact atomic_apply running opcode effect world [] rfl
  | send code =>
      unfold carryOut Action.channelCalls
      dsimp only
      rcases channels.write code.toNat world with ⟨⟨reply, notices⟩, after⟩
      cases reply with
      | done value => exact atomic_apply running opcode .proceed after notices rfl
      | failed failure => exact atomic_faultOutcome (.outputFailed failure) after notices rfl rfl
      | interrupted words => exact atomic_interrupted running after notices rfl
  | receive target =>
      unfold carryOut Action.channelCalls
      dsimp only
      rcases channels.read world with ⟨reply, after⟩
      cases reply with
      | done value =>
          dsimp only
          rcases received : receivedWord value with (cause | disruption) | word
          · refine atomic_faultOutcome cause after [] ?_ ?_
            · rw [kind_receivedWord received]
              rfl
            · exact findSome?_read (disruption?_of_fault received)
          · refine atomic_interrupted running after [] ?_
            exact findSome?_read (receivedWord_eq_disruption_iff.mp received)
          · refine atomic_apply running opcode (.assign target word) after [] ?_
            exact findSome?_read (disruption?_of_ok received)
      | failed failure =>
          refine atomic_faultOutcome (readCause failure) after [] ?_ rfl
          rw [kind_readCause]
          cases failure.isEndOfInput <;> rfl
      | interrupted words => exact atomic_interrupted running after [] rfl

/-- Every step is atomic. -/
theorem atomic_step
    (channels : Channels World)
    (machine : Machine)
    (world : World) :
    (machine.step channels world).Atomic machine (machine.channelCalls channels world) := by
  by_cases running : machine.condition = .running
  · cases planned : machine.plan with
    | error cause =>
        rw [step_running running, planned, channelCalls_of_error channels world running planned]
        exact atomic_faultOutcome cause world [] (channelCalls_of_plan_error planned).symm rfl
    | ok instruction =>
        obtain ⟨opcode, action⟩ := instruction
        rw [step_running running, planned, channelCalls_of_ok channels world running planned]
        exact atomic_carryOut running channels world opcode action
  · rw [step_stopped running, channelCalls_of_stopped channels world running]
    exact {
      unchanged_of_faulted := fun fault faulted => by rw [← faulted]
      length_of_faulted := fun _ _ stillRunning => absurd stillRunning running
      unchanged_of_interrupted := fun _ => rfl
      interrupted_eq := rfl }

end Machine

namespace Bare

/-- What the end of a step of a bare machine has to do with the machine before it. -/
def Atomic
    (before : BareMachine) :
    EStateM.Result Exit (BareMachine × World × List ChannelCall) Status -> Prop
  | .ok status (after, _, calls) =>
      status = .faulted ->
        ∃ report, after = { before with status := .faulted, fault := some report } ∧
          (before.status = .running -> calls.length = report.kind.channelCalls)
  | .error exit (after, _, calls) =>
      after = before ∧ ∃ disruption, exit = .disruption disruption ∧
        calls.findSome? ChannelCall.disruption? = some disruption

end Bare

end WordMachine
