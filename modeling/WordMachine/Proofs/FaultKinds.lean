import WordMachine.Proofs.History
import WordMachine.Proofs.PlanFaults

/-!
# Kinds of faults

`Machine.FaultCondition` says, for every kind of fault, when the next step ends in
a fault of this kind: because its plan fails, or because the channel that the
plan calls does.  `Machine.EscapeCondition` says when it ends in no fault although
it fails: a value was delivered that fails when it is looked at, and this failure
leaves the step as it is.
-/

namespace WordMachine

variable {World : Type}

namespace Machine

section

variable
  {machine : Machine}
  {kind : FaultKind}

/-! ## Actions -/

/-- The outcome of a step is a fault of the given kind. -/
def Outcome.Faults
    (outcome : Outcome World)
    (kind : FaultKind) : Prop :=
  ∃ fault, outcome.machine.condition = .faulted fault ∧ fault.cause.kind = kind

/-- The kind of a fault is that of its cause. -/
theorem faults_faultOutcome
    (cause : Cause)
    (world : World)
    (notices : List Notice) :
    (machine.faultOutcome cause world notices).Faults kind ↔ kind = cause.kind := by
  constructor
  · rintro ⟨fault, same, rfl⟩
    cases same
    rfl
  · rintro rfl
    exact ⟨_, rfl, rfl⟩

/-- A step that puts an effect into force does not fault. -/
theorem not_faults_apply
    (running : machine.condition = .running)
    (opcode : Opcode)
    (effect : Effect)
    (world : World)
    (notices : List Notice) :
    ¬ Outcome.Faults { machine := machine.apply opcode effect, world, notices } kind := by
  rintro ⟨fault, faulted, _⟩
  have faultless := fault?_apply running opcode effect
  rw [fault?_eq_some_iff.mpr faulted] at faultless
  cases faultless

/-- An outcome that leaves the machine running is no fault, interrupted or not. -/
theorem not_faults_running
    (running : machine.condition = .running)
    (world : World)
    (notices : List Notice)
    (interrupted : Option Disruption) :
    ¬ Outcome.Faults { machine, world, notices, interrupted } kind := by
  rintro ⟨fault, faulted, _⟩
  rw [running] at faulted
  cases faulted

/-- A value from the input channel is a character code. -/
def IsCharacter (value : Value) : Prop :=
  ∃ number, value = .integer number ∧ 0 ≤ number ∧ number ≤ 32767

/-- Every cause for which a value from the input channel is refused is a failure of the channel. -/
theorem kind_receivedWord
    {value : Value}
    {cause : Cause}
    (refused : receivedWord value = .error (.fault cause)) : cause.kind = .channelFailure := by
  have showing {shown : Except Disruption String} {about : String -> Cause}
      (channelFailure : ∀ shown, (about shown).kind = .channelFailure)
      (same : Refusal.showing about shown = .fault cause) : cause.kind = .channelFailure := by
    cases shown <;> cases same
    exact channelFailure _
  cases value with
  | integer number =>
      unfold receivedWord at refused
      dsimp only at refused
      split at refused
      · cases refused
      · exact showing (fun _ => rfl) (Except.error.inj refused)
  | evasive disruption written => cases refused
  | _ => exact showing (fun _ => rfl) (Except.error.inj refused)

/-- The values that count as characters are those that are received as a word. -/
theorem isCharacter_iff (value : Value) :
    IsCharacter value ↔ ∃ word, receivedWord value = .ok word := by
  simp only [receivedWord_eq_ok_iff]
  constructor
  · rintro ⟨number, rfl, bounds⟩
    have small : number.toNat < 65536 := by omega
    refine ⟨UInt16.ofNat number.toNat, ?_⟩
    rw [UInt16.toNat_ofNat_of_lt' small, Value.integer.injEq]
    omega
  · rintro ⟨word, rfl, small⟩
    exact ⟨word.toNat, rfl, by omega⟩

/-- Of all failures of a source only the end of input has a kind of its own. -/
theorem kind_readCause (failure : Failure) :
    (readCause failure).kind =
      if failure.isEndOfInput then .inputExhausted else .channelFailure := by
  unfold readCause
  cases failure.isEndOfInput <;> rfl

/-- When an action faults with a kind of fault. -/
def ActionCondition
    (channels : Channels World)
    (world : World) : Action -> FaultKind -> Prop
  | .send code, .channelFailure =>
      ∃ failure, (channels.write code.toNat world).1.reply = .failed failure
  | .receive _, .inputExhausted =>
      ∃ failure, (channels.read world).1 = .failed failure ∧ failure.isEndOfInput = true
  | .receive _, .channelFailure =>
      (∃ failure, (channels.read world).1 = .failed failure ∧ failure.isEndOfInput = false) ∨
        ∃ value, (channels.read world).1 = .done value ∧
          ¬ IsCharacter value ∧ value.disruption? = none
  | _, _ => False

/-- Once planned, an action can fault over a channel only. -/
theorem faults_carryOut
    {channels : Channels World}
    {world : World}
    (running : machine.condition = .running)
    (opcode : Opcode)
    (action : Action) :
    (machine.carryOut channels world opcode action).Faults kind ↔
      ActionCondition channels world action kind := by
  cases action with
  | settle effect =>
      simp only [ActionCondition, iff_false]
      exact not_faults_apply running opcode effect world []
  | send code =>
      unfold carryOut
      dsimp only
      rcases written : channels.write code.toNat world with ⟨⟨reply, notices⟩, after⟩
      cases reply with
      | done value =>
          refine iff_of_false (not_faults_apply running opcode .proceed after notices) ?_
          cases kind <;> simp [ActionCondition, written]
      | failed failure =>
          rw [faults_faultOutcome]
          cases kind <;> simp [ActionCondition, written, Cause.kind]
      | interrupted words =>
          refine iff_of_false (not_faults_running running after notices _) ?_
          cases kind <;> simp [ActionCondition, written]
  | receive target =>
      unfold carryOut
      dsimp only
      rcases received : channels.read world with ⟨reply, after⟩
      cases reply with
      | done value =>
          -- The condition in terms of what is received, which has a case for each way to come out.
          have condition :
              ActionCondition channels world (.receive target) kind ↔
                kind = .channelFailure ∧
                  ¬ (∃ word, receivedWord value = .ok word) ∧
                  ∀ disruption, receivedWord value ≠ .error (.disruption disruption) := by
            simp only [← isCharacter_iff, ne_eq, receivedWord_eq_disruption_iff,
              ← Option.eq_none_iff_forall_ne_some]
            cases kind <;> simp [ActionCondition, received]
          rw [condition]
          dsimp only
          rcases refused : receivedWord value with (cause | disruption) | word
          · rw [faults_faultOutcome, kind_receivedWord refused]
            simp
          · refine iff_of_false (not_faults_running running after [] _) ?_
            simp
          · refine iff_of_false (not_faults_apply running opcode (.assign target word) after []) ?_
            simp
      | failed failure =>
          rw [faults_faultOutcome, kind_readCause]
          cases ended : failure.isEndOfInput <;> cases kind <;>
            simp [ActionCondition, received, ended]
      | interrupted words =>
          refine iff_of_false (not_faults_running running after [] _) ?_
          cases kind <;> simp [ActionCondition, received]

/-! ## Steps -/

section

variable
  {channels : Channels World}
  {world : World}

/-- A known opcode faults while it is planned or while it is carried out. -/
theorem faults_step_of_known
    {opcode : Opcode}
    (running : machine.condition = .running)
    (known : machine.opcode? = some opcode) :
    (machine.step channels world).Faults kind ↔
      machine.PlanCondition opcode kind ∨
        ∃ action, machine.planOpcode opcode = .ok action ∧
          ActionCondition channels world action kind := by
  rw [step_known running known, ← fails_planOpcode]
  cases machine.planOpcode opcode with
  | error cause => simp [faults_faultOutcome]
  | ok action => simp [faults_carryOut running]

/-- An output reaches its channel if its operand has a value, and sends that value. -/
theorem exists_action_output :
    (∃ action, machine.planOpcode .output = .ok action ∧
        ActionCondition channels world action kind) ↔
      ∃ word, machine.Evaluates 1 word ∧ ActionCondition channels world (.send word) kind := by
  unfold planOpcode
  simp only [← source_eq_ok_iff]
  cases machine.source 1 with
  | error cause => simp [Functor.map, Except.map]
  | ok word => simp [Functor.map, Except.map]

end

end
end Machine
end WordMachine
