import WordMachine.Proofs.FaultKinds
import WordMachine.Proofs.Lockstep

/-!
# Steps that read and steps that write

Only the instruction for input reads, and only the one for output writes.  All that
a reading machine learns of the world is the reply to its one read: `Machine.receive`
is what the reply makes of it.  To any other step it does not matter what there is to
read: `Machine.alike_of_idle`.
-/

namespace WordMachine

variable {World Other : Type}

namespace Machine

section

variable
  {machine : Machine}
  {opcode : Opcode}

/-- Only an output sends, and it sends the value of its operand. -/
theorem opcode_of_send
    {code : Word}
    (planned : machine.planOpcode opcode = .ok (.send code)) :
    opcode = .output ∧ machine.Evaluates 1 code := by
  by_cases output : opcode = .output
  · subst output
    refine ⟨rfl, (source_eq_ok_iff code).mp ?_⟩
    rw [planOpcode] at planned
    cases sourced : machine.source 1 with
    | error cause =>
        rw [sourced] at planned
        cases planned
    | ok word =>
        rw [sourced] at planned
        cases planned
        rfl
  · by_cases input : opcode = .input
    · subst input
      rw [planOpcode] at planned
      cases found : machine.destination 1 <;> rw [found] at planned <;> cases planned
    · obtain ⟨effect, impossible⟩ := settles_planOpcode machine output input _ planned
      cases impossible

/-- Neither input nor output is settled by the machine alone. -/
theorem opcode_of_settle
    {effect : Effect}
    (planned : machine.planOpcode opcode = .ok (.settle effect)) :
    opcode ≠ .input ∧ opcode ≠ .output := by
  constructor
  · rintro rfl
    rw [planOpcode] at planned
    cases found : machine.destination 1 <;> rw [found] at planned <;> cases planned
  · rintro rfl
    rw [planOpcode] at planned
    cases sourced : machine.source 1 <;> rw [sourced] at planned <;> cases planned

end

/-! ## Reading -/

/-- The next step of the machine reads, and what is read goes to the target. -/
def Asks
    (machine : Machine)
    (target : Operand) : Prop :=
  machine.condition = .running ∧ machine.plan = .ok (.input, .receive target)

theorem Asks.destination
    {machine : Machine}
    {target : Operand}
    (asks : machine.Asks target) : machine.destination 1 = .ok target := by
  have planned := (plan_eq_ok_iff.mp asks.2).2
  rw [planOpcode] at planned
  cases found : machine.destination 1 with
  | error cause =>
      rw [found] at planned
      cases planned
  | ok target =>
      rw [found] at planned
      cases planned
      rfl

theorem asks_or_idle (machine : Machine) :
    (∃ target, machine.Asks target) ∨ ∀ target, ¬ machine.Asks target := by
  rw [← not_exists]
  exact Classical.em _

/-- What the next step of a machine has to do with its channels. -/
inductive NextStep (machine : Machine) : Prop where
  /-- The machine does not run. -/
  | stopped
      (stopped : machine.condition ≠ .running)
  /-- The instruction fails before it calls a channel. -/
  | failing {cause : Cause}
      (running : machine.condition = .running)
      (planned : machine.plan = .error cause)
  /-- The instruction calls no channel. -/
  | settling {opcode : Opcode} {effect : Effect}
      (running : machine.condition = .running)
      (planned : machine.plan = .ok (opcode, .settle effect))
      (otherwise : opcode ≠ .input ∧ opcode ≠ .output)
  /-- The instruction writes the value of its operand. -/
  | sending {code : Word}
      (running : machine.condition = .running)
      (planned : machine.plan = .ok (.output, .send code))
      (evaluates : machine.Evaluates 1 code)
  /-- The instruction reads. -/
  | asking {target : Operand}
      (asks : machine.Asks target)

theorem nextStep (machine : Machine) : machine.NextStep := by
  by_cases running : machine.condition = .running
  · cases planned : machine.plan with
    | error cause => exact .failing running planned
    | ok instruction =>
        obtain ⟨opcode, action⟩ := instruction
        have plannedAction := (plan_eq_ok_iff.mp planned).2
        cases action with
        | settle effect => exact .settling running planned (opcode_of_settle plannedAction)
        | send code =>
            obtain ⟨rfl, evaluates⟩ := opcode_of_send plannedAction
            exact .sending running planned evaluates
        | receive target =>
            obtain rfl := opcode_of_receive plannedAction
            exact .asking ⟨running, planned⟩
  · exact .stopped running

/-- What comes of a read that was replied to. -/
def receive
    (machine : Machine)
    (target : Operand)
    (reply : Reply Value)
    (world : World) : Outcome World :=
  match reply with
  | .done value =>
      match receivedWord value with
      | .ok word => { machine := machine.apply .input (.assign target word), world }
      | .error (.fault cause) => machine.faultOutcome cause world []
      | .error (.disruption disruption) => { machine, world, interrupted := some disruption }
  | .failed failure => machine.faultOutcome (readCause failure) world []
  | .interrupted words => { machine, world, interrupted := some (.interruption words) }

section

variable
  {machine : Machine}
  {target : Operand}

/-- A step that asks for input depends on the channels through the reply alone. -/
theorem step_of_asks
    (channels : Channels World)
    (world : World)
    (asks : machine.Asks target) :
    machine.step channels world =
      machine.receive target (channels.read world).1 (channels.read world).2 := by
  rw [step_running asks.1, asks.2]
  unfold receive
  dsimp only [carryOut]
  rcases channels.read world with ⟨reply, after⟩
  cases reply <;> rfl

/-- What a reply makes of a machine has nothing to do with the world behind it. -/
theorem receive_eq
    (machine : Machine)
    (target : Operand)
    (reply : Reply Value)
    (world : World)
    (other : Other) :
    (machine.receive target reply world).machine = (machine.receive target reply other).machine ∧
      (machine.receive target reply world).interrupted =
        (machine.receive target reply other).interrupted ∧
      (machine.receive target reply world).world = world := by
  cases reply with
  | done value =>
      unfold receive
      dsimp only
      rcases receivedWord value with (_ | _) | _ <;> exact ⟨rfl, rfl, rfl⟩
  | failed failure => exact ⟨rfl, rfl, rfl⟩
  | interrupted words => exact ⟨rfl, rfl, rfl⟩

theorem receive_of_ok
    (machine : Machine)
    (target : Operand)
    {value : Value}
    {word : Word}
    (received : receivedWord value = .ok word)
    (world : World) :
    machine.receive target (.done value) world =
      { machine := machine.apply .input (.assign target word), world } := by
  unfold receive
  dsimp only
  rw [received]

theorem receive_of_fault
    (machine : Machine)
    (target : Operand)
    {value : Value}
    {cause : Cause}
    (refused : receivedWord value = .error (.fault cause))
    (world : World) :
    machine.receive target (.done value) world = machine.faultOutcome cause world [] := by
  unfold receive
  dsimp only
  rw [refused]

/-- A value that cannot be converted or shown breaks the step off and leaves the machine as it
was. -/
theorem receive_of_disruption
    (machine : Machine)
    (target : Operand)
    {value : Value}
    {disruption : Disruption}
    (refused : receivedWord value = .error (.disruption disruption))
    (world : World) :
    machine.receive target (.done value) world =
      { machine, world, interrupted := some disruption } := by
  unfold receive
  dsimp only
  rw [refused]

/-- A step that reads and gets a reply. -/
def reading
    (machine : Machine)
    (target : Operand)
    (reply : Reply Value) : Transition where
  before := machine
  calls := [.read reply]
  told := []
  after := (machine.receive target reply ()).machine
  interrupted := (machine.receive target reply ()).interrupted

/-- The transition of a step that asks for input is that of the reply. -/
theorem transition_of_asks
    (channels : Channels World)
    (world : World)
    (asks : machine.Asks target) :
    machine.transition channels world = machine.reading target (channels.read world).1 := by
  obtain ⟨sameMachine, sameInterrupted, _⟩ :=
    receive_eq machine target (channels.read world).1 (channels.read world).2 ()
  unfold transition reading
  rw [channelCalls_of_ok channels world asks.1 asks.2, told_of_ok asks.1 asks.2,
    step_of_asks channels world asks, sameMachine, sameInterrupted]
  rfl

end

/-! ## Not reading -/

section

variable
  {machine : Machine}
  {world : World}
  {other : Other}

/-- A step that does not read comes to the same in related worlds, if writing does. -/
theorem alike_of_idle
    (channels : Channels World)
    (others : Channels Other)
    (related : World -> Other -> Prop)
    (writes : ∀ code, (channels.write code world).1 = (others.write code other).1 ∧
      related (channels.write code world).2 (others.write code other).2)
    (isRelated : related world other)
    (idle : ∀ target, ¬ machine.Asks target) :
    Outcome.Alike related (machine.step channels world) (machine.step others other) ∧
      machine.transition channels world = machine.transition others other := by
  -- A transition is fixed by the outcome, the calls and what is told.
  suffices same :
      Outcome.Alike related (machine.step channels world) (machine.step others other) ∧
      machine.channelCalls channels world = machine.channelCalls others other ∧
      machine.told channels world = machine.told others other by
    obtain ⟨outcomes, calls, told⟩ := same
    refine ⟨outcomes, ?_⟩
    rw [transition, calls, told, outcomes.machine_eq, outcomes.interrupted_eq, transition]
  cases machine.nextStep with
  | stopped stopped =>
      rw [step_stopped stopped, step_stopped stopped, channelCalls_of_stopped _ _ stopped,
        channelCalls_of_stopped _ _ stopped, told_of_stopped stopped, told_of_stopped stopped]
      exact ⟨⟨rfl, rfl, isRelated⟩, rfl, rfl⟩
  | failing running planned =>
      rw [step_running running, step_running running, planned,
        channelCalls_of_error _ _ running planned, channelCalls_of_error _ _ running planned,
        told_of_error planned, told_of_error planned]
      exact ⟨⟨rfl, rfl, isRelated⟩, rfl, rfl⟩
  | settling running planned _ =>
      rw [step_running running, step_running running, planned,
        channelCalls_of_ok _ _ running planned, channelCalls_of_ok _ _ running planned,
        told_of_ok running planned, told_of_ok running planned]
      exact ⟨⟨rfl, rfl, isRelated⟩, rfl, rfl⟩
  | @sending code running planned _ =>
      rw [step_running running, step_running running, planned,
        channelCalls_of_ok _ _ running planned, channelCalls_of_ok _ _ running planned,
        told_of_ok running planned, told_of_ok running planned]
      obtain ⟨same, after⟩ := writes code.toNat
      unfold carryOut Action.channelCalls Action.told
      dsimp only
      generalize channels.write code.toNat world = written at same after ⊢
      generalize others.write code.toNat other = otherWritten at same after ⊢
      obtain ⟨⟨reply, notices⟩, world⟩ := written
      obtain ⟨_, other⟩ := otherWritten
      cases same
      cases reply <;> exact ⟨⟨rfl, rfl, after⟩, rfl, rfl⟩
  | asking asks => exact absurd asks (idle _)

end

end Machine
end WordMachine
