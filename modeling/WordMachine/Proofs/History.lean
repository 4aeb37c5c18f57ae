import WordMachine.Proofs.ChannelCalls

/-!
# Histories

`Machine.ends_step` says in which ways a step can end.  A transition is what can be
said about one step afterwards, and the history of a machine lists its transitions,
one for every step that is made, up to the machine that `Machine.afterSteps` gives.
What every step keeps holds all along a history: `Machine.invariant_history`.
-/

namespace WordMachine

variable {World : Type}

/-- What the output channel tells about the call that an action makes. -/
def Action.told
    (channels : Channels World)
    (world : World) : Action -> List Notice
  | .settle _ | .receive _ => []
  | .send code => (channels.write code.toNat world).1.notices

namespace Machine

/-! ## Steps -/

/-- What the output channel tells about the call that a step makes. -/
def told
    (channels : Channels World)
    (machine : Machine)
    (world : World) : List Notice :=
  match machine.condition, machine.plan with
  | .running, .ok (_, action) => action.told channels world
  | _, _ => []

/-- The effects that an instruction with a given opcode may have: the one that it asks for, or,
after it has called a channel, to go on or to store the word that was read. -/
inductive Offers
    (machine : Machine)
    (opcode : Opcode) : Effect -> Prop where
  /-- The instruction asks for the effect. -/
  | settled {effect : Effect}
      (planned : machine.planOpcode opcode = .ok (.settle effect)) :
      Offers machine opcode effect
  /-- The instruction has written a character code. -/
  | sent {code : Word}
      (planned : machine.planOpcode opcode = .ok (.send code)) :
      Offers machine opcode .proceed
  /-- The instruction has read a character code. -/
  | received {target : Operand} {word : Word}
      (planned : machine.planOpcode opcode = .ok (.receive target))
      (small : word.toNat < 32768) :
      Offers machine opcode (.assign target word)

/-- The ways in which a step can end, with what the output channel tells. -/
inductive StepEnds
    (machine : Machine)
    (notices : List Notice) : Outcome World -> Prop where
  /-- The machine does not run. -/
  | stopped
      (stopped : machine.condition ≠ .running)
      (after : World) :
      StepEnds machine notices { machine, world := after, notices }
  /-- The instruction faults. -/
  | failed
      (running : machine.condition = .running)
      (cause : Cause)
      (after : World) :
      StepEnds machine notices (machine.faultOutcome cause after notices)
  /-- The step is interrupted. -/
  | interrupted
      (running : machine.condition = .running)
      (disruption : Disruption)
      (after : World) :
      StepEnds machine notices
        { machine, world := after, notices, interrupted := some disruption }
  /-- The instruction is executed. -/
  | executed {opcode : Opcode} {effect : Effect}
      (running : machine.condition = .running)
      (known : machine.opcode? = some opcode)
      (offers : machine.Offers opcode effect)
      (after : World) :
      StepEnds machine notices { machine := machine.apply opcode effect, world := after, notices }

section

variable
  {channels : Channels World}
  {machine : Machine}
  {world : World}

theorem told_of_stopped (stopped : machine.condition ≠ .running) :
    machine.told channels world = [] := by
  unfold told
  split
  · contradiction
  · rfl

theorem told_of_error
    {cause : Cause}
    (planned : machine.plan = .error cause) :
    machine.told channels world = [] := by
  rw [told, planned]
  cases machine.condition <;> rfl

theorem told_of_ok
    {opcode : Opcode}
    {action : Action}
    (running : machine.condition = .running)
    (planned : machine.plan = .ok (opcode, action)) :
    machine.told channels world = action.told channels world := by
  rw [told, running, planned]

/-- What an instruction asks for is carried out in one of the ways. -/
theorem ends_carryOut
    {opcode : Opcode}
    {action : Action}
    (running : machine.condition = .running)
    (known : machine.opcode? = some opcode)
    (planned : machine.planOpcode opcode = .ok action) :
    StepEnds machine (action.told channels world)
      (machine.carryOut channels world opcode action) := by
  cases action with
  | settle effect => exact .executed running known (.settled planned) world
  | send code =>
      unfold carryOut Action.told
      dsimp only
      rcases channels.write code.toNat world with ⟨⟨reply, notices⟩, after⟩
      cases reply with
      | done value => exact .executed running known (.sent planned) after
      | failed failure => exact .failed running (.outputFailed failure) after
      | interrupted words => exact .interrupted running (.interruption words) after
  | receive target =>
      unfold carryOut Action.told
      dsimp only
      rcases channels.read world with ⟨reply, after⟩
      cases reply with
      | done value =>
          dsimp only
          rcases received : receivedWord value with (cause | disruption) | word
          · exact .failed running cause after
          · exact .interrupted running disruption after
          · have small := (receivedWord_eq_ok_iff.mp received).2
            exact .executed running known (.received planned small) after
      | failed failure => exact .failed running (readCause failure) after
      | interrupted words => exact .interrupted running (.interruption words) after

variable (channels machine world)

/-- A step ends in one of the ways, and they say everything about it but what becomes of the
world. -/
theorem ends_step :
    StepEnds machine (machine.told channels world) (machine.step channels world) := by
  by_cases running : machine.condition = .running
  · cases planned : machine.plan with
    | error cause =>
        rw [told_of_error planned, step_running running, planned]
        exact .failed running cause world
    | ok instruction =>
        obtain ⟨opcode, action⟩ := instruction
        obtain ⟨known, plannedAction⟩ := plan_eq_ok_iff.mp planned
        rw [told_of_ok running planned, step_running running, planned]
        exact ends_carryOut running known plannedAction
  · rw [told_of_stopped running, step_stopped running]
    exact .stopped running world

variable {channels machine world}

/-- A step that is interrupted leaves the machine as it is. -/
theorem step_machine_of_interrupted
    {disruption : Disruption}
    (interrupted : (machine.step channels world).interrupted = some disruption) :
    (machine.step channels world).machine = machine := by
  have ends := machine.ends_step channels world
  generalize machine.step channels world = outcome at ends interrupted ⊢
  cases ends with
  | stopped stopped after => rfl
  | failed running cause after => cases interrupted
  | interrupted running disruption after => rfl
  | executed running known offers after => cases interrupted

end
end Machine

/-! ## Transitions -/

/-- What can be said about a step afterwards. -/
structure Transition where
  /-- The machine before the step. -/
  before : Machine
  /-- The calls of channels that were made, with the replies. -/
  calls : List ChannelCall
  /-- What the output channel told. -/
  told : List Notice
  /-- The machine after the step. -/
  after : Machine
  /-- What interrupted the step, which then was not made. -/
  interrupted : Option Disruption

/-- What the channels and the machine tell about a step: what the output channel does, and that
the machine comes into a fault. -/
def Transition.notices (transition : Transition) : List Notice :=
  transition.told ++
    if transition.before.condition = .running then
      transition.after.fault?.toList.map .machineFaulted
    else
      []

namespace Machine

/-- The next step of a machine. -/
def transition
    (channels : Channels World)
    (machine : Machine)
    (world : World) : Transition where
  before := machine
  calls := machine.channelCalls channels world
  told := machine.told channels world
  after := (machine.step channels world).machine
  interrupted := (machine.step channels world).interrupted

/-- What a step tells is what can be said about it afterwards. -/
theorem notices_step
    (channels : Channels World)
    (machine : Machine)
    (world : World) :
    (machine.step channels world).notices = (machine.transition channels world).notices := by
  unfold Transition.notices transition
  dsimp only
  have ends := machine.ends_step channels world
  generalize machine.step channels world = outcome at ends ⊢
  cases ends with
  | stopped stopped after => rw [if_neg stopped, List.append_nil]
  | failed running cause after =>
      rw [if_pos running]
      rfl
  | interrupted running disruption after =>
      rw [if_pos running, fault?_of_running running, Option.toList_none, List.map_nil,
        List.append_nil]
  | executed running known offers after =>
      rw [if_pos running, fault?_apply running, Option.toList_none, List.map_nil,
        List.append_nil]

/-! ## Many steps -/

/-- The machine and the world after so many steps. -/
def afterSteps
    (channels : Channels World) : Nat -> Machine -> World -> Machine × World
  | 0, machine, world => (machine, world)
  | count + 1, machine, world =>
      let outcome := machine.step channels world
      afterSteps channels count outcome.machine outcome.world

/-- The transitions of so many steps, the earliest first. -/
def history
    (channels : Channels World) : Nat -> Machine -> World -> List Transition
  | 0, _, _ => []
  | count + 1, machine, world =>
      let outcome := machine.step channels world
      machine.transition channels world ::
        history channels count outcome.machine outcome.world

/-- The machines that so many steps pass through, the one before the first step included. -/
def states
    (channels : Channels World)
    (count : Nat)
    (machine : Machine)
    (world : World) : List Machine :=
  machine :: (machine.history channels count world).map Transition.after

section

variable
  (channels : Channels World)
  (first second : Nat)
  (machine : Machine)
  (world : World)

theorem afterSteps_add :
    machine.afterSteps channels (first + second) world =
      (machine.afterSteps channels first world).1.afterSteps channels second
        (machine.afterSteps channels first world).2 := by
  induction first generalizing machine world with
  | zero => rw [Nat.zero_add, afterSteps]
  | succ first inductionHypothesis =>
      rw [Nat.succ_add, afterSteps, afterSteps]
      exact inductionHypothesis _ _

theorem history_add :
    machine.history channels (first + second) world =
      machine.history channels first world ++
        (machine.afterSteps channels first world).1.history channels second
          (machine.afterSteps channels first world).2 := by
  induction first generalizing machine world with
  | zero => rw [Nat.zero_add, history, afterSteps, List.nil_append]
  | succ first inductionHypothesis =>
      rw [Nat.succ_add, history, history, afterSteps, List.cons_append]
      exact congrArg _ (inductionHypothesis _ _)

/-- The last of so many steps begins where the others lead to. -/
theorem history_succ (count : Nat) :
    machine.history channels (count + 1) world =
      machine.history channels count world ++
        [(machine.afterSteps channels count world).1.transition channels
          (machine.afterSteps channels count world).2] :=
  history_add channels count 1 machine world

end

/-- A step that leaves the machine as it is. -/
def resting (machine : Machine) : Transition where
  before := machine
  calls := []
  told := []
  after := machine
  interrupted := none

/-- A machine that does not run rests, and so does the world. -/
theorem history_of_stopped
    {machine : Machine}
    (stopped : machine.condition ≠ .running)
    (channels : Channels World)
    (count : Nat)
    (world : World) :
    machine.history channels count world = List.replicate count machine.resting ∧
      machine.afterSteps channels count world = (machine, world) := by
  induction count with
  | zero => exact ⟨rfl, rfl⟩
  | succ count inductionHypothesis =>
      obtain ⟨transitions, state⟩ := inductionHypothesis
      have first : machine.transition channels world = machine.resting := by
        unfold transition resting
        rw [channelCalls_of_stopped channels world stopped, told_of_stopped stopped,
          step_stopped stopped]
      rw [history, afterSteps, first, step_stopped stopped, transitions, state]
      exact ⟨rfl, rfl⟩

/-- What every allowed step keeps holds before each of them and after the last. -/
theorem invariant_history
    {channels : Channels World}
    {invariant : Machine -> World -> Prop}
    {allowed : Transition -> Prop}
    (kept : ∀ machine world, invariant machine world ->
      allowed (machine.transition channels world) ->
      invariant (machine.step channels world).machine (machine.step channels world).world)
    (count : Nat)
    (machine : Machine)
    (world : World)
    (start : invariant machine world)
    (allAllowed : ∀ transition ∈ machine.history channels count world, allowed transition) :
    invariant (machine.afterSteps channels count world).1
        (machine.afterSteps channels count world).2 ∧
      ∀ transition ∈ machine.history channels count world,
        ∃ machine world, invariant machine world ∧
          machine.transition channels world = transition := by
  induction count generalizing machine world with
  | zero => exact ⟨start, fun transition impossible => nomatch impossible⟩
  | succ count inductionHypothesis =>
      obtain ⟨firstAllowed, laterAllowed⟩ := List.forall_mem_cons.mp allAllowed
      have next := kept machine world start firstAllowed
      obtain ⟨last, along⟩ := inductionHypothesis _ _ next laterAllowed
      exact ⟨last, List.forall_mem_cons.mpr ⟨⟨machine, world, start, rfl⟩, along⟩⟩

end Machine
end WordMachine
