import WordMachine.Proofs.History

/-!
# Machines in lockstep

Channels are alike in related worlds if they give the same replies there and leave
related worlds again.  A machine cannot tell such channels apart: with either of
them it makes the same transitions, but for what the output channel tells to others.
-/

namespace WordMachine

variable {World Other : Type}

/-- In related worlds the channels give the same replies to a machine, and leave related worlds. -/
structure Channels.Alike
    (channels : Channels World)
    (others : Channels Other)
    (related : World -> Other -> Prop) : Prop where
  /-- Reads are alike. -/
  read : ∀ world other, related world other ->
    (channels.read world).1 = (others.read other).1 ∧
      related (channels.read world).2 (others.read other).2
  /-- Writes are alike. -/
  write : ∀ (code : Word) world other, related world other ->
    (channels.write code.toNat world).1.reply = (others.write code.toNat other).1.reply ∧
      related (channels.write code.toNat world).2 (others.write code.toNat other).2

/-- A transition, without what the output channel told. -/
def Transition.unheard (transition : Transition) : Transition :=
  { transition with told := [] }

namespace Machine

/-- The outcomes differ in what they tell at most, and the worlds are related. -/
structure Outcome.Alike
    (related : World -> Other -> Prop)
    (outcome : Outcome World)
    (other : Outcome Other) : Prop where
  /-- The machines are the same. -/
  machine_eq : outcome.machine = other.machine
  /-- Both steps are interrupted by the same, or none is. -/
  interrupted_eq : outcome.interrupted = other.interrupted
  /-- The worlds are related. -/
  world : related outcome.world other.world

section

variable
  {channels : Channels World}
  {others : Channels Other}
  {related : World -> Other -> Prop}
  (alike : channels.Alike others related)
  {world : World}
  {other : Other}
  (isRelated : related world other)

include alike isRelated

/-! ## One step -/

theorem alike_carryOut
    (machine : Machine)
    (opcode : Opcode)
    (action : Action) :
    Outcome.Alike related (machine.carryOut channels world opcode action)
      (machine.carryOut others other opcode action) := by
  cases action with
  | settle effect => exact ⟨rfl, rfl, isRelated⟩
  | send code =>
      obtain ⟨same, after⟩ := alike.write code world other isRelated
      unfold carryOut
      dsimp only
      generalize channels.write code.toNat world = written at same after ⊢
      generalize others.write code.toNat other = otherWritten at same after ⊢
      obtain ⟨⟨reply, notices⟩, world⟩ := written
      obtain ⟨⟨otherReply, otherNotices⟩, other⟩ := otherWritten
      cases same
      cases reply <;> exact ⟨rfl, rfl, after⟩
  | receive target =>
      obtain ⟨same, after⟩ := alike.read world other isRelated
      unfold carryOut
      dsimp only
      generalize channels.read world = received at same after ⊢
      generalize others.read other = otherReceived at same after ⊢
      obtain ⟨reply, world⟩ := received
      obtain ⟨otherReply, other⟩ := otherReceived
      cases same
      cases reply with
      | done value =>
          dsimp only
          rcases receivedWord value with (_ | _) | _ <;> exact ⟨rfl, rfl, after⟩
      | failed failure => exact ⟨rfl, rfl, after⟩
      | interrupted words => exact ⟨rfl, rfl, after⟩

theorem channelCalls_action_eq (action : Action) :
    action.channelCalls channels world = action.channelCalls others other := by
  cases action with
  | settle effect => rfl
  | send code =>
      unfold Action.channelCalls
      dsimp only
      rw [(alike.write code world other isRelated).1]
  | receive target =>
      unfold Action.channelCalls
      dsimp only
      rw [(alike.read world other isRelated).1]

/-- A step makes the same calls and comes to the same machine. -/
theorem alike_step (machine : Machine) :
    Outcome.Alike related (machine.step channels world) (machine.step others other) ∧
      machine.channelCalls channels world = machine.channelCalls others other := by
  by_cases running : machine.condition = .running
  · cases planned : machine.plan with
    | error cause =>
        rw [step_running running, step_running running, planned,
          channelCalls_of_error channels world running planned,
          channelCalls_of_error others other running planned]
        exact ⟨⟨rfl, rfl, isRelated⟩, rfl⟩
    | ok instruction =>
        obtain ⟨opcode, action⟩ := instruction
        rw [step_running running, step_running running, planned,
          channelCalls_of_ok channels world running planned,
          channelCalls_of_ok others other running planned]
        exact ⟨alike_carryOut alike isRelated machine opcode action,
          channelCalls_action_eq alike isRelated action⟩
  · rw [step_stopped running, step_stopped running,
      channelCalls_of_stopped channels world running,
      channelCalls_of_stopped others other running]
    exact ⟨⟨rfl, rfl, isRelated⟩, rfl⟩

/-! ## Many steps -/

/-- With channels that are alike a machine makes the same transitions. -/
theorem unheard_history
    (count : Nat)
    (machine : Machine) :
    (machine.history channels count world).map Transition.unheard =
      (machine.history others count other).map Transition.unheard := by
  induction count generalizing machine world other with
  | zero => rfl
  | succ count inductionHypothesis =>
      obtain ⟨outcomes, calls⟩ := alike_step alike isRelated machine
      have later := inductionHypothesis outcomes.world (machine.step channels world).machine
      have first : (machine.transition channels world).unheard =
          (machine.transition others other).unheard := by
        unfold transition Transition.unheard
        dsimp only
        rw [calls, outcomes.machine_eq, outcomes.interrupted_eq]
      rw [history, history, List.map_cons, List.map_cons, first, later, outcomes.machine_eq]

/-- With channels that are alike a machine comes to the same state, and leaves related worlds. -/
theorem alike_afterSteps
    (count : Nat)
    (machine : Machine) :
    (machine.afterSteps channels count world).1 = (machine.afterSteps others count other).1 ∧
      related (machine.afterSteps channels count world).2
        (machine.afterSteps others count other).2 := by
  induction count generalizing machine world other with
  | zero => exact ⟨rfl, isRelated⟩
  | succ count inductionHypothesis =>
      have outcomes := (alike_step alike isRelated machine).1
      have later := inductionHypothesis outcomes.world (machine.step channels world).machine
      rw [afterSteps, afterSteps, ← outcomes.machine_eq]
      exact later

/-- If the channels for output also tell the same, then nothing at all differs. -/
theorem history_eq_of_alike
    (sameNotices : ∀ (code : Word) world other, related world other ->
      (channels.write code.toNat world).1.notices = (others.write code.toNat other).1.notices)
    (count : Nat)
    (machine : Machine) :
    machine.history channels count world = machine.history others count other := by
  induction count generalizing machine world other with
  | zero => rfl
  | succ count inductionHypothesis =>
      obtain ⟨outcomes, calls⟩ := alike_step alike isRelated machine
      have later := inductionHypothesis outcomes.world (machine.step channels world).machine
      have told : machine.told channels world = machine.told others other := by
        unfold Machine.told
        split
        · next action _ _ =>
            cases action with
            | settle effect | receive target => rfl
            | send code => exact sameNotices code world other isRelated
        · rfl
      have first : machine.transition channels world = machine.transition others other := by
        unfold transition
        rw [calls, told, outcomes.machine_eq, outcomes.interrupted_eq]
      rw [history, history, first, later, outcomes.machine_eq]

end

end Machine
end WordMachine
