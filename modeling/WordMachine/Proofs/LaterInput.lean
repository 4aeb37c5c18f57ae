import WordMachine.Proofs.Reading
import WordMachine.Proofs.Scripted

/-!
# Input that comes later

A machine that has not met the end of its script cannot tell whether there was more to
come: `Machine.later_input_unnoticed`.  So text can just as well be fed to the script
between the steps, in pieces, at any time before it is missed.
-/

namespace WordMachine

/-! ## Feeding -/

namespace Script

theorem remaining_feed
    (script : Script)
    (text : Text) :
    (script.feed text).remaining = script.remaining + text.points.length :=
  List.length_append

theorem feed_append
    (script : Script)
    (first second : Text) :
    script.feed (first ++ second) = (script.feed first).feed second :=
  congrArg Script.mk (List.append_assoc script.pending first.points second.points).symm

end Script

/-- Feeds text to a script on a desk. -/
def Desk.feed
    (number : Nat)
    (text : Text)
    (desk : Desk) : Desk :=
  match desk.sources[number]? with
  | some (.script script) => desk.putSource number (.script (script.feed text))
  | _ => desk

theorem Desk.feed_scripted
    (text : Text)
    (script : Script)
    (sinks : Array Sink) :
    (scripted script sinks).feed 0 text = scripted (script.feed text) sinks :=
  rfl

/-- What can be done with a machine and its script. -/
inductive Turn where
  /-- The machine makes a step. -/
  | step
  /-- Text is fed to the script. -/
  | feed (text : Text)

namespace Turn

/-- How many steps are made. -/
def steps : List Turn -> Nat
  | [] => 0
  | .step :: turns => steps turns + 1
  | .feed _ :: turns => steps turns

/-- What is fed, all in all. -/
def fed : List Turn -> Text
  | [] => ⟨[]⟩
  | .step :: turns => fed turns
  | .feed text :: turns => text ++ fed turns

end Turn

namespace Machine

/-- Takes turns at making steps and at feeding a script. -/
def takeTurns
    (channels : Channels Desk)
    (input : Nat) : List Turn -> Machine -> Desk -> Machine × Desk
  | [], machine, desk => (machine, desk)
  | .step :: turns, machine, desk =>
      let outcome := machine.step channels desk
      takeTurns channels input turns outcome.machine outcome.world
  | .feed text :: turns, machine, desk =>
      takeTurns channels input turns machine (desk.feed input text)

/-- The machine has faulted because it met the end of its input. -/
def IsExhausted (machine : Machine) : Prop :=
  ∃ fault, machine.fault? = some fault ∧ fault.cause.kind = .inputExhausted

theorem IsExhausted.stopped
    {machine : Machine}
    (exhausted : machine.IsExhausted) : machine.condition ≠ .running := by
  obtain ⟨fault, faulted, _⟩ := exhausted
  exact stopped_of_fault? faulted

section

variable
  (output : Option Nat)
  (machine : Machine)
  (script : Script)
  (sinks : Array Sink)
  (later : Text)

/-! ## One step -/

/-- Unless a step meets the end of the script, it is the same if there is more to come, and so much
more is left. -/
theorem step_feed
    (enough : ¬ (machine.step (Desk.channels (some 0) output)
      (.scripted script sinks)).machine.IsExhausted) :
    let channels := Desk.channels (some 0) output
    let outcome := machine.step channels (.scripted script sinks)
    let fedOutcome := machine.step channels (.scripted (script.feed later) sinks)
    fedOutcome.machine = outcome.machine ∧
      (∃ left sinksLeft, outcome.world = .scripted left sinksLeft ∧
        fedOutcome.world = .scripted (left.feed later) sinksLeft) ∧
      machine.transition channels (.scripted (script.feed later) sinks) =
        machine.transition channels (.scripted script sinks) := by
  intro channels outcome fedOutcome
  rcases machine.asks_or_idle with ⟨target, asks⟩ | idle
  · obtain ⟨same, world, transition⟩ := scripted_of_asks output sinks script asks
    obtain ⟨fedSame, fedWorld, fedTransition⟩ :=
      scripted_of_asks output sinks (script.feed later) asks
    obtain ⟨pending⟩ := script
    cases pending with
    | nil =>
        refine absurd ?_ enough
        rw [same]
        exact ⟨_, rfl, rfl⟩
    | cons point points =>
        exact ⟨fedSame.trans same.symm, ⟨⟨points⟩, sinks, world, fedWorld⟩,
          fedTransition.trans transition.symm⟩
  · obtain ⟨same, ⟨sinksLeft, world, fedWorld⟩, transition⟩ :=
      scripted_of_idle output sinks script (script.feed later) idle
    exact ⟨same.symm, ⟨script, sinksLeft, world, fedWorld⟩, transition.symm⟩

/-! ## Many steps -/

/-- A run that does not end at the end of the script does not meet it in its first step either. -/
theorem not_isExhausted_step
    {channels : Channels Desk}
    {steps : Nat}
    {machine : Machine}
    {desk : Desk}
    (enough : ¬ (machine.afterSteps channels (steps + 1) desk).1.IsExhausted) :
    ¬ (machine.step channels desk).machine.IsExhausted := by
  intro exhausted
  refine enough ?_
  rw [afterSteps, (history_of_stopped exhausted.stopped channels steps _).2]
  exact exhausted

/-- Unless a run meets the end of the script, it is the same if there is more to come, and so much
more is left. -/
theorem afterSteps_feed
    (steps : Nat)
    (enough : ¬ (machine.afterSteps (Desk.channels (some 0) output) steps
      (.scripted script sinks)).1.IsExhausted) :
    let channels := Desk.channels (some 0) output
    machine.history channels steps (.scripted (script.feed later) sinks) =
        machine.history channels steps (.scripted script sinks) ∧
      ∃ last left sinksLeft,
        machine.afterSteps channels steps (.scripted script sinks) =
          (last, .scripted left sinksLeft) ∧
        machine.afterSteps channels steps (.scripted (script.feed later) sinks) =
          (last, .scripted (left.feed later) sinksLeft) := by
  intro channels
  induction steps generalizing machine script sinks with
  | zero => exact ⟨rfl, machine, script, sinks, rfl, rfl⟩
  | succ steps inductionHypothesis =>
      obtain ⟨same, ⟨left, sinksLeft, world, fedWorld⟩, transition⟩ :=
        step_feed output machine script sinks later (not_isExhausted_step enough)
      rw [afterSteps, world] at enough
      obtain ⟨transitions, states⟩ := inductionHypothesis _ left sinksLeft enough
      constructor
      · rw [history, history, transition, same, world, fedWorld, transitions]
      · rw [afterSteps, afterSteps, same, world, fedWorld]
        exact states

/-- It does not matter when the script is fed, as long as it is in time. -/
theorem takeTurns_eq_afterSteps
    (turns : List Turn)
    (enough : ¬ (machine.afterSteps (Desk.channels (some 0) output) (Turn.steps turns)
      (.scripted script sinks)).1.IsExhausted) :
    machine.takeTurns (Desk.channels (some 0) output) 0 turns (.scripted script sinks) =
      machine.afterSteps (Desk.channels (some 0) output) (Turn.steps turns)
        (.scripted (script.feed (Turn.fed turns)) sinks) := by
  induction turns generalizing machine script sinks with
  | nil =>
      have same : script.feed ⟨[]⟩ = script := congrArg Script.mk (List.append_nil _)
      rw [Turn.fed, same]
      rfl
  | cons turn turns inductionHypothesis =>
      cases turn with
      | step =>
          obtain ⟨same, ⟨left, sinksLeft, world, fedWorld⟩, _⟩ :=
            step_feed output machine script sinks (Turn.fed turns) (not_isExhausted_step enough)
          rw [Turn.steps, afterSteps, world] at enough
          rw [takeTurns, Turn.steps, Turn.fed, afterSteps, same, world, fedWorld]
          exact inductionHypothesis _ left sinksLeft enough
      | feed text =>
          rw [Turn.steps] at enough
          obtain ⟨_, last, left, sinksLeft, plain, fed⟩ :=
            afterSteps_feed output machine script sinks text (Turn.steps turns) enough
          have stillEnough : ¬ (machine.afterSteps (Desk.channels (some 0) output)
              (Turn.steps turns) (.scripted (script.feed text) sinks)).1.IsExhausted := by
            rw [plain] at enough
            rwa [fed]
          rw [takeTurns, Desk.feed_scripted, Turn.steps, Turn.fed, Script.feed_append]
          exact inductionHypothesis machine (script.feed text) sinks stillEnough

end

/-- As long as a machine does not meet the end of its script, more text at the end of the script
makes no difference but that it is left in the end; and the text can also be fed between the
steps. -/
theorem later_input_unnoticed
    (machine : Machine)
    (text later : Text)
    (sinks : Array Sink)
    (output : Option Nat)
    (steps : Nat)
    (enough : ¬ (machine.afterSteps (Desk.channels (some 0) output) steps
      (.scripted (.ofText text) sinks)).1.IsExhausted) :
    let channels := Desk.channels (some 0) output
    let short := Desk.scripted (.ofText text) sinks
    let long := Desk.scripted (.ofText (text ++ later)) sinks
    machine.history channels steps long = machine.history channels steps short ∧
      (∃ last left sinksLeft,
        machine.afterSteps channels steps short = (last, .scripted left sinksLeft) ∧
        machine.afterSteps channels steps long = (last, .scripted (left.feed later) sinksLeft) ∧
        (left.feed later).remaining = left.remaining + later.points.length) ∧
      ∀ turns, Turn.steps turns = steps -> Turn.fed turns = later ->
        machine.takeTurns channels 0 turns short = machine.afterSteps channels steps long := by
  intro channels short long
  obtain ⟨transitions, last, left, sinksLeft, plain, fed⟩ :=
    afterSteps_feed output machine (.ofText text) sinks later steps enough
  refine ⟨transitions, ⟨last, left, sinksLeft, plain, fed, left.remaining_feed later⟩, ?_⟩
  rintro turns rfl rfl
  exact takeTurns_eq_afterSteps output machine (.ofText text) sinks turns enough

/-- The machine that writes one character does not notice a second one that comes later. -/
theorem later_input_unnoticed_echo :
    let channels := Desk.channels (some 0) (some 0)
    let short := Desk.scripted (.ofText ⟨[.ofChar 'a']⟩) #[.collector {}]
    let long := Desk.scripted (.ofText ⟨[.ofChar 'a', .ofChar 'b']⟩) #[.collector {}]
    ¬ (echo.afterSteps channels 3 short).1.IsExhausted ∧
      echo.history channels 3 long = echo.history channels 3 short ∧
      echo.takeTurns channels 0 [.step, .feed ⟨[.ofChar 'b']⟩, .step, .step] short =
        echo.afterSteps channels 3 long ∧
      (echo.afterSteps channels 3 long).1.status = .halted := by
  intro channels short long
  have enough : ¬ (echo.afterSteps channels 3 short).1.IsExhausted := by
    rintro ⟨fault, faulted, _⟩
    have faultless : (echo.afterSteps channels 3 short).1.status = .halted := by decide +kernel
    rw [status_eq_faulted_iff.mpr ⟨fault, fault?_eq_some_iff.mp faulted⟩] at faultless
    cases faultless
  obtain ⟨transitions, _, fed⟩ :=
    later_input_unnoticed echo ⟨[.ofChar 'a']⟩ ⟨[.ofChar 'b']⟩ #[.collector {}] (some 0) 3 enough
  exact ⟨enough, transitions, fed [.step, .feed ⟨[.ofChar 'b']⟩, .step, .step] rfl rfl,
    by decide +kernel⟩

end Machine
end WordMachine
