import WordMachine.Proofs.Atomicity
import WordMachine.Proofs.LifeCycle
import WordMachine.Proofs.Reading

/-!
# What steps take and send

An executed instruction for input takes one code from its channel and stores it:
`Machine.accepted_of_executes`.  An executed instruction for output sends the value of
its operand: `Machine.sent_of_executes`.  No other instruction calls a channel, and none
does so whose operand is invalid: `Machine.opcode_of_calls`.  Steps are executed by
calls of different kinds, but always one after the other: `System.makes_performAll`.
-/

namespace WordMachine

variable {World : Type}

/-! ## Codes -/

/-- The code that a call of a channel delivered. -/
def ChannelCall.delivered? : ChannelCall -> Option Int
  | .read (.done (.integer code)) => some code
  | .read _ | .write _ _ => none

namespace Transition

/-- Whether the step executes an instruction of a given opcode. -/
def executes
    (opcode : Opcode)
    (transition : Transition) : Bool :=
  transition.completes ∧ transition.before.opcode? = some opcode

/-- The codes that the step took from the input channel. -/
def taken (transition : Transition) : List Int :=
  transition.calls.filterMap ChannelCall.delivered?

/-- The codes that an executed instruction for input took. -/
def accepted (transition : Transition) : List Int :=
  if transition.executes .input then transition.taken else []

/-- The codes that were taken, although the step is not completed. -/
def rejected (transition : Transition) : List Int :=
  if transition.completes then [] else transition.taken

/-- What the operand of an executed instruction for output resolves to. -/
def sent (transition : Transition) : List Int :=
  if transition.executes .output then
    (transition.before.resolve (transition.before.operandNumber 1)).toOption.toList
  else
    []

section

variable
  {transition : Transition}
  {opcode : Opcode}

/-- A step that is not completed accepts and sends nothing. -/
theorem of_incomplete (incomplete : transition.completes = false) :
    transition.accepted = [] ∧ transition.rejected = transition.taken ∧ transition.sent = [] := by
  simp [accepted, rejected, sent, executes, incomplete]

theorem sent_of_ne
    (known : transition.before.opcode? = some opcode)
    (otherwise : opcode ≠ .output) : transition.sent = [] := by
  simp [sent, executes, known, otherwise]

/-- A step that is completed rejects nothing, and executes its opcode only. -/
theorem of_complete
    (complete : transition.completes = true)
    (known : transition.before.opcode? = some opcode) :
    transition.accepted = (if opcode = .input then transition.taken else []) ∧
      transition.rejected = [] ∧
      transition.sent =
        if opcode = .output then
          (transition.before.resolve (transition.before.operandNumber 1)).toOption.toList
        else
          [] := by
  simp [accepted, rejected, sent, executes, complete, known]

end

end Transition

namespace Machine

/-! ## Calls of channels -/

/-- Only the instructions for input and output call a channel, and only if their operand is
valid. -/
theorem opcode_of_calls
    (channels : Channels World)
    (machine : Machine)
    (world : World)
    (called : (machine.transition channels world).calls ≠ []) :
    (machine.opcode? = some .input ∨ machine.opcode? = some .output) ∧
      ∀ fault, (machine.step channels world).machine.fault? = some fault ->
        fault.cause.kind ≠ .invalidOperand := by
  change machine.channelCalls channels world ≠ [] at called
  constructor
  · cases machine.nextStep with
    | stopped stopped => exact absurd (channelCalls_of_stopped channels world stopped) called
    | failing running planned =>
        exact absurd (channelCalls_of_error channels world running planned) called
    | settling running planned _ =>
        exact absurd (channelCalls_of_ok channels world running planned) called
    | sending _ planned _ => exact Or.inr (plan_eq_ok_iff.mp planned).1
    | asking asks => exact Or.inl (plan_eq_ok_iff.mp asks.2).1
  · intro fault faulted invalid
    have running : machine.condition = .running := by
      by_contra stopped
      exact called (channelCalls_of_stopped channels world stopped)
    have count := (atomic_step channels machine world).length_of_faulted fault
      (fault?_eq_some_iff.mp faulted) running
    rw [invalid] at count
    exact called (List.length_eq_zero_iff.mp count)

/-! ## Executed instructions -/

section

variable
  (machine : Machine)
  (target : Operand)
  {value : Value}

theorem completes_reading_of_ok
    {word : Word}
    (running : machine.condition = .running)
    (received : receivedWord value = .ok word) :
    (machine.reading target (.done value)).completes = true := by
  have outcome := receive_of_ok machine target received ()
  have after : (machine.reading target (.done value)).after =
      machine.apply .input (.assign target word) :=
    congrArg Outcome.machine outcome
  exact Transition.completes_of_apply running (congrArg Outcome.interrupted outcome) after

theorem completes_reading_of_error
    {refusal : Refusal}
    (refused : receivedWord value = .error refusal) :
    (machine.reading target (.done value)).completes = false := by
  cases refusal with
  | fault cause =>
      exact Transition.completes_of_fail
        (congrArg Outcome.machine (receive_of_fault machine target refused ()))
  | disruption disruption =>
      simp [Transition.completes, reading, receive_of_disruption machine target refused]

end

section

variable
  {channels : Channels World}
  {machine : Machine}
  {world : World}

theorem completes_of_error
    {cause : Cause}
    (running : machine.condition = .running)
    (planned : machine.plan = .error cause) :
    (machine.transition channels world).completes = false := by
  have failed : (machine.transition channels world).after = machine.fail cause := by
    change (machine.step channels world).machine = _
    rw [step_running running, planned]
    rfl
  exact Transition.completes_of_fail failed

/-- A write that succeeds completes the instruction for output. -/
theorem step_of_send
    {code : Word}
    (running : machine.condition = .running)
    (planned : machine.plan = .ok (.output, .send code))
    (written : (channels.write code.toNat world).1.reply = .done ()) :
    machine.step channels world =
      { machine := machine.apply .output .proceed
        world := (channels.write code.toNat world).2
        notices := (channels.write code.toNat world).1.notices } := by
  rw [step_running running, planned]
  unfold carryOut
  dsimp only
  generalize channels.write code.toNat world = result at written ⊢
  obtain ⟨⟨reply, notices⟩, after⟩ := result
  obtain rfl : reply = .done () := written
  rfl

/-- The code that is written is the one that is sent. -/
theorem sent_of_send
    {code : Word}
    (running : machine.condition = .running)
    (planned : machine.plan = .ok (.output, .send code))
    (evaluates : machine.Evaluates 1 code)
    (written : (channels.write code.toNat world).1.reply = .done ()) :
    (machine.transition channels world).sent = [(code.toNat : Int)] := by
  have step := step_of_send running planned written
  have after : (machine.transition channels world).after = machine.apply .output .proceed :=
    congrArg Outcome.machine step
  have complete := Transition.completes_of_apply running (congrArg Outcome.interrupted step) after
  rw [(Transition.of_complete complete (plan_eq_ok_iff.mp planned).1).2.2, if_pos rfl]
  exact congrArg (fun result => result.toOption.toList) evaluates.2

/-- An instruction is executed by a running machine that has a plan for it. -/
theorem exists_plan_of_executes
    {opcode : Opcode}
    (executed : (machine.transition channels world).executes opcode = true) :
    machine.opcode? = some opcode ∧ machine.condition = .running ∧
      ∀ cause, machine.plan ≠ .error cause := by
  obtain ⟨complete, known⟩ : (machine.transition channels world).completes = true ∧
      machine.opcode? = some opcode :=
    of_decide_eq_true executed
  have running : machine.condition = .running := by
    by_contra stopped
    exact Bool.false_ne_true ((Transition.completes_of_stopped stopped).symm.trans complete)
  refine ⟨known, running, fun cause planned => ?_⟩
  exact Bool.false_ne_true ((completes_of_error running planned).symm.trans complete)

/-- A step that reads is completed only if a fifteen-bit number is read. -/
theorem reply_of_completes
    {target : Operand}
    {reply : Reply Value}
    (complete : (machine.reading target reply).completes = true) :
    ∃ word : Word, reply = .done (.integer word.toNat) ∧
      receivedWord (.integer word.toNat) = .ok word := by
  cases reply with
  | done value =>
      cases received : receivedWord value with
      | error refusal =>
          rw [completes_reading_of_error machine target received] at complete
          cases complete
      | ok word =>
          obtain ⟨rfl, _⟩ := receivedWord_eq_ok_iff.mp received
          exact ⟨word, rfl, received⟩
  | failed failure =>
      have incomplete : (machine.reading target (.failed failure)).completes = false :=
        Transition.completes_of_fail (rfl : _ = machine.fail (readCause failure))
      rw [incomplete] at complete
      cases complete
  | interrupted words =>
      have incomplete : (machine.reading target (.interrupted words)).completes = false := by
        simp [Transition.completes, reading, receive]
      rw [incomplete] at complete
      cases complete

/-- An executed instruction for input takes exactly one code, and stores it. -/
theorem accepted_of_executes
    (executed : (machine.transition channels world).executes .input = true) :
    ∃ word : Word, ∃ target,
      (machine.transition channels world).accepted = [(word.toNat : Int)] ∧
        machine.destination 1 = .ok target ∧
        (machine.step channels world).machine = machine.apply .input (.assign target word) := by
  obtain ⟨known, running, sound⟩ := exists_plan_of_executes executed
  have complete : (machine.transition channels world).completes = true :=
    (of_decide_eq_true executed).1
  cases machine.nextStep with
  | stopped stopped => exact absurd running stopped
  | failing _ planned => exact absurd planned (sound _)
  | settling _ planned otherwise =>
      cases known.symm.trans (plan_eq_ok_iff.mp planned).1
      exact absurd rfl otherwise.1
  | sending _ planned _ => cases known.symm.trans (plan_eq_ok_iff.mp planned).1
  | @asking target asks =>
      rw [Transition.accepted, if_pos executed, step_of_asks channels world asks]
      rw [transition_of_asks channels world asks] at complete ⊢
      obtain ⟨word, replied, received⟩ := reply_of_completes complete
      rw [replied, receive_of_ok machine target received]
      exact ⟨word, target, rfl, asks.destination, rfl⟩

/-- An executed instruction for output sends the value of its operand. -/
theorem sent_of_executes
    (executed : (machine.transition channels world).executes .output = true) :
    ∃ word : Word, (machine.transition channels world).sent = [(word.toNat : Int)] := by
  obtain ⟨known, running, sound⟩ := exists_plan_of_executes executed
  cases machine.nextStep with
  | stopped stopped => exact absurd running stopped
  | failing _ planned => exact absurd planned (sound _)
  | settling _ planned otherwise =>
      cases known.symm.trans (plan_eq_ok_iff.mp planned).1
      exact absurd rfl otherwise.2
  | @sending word _ _ evaluates =>
      refine ⟨word, ?_⟩
      rw [Transition.sent, if_pos executed]
      exact congrArg (fun result => result.toOption.toList) evaluates.2
  | asking asks => cases known.symm.trans (plan_eq_ok_iff.mp asks.2).1

end

/-- Executed instructions for output send one word each, and others send nothing. -/
theorem exists_words_sent
    {channels : Channels World}
    {transitions : List Transition}
    (happen : ∀ transition ∈ transitions, (Event.stepped transition).Happens channels) :
    ∃ words : List Word,
      transitions.flatMap Transition.sent = words.map (fun word => (word.toNat : Int)) ∧
        words.length = transitions.countP (Transition.executes .output) := by
  induction transitions with
  | nil => exact ⟨[], rfl, rfl⟩
  | cons transition transitions inductionHypothesis =>
      obtain ⟨⟨machine, world, rfl⟩, laterHappen⟩ := List.forall_mem_cons.mp happen
      obtain ⟨words, later, length⟩ := inductionHypothesis laterHappen
      rw [List.flatMap_cons, later, List.countP_cons, ← length]
      by_cases executed : (machine.transition channels world).executes .output = true
      · obtain ⟨word, sent⟩ := sent_of_executes executed
        exact ⟨word :: words, by rw [sent]; rfl, by rw [if_pos executed]; rfl⟩
      · exact ⟨words, by rw [Transition.sent, if_neg executed]; rfl, by rw [if_neg executed]; rfl⟩

end Machine

/-! ## Calls -/

/-- The step that an event is. -/
def Event.transition? : Event -> Option Transition
  | .loaded .. => none
  | .stepped transition => some transition

namespace System

/-- The steps that calls make. -/
def transitions
    (channels : Channels World)
    (system : System World)
    (calls : List Call) : List Transition :=
  (system.allEvents channels calls).filterMap Event.transition?

section

variable
  (channels : Channels World)
  (system : System World)

theorem makes_perform
    {call : Call}
    (executes : call.Executes) :
    ∃ count,
      system.events channels call =
          (system.machine.history channels count system.world).map .stepped ∧
        Makes channels count system (system.perform channels call).2 := by
  cases call with
  | load bytes => exact executes.elim
  | step =>
      rw [snd_perform_step]
      exact ⟨1, rfl, makes_step channels system⟩
  | reportedStep =>
      have step := makes_step channels system
      rw [← snd_reportedStep] at step
      exact ⟨1, rfl, step⟩
  | run options fuel =>
      obtain ⟨count, attempts, makes⟩ := makes_run channels system options fuel 0
      refine ⟨count, ?_, makes⟩
      unfold events
      dsimp only
      rw [attempts, Nat.zero_add]

/-- However the steps are asked for, they are steps of one history. -/
theorem makes_performAll
    {calls : List Call}
    (executing : ∀ call ∈ calls, call.Executes) :
    ∃ count,
      system.transitions channels calls = system.machine.history channels count system.world ∧
        Makes channels count system (system.performAll channels calls).2 := by
  induction calls generalizing system with
  | nil => exact ⟨0, rfl, makes_none channels system⟩
  | cons call calls inductionHypothesis =>
      obtain ⟨executes, laterExecuting⟩ := List.forall_mem_cons.mp executing
      obtain ⟨count, events, first⟩ := makes_perform channels system executes
      obtain ⟨more, transitions, later⟩ :=
        inductionHypothesis (system.perform channels call).2 laterExecuting
      refine ⟨count + more, ?_, first.trans later⟩
      have machine_eq := congrArg Prod.fst first.state_eq
      have world_eq := congrArg Prod.snd first.state_eq
      dsimp only at machine_eq world_eq
      rw [System.transitions, allEvents, List.filterMap_append, events, List.filterMap_map,
        Machine.history_add, ← machine_eq, ← world_eq]
      exact congrArg₂ (· ++ ·) List.filterMap_some transitions

end

end System
end WordMachine
