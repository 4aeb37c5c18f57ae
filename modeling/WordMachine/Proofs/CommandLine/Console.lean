import WordMachine.CommandLine.Console
import WordMachine.Proofs.Accounting
import WordMachine.Proofs.Tape
import WordMachine.Proofs.TerminalText

/-!
# Input and output on the console

The console has the characters of the script in store, and then what the standard input
has before it ends.  A read takes the first of these replies, and once there are none
every read meets the end of input.  A machine cannot tell the console from channels that
read from this tape and lose what is written: `Console.alike_taped`.  What the terminal
gets is what the executed instructions for output send: `Machine.terminal_afterSteps`.
-/

namespace WordMachine
namespace CommandLine

/-- Channels that read from a tape, and lose what is written. -/
def tapeOnly : Channels (List (Reply Value) × Unit) :=
  Channels.vacant.taped Chain.exhausted

/-- What a session has to read: the script, if there is one, followed by the standard input until
that ends. -/
def inputTape
    (script : Option Script)
    (input : LineFeed) : List (Reply Value) :=
  (script.getD {}).tape ++ (input.outcomes.flatMap Reply.characters).takeWhile (!·.isEnd)

namespace Console

/-- A console has a tape in store. -/
inductive Holds (console : Console) : List (Reply Value) -> Prop where
  /-- There is a script, and the standard input is to follow. -/
  | script
      (parts : console.parts = [.script, .keyboard]) :
      Holds console (console.script.tape ++ console.keyboard.tape.takeWhile (!·.isEnd))
  /-- There is the standard input only. -/
  | keyboard
      (parts : console.parts = [.keyboard]) :
      Holds console (console.keyboard.tape.takeWhile (!·.isEnd))
  /-- All input has ended. -/
  | nothing
      (parts : console.parts = []) :
      Holds console []

theorem holds_new
    (script : Option Script)
    (input : LineFeed)
    (output : TextStream) :
    (new script input output).Holds (inputTape script input) := by
  cases script with
  | none => exact .keyboard rfl
  | some script => exact .script rfl

/-- A read takes the first reply from a tape, and leaves the terminal alone. -/
structure Takes
    (console : Console)
    (tape : List (Reply Value))
    (result : Reply Value × Console) : Prop where
  /-- The reply is the first one. -/
  reply_eq : result.1 = tape.headD (.failed Chain.exhausted)
  /-- The others are left. -/
  holds : result.2.Holds tape.tail
  /-- The terminal is the same. -/
  terminal_eq : result.2.terminal = console.terminal

/-- What a read from a chain of parts comes to. -/
def settled (result : Reply Value × List InputPart × Console) : Reply Value × Console :=
  (result.1, { result.2.2 with parts := result.2.1 })

section

variable {console : Console}

theorem takes_nothing : console.Takes [] (settled (Chain.read readPart [] console)) where
  reply_eq := rfl
  holds := .nothing rfl
  terminal_eq := rfl

theorem takes_keyboard :
    console.Takes (console.keyboard.tape.takeWhile (!·.isEnd))
      (settled (Chain.read readPart [.keyboard] console)) := by
  have ended : (Reply.failed LineBuffer.ended : Reply Value).isEnd = true := rfl
  have reply : (readPart .keyboard console).1 =
      console.keyboard.tape.headD (.failed LineBuffer.ended) :=
    console.keyboard.read_spec.1
  have left : (readPart .keyboard console).2.keyboard.tape = console.keyboard.tape.tail :=
    console.keyboard.read_spec.2
  rw [Chain.read_cons, reply]
  rcases Desk.takeWhile_cases ended console.keyboard.tape with
    ⟨isEnd, nothing⟩ | ⟨goesOn, stored⟩
  · rw [if_pos isEnd, nothing]
    exact ⟨rfl, .nothing rfl, rfl⟩
  · rw [if_neg (by rw [goesOn]; exact Bool.false_ne_true), stored, ← left]
    exact ⟨rfl, .keyboard rfl, rfl⟩

theorem takes_script :
    console.Takes (console.script.tape ++ console.keyboard.tape.takeWhile (!·.isEnd))
      (settled (Chain.read readPart [.script, .keyboard] console)) := by
  obtain ⟨parts, ⟨pending⟩, keyboard, terminal⟩ := console
  cases pending with
  | nil => exact takes_keyboard
  | cons point points => exact ⟨rfl, .script rfl, rfl⟩

/-- A read takes the first reply from what the console has in store. -/
theorem Holds.read
    {tape : List (Reply Value)}
    (holds : console.Holds tape) : console.Takes tape console.read := by
  have read : console.read = settled (Chain.read readPart console.parts console) := rfl
  rw [read]
  cases holds with
  | script parts => exact parts ▸ takes_script
  | keyboard parts => exact parts ▸ takes_keyboard
  | nothing parts => exact parts ▸ takes_nothing

end

/-- A console has only characters in store. -/
theorem Holds.isHarmless
    {console : Console}
    {tape : List (Reply Value)}
    (holds : console.Holds tape) : IsHarmless tape := by
  have keyboard : IsHarmless (console.keyboard.tape.takeWhile (!·.isEnd)) :=
    fun value member =>
      console.keyboard.isHarmless_tape value (List.takeWhile_subset _ member)
  cases holds with
  | script => exact isHarmless_append console.script.isHarmless_tape keyboard
  | keyboard => exact keyboard
  | nothing => exact fun value impossible => nomatch impossible

/-- A console with a terminal that absorbs all trouble of its stream, beside its tape. -/
def PlaysTo
    (console : Console)
    (taped : List (Reply Value) × Unit) : Prop :=
  console.Holds taped.1 ∧ console.terminal.stream.Absorbable

/-- A machine cannot tell the console from its tape. -/
theorem alike_taped : channels.Alike tapeOnly PlaysTo where
  read := by
    rintro console ⟨tape, _⟩ ⟨holds, absorbable⟩
    obtain ⟨reply, holdsRest, terminal⟩ := holds.read
    exact ⟨reply, holdsRest, terminal ▸ absorbable⟩
  write := by
    rintro code console ⟨tape, _⟩ ⟨holds, absorbable⟩
    obtain ⟨done, stillAbsorbable⟩ := Terminal.write_word absorbable code
    refine ⟨done, ?_, stillAbsorbable⟩
    cases holds with
    | script parts => exact .script parts
    | keyboard parts => exact .keyboard parts
    | nothing parts => exact .nothing parts

end Console
end CommandLine

namespace Machine

open CommandLine

section

variable
  {machine : Machine}
  {console : Console}
  {taped : List (Reply Value) × Unit}
  (playsTo : console.PlaysTo taped)

include playsTo

/-! ## What interrupts -/

/-- Steps with the tape of a console are disrupted by interruptions of the input, and by nothing
else. -/
theorem exists_interruption_of_playsTo
    {disruption : Disruption}
    (interrupted : (machine.step tapeOnly taped).interrupted = some disruption) :
    ∃ words, disruption = .interruption words ∧
      ChannelCall.read (.interrupted words) ∈ machine.channelCalls tapeOnly taped := by
  rw [(atomic_step tapeOnly machine taped).interrupted_eq] at interrupted
  obtain ⟨call, member, disrupts⟩ := List.exists_of_findSome?_eq_some interrupted
  cases call with
  | write code reply =>
      obtain ⟨_, _, _, _, rfl⟩ := planned_of_write_mem tapeOnly taped member
      cases disrupts
  | read reply =>
      cases reply with
      | interrupted words =>
          cases disrupts
          exact ⟨words, rfl, member⟩
      | failed failure => cases disrupts
      | done value =>
          -- Nothing comes out of the characters on the tape.
          have delivered : Reply.done value = taped.1.headD (.failed Chain.exhausted) :=
            reply_of_read_mem tapeOnly taped member
          have stored : Reply.done value ∈ taped.1 := by
            cases tape : taped.1 with
            | nil =>
                rw [tape] at delivered
                cases delivered
            | cons first rest =>
                rw [tape] at delivered
                exact delivered ▸ List.mem_cons_self
          have harmless : value.disruption? = none := playsTo.1.isHarmless value stored
          rw [ChannelCall.disruption?, harmless] at disrupts
          cases disrupts

/-! ## What is written -/

/-- The terminal gets what a step sends. -/
theorem terminal_step :
    (machine.step Console.channels console).world.terminal =
      console.terminal.writeAll (machine.transition Console.channels console).sent := by
  cases machine.nextStep with
  | stopped stopped =>
      have incomplete : (machine.transition Console.channels console).completes = false :=
        Transition.completes_of_stopped stopped
      rw [(Transition.of_incomplete incomplete).2.2, step_stopped stopped]
      rfl
  | failing running planned =>
      have incomplete : (machine.transition Console.channels console).completes = false :=
        completes_of_error running planned
      rw [(Transition.of_incomplete incomplete).2.2, step_running running, planned]
      rfl
  | settling running planned otherwise =>
      rw [Transition.sent_of_ne (plan_eq_ok_iff.mp planned).1 otherwise.2, step_running running,
        planned]
      rfl
  | @sending code running planned evaluates =>
      have written : (Console.channels.write code.toNat console).1.reply = .done () :=
        (Terminal.write_word playsTo.2 code).1
      rw [step_of_send running planned written, sent_of_send running planned evaluates written]
      rfl
  | asking asks =>
      have terminal := playsTo.1.read.terminal_eq
      rw [Transition.sent_of_ne (plan_eq_ok_iff.mp asks.2).1 (by decide), step_of_asks _ _ asks,
        (receive_eq machine _ _ _ ()).2.2]
      exact terminal

/-- The terminal gets what the steps send. -/
theorem terminal_afterSteps (count : Nat) :
    (machine.afterSteps Console.channels count console).2.terminal =
      console.terminal.writeAll
        ((machine.history Console.channels count console).flatMap Transition.sent) := by
  induction count generalizing machine console taped with
  | zero => rfl
  | succ count inductionHypothesis =>
      have next := (alike_step Console.alike_taped playsTo machine).1.world
      rw [afterSteps, history, List.flatMap_cons, Terminal.writeAll_append,
        ← terminal_step playsTo]
      exact inductionHypothesis next

/-- The steps send the same with the tape. -/
theorem flatMap_sent_eq (count : Nat) :
    (machine.history Console.channels count console).flatMap Transition.sent =
      (machine.history tapeOnly count taped).flatMap Transition.sent := by
  have same := congrArg (List.flatMap Transition.sent)
    (unheard_history Console.alike_taped playsTo count machine)
  rwa [List.flatMap_map, List.flatMap_map] at same

end

end Machine
end WordMachine
