import WordMachine.Channel.Desk
import WordMachine.Proofs.Reading

/-!
# Machines with a script

A desk with nothing but a script to read from.  A step that reads takes a character
from the script, and any other step leaves the script alone, whatever is in it.
-/

namespace WordMachine
namespace Desk

/-- A desk with a script as its only source. -/
def scripted
    (script : Script)
    (sinks : Array Sink) : Desk where
  sources := #[.script script]
  sinks

/-- What becomes of the sinks if a code is written. -/
def sinksAfter
    (output : Option Nat)
    (code : Int)
    (sinks : Array Sink) : Array Sink :=
  ((channels none output).write code { sinks }).2.sinks

theorem write_scripted
    (output : Option Nat)
    (code : Int)
    (script : Script)
    (sinks : Array Sink) :
    (channels (some 0) output).write code (scripted script sinks) =
      (((channels none output).write code { sinks }).1,
        scripted script (sinksAfter output code sinks)) := by
  cases output with
  | none => rfl
  | some number =>
      unfold sinksAfter channels write
      dsimp only [scripted]
      cases sinks[number]? <;> rfl

end Desk

namespace Machine

section

variable
  {machine : Machine}
  {target : Operand}
  (output : Option Nat)
  (sinks : Array Sink)

/-- A step that reads takes a character from the script. -/
theorem scripted_of_asks
    (script : Script)
    (asks : machine.Asks target) :
    let channels := Desk.channels (some 0) output
    let outcome := machine.step channels (.scripted script sinks)
    outcome.machine = (machine.receive target script.read.1 ()).machine ∧
      outcome.world = .scripted script.read.2 sinks ∧
      machine.transition channels (.scripted script sinks) =
        machine.reading target script.read.1 := by
  intro channels outcome
  have step : outcome = machine.receive target script.read.1 (.scripted script.read.2 sinks) :=
    step_of_asks channels (.scripted script sinks) asks
  obtain ⟨sameMachine, _, sameWorld⟩ :=
    receive_eq machine target script.read.1 (Desk.scripted script.read.2 sinks) ()
  rw [step]
  exact ⟨sameMachine, sameWorld, transition_of_asks channels (.scripted script sinks) asks⟩

/-- A step that does not read leaves the script alone, whatever is in it. -/
theorem scripted_of_idle
    (script other : Script)
    (idle : ∀ target, ¬ machine.Asks target) :
    let channels := Desk.channels (some 0) output
    let outcome := machine.step channels (.scripted script sinks)
    let otherOutcome := machine.step channels (.scripted other sinks)
    outcome.machine = otherOutcome.machine ∧
      (∃ sinksLeft, outcome.world = .scripted script sinksLeft ∧
        otherOutcome.world = .scripted other sinksLeft) ∧
      machine.transition channels (.scripted script sinks) =
        machine.transition channels (.scripted other sinks) := by
  intro channels outcome otherOutcome
  obtain ⟨outcomes, transition⟩ :=
    alike_of_idle channels channels
      (fun desk otherDesk => ∃ sinksLeft,
        desk = .scripted script sinksLeft ∧ otherDesk = .scripted other sinksLeft)
      (fun code => by
        rw [Desk.write_scripted, Desk.write_scripted]
        exact ⟨rfl, _, rfl, rfl⟩)
      ⟨sinks, rfl, rfl⟩ idle
  exact ⟨outcomes.machine_eq, outcomes.world, transition⟩

end

/-- A machine that writes the character that it reads, and halts. -/
def echo : Machine :=
  let place := fresh.pc.advance
  { fresh with
    memory :=
      (((Memory.empty.set (place 0) 20).set (place 1) 32768).set (place 2) 19).set
        (place 3) 32768 }

end Machine
end WordMachine
