import WordMachine.Log.Journal
import WordMachine.Machine.Step

/-!
# Systems

A system is a machine together with the world behind its channels and the journal
of what happened.  This module executes single instructions of a system;
`WordMachine.System.Run` runs it to its end.
-/

namespace WordMachine

/-- A machine, the world behind its channels, and the journal. -/
structure System (World : Type) where
  /-- The machine. -/
  machine : Machine
  /-- What the channels of the machine are connected to. -/
  world : World
  /-- What was recorded. -/
  journal : Journal

namespace System

variable {World : Type}

/-- Executes one instruction, and gives what interrupted it. -/
def step
    (channels : Channels World)
    (system : System World) : Option Disruption × System World :=
  let ⟨machine, world, journal⟩ := system
  let outcome := machine.step channels world
  (outcome.interrupted,
    { machine := outcome.machine
      world := outcome.world
      journal := journal.recordAll outcome.notices })

/-- Completes a step by the report on it, unless it was interrupted. -/
def reported
    (mnemonic : Text)
    (before : Snapshot) :
    Option Disruption × System World -> Except Disruption StepReport × System World
  | (some disruption, system) => (.error disruption, system)
  | (none, system) => (.ok (.between mnemonic before system.machine.snapshot), system)

/-- Executes one instruction and reports on it, or gives what interrupted it. -/
def reportedStep
    (channels : Channels World)
    (system : System World) : Except Disruption StepReport × System World :=
  reported system.machine.mnemonic system.machine.snapshot (system.step channels)

/-- Executes one instruction, records the report on it, and gives what interrupted it. -/
def tracedStep
    (channels : Channels World)
    (system : System World) : Option Disruption × System World :=
  match system.reportedStep channels with
  | (.error disruption, system) => (some disruption, system)
  | (.ok report, system) =>
      (none, { system with journal := system.journal.record (.stepTraced report) })

end System
end WordMachine
