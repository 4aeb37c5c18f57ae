import WordMachine.System.Basic

/-!
# Runs

A run executes instructions until the machine stops or a budget is used up.
`System.run` makes at most as many steps as its fuel allows; one that comes back
unfinished is taken up again where it stopped.
-/

namespace WordMachine

/-- What a completed run comes to. -/
structure RunResult where
  /-- The status at the end. -/
  status : Status
  /-- How many steps were made. -/
  steps : Nat
  /-- The fault of the machine, if that is why the run ended. -/
  fault : Option Fault
  /-- Whether the run ended because the budget was used up. -/
  limitReached : Bool
deriving DecidableEq, Repr

/-- How a run comes back. -/
inductive RunReply where
  /-- The run is complete. -/
  | finished (result : RunResult)
  /-- The step after the given number of steps was interrupted. -/
  | interrupted (disruption : Disruption) (steps : Nat)
  /-- The fuel is used up after the given number of steps. -/
  | unfinished (steps : Nat)
deriving DecidableEq, Repr

/-- How a run is to be made. -/
structure RunOptions where
  /-- The greatest number of steps, if there is one. -/
  budget : Option Int := none
  /-- Whether to record a report on every step, if the journal keeps those. -/
  trace : Bool := false

/-- Whether a number of steps leaves nothing of the budget. -/
def RunOptions.exhaustedBy
    (options : RunOptions)
    (steps : Nat) : Option Int :=
  options.budget.filter fun budget => budget ≤ steps

namespace System

variable {World : Type}

/-- Records one notice. -/
def note
    (system : System World)
    (notice : Notice) : System World :=
  { system with journal := system.journal.record notice }

/-- The result of a run that has made some steps and is at its end, and the notice about it. -/
def ending?
    (options : RunOptions)
    (steps : Nat)
    (machine : Machine) : Option (RunResult × Notice) :=
  match machine.condition with
  | .running =>
      (options.exhaustedBy steps).map fun budget =>
        ({ status := .running, steps, fault := none, limitReached := true },
          .budgetExhausted budget machine.pc)
  | .halted =>
      some ({ status := .halted, steps, fault := none, limitReached := false },
        .programHalted steps machine.pc)
  | .faulted fault =>
      some ({ status := .faulted, steps, fault := some fault, limitReached := false },
        .programFaulted steps fault)

/-- Executes one instruction of a run, and gives what interrupted it. -/
def runStep
    (channels : Channels World)
    (options : RunOptions)
    (system : System World) : Option Disruption × System World :=
  if options.trace && system.journal.verbosity.showsSteps then
    system.tracedStep channels
  else
    system.step channels

/-- Continues a run that has made some steps. -/
def run
    (channels : Channels World)
    (options : RunOptions)
    (fuel steps : Nat)
    (system : System World) : RunReply × System World :=
  match ending? options steps system.machine with
  | some (result, notice) => (.finished result, system.note notice)
  | none =>
      match fuel with
      | 0 => (.unfinished steps, system)
      | fuel + 1 =>
          match system.runStep channels options with
          | (some disruption, system) => (.interrupted disruption steps, system)
          | (none, system) => run channels options fuel (steps + 1) system

end System
end WordMachine
