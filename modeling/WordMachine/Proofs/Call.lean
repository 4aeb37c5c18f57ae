import WordMachine.Image
import WordMachine.System.Run

/-!
# Calls of a system

Whoever owns a system loads programs into it, executes single instructions with
or without a report, and runs it, in any order and as often as they like.
`System.performAll` makes a sequence of such calls and lists the answers; a call
that is interrupted has for an answer what interrupted it, and the calls after it
are made all the same.
-/

namespace WordMachine

/-- What can be asked of a system. -/
inductive Call where
  /-- Load a program image. -/
  | load (bytes : Array UInt8)
  /-- Execute one instruction. -/
  | step
  /-- Execute one instruction and report on it. -/
  | reportedStep
  /-- Run, making at most as many steps as the fuel allows. -/
  | run (options : RunOptions) (fuel : Nat)

/-- What is told about a run that is complete. -/
structure RunReport where
  /-- The status at the end. -/
  status : Status
  /-- How many steps were made. -/
  steps : Nat
  /-- What is told about the fault, if there is one. -/
  fault : Option FaultReport
  /-- Whether the run ended because the budget was used up. -/
  limitReached : Bool
deriving DecidableEq, Repr

/-- What is told about a result. -/
def RunResult.report (result : RunResult) : RunReport where
  status := result.status
  steps := result.steps
  fault := result.fault.map Fault.report
  limitReached := result.limitReached

/-- What a call comes back with. -/
inductive Answer where
  /-- So many words were loaded. -/
  | loaded (words : Nat)
  /-- An instruction was executed, which left the status. -/
  | stepped (status : Status)
  /-- An instruction was executed, about which there is the report. -/
  | reported (report : StepReport)
  /-- A run is complete. -/
  | ran (report : RunReport)
  /-- The fuel of a run is used up after so many steps. -/
  | unfinished (steps : Nat)
deriving DecidableEq, Repr

/-- The answer to a call for a run, or what interrupted it. -/
def RunReply.answer : RunReply -> Except Disruption Answer
  | .finished result => .ok (.ran result.report)
  | .interrupted disruption _ => .error disruption
  | .unfinished steps => .ok (.unfinished steps)

namespace System

variable {World : Type}

/-- Loads a program image and tells about it. -/
def load
    (bytes : Array UInt8)
    (system : System World) : System World :=
  { system with
    machine := system.machine.loadImage bytes
    journal := system.journal.recordAll (Image.loadNotices bytes) }

/-- Makes a call, and gives the answer or what interrupted it. -/
def perform
    (channels : Channels World) :
    Call -> System World -> Except Disruption Answer × System World
  | .load bytes, system => (.ok (.loaded (Image.decode bytes).length), system.load bytes)
  | .step, system =>
      match system.step channels with
      | (some disruption, system) => (.error disruption, system)
      | (none, system) => (.ok (.stepped system.machine.status), system)
  | .reportedStep, system =>
      let (report, system) := system.reportedStep channels
      (.reported <$> report, system)
  | .run options fuel, system =>
      let (reply, system) := system.run channels options fuel 0
      (reply.answer, system)

/-- Makes calls one after the other. -/
def performAll
    (channels : Channels World) :
    List Call -> System World -> List (Except Disruption Answer) × System World
  | [], system => ([], system)
  | call :: calls, system =>
      let (answer, system) := system.perform channels call
      let (answers, system) := performAll channels calls system
      (answer :: answers, system)

/-! ## Verbosity -/

section

variable (channels : Channels World)

theorem verbosity_step (system : System World) :
    (system.step channels).2.journal.verbosity = system.journal.verbosity :=
  Journal.verbosity_recordAll _ _

/-- The report on a step changes nothing about it. -/
theorem snd_reportedStep (system : System World) :
    (system.reportedStep channels).2 = (system.step channels).2 := by
  unfold reportedStep
  rcases system.step channels with ⟨interrupted, after⟩
  cases interrupted <;> rfl

theorem verbosity_reportedStep (system : System World) :
    (system.reportedStep channels).2.journal.verbosity = system.journal.verbosity := by
  rw [snd_reportedStep, verbosity_step]

theorem verbosity_tracedStep (system : System World) :
    (system.tracedStep channels).2.journal.verbosity = system.journal.verbosity := by
  rw [← verbosity_reportedStep channels system, tracedStep]
  rcases system.reportedStep channels with ⟨reply, after⟩
  cases reply with
  | error disruption => rfl
  | ok report => exact Journal.verbosity_record _ _

theorem snd_perform_step (system : System World) :
    (system.perform channels .step).2 = (system.step channels).2 := by
  rw [perform]
  rcases system.step channels with ⟨interrupted, after⟩
  cases interrupted <;> rfl

/-- A step that is interrupted is answered by what interrupted it. -/
theorem fst_perform_step_of_interrupted
    {system : System World}
    {disruption : Disruption}
    (interrupted : (system.machine.step channels system.world).interrupted = some disruption) :
    (system.perform channels .step).1 = .error disruption := by
  have stepped : (system.step channels).1 = some disruption := interrupted
  rw [perform]
  rcases result : system.step channels with ⟨interruption, after⟩
  rw [result] at stepped
  cases stepped
  rfl

theorem verbosity_runStep
    (options : RunOptions)
    (system : System World) :
    (system.runStep channels options).2.journal.verbosity = system.journal.verbosity := by
  unfold runStep
  split
  · exact verbosity_tracedStep channels system
  · exact verbosity_step channels system

theorem verbosity_run
    (options : RunOptions)
    (fuel steps : Nat)
    (system : System World) :
    (system.run channels options fuel steps).2.journal.verbosity = system.journal.verbosity := by
  induction fuel generalizing system steps with
  | zero =>
      unfold run
      split
      · exact Journal.verbosity_record _ _
      · rfl
  | succ fuel inductionHypothesis =>
      have same := verbosity_runStep channels options system
      unfold run
      split
      · exact Journal.verbosity_record _ _
      · cases result : system.runStep channels options with
        | mk interrupted after =>
            rw [result] at same
            cases interrupted with
            | some disruption => exact same
            | none => exact (inductionHypothesis (steps + 1) after).trans same

/-- No call changes which notices are kept. -/
theorem verbosity_perform
    (call : Call)
    (system : System World) :
    (system.perform channels call).2.journal.verbosity = system.journal.verbosity := by
  cases call with
  | load bytes => exact Journal.verbosity_recordAll _ _
  | step => rw [snd_perform_step, verbosity_step]
  | reportedStep => exact verbosity_reportedStep channels system
  | run options fuel => exact verbosity_run channels options fuel 0 system

end

end System
end WordMachine
