import WordMachine.CommandLine.Console
import WordMachine.CommandLine.Request
import WordMachine.CommandLine.Usage
import WordMachine.File.Failure
import WordMachine.Image
import WordMachine.System.Run

/-!
# A session on the command line

A session begins with the arguments, the environment and the files they name.
Either it is over at once, or a machine is ready to be run on the console.  What
a run comes back with decides how the session ends.
-/

namespace WordMachine
namespace CommandLine

/-- How a session ends. -/
structure Conclusion where
  /-- The exit code. -/
  exitCode : Nat
  /-- The text on the standard output. -/
  output : Text := ""
  /-- The text on the standard error output, where surrogates are escaped. -/
  errors : String := ""
deriving DecidableEq, Repr

/-- What the command line does not answer for. -/
inductive Escape where
  /-- A file could not be asked for. -/
  | file (failure : FileFailure)
  /-- An option was given without any value. -/
  | lostValue (option : OptionKind)
  /-- The script is no text. -/
  | undecodable
  /-- Help could not be written. -/
  | output (failure : Failure)

/-- The standard input with a given text, in which every line end counts as a line feed. -/
def standardInput (text : String) : LineFeed :=
  LineFeed.ofText (Text.ofCharacters (Text.foldNewlines text.toList))

/-- What surrounds a session. -/
structure Surroundings where
  /-- The arguments. -/
  arguments : List Text
  /-- The environment. -/
  environment : Environment := []
  /-- The contents of files. -/
  fetch : Path -> Except FileFailure (Array UInt8)
  /-- The standard input. -/
  input : LineFeed := {}
  /-- The standard output. -/
  output : TextStream := {}
  /-- Under which name the command line records notices. -/
  origin : Origin := .commandLine

/-- A machine on the console. -/
structure Session where
  /-- The machine, the console and the journal. -/
  system : System Console
  /-- How the machine is to be run. -/
  options : RunOptions
  /-- Whether the machine is to be dumped at the end. -/
  dumpState : Bool
  /-- Under which name the command line records notices. -/
  origin : Origin

/-- How a session begins. -/
inductive Opening where
  /-- It is over. -/
  | over (conclusion : Conclusion)
  /-- It cannot even be concluded. -/
  | escaped (escape : Escape)
  /-- A machine is ready. -/
  | ready (session : Session)

/-- A refusal to run anything, with the words for it. -/
def refusal (words : Text) : Conclusion :=
  let line : Text := (programName ++ ": ") ++ words
  { exitCode := 2, errors := (Text.ofLines [line]).shown }

/-- The answer to arguments that are wrong, for a terminal with a number of columns. -/
def Misuse.conclusion
    (columns : Nat)
    (misuse : Misuse) : Conclusion :=
  let line : Text := (programName ++ ": error: ") ++ misuse.message
  { exitCode := 2, errors := (usage columns ++ Text.ofLines [line]).shown }

/-- Answers a request for help on a stream, for a terminal with a number of columns. -/
def helpOpening
    (columns : Nat)
    (output : TextStream) : Opening :=
  match output.writeReplies output.writes with
  | .failed failure => .escaped (.output failure)
  | _ => .over { exitCode := 0, output := help columns }

/-- Refuses what the operating system refuses, and does not answer for anything else. -/
def fileOpening (failure : FileFailure) : Opening :=
  if failure.isSystem then .over (refusal failure.message) else .escaped (.file failure)

/-- Which notices a session shows. -/
def verbosity (settings : Settings) : Verbosity :=
  let level := settings.level?.getD .warning
  if settings.trace = some true then .tracing level else .atLeast level

/-- The script that a request names.  An empty name counts as none. -/
def readScript
    (fetch : Path -> Except FileFailure (Array UInt8))
    (name : Option Text) : Except Opening (Option Script) :=
  match name.filter (!·.isEmpty) with
  | none => .ok none
  | some name =>
      match fetch (Path.ofText name) with
      | .error failure => .error (fileOpening failure)
      | .ok bytes =>
          match Script.ofBytes? bytes.toList with
          | some script => .ok (some script)
          | none => .error (.escaped .undecodable)

namespace Session

/-- A session with a loaded machine. -/
def ready
    (surroundings : Surroundings)
    (settings : Settings)
    (script : Option Script)
    (path : Path)
    (bytes : Array UInt8) : Session where
  system :=
    { machine := Machine.fresh.loadImage bytes
      world := Console.new script surroundings.input surroundings.output
      journal :=
        ({ verbosity := verbosity settings } : Journal).recordAll
          (.imageRead bytes.size path.display :: Image.loadNotices bytes) }
  options := { budget := settings.maxSteps, trace := settings.trace = some true }
  dumpState := settings.dumpState = some true
  origin := surroundings.origin

/-- Begins a session: reads the arguments, then the settings, then the script, then the image. -/
def open?
    (surroundings : Surroundings) : Except Opening Session := do
  let columns := columns surroundings.environment
  let request ← (Request.ofArguments surroundings.arguments).mapError fun
    | .help => helpOpening columns surroundings.output
    | .misuse misuse => .over (misuse.conclusion columns)
  let refuseSettings (problem : SettingsError) : Opening := .over (refusal problem.message)
  let inherited ← (Settings.ofEnvironment surroundings.environment).mapError refuseSettings
  if request.lostSteps then
    throw (.escaped (.lostValue .maxSteps))
  let settings ← (inherited.override request.overrides).mapError refuseSettings
  if request.lostLevel then
    throw (.escaped (.lostValue .logLevel))
  let script ← readScript surroundings.fetch request.script
  let path := Path.ofText request.image
  let bytes ← (surroundings.fetch path).mapError fileOpening
  return ready surroundings settings script path bytes

/-- Begins a session. -/
def start (surroundings : Surroundings) : Opening :=
  match open? surroundings with
  | .ok session => .ready session
  | .error opening => opening

/-- Continues a session that has made some steps, by at most as many as the fuel allows. -/
def advance
    (session : Session)
    (fuel steps : Nat) : RunReply × Session :=
  let (reply, system) := session.system.run Console.channels session.options fuel steps
  (reply, { session with system })

/-- Flushes the terminal. -/
def flush (session : Session) : Session :=
  let (receipt, terminal) := session.system.world.terminal.flush
  { session with
    system.world.terminal := terminal
    system.journal := session.system.journal.recordAll receipt.notices }

/-- The exit code of a completed run. -/
def exitCode (result : RunResult) : Nat :=
  if result.limitReached then 3 else if result.fault.isSome then 1 else 0

/-- The lines of what was recorded. -/
def recorded (session : Session) : Text :=
  Text.ofLines (session.system.journal.toList.map Notice.line)

/-- The text that a session leaves on the standard error output: what was recorded, and the dump. -/
def errorText (session : Session) : Text :=
  if session.dumpState then
    session.recorded ++ Text.ofLines ["", session.system.machine.snapshot.dump]
  else
    session.recorded

/-- Ends a session with an exit code. -/
def leave
    (session : Session)
    (exitCode : Nat) : Conclusion :=
  { exitCode
    output := session.system.world.terminal.stream.written
    errors := session.errorText.shown }

/-- Ends a session, unless its run can be continued, or broke off with a failure, for which the
command line does not answer. -/
def conclude
    (session : Session) : RunReply -> Option Conclusion
  | .finished result => some (session.flush.leave (exitCode result))
  | .interrupted (.interruption _) _ =>
      let flushed := session.flush
      let interruption := Notice.runInterrupted session.origin session.system.machine.pc
      some ({ flushed with system := flushed.system.note interruption }.leave 130)
  | .interrupted (.failure _) _ | .unfinished _ => none

/-- The input that is not known yet: asking for it interrupts the session. -/
def pendingInput : LineFeed :=
  { outcomes := [.interrupted ""] }

/-- Continues the input of an interrupted session by a text, after which nothing is known yet.  An
empty text is the end of input. -/
def supply
    (session : Session)
    (text : String) : Session :=
  let known := if text.isEmpty then [.done ""] else (standardInput text).outcomes
  { session with
    system.world.keyboard.feed.outcomes := known ++ pendingInput.outcomes }

/-- Continues the input of an interrupted session by a failure. -/
def supplyFailure
    (session : Session)
    (failure : Failure) : Session :=
  { session with
    system.world.keyboard.feed.outcomes := .failed failure :: pendingInput.outcomes }

/-- The text that was written and recorded so far, and the session without it. -/
def drain (session : Session) : String × String × Session :=
  (session.system.world.terminal.stream.written.shown, session.recorded.shown,
    { session with
      system.world.terminal.stream.latestFirst := []
      system.journal := session.system.journal.cleared })

/-- Closes the standard output of a session. -/
def closeOutput
    (session : Session)
    (failure : Failure) : Session :=
  { session with
    system.world.terminal.stream := session.system.world.terminal.stream.close failure }

end Session
end CommandLine
end WordMachine
