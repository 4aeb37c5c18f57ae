import WordMachine.CommandLine.Session

/-!
# The program

Runs a session of the command line on the real files and streams.  The machine
runs in slices; after each, what it wrote is passed on, and a line is read where
it waits for one.
-/

namespace WordMachine
namespace CommandLine

/-- How many steps are made before output is passed on. -/
def sliceLength : Nat := 1000000

/-- The failure of a call that the operating system refused. -/
def failureOf (problem : IO.Error) : Failure :=
  { kind := .operatingSystem, argument := some (toString problem) }

/-- The number of an error, which may be given as its negative. -/
def errorNumber (code : UInt32) : Nat :=
  code.toInt32.toInt.natAbs

/-- Why the operating system refused to read a file. -/
def fileFailureOf
    (path : Path) : IO.Error -> FileFailure
  | .noFileOrDirectory .. => .missing path
  | .inappropriateType _ code _ =>
      if errorNumber code = 21 then .isDirectory path else .notDirectory path
  | .permissionDenied _ code details | .invalidArgument _ code details =>
      .refused (errorNumber code) details.capitalize path
  | problem => .refused 5 (toString problem) path

/-- Reads a file. -/
def fetchFile (path : Path) : IO (Except FileFailure (Array UInt8)) := do
  if let some failure := FileFailure.ofPath? path then
    return .error failure
  try
    return .ok (← IO.FS.readBinFile path.display.shown).data
  catch problem =>
    return .error (fileFailureOf path problem)

/-- The files that the arguments name, with their contents. -/
def fetchNamed (arguments : List Text) :
    IO (List (Path × Except FileFailure (Array UInt8))) := do
  match Request.ofArguments arguments with
  | .error _ => return []
  | .ok request =>
      (request.script.toList ++ [request.image]).mapM fun name => do
        let path := Path.ofText name
        return (path, ← fetchFile path)

/-- The variables of the environment that bear on settings or on the layout of help. -/
def environmentVariables : IO Environment := do
  let names := ["SYNACOR_MAX_STEPS", "SYNACOR_TRACE", "SYNACOR_LOG_LEVEL", "COLUMNS"]
  names.filterMapM fun name => do
    return (← IO.getEnv name).map fun value => (Text.ofString name, Text.ofString value)

/-- Passes on what a session wrote and recorded. -/
def passOn (session : Session) : IO Session := do
  let (output, recorded, session) := session.drain
  IO.eprint recorded
  try
    IO.print output
    (← IO.getStdout).flush
    return session
  catch problem =>
    return session.closeOutput (failureOf problem)

/-- Continues an interrupted session by one line from the standard input. -/
def supplyLine (session : Session) : IO Session := do
  try
    return session.supply (← (← IO.getStdin).getLine)
  catch problem =>
    return session.supplyFailure (failureOf problem)

/-- Prints how a session ends. -/
def finish (conclusion : Conclusion) : IO UInt32 := do
  IO.eprint conclusion.errors
  try
    IO.print conclusion.output.shown
  catch _ =>
    pure ()
  return conclusion.exitCode.toUInt32

/-- Runs a session that has made some steps to its end. -/
partial def serve
    (session : Session)
    (steps : Nat) : IO UInt32 := do
  let (reply, session) := session.advance sliceLength steps
  let session ← passOn session
  match reply with
  | .interrupted (.interruption _) steps => serve (← supplyLine session) steps
  | .interrupted (.failure failure) _ =>
      IO.eprintln failure.text.shown
      return 1
  | .unfinished steps => serve session steps
  | .finished _ =>
      match session.conclude reply with
      | some conclusion => finish conclusion
      | none => return 0

/-- The words for what the command line does not answer for. -/
def Escape.message : Escape -> Text
  | .file failure => failure.message
  | .lostValue option => option.title ++ " has no value"
  | .undecodable => "the script is not encoded in UTF-8"
  | .output failure => failure.text

end CommandLine
end WordMachine

open WordMachine CommandLine in
/-- Runs the command line. -/
def main (arguments : List String) : IO UInt32 := do
  let arguments := arguments.map Text.ofString
  let files ← fetchNamed arguments
  let opening := Session.start {
    arguments
    environment := ← environmentVariables
    fetch := fun path => (files.lookup path).getD (.error (.missing path))
    input := Session.pendingInput
    output := { encoding := .utf8 }
    origin := .mainProgram }
  match opening with
  | .over conclusion => finish conclusion
  | .escaped escape =>
      IO.eprintln escape.message.shown
      return 1
  | .ready session => serve session 0
