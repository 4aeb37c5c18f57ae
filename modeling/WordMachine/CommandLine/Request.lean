import WordMachine.CommandLine.Argument
import WordMachine.Settings

/-!
# Requests

The classified arguments take effect from left to right: of several values for
one option the last counts.  The first operand names the image.  A request for
help ends the reading at once, and so does misuse.

Where releases of the standard argument parser differ, this follows those before
3.11.9 and 3.12.3.  In them an attached value that is the separator itself
vanishes, and leaves its option given without any value, and whatever is attached
to the letter that asks for help counts as more letters of that kind.  Later
releases keep the separator as a value, and read what is attached to the letter
as options of their own.
-/

namespace WordMachine
namespace CommandLine

/-- What the command line asks for. -/
structure Request where
  /-- The image. -/
  image : Text
  /-- The file that is read before the standard input. -/
  script : Option Text := none
  /-- The settings that differ from those of the environment. -/
  overrides : Overrides := {}
  /-- Whether the value for the number of steps vanished. -/
  lostSteps : Bool := false
  /-- Whether the value for the level of notices vanished. -/
  lostLevel : Bool := false

/-- Why the arguments are not read to their end. -/
inductive Departure where
  /-- Help is asked for. -/
  | help
  /-- The arguments are wrong. -/
  | misuse (misuse : Misuse)

/-- What was gathered from the arguments so far. -/
structure Gathered where
  /-- The image. -/
  image : Option Text := none
  /-- The file that is read before the standard input. -/
  script : Option Text := none
  /-- The settings. -/
  overrides : Overrides := {}
  /-- Whether the value for the number of steps vanished. -/
  lostSteps : Bool := false
  /-- Whether the value for the level of notices vanished. -/
  lostLevel : Bool := false
  /-- The arguments without a meaning. -/
  surplus : List Text := []

namespace Gathered

/-- Adds an argument without a meaning. -/
def addSurplus
    (gathered : Gathered)
    (argument : Text) : Gathered :=
  { gathered with surplus := gathered.surplus ++ [argument] }

/-- Gives effect to an option with its value. -/
def assign
    (gathered : Gathered)
    (kind : OptionKind)
    (value : Text) : Except Departure Gathered :=
  match kind with
  | .maxSteps =>
      match Text.readDecimal? value with
      | some steps =>
          .ok { gathered with overrides.maxSteps := some steps, lostSteps := false }
      | none => .error (.misuse (.notInteger kind value))
  | .script => .ok { gathered with script := some value }
  | .logLevel =>
      .ok { gathered with overrides.logLevel := some value.upper, lostLevel := false }
  | .help | .trace _ | .dump _ => .error (.misuse (.unwantedValue kind value))

/-- Gives effect to an option whose value vanished, as attached separators do before 3.11.9 and
3.12.3.  The value that the option was given before is forgotten, as by any later value. -/
def assignLost
    (gathered : Gathered)
    (kind : OptionKind) : Except Departure Gathered :=
  match kind with
  | .maxSteps => .ok { gathered with overrides.maxSteps := none, lostSteps := true }
  | .script => .ok { gathered with script := none }
  | .logLevel => .ok { gathered with overrides.logLevel := none, lostLevel := true }
  | .help | .trace _ | .dump _ => .error (.misuse (.unwantedValue kind separator))

/-- Gives effect to an option that takes no value. -/
def turn
    (gathered : Gathered)
    (kind : OptionKind) : Except Departure Gathered :=
  match kind with
  | .help => .error .help
  | .trace on => .ok { gathered with overrides.trace := some on }
  | .dump on => .ok { gathered with overrides.dumpState := some on }
  | .maxSteps | .script | .logLevel => .error (.misuse (.missingValue kind))

/-- What comes of what is attached to the letter that asks for help: before 3.11.9 and 3.12.3 it may
be that letter again, any number of times, and nothing else. -/
def helpCluster : List CodePoint -> Departure
  | [] => .help
  | point :: rest =>
      if point = CodePoint.ofChar 'h' then
        helpCluster rest
      else
        .misuse (.unwantedValue .help ⟨point :: rest⟩)

/-- Gives effect to the letter that asks for help with what is attached to it. -/
def helpWith (value : Text) : Departure :=
  if value.isEmpty then .misuse (.unwantedValue .help value) else helpCluster value.points

/-- Gives effect to an option with what is attached to it, which before 3.11.9 and 3.12.3 is lost if
it is the separator. -/
def attach
    (gathered : Gathered)
    (kind : OptionKind) : Attachment -> Except Departure Gathered
  | .nothing => gathered.turn kind
  | .assigned value =>
      if value = separator then gathered.assignLost kind else gathered.assign kind value
  | .adjoined text => .error (helpWith text)

/-- Whether the separator has no effect of its own: it directly follows the operand that names the
image, or stands directly before it. -/
def dropsSeparator
    (gathered : Gathered)
    (afterImage : Bool)
    (rest : List (Text × ArgumentClass)) : Bool :=
  afterImage ||
    (gathered.image.isNone &&
      match rest with
      | (_, .operand) :: _ => true
      | _ => false)

/-- Reads classified arguments, the last of those before them having named the image or not. -/
def read
    (gathered : Gathered)
    (afterImage : Bool) : List (Text × ArgumentClass) -> Except Departure Gathered
  | [] => .ok gathered
  | (_, .option kind .nothing) :: rest =>
      if kind.takesValue then
        match rest with
        | (value, .operand) :: rest => do (← gathered.assign kind value).read false rest
        | _ => .error (.misuse (.missingValue kind))
      else do
        (← gathered.turn kind).read false rest
  | (_, .option kind attachment) :: rest => do
      (← gathered.attach kind attachment).read false rest
  | (argument, .unknownOption) :: rest => (gathered.addSurplus argument).read false rest
  | (argument, .operand) :: rest =>
      match gathered.image with
      | none => { gathered with image := some argument }.read true rest
      | some _ => (gathered.addSurplus argument).read false rest
  | (separator, .separator) :: rest =>
      if gathered.dropsSeparator afterImage rest then
        gathered.read false rest
      else
        (gathered.addSurplus separator).read false rest

/-- The request, if an image is named and every argument has a meaning. -/
def request (gathered : Gathered) : Except Departure Request :=
  match gathered.image, gathered.surplus with
  | none, _ => .error (.misuse .missingImage)
  | some image, [] =>
      .ok {
        image
        script := gathered.script
        overrides := gathered.overrides
        lostSteps := gathered.lostSteps
        lostLevel := gathered.lostLevel }
  | some _, surplus => .error (.misuse (.unrecognized surplus))

end Gathered

/-- Reads the arguments of the command line. -/
def Request.ofArguments (arguments : List Text) : Except Departure Request := do
  let classified ← (classify arguments).mapError Departure.misuse
  (← ({} : Gathered).read false classified).request

end CommandLine
end WordMachine
