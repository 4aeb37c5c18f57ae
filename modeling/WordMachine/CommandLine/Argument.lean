import WordMachine.CommandLine.Misuse
import WordMachine.Text.DecimalDigit

/-!
# Classes of arguments

Before any argument takes effect, each is classified on its own: as an option,
as something that looks like an option but is none, or as an operand.  The first
double dash separates options from operands; everything after it is an operand.
The classes are those of the standard argument parser before its releases 3.11.9
and 3.12.3.
-/

namespace WordMachine
namespace CommandLine

/-- What is attached to an option within one argument. -/
inductive Attachment where
  /-- Nothing. -/
  | nothing
  /-- The text after an equals sign, where the option is a word. -/
  | assigned (value : Text)
  /-- The text after an option that is a letter, or after the equals sign behind it. -/
  | adjoined (text : Text)
deriving DecidableEq, Repr

/-- What an argument looks like. -/
inductive ArgumentClass where
  /-- A value or the name of a file. -/
  | operand
  /-- The first double dash. -/
  | separator
  /-- An option. -/
  | option (kind : OptionKind) (attachment : Attachment)
  /-- An option that does not exist. -/
  | unknownOption
deriving DecidableEq, Repr

/-- Cuts a text at its first equals sign. -/
def cutAtEquals (text : Text) : Text × Option Text :=
  text.cutAt (CodePoint.ofChar '=')

/-- Whether a code point is a decimal digit of any script. -/
def isDigit (point : CodePoint) : Bool :=
  (Text.decimalDigit? point).isSome

/-- Whether code points are decimal digits, and at least one. -/
def areDigits (points : List CodePoint) : Bool :=
  !points.isEmpty && points.all isDigit

/-- Whether code points are a number with or without a point, perhaps before a line feed. -/
def isUnsignedDecimal (points : List CodePoint) : Bool :=
  let body :=
    if points.getLast? = some (CodePoint.ofChar '\n') then points.dropLast else points
  areDigits body ||
    match body.dropWhile isDigit with
    | mark :: fraction => mark = CodePoint.ofChar '.' && areDigits fraction
    | [] => false

/-- The options that an argument with two dashes may abbreviate, with what is attached to each. -/
def longCandidates (text : Text) : List (String × ArgumentClass) :=
  let (start, value?) := cutAtEquals text
  let attachment := value?.elim Attachment.nothing .assigned
  (abbreviated start).map fun (spelling, kind) => (spelling, .option kind attachment)

/-- The options that an argument with one dash may stand for, with what is attached to each. -/
def shortCandidates (text : Text) : List (String × ArgumentClass) :=
  spellings.filterMap fun (spelling, kind) =>
    if Text.ofString spelling = ⟨text.points.take 2⟩ then
      some (spelling, .option kind (.adjoined ⟨text.points.drop 2⟩))
    else if isAbbreviated spelling text then
      some (spelling, .option kind .nothing)
    else
      none

/-- The options that an argument may stand for, with what is attached to each. -/
def candidates (text : Text) : List (String × ArgumentClass) :=
  if text.beginsWith "--" then longCandidates text else shortCandidates text

/-- Whether an argument that begins with a dash but is no option counts as an operand. -/
def isDashedOperand (text : Text) : Bool :=
  isUnsignedDecimal (text.points.drop 1) || text.points.contains (CodePoint.ofChar ' ')

/-- What an argument looks like that spells no option in full. -/
def classifyAbbreviation (text : Text) : Except Misuse ArgumentClass :=
  match candidates text with
  | [] => .ok (if isDashedOperand text then .operand else .unknownOption)
  | [(_, found)] => .ok found
  | several => .error (.ambiguous text (several.map Prod.fst))

/-- What a text after an equals sign is to the option spelled before it. -/
def attachmentTo (spelling value : Text) : Attachment :=
  if spelling.beginsWith "--" then .assigned value else .adjoined value

/-- What an argument looks like that begins with a dash and has more to it. -/
def classifyDashed (text : Text) : Except Misuse ArgumentClass :=
  match spelled? text, cutAtEquals text with
  | some kind, _ => .ok (.option kind .nothing)
  | none, (start, some value) =>
      match spelled? start with
      | some kind => .ok (.option kind (attachmentTo start value))
      | none => classifyAbbreviation text
  | none, (_, none) => classifyAbbreviation text

/-- What one argument before the separator looks like. -/
def classifyOne (argument : Text) : Except Misuse ArgumentClass :=
  if argument.beginsWith "-" && 1 < argument.points.length then
    classifyDashed argument
  else
    .ok .operand

/-- What separates options from operands. -/
def separator : Text :=
  "--"

/-- The classes of all arguments. -/
def classify : List Text -> Except Misuse (List (Text × ArgumentClass))
  | [] => .ok []
  | argument :: arguments =>
      if argument = separator then
        .ok ((argument, .separator) :: arguments.map fun operand => (operand, .operand))
      else do
        let found ← classifyOne argument
        return (argument, found) :: (← classify arguments)

end CommandLine
end WordMachine
