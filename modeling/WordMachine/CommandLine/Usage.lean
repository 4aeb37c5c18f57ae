import WordMachine.Settings
import WordMachine.Text.Wrapped

/-!
# Usage

What the command line says about itself.  It is laid out for a terminal whose
width the environment may give.
-/

namespace WordMachine
namespace CommandLine

/-- The name under which the command line reports errors. -/
def programName : String := "synacor-vm"

/-- What is said about one argument. -/
structure Entry where
  /-- How the argument stands in a call. -/
  call : String
  /-- How the argument is listed. -/
  title : String
  /-- What the argument means. -/
  explanation : String

/-- What is said about the options. -/
def optionEntries : List Entry :=
  [{ call := "[-h]"
     title := "-h, --help"
     explanation := "show this help message and exit" },
   { call := "[--max-steps MAX_STEPS]"
     title := "--max-steps MAX_STEPS"
     explanation :=
       "Stop after this many instructions (default: unlimited, or SYNACOR_MAX_STEPS)" },
   { call := "[--script SCRIPT]"
     title := "--script SCRIPT"
     explanation := "Text file replayed as input before reading from stdin" },
   { call := "[--trace | --no-trace]"
     title := "--trace, --no-trace"
     explanation := "Log every executed instruction at DEBUG level" },
   { call := "[--dump | --no-dump]"
     title := "--dump, --no-dump"
     explanation := "Print the register dump to stderr when the run ends (default on)" },
   { call := "[--log-level LOG_LEVEL]"
     title := "--log-level LOG_LEVEL"
     explanation := "Logging level (default: WARNING, or SYNACOR_LOG_LEVEL)" }]

/-- What is said about the image. -/
def imageEntry : Entry where
  call := "image"
  title := "image"
  explanation := "Program image (little-endian 16-bit words)"

/-- What the program does. -/
def description : String := "Run a Synacor program image"

/-- How many columns the terminal has: as many as the environment says, and otherwise 80. -/
def columns (environment : Environment) : Nat :=
  match Text.readDecimal? (environment.value "COLUMNS") with
  | some number => if 0 < number then number.toNat else 80
  | none => 80

/-- How many columns are filled with text. -/
def textWidth (columns : Nat) : Nat :=
  columns - 2

/-- Several blanks. -/
def blanks (count : Nat) : String :=
  "".pushn ' ' count

/-- A text after several blanks. -/
def indented
    (count : Nat)
    (text : String) : String :=
  blanks count ++ text

/-- Distributes parts over lines.  The next part would begin at column `start`, and parts on further
lines begin at column `indent`. -/
def distribute
    (width indent : Nat) : (start : Nat) -> (line : List String) -> List String ->
      List (List String)
  | _, [], [] => []
  | _, line, [] => [line]
  | start, line, part :: parts =>
      if line ≠ [] ∧ width < start + part.length then
        line :: distribute width indent (indent + part.length + 1) [part] parts
      else
        distribute width indent (start + part.length + 1) (line ++ [part]) parts

/-- The lines of parts, the first of which begins at column `start` after a text that ends there. -/
def partLines
    (width indent start : Nat)
    (parts : List String) : List String :=
  (distribute width indent start [] parts).map (" ".intercalate ·)

/-- What stands before the name of the program. -/
def usageHead : String := "usage: "

/-- The lines that show how the program is called.  They are broken if they do not fit into one,
and then the image has a line of its own.  A narrow terminal has one for the program, too. -/
def usageLines (width : Nat) : List String :=
  let options := optionEntries.map Entry.call
  let image := [imageEntry.call]
  let whole := usageHead ++ " ".intercalate ([programName] ++ options ++ image)
  let start := usageHead ++ programName
  if whole.length ≤ width then
    [whole]
  else if 4 * start.length ≤ 3 * width then
    let indent := start.length + 1
    match partLines width indent usageHead.length (programName :: options) with
    | [] => []
    | first :: others =>
        (usageHead ++ first) ::
          (others ++ partLines width indent indent image).map (indented indent)
  else
    let indent := usageHead.length
    start ::
      (partLines width indent indent options ++ partLines width indent indent image).map
        (indented indent)

/-- How the program is called. -/
def usage (columns : Nat) : Text :=
  Text.ofLines ((usageLines (textWidth columns)).map Text.ofString)

/-- The lines of a paragraph, which has room for eleven characters in the narrowest terminal. -/
def paragraph
    (width : Nat)
    (text : String) : List String :=
  (Text.Wrapped.wrap (max width 11) text.toList).map String.ofList

/-- The column at which explanations begin. -/
def explanationColumn (width : Nat) : Nat :=
  min 24 (max 4 (width - 20))

/-- The lines about an argument.  The explanation begins beside the argument if that is short, and
otherwise below it. -/
def Entry.lines
    (width : Nat)
    (entry : Entry) : List String :=
  let column := explanationColumn width
  let explanation := paragraph (width - column) entry.explanation
  let beside := indented 2 entry.title
  if beside.length + 2 ≤ column then
    match explanation with
    | [] => [beside]
    | first :: others =>
        (beside ++ indented (column - beside.length) first) :: others.map (indented column)
  else
    beside :: explanation.map (indented column)

/-- What the program and its arguments do. -/
def descriptionLines (width : Nat) : List String :=
  paragraph width description ++
    ["", "positional arguments:"] ++ imageEntry.lines width ++
    ["", "options:"] ++ optionEntries.flatMap (Entry.lines width)

/-- The answer to a request for help. -/
def help (columns : Nat) : Text :=
  usage columns ++
    Text.ofLines (("" :: descriptionLines (textWidth columns)).map Text.ofString)

end CommandLine
end WordMachine
