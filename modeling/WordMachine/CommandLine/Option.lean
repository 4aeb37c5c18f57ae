import WordMachine.Text.Basic

/-!
# Options

The options of the command line and how they are spelled.  Switches that can be
turned off have a spelling for each setting.
-/

namespace WordMachine
namespace CommandLine

/-- An option, with its setting if it is a switch. -/
inductive OptionKind where
  /-- Shows how the program is used. -/
  | help
  /-- Limits the number of steps. -/
  | maxSteps
  /-- Names a file that is read before the standard input. -/
  | script
  /-- Whether every instruction is recorded. -/
  | trace (on : Bool)
  /-- Whether the machine is dumped at the end. -/
  | dump (on : Bool)
  /-- Names the least level of notices to be shown. -/
  | logLevel
deriving DecidableEq, Repr

namespace OptionKind

/-- Whether the option goes with a value. -/
def takesValue : OptionKind -> Bool
  | .maxSteps | .script | .logLevel => true
  | .help | .trace _ | .dump _ => false

/-- How the option is called in messages. -/
def title : OptionKind -> String
  | .help => "-h/--help"
  | .maxSteps => "--max-steps"
  | .script => "--script"
  | .trace _ => "--trace/--no-trace"
  | .dump _ => "--dump/--no-dump"
  | .logLevel => "--log-level"

end OptionKind

/-- All spellings of options, in the order in which messages list them. -/
def spellings : List (String × OptionKind) :=
  [("-h", .help), ("--help", .help), ("--max-steps", .maxSteps), ("--script", .script),
    ("--trace", .trace true), ("--no-trace", .trace false), ("--dump", .dump true),
    ("--no-dump", .dump false), ("--log-level", .logLevel)]

/-- The option with exactly this spelling. -/
def spelled? (text : Text) : Option OptionKind :=
  (spellings.find? fun (spelling, _) => Text.ofString spelling = text).map Prod.snd

/-- Whether a spelling begins with a text. -/
def isAbbreviated
    (spelling : String)
    (text : Text) : Bool :=
  (Text.ofString spelling).beginsWith text

/-- The spellings that begin with a text. -/
def abbreviated (text : Text) : List (String × OptionKind) :=
  spellings.filter fun (spelling, _) => isAbbreviated spelling text

end CommandLine
end WordMachine
