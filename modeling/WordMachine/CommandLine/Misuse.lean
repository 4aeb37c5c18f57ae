import WordMachine.CommandLine.Option
import WordMachine.Text.Quoted

/-!
# Misuse of the command line

What can be wrong with the arguments of the command line, and the words for it.
The words are those of the standard argument parser before its releases 3.11.9
and 3.12.3.
-/

namespace WordMachine
namespace CommandLine

/-- What is wrong with the arguments. -/
inductive Misuse where
  /-- An abbreviation fits several spellings. -/
  | ambiguous (argument : Text) (spellings : List String)
  /-- An option lacks its value. -/
  | missingValue (option : OptionKind)
  /-- An option got a value that it does not take. -/
  | unwantedValue (option : OptionKind) (value : Text)
  /-- A value is no integer. -/
  | notInteger (option : OptionKind) (value : Text)
  /-- No image is named. -/
  | missingImage
  /-- There are arguments without a meaning. -/
  | unrecognized (arguments : List Text)
deriving DecidableEq, Repr

/-- The words for what is wrong. -/
def Misuse.message : Misuse -> Text
  | .ambiguous argument spellings =>
      "ambiguous option: " ++ argument ++ (" could match " ++ ", ".intercalate spellings)
  | .missingValue option => s!"argument {option.title}: expected one argument"
  | .unwantedValue option value =>
      s!"argument {option.title}: ignored explicit argument " ++ Text.quoted value
  | .notInteger option value =>
      s!"argument {option.title}: invalid int value: " ++ Text.quoted value
  | .missingImage => "the following arguments are required: image"
  | .unrecognized arguments => "unrecognized arguments: " ++ Text.separated " " arguments

end CommandLine
end WordMachine
