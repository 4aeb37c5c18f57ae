import WordMachine.Channel.Failure

/-!
# Values from an input channel

An input channel ought to deliver integers, but a faulty one may deliver anything.
`Value.display` is how a value is shown in the fault that it causes.  A value that
is no plain datum may fail when it is asked which number it is, and when it is to
be shown; it is given by what comes of that.
-/

namespace WordMachine

/-- What an input channel may deliver. -/
inductive Value where
  /-- Something that counts as an integer, by the number that it says it is.  The only values a
  machine accepts are among these. -/
  | integer (number : Int)
  /-- No value at all. -/
  | nothing
  /-- A truth value, which does not count as a number. -/
  | flag (truth : Bool)
  /-- A text. -/
  | text (content : Text)
  /-- A number that is no integer, given by its written form. -/
  | decimal (written : String)
  /-- Several values. -/
  | list (items : List Value)
  /-- Several values under names. -/
  | record (entries : List (Text × Value))
  /-- Something that is disrupted when it is asked which number it is, with its written form. -/
  | evasive (disruption : Disruption) (written : Except Disruption String)
  /-- Anything else that is no integer, given by its written form. -/
  | foreign (written : Except Disruption String)

namespace Value

mutual

/-- How a value is shown, unless that is disrupted. -/
def display : Value -> Except Disruption String
  | .integer number => shownNumber number
  | .nothing => .ok "None"
  | .flag true => .ok "True"
  | .flag false => .ok "False"
  | .text content => .ok (Text.quoted content)
  | .decimal written => .ok written
  | .list items => do
      return "[" ++ ", ".intercalate (← displayItems items) ++ "]"
  | .record entries => do
      return "\x7b" ++ ", ".intercalate (← displayEntries entries) ++ "\x7d"
  | .evasive _ written => written
  | .foreign written => written

/-- How the members of a list are shown. -/
def displayItems : List Value -> Except Disruption (List String)
  | [] => return []
  | item :: items => do
      let shown ← display item
      return shown :: (← displayItems items)

/-- How the entries of a record are shown. -/
def displayEntries : List (Text × Value) -> Except Disruption (List String)
  | [] => return []
  | (name, value) :: entries => do
      let shown ← display value
      return (Text.quoted name ++ ": " ++ shown) :: (← displayEntries entries)

end

end Value
end WordMachine
