import WordMachine.Log.Notice
import WordMachine.Text.Blank
import WordMachine.Text.Capital
import WordMachine.Text.Numeral

/-!
# Settings

The settings of a run come from the environment, and single ones of them are
then overridden.  Settings that make no sense are refused wherever they come
from, even if they would be overridden later.
-/

namespace WordMachine

/-- How a program is to be run.  A switch that is left open counts as off. -/
structure Settings where
  /-- The greatest number of steps, if there is one. -/
  maxSteps : Option Int := none
  /-- Whether every instruction is to be recorded. -/
  trace : Option Bool := some false
  /-- The name of the least level of notices to be shown. -/
  logLevel : Text := "WARNING"
  /-- Whether the machine is to be dumped at the end. -/
  dumpState : Option Bool := some true
deriving DecidableEq, Repr

/-- Why settings are refused. -/
inductive SettingsError where
  /-- The number of steps is no integer literal. -/
  | stepsNotInteger (written : Text)
  /-- The number of steps is not positive. -/
  | stepsNotPositive (steps : Int)
  /-- There is no level with the name. -/
  | unknownLevel (name : Text)
  /-- No level is named. -/
  | missingLevel
deriving DecidableEq, Repr

namespace SettingsError

/-- The words for a refusal. -/
def message : SettingsError -> Text
  | .stepsNotInteger written =>
      "SYNACOR_MAX_STEPS must be an integer, got '" ++ written ++ "'"
  | .stepsNotPositive steps =>
      match Text.writeDecimal? steps with
      | some written => "max_steps must be positive, got " ++ written
      | none => Text.Numeral.overlong
  | .unknownLevel name =>
      let names := ", ".intercalate (Level.all.map fun level => Text.quoted level.name)
      "Unknown log level '" ++ name ++ ("' (expected one of: [" ++ names ++ "])")
  | .missingLevel => "No log level is named"

end SettingsError

/-- The variables of an environment. -/
abbrev Environment := List (Text × Text)

/-- The value of a variable, which is empty if it is not set. -/
def Environment.value
    (environment : Environment)
    (name : Text) : Text :=
  (List.lookup name environment).getD ""

/-- Settings to be changed; those that are absent stay. -/
structure Overrides where
  /-- The greatest number of steps. -/
  maxSteps : Option Int := none
  /-- Whether every instruction is to be recorded. -/
  trace : Option Bool := none
  /-- The name of the least level of notices to be shown. -/
  logLevel : Option Text := none
  /-- Whether the machine is to be dumped at the end. -/
  dumpState : Option Bool := none

namespace Settings

/-- The level that the settings name, in any case, if it exists. -/
def level? (settings : Settings) : Option Level :=
  Level.ofName? (Text.upper settings.logLevel)

/-- Settings that make sense. -/
def validated (settings : Settings) : Except SettingsError Settings :=
  match settings.maxSteps.filter (· ≤ 0) with
  | some steps => .error (.stepsNotPositive steps)
  | none =>
      if settings.level?.isSome then
        .ok settings
      else
        .error (.unknownLevel settings.logLevel)

/-- Settings with the level of the given name.  A missing name makes no sense either. -/
def withLevel
    (settings : Settings)
    (name : Option Text) : Except SettingsError Settings := do
  let settings ← ({ settings with logLevel := name.getD "WARNING" } : Settings).validated
  if name.isSome then return settings else throw .missingLevel

/-- Whether the text of a switch turns it on.  The capitals of the accepted words are the ASCII
ones. -/
def isOn (text : Text) : Bool :=
  text.trim.characters?.any fun characters =>
    ["1", "true", "yes", "on"].contains (String.ofList (characters.map Char.toLower))

/-- The number of steps that the environment asks for. -/
def environmentSteps (environment : Environment) : Except SettingsError (Option Int) :=
  let written := environment.value "SYNACOR_MAX_STEPS"
  if written.isEmpty then
    .ok none
  else
    match Text.readInteger? written with
    | some steps => .ok (some steps)
    | none => .error (.stepsNotInteger written)

/-- The settings in the environment.  An empty variable counts as one that is not set. -/
def ofEnvironment (environment : Environment) : Except SettingsError Settings := do
  let maxSteps ← environmentSteps environment
  let level := environment.value "SYNACOR_LOG_LEVEL"
  validated {
    maxSteps
    trace := some (isOn (environment.value "SYNACOR_TRACE"))
    logLevel := if level.isEmpty then "WARNING" else level.upper }

/-- Changes some of the settings. -/
def override
    (settings : Settings)
    (overrides : Overrides) : Except SettingsError Settings :=
  validated {
    maxSteps := overrides.maxSteps.or settings.maxSteps
    trace := overrides.trace.or settings.trace
    logLevel := overrides.logLevel.getD settings.logLevel
    dumpState := overrides.dumpState.or settings.dumpState }

end Settings
end WordMachine
