import WordMachine.CommandLine.Session
import WordMachine.Proofs.Capitals

/-!
# Where the settings come from

Every setting comes from the first layer that has it: the overrides, the environment,
the defaults.  Each layer is checked on its own, so that a bad value is refused even if
a later layer would replace it, and nothing else is refused: `Settings.resolve_layers`.
The name of the level that the command line hands on is in capital letters.
-/

namespace WordMachine

/-- A level with the name is found just if there is one. -/
theorem Level.isSome_ofName?_iff {name : Text} :
    (Level.ofName? name).isSome = true ↔ ∃ level : Level, name = level.name := by
  rw [Level.ofName?, List.find?_isSome]
  constructor
  · rintro ⟨level, _, same⟩
    exact ⟨level, (beq_iff_eq.mp same).symm⟩
  · rintro ⟨level, rfl⟩
    exact ⟨level, level.mem_all, beq_iff_eq.mpr rfl⟩

/-- The names of the levels are written in capitals, so that upper-casing leaves them alone. -/
theorem Level.upper_name (level : Level) : Text.upper level.name = level.name := by
  cases level <;> decide +kernel

/-- The value of a variable that is set and not empty. -/
def Environment.given
    (environment : Environment)
    (name : Text) : Option Text :=
  (List.lookup name environment).filter (!·.isEmpty)

theorem Text.eq_empty_of_isEmpty
    {text : Text}
    (empty : text.isEmpty = true) :
    text = "" := by
  obtain ⟨points⟩ := text
  obtain rfl : points = [] := List.isEmpty_iff.mp empty
  rfl

/-- A variable has a value that counts, or it is as good as not set. -/
theorem Environment.given_cases
    (environment : Environment)
    (name : Text) :
    environment.given name = none ∧ environment.value name = "" ∨
      environment.given name = some (environment.value name) ∧
        (environment.value name).isEmpty = false := by
  unfold given value
  cases List.lookup name environment with
  | none => exact .inl ⟨rfl, rfl⟩
  | some text =>
      cases empty : text.isEmpty with
      | true => exact .inl ⟨by simp [empty], Text.eq_empty_of_isEmpty empty⟩
      | false => exact .inr ⟨by simp [empty], empty⟩

/-! ## What is refused -/

/-- The environment makes no sense. -/
inductive Environment.Refused (environment : Environment) : SettingsError -> Prop where
  /-- The number of steps is no integer literal. -/
  | unread {written : Text}
      (given : environment.given "SYNACOR_MAX_STEPS" = some written)
      (unread : Text.readInteger? written = none) :
      Refused environment (.stepsNotInteger written)
  /-- The number of steps is not positive. -/
  | steps {written : Text} {steps : Int}
      (given : environment.given "SYNACOR_MAX_STEPS" = some written)
      (read : Text.readInteger? written = some steps)
      (few : steps ≤ 0) :
      Refused environment (.stepsNotPositive steps)
  /-- There is no level with the name, in any case. -/
  | level {written : Text}
      (given : environment.given "SYNACOR_LOG_LEVEL" = some written)
      (unknown : ∀ level : Level, written.upper ≠ level.name) :
      Refused environment (.unknownLevel written.upper)

/-- The overrides make no sense. -/
inductive Overrides.Refused (overrides : Overrides) : SettingsError -> Prop where
  /-- The number of steps is not positive. -/
  | steps {steps : Int}
      (given : overrides.maxSteps = some steps)
      (few : steps ≤ 0) :
      Refused overrides (.stepsNotPositive steps)
  /-- There is no level with the name, in any case. -/
  | level {name : Text}
      (given : overrides.logLevel = some name)
      (unknown : ∀ level : Level, name.upper ≠ level.name) :
      Refused overrides (.unknownLevel name)

namespace Settings

/-- The settings that the environment comes to after the overrides. -/
def resolve
    (environment : Environment)
    (overrides : Overrides) : Except SettingsError Settings := do
  (← ofEnvironment environment).override overrides

/-- Each setting from the first layer that has it. -/
def layered
    (environment : Environment)
    (overrides : Overrides) : Settings where
  maxSteps :=
    overrides.maxSteps.or ((environment.given "SYNACOR_MAX_STEPS").bind Text.readInteger?)
  trace := (overrides.trace.or ((environment.given "SYNACOR_TRACE").map isOn)).or (some false)
  logLevel :=
    (overrides.logLevel.or ((environment.given "SYNACOR_LOG_LEVEL").map Text.upper)).getD "WARNING"
  dumpState := overrides.dumpState.or (some true)

/-- The settings make sense. -/
structure Sound (settings : Settings) : Prop where
  /-- A budget is positive. -/
  positive : ∀ steps, settings.maxSteps = some steps -> 0 < steps
  /-- The level is named, in any case. -/
  named : ∃ level : Level, settings.logLevel.upper = level.name

/-- What is wrong with settings. -/
inductive Faulty (settings : Settings) : SettingsError -> Prop where
  /-- The budget is not positive. -/
  | steps {steps : Int}
      (given : settings.maxSteps = some steps)
      (few : steps ≤ 0) :
      Faulty settings (.stepsNotPositive steps)
  /-- There is no level with the name, in any case. -/
  | level (unknown : ∀ level : Level, settings.logLevel.upper ≠ level.name) :
      Faulty settings (.unknownLevel settings.logLevel)

section

variable
  {settings : Settings}
  {problem : SettingsError}

/-- Settings in which nothing is wrong have no problem to be reported. -/
theorem Sound.not_faulty (sound : settings.Sound) : ¬ settings.Faulty problem := by
  intro faulty
  cases faulty with
  | steps given few =>
      have := sound.positive _ given
      omega
  | level unknown =>
      obtain ⟨level, named⟩ := sound.named
      exact unknown level named

/-- Settings that make sense are accepted as they are, and others are refused for what is wrong
with them. -/
theorem validated_cases (settings : Settings) :
    settings.validated = .ok settings ∧ settings.Sound ∨
      ∃ problem, settings.validated = .error problem ∧ settings.Faulty problem := by
  unfold validated
  cases few : settings.maxSteps.filter (· ≤ 0) with
  | some steps =>
      obtain ⟨given, isFew⟩ := Option.filter_eq_some_iff.mp few
      exact .inr ⟨_, rfl, .steps given (of_decide_eq_true isFew)⟩
  | none =>
      have positive : ∀ steps, settings.maxSteps = some steps -> 0 < steps := by
        intro steps given
        simpa using Option.filter_eq_none_iff.mp few steps given
      dsimp only
      split
      · next found => exact .inl ⟨rfl, positive, Level.isSome_ofName?_iff.mp found⟩
      · next absent =>
          exact .inr ⟨_, rfl,
            .level fun level same => absent (Level.isSome_ofName?_iff.mpr ⟨level, same⟩)⟩

end

/-! ## The layers -/

section

variable
  (environment : Environment)
  (overrides : Overrides)

/-- The budget in the environment is either refused as written or is what the layers say. -/
theorem environmentSteps_cases :
    (∃ written, environment.given "SYNACOR_MAX_STEPS" = some written ∧
      Text.readInteger? written = none ∧
        environmentSteps environment = .error (.stepsNotInteger written)) ∨
      (∀ written, environment.given "SYNACOR_MAX_STEPS" = some written ->
        ∃ steps, Text.readInteger? written = some steps) ∧
        environmentSteps environment = .ok (layered environment {}).maxSteps := by
  unfold environmentSteps layered
  rcases environment.given_cases "SYNACOR_MAX_STEPS" with ⟨given, empty⟩ | ⟨given, nonempty⟩
  · rw [given, empty]
    exact .inr ⟨fun _ isGiven => (nomatch isGiven), rfl⟩
  · rw [given]
    dsimp only
    rw [nonempty]
    cases read : Text.readInteger? (environment.value "SYNACOR_MAX_STEPS") with
    | none => exact .inl ⟨_, rfl, read, rfl⟩
    | some steps =>
        refine .inr ⟨fun written isGiven => ?_, congrArg Except.ok read.symm⟩
        obtain rfl := Option.some.inj isGiven
        exact ⟨steps, read⟩

/-- The trace flag that is read is the one of the layers; the default is off. -/
theorem trace_environment :
    some (isOn (environment.value "SYNACOR_TRACE")) = (layered environment {}).trace := by
  unfold layered
  rcases environment.given_cases "SYNACOR_TRACE" with ⟨given, empty⟩ | ⟨given, _⟩
  · rw [given, empty]
    rfl
  · rw [given]
    rfl

/-- The level that is read is the one of the layers; it is upper-cased and may still be unknown. -/
theorem logLevel_environment :
    (if (environment.value "SYNACOR_LOG_LEVEL").isEmpty then ("WARNING" : Text)
      else (environment.value "SYNACOR_LOG_LEVEL").upper) = (layered environment {}).logLevel := by
  unfold layered
  rcases environment.given_cases "SYNACOR_LOG_LEVEL" with ⟨given, empty⟩ | ⟨given, nonempty⟩
  · rw [given, empty]
    rfl
  · rw [given, nonempty]
    rfl

/-- The environment is refused at once if its number of steps cannot be read. -/
theorem ofEnvironment_cases :
    (∃ written, environment.given "SYNACOR_MAX_STEPS" = some written ∧
      Text.readInteger? written = none ∧
        ofEnvironment environment = .error (.stepsNotInteger written)) ∨
      (∀ written, environment.given "SYNACOR_MAX_STEPS" = some written ->
        ∃ steps, Text.readInteger? written = some steps) ∧
        ofEnvironment environment = (layered environment {}).validated := by
  unfold ofEnvironment
  dsimp only
  rw [trace_environment, logLevel_environment]
  rcases environmentSteps_cases environment with
    ⟨written, given, unread, failed⟩ | ⟨readable, steps⟩
  · rw [failed]
    exact .inl ⟨written, given, unread, rfl⟩
  · rw [steps]
    exact .inr ⟨readable, rfl⟩

/-- Overrides come before the environment. -/
theorem override_layered :
    (layered environment {}).override overrides = (layered environment overrides).validated := by
  obtain ⟨maxSteps, trace, logLevel, dumpState⟩ := overrides
  unfold override layered
  cases maxSteps <;> cases trace <;> cases logLevel <;> cases dumpState <;> rfl

end

section

variable
  {environment : Environment}
  {overrides : Overrides}
  {problem : SettingsError}

/-- The environment is refused for what is wrong with the settings in it. -/
theorem faulty_environment_iff
    (readable : ∀ written, environment.given "SYNACOR_MAX_STEPS" = some written ->
      ∃ steps, Text.readInteger? written = some steps) :
    (layered environment {}).Faulty problem ↔ environment.Refused problem := by
  constructor
  · intro faulty
    cases faulty with
    | steps given few =>
        obtain ⟨written, isGiven, read⟩ := Option.bind_eq_some_iff.mp given
        exact .steps isGiven read few
    | level unknown =>
        unfold layered at unknown ⊢
        cases given : environment.given "SYNACOR_LOG_LEVEL" with
        | none =>
            rw [given] at unknown
            cases unknown .warning (Level.upper_name .warning)
        | some written =>
            rw [given] at unknown
            refine .level given fun level same => unknown level ?_
            exact (Text.upper_upper written).trans same
  · intro refused
    cases refused with
    | unread given unread =>
        obtain ⟨steps, read⟩ := readable _ given
        cases unread.symm.trans read
    | steps given read few =>
        refine .steps ?_ few
        rw [layered, given]
        exact read
    | @level written given unknown =>
        have logLevel : (layered environment {}).logLevel = written.upper := by
          rw [layered, given]
          rfl
        rw [← logLevel]
        refine .level fun level same => unknown level ?_
        rwa [logLevel, Text.upper_upper] at same

/-- Above an environment that makes sense, the overrides are refused for what is wrong with them. -/
theorem faulty_layered_iff (sound : (layered environment {}).Sound) :
    (layered environment overrides).Faulty problem ↔ overrides.Refused problem := by
  constructor
  · intro faulty
    cases faulty with
    | @steps steps given few =>
        -- A budget from the environment has been found sound already.
        cases overridden : overrides.maxSteps with
        | none =>
            rw [layered, overridden] at given
            have := sound.positive steps given
            omega
        | some wanted =>
            rw [layered, overridden] at given
            obtain rfl := Option.some.inj given
            exact .steps overridden few
    | level unknown =>
        unfold layered at unknown ⊢
        cases overridden : overrides.logLevel with
        | none =>
            rw [overridden] at unknown
            obtain ⟨level, named⟩ := sound.named
            cases unknown level named
        | some name =>
            rw [overridden] at unknown
            exact .level overridden unknown
  · intro refused
    cases refused with
    | steps given few =>
        refine .steps ?_ few
        rw [layered, given]
        rfl
    | @level name given unknown =>
        have logLevel : (layered environment overrides).logLevel = name := by
          rw [layered, given]
          rfl
        rw [← logLevel]
        refine .level ?_
        rwa [logLevel]

end

/-- The settings are the first of each layer and make sense, or a layer is refused.  The
environment is refused before the overrides. -/
theorem resolve_cases
    (environment : Environment)
    (overrides : Overrides) :
    (resolve environment overrides = .ok (layered environment overrides) ∧
      (layered environment overrides).Sound ∧
        (∀ problem, ¬ environment.Refused problem) ∧ ∀ problem, ¬ overrides.Refused problem) ∨
      ∃ problem, resolve environment overrides = .error problem ∧
        (environment.Refused problem ∨
          (∀ other, ¬ environment.Refused other) ∧ overrides.Refused problem) := by
  unfold resolve
  rcases ofEnvironment_cases environment with ⟨written, given, unread, failed⟩ | ⟨readable, taken⟩
  · rw [failed]
    exact .inr ⟨_, rfl, .inl (.unread given unread)⟩
  · rw [taken]
    rcases validated_cases (layered environment {}) with ⟨valid, sound⟩ | ⟨problem, failed, faulty⟩
    · have accepted (problem : SettingsError) : ¬ environment.Refused problem :=
        fun refused => sound.not_faulty ((faulty_environment_iff readable).mpr refused)
      rw [valid]
      change (layered environment {}).override overrides = _ ∧ _ ∨
        ∃ problem, (layered environment {}).override overrides = _ ∧ _
      rw [override_layered]
      rcases validated_cases (layered environment overrides) with
        ⟨validToo, soundToo⟩ | ⟨problem, failed, faulty⟩
      · refine .inl ⟨validToo, soundToo, accepted, fun problem refused => ?_⟩
        exact soundToo.not_faulty ((faulty_layered_iff sound).mpr refused)
      · exact .inr ⟨problem, failed, .inr ⟨accepted, (faulty_layered_iff sound).mp faulty⟩⟩
    · rw [failed]
      exact .inr ⟨problem, rfl, .inl ((faulty_environment_iff readable).mp faulty)⟩

end Settings

/-! ## What the command line hands on -/

/-- The level that is given, if any, was upper-cased. -/
def Overrides.UpperCased (overrides : Overrides) : Prop :=
  ∀ name, overrides.logLevel = some name -> ∃ typed, name = Text.upper typed

namespace CommandLine
namespace Gathered

section

variable
  {gathered result : Gathered}
  {kind : OptionKind}

/-- If two readings in a row succeed, the first did and the second did on its result. -/
theorem exists_of_bind_eq_ok
    {Result : Type}
    {first : Except Departure Gathered}
    {next : Gathered -> Except Departure Result}
    {result : Result}
    (ok : (do next (← first)) = .ok result) :
    ∃ middle, first = .ok middle ∧ next middle = .ok result := by
  cases first with
  | error departure => cases ok
  | ok middle => exact ⟨middle, rfl, ok⟩

/-- An option with a value stores a level in upper case only. -/
theorem upperCased_assign
    {value : Text}
    (upperCased : gathered.overrides.UpperCased)
    (assigned : gathered.assign kind value = .ok result) : result.overrides.UpperCased := by
  cases kind with
  | maxSteps =>
      rw [assign] at assigned
      split at assigned <;> cases assigned
      exact upperCased
  | script =>
      cases assigned
      exact upperCased
  | logLevel =>
      cases assigned
      exact fun _ given => ⟨value, (Option.some.inj given).symm⟩
  | help | trace | dump => cases assigned

/-- An option that has lost its value sets no level. -/
theorem upperCased_assignLost
    (upperCased : gathered.overrides.UpperCased)
    (assigned : gathered.assignLost kind = .ok result) : result.overrides.UpperCased := by
  cases kind with
  | logLevel =>
      cases assigned
      exact fun _ given => nomatch given
  | maxSteps | script =>
      cases assigned
      exact upperCased
  | help | trace | dump => cases assigned

/-- A flag does not touch the level. -/
theorem upperCased_turn
    (upperCased : gathered.overrides.UpperCased)
    (turned : gathered.turn kind = .ok result) : result.overrides.UpperCased := by
  cases kind with
  | trace | dump =>
      cases turned
      exact upperCased
  | help | maxSteps | script | logLevel => cases turned

/-- A value attached to its option is treated like one that follows it. -/
theorem upperCased_attach
    {attachment : Attachment}
    (upperCased : gathered.overrides.UpperCased)
    (attached : gathered.attach kind attachment = .ok result) : result.overrides.UpperCased := by
  cases attachment with
  | nothing => exact upperCased_turn upperCased attached
  | assigned value =>
      rw [attach] at attached
      split at attached
      · exact upperCased_assignLost upperCased attached
      · exact upperCased_assign upperCased attached
  | adjoined text => cases attached

/-- Reading arguments keeps the level in upper case, by induction on the classified arguments. -/
theorem upperCased_read
    {afterImage : Bool}
    {classified : List (Text × ArgumentClass)}
    (upperCased : gathered.overrides.UpperCased)
    (read : gathered.read afterImage classified = .ok result) : result.overrides.UpperCased := by
  fun_induction Gathered.read gathered afterImage classified with
  | case1 =>
      cases read
      exact upperCased
  | case2 _ _ _ _ _ _ _ inductionHypothesis =>
      obtain ⟨middle, assigned, read⟩ := exists_of_bind_eq_ok read
      exact inductionHypothesis middle (upperCased_assign upperCased assigned) read
  | case3 => cases read
  | case4 _ _ _ _ _ _ inductionHypothesis =>
      obtain ⟨middle, turned, read⟩ := exists_of_bind_eq_ok read
      exact inductionHypothesis middle (upperCased_turn upperCased turned) read
  | case5 _ _ _ _ _ _ _ inductionHypothesis =>
      obtain ⟨middle, attached, read⟩ := exists_of_bind_eq_ok read
      exact inductionHypothesis middle (upperCased_attach upperCased attached) read
  | case6 | case7 | case8 | case9 | case10 =>
      next inductionHypothesis => exact inductionHypothesis upperCased read

end
end Gathered

/-- A request names a level in capital letters. -/
theorem Request.upperCased
    {arguments : List Text}
    {request : Request}
    (accepted : Request.ofArguments arguments = .ok request) : request.overrides.UpperCased := by
  unfold ofArguments at accepted
  generalize (classify arguments).mapError Departure.misuse = outcome at accepted
  cases outcome with
  | error departure => cases accepted
  | ok classified =>
      obtain ⟨gathered, read, finished⟩ := Gathered.exists_of_bind_eq_ok accepted
      have blank : ({} : Gathered).overrides.UpperCased := by
        intro name given
        cases given
      have upperCased : gathered.overrides.UpperCased := Gathered.upperCased_read blank read
      unfold Gathered.request at finished
      split at finished <;> cases finished
      exact upperCased

end CommandLine

namespace Settings

/-- The level in sound settings is the name of one of the known levels. -/
theorem Sound.exists_level
    {environment : Environment}
    {overrides : Overrides}
    (sound : (layered environment overrides).Sound)
    (upperCased : overrides.UpperCased) :
    ∃ level : Level, (layered environment overrides).logLevel = level.name := by
  obtain ⟨level, named⟩ := sound.named
  refine ⟨level, Eq.trans ?_ named⟩
  unfold layered
  cases given : overrides.logLevel with
  | some name =>
      obtain ⟨typed, rfl⟩ := upperCased name given
      exact (Text.upper_upper typed).symm
  | none =>
      cases environment.given "SYNACOR_LOG_LEVEL" with
      | some written => exact (Text.upper_upper written).symm
      | none => exact (Level.upper_name .warning).symm

/-- Each setting is that of the first layer that has it, and nothing is refused but layers that
make no sense.  Settings that are not refused have a positive budget or none, and if the level is
upper-cased, as on the command line, it is the name of one. -/
theorem resolve_layers
    (environment : Environment)
    (overrides : Overrides) :
    ((∃ problem, resolve environment overrides = .error problem) ↔
      (∃ problem, environment.Refused problem) ∨ ∃ problem, overrides.Refused problem) ∧
    (∀ problem, resolve environment overrides = .error problem ->
      environment.Refused problem ∨
        (∀ other, ¬ environment.Refused other) ∧ overrides.Refused problem) ∧
    (∀ settings, resolve environment overrides = .ok settings ->
      settings = layered environment overrides ∧
        (∀ steps, settings.maxSteps = some steps -> 0 < steps) ∧
        (overrides.UpperCased -> ∃ level : Level, settings.logLevel = level.name ∧
          CommandLine.verbosity settings =
            if settings.trace = some true then .tracing level else .atLeast level)) ∧
    ∀ arguments request, CommandLine.Request.ofArguments arguments = .ok request ->
      request.overrides.UpperCased := by
  refine ⟨⟨?_, ?_⟩, ?_, ?_, fun _ _ accepted => CommandLine.Request.upperCased accepted⟩
  · rintro ⟨problem, failed⟩
    rcases resolve_cases environment overrides with ⟨taken, _⟩ | ⟨_, _, refused | ⟨_, refused⟩⟩
    · cases taken.symm.trans failed
    · exact .inl ⟨_, refused⟩
    · exact .inr ⟨_, refused⟩
  · intro refused
    rcases resolve_cases environment overrides with
      ⟨_, _, accepted, unrefused⟩ | ⟨problem, failed, _⟩
    · rcases refused with ⟨problem, refused⟩ | ⟨problem, refused⟩
      · cases accepted problem refused
      · cases unrefused problem refused
    · exact ⟨problem, failed⟩
  · intro problem failed
    rcases resolve_cases environment overrides with ⟨taken, _⟩ | ⟨other, failedToo, refused⟩
    · cases taken.symm.trans failed
    · obtain rfl := Except.error.inj (failedToo.symm.trans failed)
      exact refused
  · intro settings taken
    rcases resolve_cases environment overrides with ⟨takenToo, sound, _⟩ | ⟨_, failed, _⟩
    · obtain rfl := Except.ok.inj (takenToo.symm.trans taken)
      refine ⟨rfl, sound.positive, fun upperCased => ?_⟩
      obtain ⟨level, named⟩ := sound.exists_level upperCased
      refine ⟨level, named, ?_⟩
      rw [CommandLine.verbosity, level?, named, Level.upper_name, Level.ofName?_name]
      rfl
    · cases failed.symm.trans taken

/-- An override turns off what the environment turns on, and a level may be written with letters
whose capital forms are the right ones.  A budget of zero is refused although it is overridden. -/
theorem resolve_dotless :
    (let environment : Environment :=
      [("SYNACOR_MAX_STEPS", "0x10"), ("SYNACOR_TRACE", " Yes "), ("SYNACOR_LOG_LEVEL", "ınfo")]
    let settings : Settings := { maxSteps := some 16, trace := some false, logLevel := "INFO" }
    resolve environment { trace := some false } = .ok settings ∧
      settings = layered environment { trace := some false } ∧
        ∃ level : Level, settings.logLevel = level.name) ∧
    ∃ problem, resolve [("SYNACOR_MAX_STEPS", "0")] { maxSteps := some 5 } = .error problem := by
  have taken : resolve
      [("SYNACOR_MAX_STEPS", "0x10"), ("SYNACOR_TRACE", " Yes "), ("SYNACOR_LOG_LEVEL", "ınfo")]
      { trace := some false } =
        .ok { maxSteps := some 16, trace := some false, logLevel := "INFO" } := by
    decide +kernel
  obtain ⟨layers, _, handedOn⟩ := (resolve_layers _ _).2.2.1 _ taken
  obtain ⟨level, named, _⟩ := handedOn fun _ given => nomatch given
  have refused : Environment.Refused [("SYNACOR_MAX_STEPS", "0")] (.stepsNotPositive 0) :=
    .steps (by decide +kernel : _ = some ("0" : Text)) (by decide +kernel) (Int.le_refl 0)
  exact ⟨⟨taken, layers, level, named⟩, (resolve_layers _ _).1.mpr (.inl ⟨_, refused⟩)⟩

end Settings
end WordMachine
