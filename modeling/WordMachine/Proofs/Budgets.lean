import WordMachine.Proofs.Configuration
import WordMachine.Proofs.Literals

/-!
# Budgets in the environment

The environment gives a budget by spelling a positive number, and no other text is accepted for
one: `Settings.budget_spelling`.  The blanks that may surround the number do not include the
information separators.
-/

namespace WordMachine

open Text.Numeral (Spells isMargin radixMarks)

namespace Settings

/-- The settings in an environment that makes sense are those of its layer. -/
theorem ofEnvironment_eq_ok_iff
    {environment : Environment}
    {settings : Settings} :
    ofEnvironment environment = .ok settings ↔
      settings = layered environment {} ∧ ∀ problem, ¬ environment.Refused problem := by
  rcases ofEnvironment_cases environment with ⟨written, given, unread, failed⟩ | ⟨readable, taken⟩
  · rw [failed]
    exact iff_of_false nofun fun accepted => accepted.2 _ (.unread given unread)
  · rw [taken]
    rcases validated_cases (layered environment {}) with ⟨valid, sound⟩ | ⟨problem, failed, faulty⟩
    · have accepted (problem : SettingsError) : ¬ environment.Refused problem :=
        fun refused => sound.not_faulty ((faulty_environment_iff readable).mpr refused)
      rw [valid]
      exact ⟨fun same => ⟨(Except.ok.inj same).symm, accepted⟩, fun ⟨same, _⟩ => same ▸ rfl⟩
    · rw [failed]
      exact iff_of_false nofun fun accepted =>
        accepted.2 _ ((faulty_environment_iff readable).mp faulty)

section

variable
  {environment : Environment}
  {written : Text}

theorem maxSteps_layered (given : environment.given "SYNACOR_MAX_STEPS" = some written) :
    (layered environment {}).maxSteps = Text.readInteger? written := by
  rw [layered, given]
  rfl

/-- An accepted text for the budget spells it. -/
theorem exists_spells_of_accepted
    {settings : Settings}
    (given : environment.given "SYNACOR_MAX_STEPS" = some written)
    (taken : ofEnvironment environment = .ok settings) :
    ∃ number : Nat, 0 < number ∧ settings.maxSteps = some (number : Int) ∧
      Spells isMargin number written := by
  obtain ⟨rfl, accepted⟩ := ofEnvironment_eq_ok_iff.mp taken
  rw [maxSteps_layered given]
  cases read : Text.readInteger? written with
  | none => cases accepted _ (.unread given read)
  | some steps =>
      have positive : 0 < steps := by
        by_contra few
        exact accepted _ (.steps given read (Int.not_lt.mp few))
      obtain ⟨number, rfl⟩ := Int.eq_ofNat_of_zero_le positive.le
      have positive : 0 < number := Int.natCast_pos.mp positive
      exact ⟨number, positive, rfl, (Text.readInteger?_eq_some_iff positive).mp read⟩

/-- A text that spells the budget is accepted, if the level is. -/
theorem accepted_of_spells
    {number : Nat}
    (given : environment.given "SYNACOR_MAX_STEPS" = some written)
    (positive : 0 < number)
    (spells : Spells isMargin number written)
    (known : ∀ name, environment.given "SYNACOR_LOG_LEVEL" = some name ->
      ∃ level : Level, name.upper = level.name) :
    ∃ settings, ofEnvironment environment = .ok settings ∧
      settings.maxSteps = some (number : Int) := by
  have read := (Text.readInteger?_eq_some_iff positive).mpr spells
  refine ⟨layered environment {}, ofEnvironment_eq_ok_iff.mpr ⟨rfl, fun problem refused => ?_⟩,
    (maxSteps_layered given).trans read⟩
  cases refused with
  | unread givenToo unread =>
      obtain rfl := Option.some.inj (given.symm.trans givenToo)
      cases read.symm.trans unread
  | steps givenToo readToo few =>
      obtain rfl := Option.some.inj (given.symm.trans givenToo)
      obtain rfl := Option.some.inj (read.symm.trans readToo)
      omega
  | level named unknown =>
      obtain ⟨level, same⟩ := known _ named
      exact unknown level same

end

/-- Whatever else is in the environment, a text for the budget that is accepted spells a positive
number, which then is the budget, and every text that spells a positive number is accepted, unless
the level is refused.  The usual forms of a number are among those texts: what writing it
in decimal digits gives, and its digits behind the mark of any other radix. -/
theorem budget_spelling :
    (∀ (environment : Environment) (written : Text),
      environment.given "SYNACOR_MAX_STEPS" = some written ->
      ∀ settings, ofEnvironment environment = .ok settings ->
        ∃ number : Nat, 0 < number ∧ settings.maxSteps = some (number : Int) ∧
          Spells isMargin number written) ∧
    (∀ (environment : Environment) (written : Text) (number : Nat),
      environment.given "SYNACOR_MAX_STEPS" = some written ->
      0 < number -> Spells isMargin number written ->
      (∀ name, environment.given "SYNACOR_LOG_LEVEL" = some name ->
        ∃ level : Level, name.upper = level.name) ->
      ∃ settings, ofEnvironment environment = .ok settings ∧
        settings.maxSteps = some (number : Int)) ∧
    ∀ number : Nat, 0 < number ->
      (∀ form, Text.writeDecimal? number = some form -> Spells isMargin number form) ∧
        ∀ mark radix, (mark, radix) ∈ radixMarks ->
          Spells isMargin number (Text.ofCharacters ('0' :: mark :: Nat.toDigits radix number)) :=
  ⟨fun _ _ given _ taken => exists_spells_of_accepted given taken,
    fun _ _ _ given positive spells known => accepted_of_spells given positive spells known,
    fun _ positive => ⟨fun _ written => Text.Numeral.spells_writeDecimal? positive written,
      fun _ _ isMark => Text.Numeral.spells_marked positive isMark⟩⟩

/-- Blanks, a plus, an underscore and a zero behind the mark, and a digit of another script. -/
def adornedBudget : Text := "\u3000+0X_0\u0663f\n"

theorem spells_adornedBudget : Spells isMargin 63 adornedBudget := by
  have digits : Text.Numeral.digitsOf 16 1 63 = [0, 3, 15] := by
    norm_num [Text.Numeral.digitsOf]
  have spelt : Text.Numeral.Spelt 16 ['0', '\u0663', 'f'] (Text.Numeral.digitsOf 16 1 63) := by
    rw [digits]
    exact .adjacent (.decimal 0x30 (by decide) rfl (by decide) (by decide))
      (.adjacent (.decimal 0x660 (by decide) rfl (by decide) (by decide))
        (.last (.letter 'a' (.inl rfl) rfl (by decide) (by decide))))
  have literal : Text.Numeral.Literal 63 ['0', 'X', '_', '0', '\u0663', 'f'] :=
    .marked 1 ['_'] (.decimal 0x30 (by decide) rfl (by decide) (by decide)) (by decide)
      (.inr rfl) spelt
  exact .intro ['\u3000'] ['+'] ['\n'] (by decide) (.inr rfl) literal (by decide)

/-- The budget is 63. -/
theorem budget_spelling_adorned :
    let environment : Environment :=
      [("SYNACOR_LOG_LEVEL", "debug"), ("SYNACOR_MAX_STEPS", adornedBudget)]
    Spells isMargin 63 adornedBudget ∧
      (∃ settings, ofEnvironment environment = .ok settings ∧ settings.maxSteps = some 63 ∧
        ∃ number : Nat, 0 < number ∧ settings.maxSteps = some (number : Int) ∧
          Spells isMargin number adornedBudget) ∧
      Spells isMargin 1000 "1000" ∧ Spells isMargin 5 "0b101" := by
  intro environment
  have given : environment.given "SYNACOR_MAX_STEPS" = some adornedBudget := by decide +kernel
  have known (name : Text) (named : environment.given "SYNACOR_LOG_LEVEL" = some name) :
      ∃ level : Level, name.upper = level.name := by
    have level : environment.given "SYNACOR_LOG_LEVEL" = some "debug" := by decide +kernel
    obtain rfl := Option.some.inj (level.symm.trans named)
    exact ⟨.debug, by decide +kernel⟩
  obtain ⟨converse, accepted, usual⟩ := budget_spelling
  obtain ⟨settings, taken, budget⟩ :=
    accepted environment adornedBudget 63 given (by decide) spells_adornedBudget known
  refine ⟨spells_adornedBudget, ⟨settings, taken, budget, converse _ _ given settings taken⟩,
    (usual 1000 (by decide)).1 _ (by decide +kernel), ?_⟩
  exact (usual 5 (by decide)).2 'b' 2 (by decide)

/-- The information separators are blanks, but they may not surround a number. -/
theorem separated_budget_refused :
    Text.isBlank '\x1c' = true ∧
      Spells Text.isBlank 5 "\x1c5" ∧
        ofEnvironment [("SYNACOR_MAX_STEPS", "\x1c5")] = .error (.stepsNotInteger "\x1c5") := by
  have spelt : Text.Numeral.Spelt 10 ['5'] (Text.Numeral.digitsOf 10 0 5) := by
    have digits : Text.Numeral.digitsOf 10 0 5 = [5] := by norm_num [Text.Numeral.digitsOf]
    rw [digits]
    exact .last (.decimal 0x30 (by decide) rfl (by decide) (by decide))
  refine ⟨by decide, ?_, by decide +kernel⟩
  exact .intro ['\x1c'] [] [] (by decide) (.inl rfl) (.decimal spelt (by decide)) (by decide)

end Settings
end WordMachine
