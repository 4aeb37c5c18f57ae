import WordMachine.CommandLine.Session
import WordMachine.File.Tree
import WordMachine.Proofs.Configuration

/-!
# How a session begins

Once the arguments are accepted, the settings are put together, then the script is
read, then the image.  Each of these can be refused, which is answered by one line on
the standard error output; and each can fail in a way that the command line does not
answer for.  If neither happens, a machine is ready.  The three ways exclude each other,
and there is no other: `Session.start_of_refuses`, `Session.start_of_evades`,
`Session.start_of_prepared` and `Request.answered`.
-/

namespace WordMachine
namespace CommandLine

/-- The file that holds the script, if a request names one.  An empty name counts as none. -/
def Request.scriptName? (request : Request) : Option Text :=
  request.script.filter (!·.isEmpty)

/-- The settings that the environment and a request come to. -/
structure Configures
    (environment : Environment)
    (request : Request)
    (settings : Settings) : Prop where
  /-- The settings of the environment make sense, and those that the request changes do too. -/
  inherits : ∃ inherited, Settings.ofEnvironment environment = .ok inherited ∧
    inherited.override request.overrides = .ok settings
  /-- The value for the number of steps did not vanish. -/
  keepsSteps : request.lostSteps = false
  /-- The value for the level of notices did not vanish. -/
  keepsLevel : request.lostLevel = false

section

variable
  (environment : Environment)
  (fetch : Path -> Except FileFailure (Array UInt8))
  (request : Request)

/-- The script that a request asks for. -/
inductive HasScript : Option Script -> Prop where
  /-- No script is named. -/
  | none (unnamed : request.scriptName? = none) : HasScript none
  /-- A script is named, and its file can be read and is a text. -/
  | some {name : Text} {bytes : Array UInt8} {script : Script}
      (named : request.scriptName? = some name)
      (fetched : fetch (Path.ofText name) = .ok bytes)
      (decoded : Script.ofBytes? bytes.toList = some script) :
      HasScript (some script)

/-- A file that a request names cannot be read, or the script is no text. -/
inductive Unusable : Prop where
  /-- The file of the script cannot be read. -/
  | script {name : Text} {failure : FileFailure}
      (named : request.scriptName? = some name)
      (unread : fetch (Path.ofText name) = .error failure)
  /-- The file of the script is no text. -/
  | undecodable {name : Text} {bytes : Array UInt8}
      (named : request.scriptName? = some name)
      (fetched : fetch (Path.ofText name) = .ok bytes)
      (undecodable : Text.Utf8.decode? bytes.toList = none)
  /-- The image cannot be read. -/
  | image {failure : FileFailure}
      (unread : fetch (Path.ofText request.image) = .error failure)

/-- What is refused, with the words for it. -/
inductive Refuses : Text -> Prop where
  /-- The settings of the environment make no sense. -/
  | environment {problem : SettingsError}
      (refused : Settings.ofEnvironment environment = .error problem) :
      Refuses problem.message
  /-- The settings that the request changes make no sense. -/
  | overrides {inherited : Settings} {problem : SettingsError}
      (inherits : Settings.ofEnvironment environment = .ok inherited)
      (keepsSteps : request.lostSteps = false)
      (refused : inherited.override request.overrides = .error problem) :
      Refuses problem.message
  /-- The operating system refuses to read the script. -/
  | script {settings : Settings} {name : Text} {failure : FileFailure}
      (configures : Configures environment request settings)
      (named : request.scriptName? = some name)
      (unread : fetch (Path.ofText name) = .error failure)
      (isSystem : failure.isSystem = true) :
      Refuses failure.message
  /-- The operating system refuses to read the image. -/
  | image {settings : Settings} {script : Option Script} {failure : FileFailure}
      (configures : Configures environment request settings)
      (hasScript : HasScript fetch request script)
      (unread : fetch (Path.ofText request.image) = .error failure)
      (isSystem : failure.isSystem = true) :
      Refuses failure.message

/-- What the command line does not answer for. -/
inductive Evades : Escape -> Prop where
  /-- The value for the number of steps vanished. -/
  | steps {inherited : Settings}
      (inherits : Settings.ofEnvironment environment = .ok inherited)
      (lost : request.lostSteps = true) :
      Evades (.lostValue .maxSteps)
  /-- The value for the level of notices vanished. -/
  | level {inherited settings : Settings}
      (inherits : Settings.ofEnvironment environment = .ok inherited)
      (keepsSteps : request.lostSteps = false)
      (overridden : inherited.override request.overrides = .ok settings)
      (lost : request.lostLevel = true) :
      Evades (.lostValue .logLevel)
  /-- The file of the script has a name that no file can have. -/
  | script {settings : Settings} {name : Text} {failure : FileFailure}
      (configures : Configures environment request settings)
      (named : request.scriptName? = some name)
      (unread : fetch (Path.ofText name) = .error failure)
      (notSystem : failure.isSystem = false) :
      Evades (.file failure)
  /-- The file of the script is no text. -/
  | undecodable {settings : Settings} {name : Text} {bytes : Array UInt8}
      (configures : Configures environment request settings)
      (named : request.scriptName? = some name)
      (fetched : fetch (Path.ofText name) = .ok bytes)
      (undecodable : Text.Utf8.decode? bytes.toList = none) :
      Evades .undecodable
  /-- The image has a name that no file can have. -/
  | image {settings : Settings} {script : Option Script} {failure : FileFailure}
      (configures : Configures environment request settings)
      (hasScript : HasScript fetch request script)
      (unread : fetch (Path.ofText request.image) = .error failure)
      (notSystem : failure.isSystem = false) :
      Evades (.file failure)

/-- All that a request asks for is there. -/
structure Prepared
    (settings : Settings)
    (script : Option Script)
    (bytes : Array UInt8) : Prop where
  /-- The settings make sense. -/
  configures : Configures environment request settings
  /-- The script can be read and is a text, or there is none. -/
  hasScript : HasScript fetch request script
  /-- The image can be read. -/
  fetched : fetch (Path.ofText request.image) = .ok bytes

end

/-! ## Settings that make sense -/

section

variable
  {environment : Environment}
  {request : Request}
  {settings : Settings}
  (configures : Configures environment request settings)

include configures

theorem Configures.layers :
    settings = Settings.layered environment request.overrides ∧ settings.Sound := by
  obtain ⟨inherited, inherits, overridden⟩ := configures.inherits
  have resolved : Settings.resolve environment request.overrides = .ok settings := by
    rw [Settings.resolve, inherits]
    exact overridden
  rcases Settings.resolve_cases environment request.overrides with
    ⟨taken, sound, _⟩ | ⟨_, failed, _⟩
  · obtain rfl := Except.ok.inj (taken.symm.trans resolved)
    exact ⟨rfl, sound⟩
  · cases failed.symm.trans resolved

/-- A budget is never empty. -/
theorem Configures.positive : ∀ limit, settings.maxSteps = some limit -> 0 < limit :=
  configures.layers.2.positive

/-- The machine is dumped unless the request says that it is not. -/
theorem Configures.dumpState_eq :
    decide (settings.dumpState = some true) =
      decide (request.overrides.dumpState ≠ some false) := by
  rw [configures.layers.1, Settings.layered]
  cases request.overrides.dumpState with
  | none => rfl
  | some wanted => cases wanted <;> rfl

end

section

variable
  {fetch : Path -> Except FileFailure (Array UInt8)}
  {request : Request}

/-! ## Reading the script -/

theorem ofBytes?_eq_none_iff {bytes : List UInt8} :
    Script.ofBytes? bytes = none ↔ Text.Utf8.decode? bytes = none :=
  Option.map_eq_none_iff

theorem readScript_of_hasScript
    {script : Option Script}
    (hasScript : HasScript fetch request script) :
    readScript fetch request.script = .ok script := by
  cases hasScript with
  | none unnamed =>
      rw [Request.scriptName?] at unnamed
      rw [readScript, unnamed]
  | some named fetched decoded =>
      rw [Request.scriptName?] at named
      rw [readScript, named]
      simp only [fetched, decoded]

theorem readScript_of_unread
    {name : Text}
    {failure : FileFailure}
    (named : request.scriptName? = some name)
    (unread : fetch (Path.ofText name) = .error failure) :
    readScript fetch request.script = .error (fileOpening failure) := by
  rw [Request.scriptName?] at named
  rw [readScript, named]
  simp only [unread]

/-- A script that cannot be decoded escapes, instead of being reported like one that cannot be
read. -/
theorem readScript_of_undecodable
    {name : Text}
    {bytes : Array UInt8}
    (named : request.scriptName? = some name)
    (fetched : fetch (Path.ofText name) = .ok bytes)
    (undecodable : Text.Utf8.decode? bytes.toList = none) :
    readScript fetch request.script = .error (.escaped .undecodable) := by
  rw [Request.scriptName?] at named
  rw [readScript, named]
  simp only [fetched, ofBytes?_eq_none_iff.mpr undecodable]

end

namespace Session

section

variable
  (surroundings : Surroundings)
  {request : Request}
  (accepted : Request.ofArguments surroundings.arguments = .ok request)

include accepted

/-! ## The order of the steps -/

/-- A session whose arguments are accepted. -/
theorem open?_eq :
    open? surroundings =
      match Settings.ofEnvironment surroundings.environment with
      | .error problem => .error (.over (refusal problem.message))
      | .ok inherited =>
          if request.lostSteps then
            .error (.escaped (.lostValue .maxSteps))
          else
            match inherited.override request.overrides with
            | .error problem => .error (.over (refusal problem.message))
            | .ok settings =>
                if request.lostLevel then
                  .error (.escaped (.lostValue .logLevel))
                else
                  match readScript surroundings.fetch request.script with
                  | .error opening => .error opening
                  | .ok script =>
                      match surroundings.fetch (Path.ofText request.image) with
                      | .error failure => .error (fileOpening failure)
                      | .ok bytes =>
                          .ok (ready surroundings settings script (Path.ofText request.image)
                            bytes) := by
  obtain ⟨image, name, overrides, lostSteps, lostLevel⟩ := request
  unfold open?
  rw [accepted]
  dsimp only [bind, Except.bind, Except.mapError]
  cases Settings.ofEnvironment surroundings.environment with
  | error problem => rfl
  | ok inherited =>
      cases lostSteps with
      | true => rfl
      | false =>
          dsimp only
          generalize inherited.override overrides = overridden
          cases overridden with
          | error problem => rfl
          | ok settings =>
              cases lostLevel with
              | true => rfl
              | false =>
                  generalize readScript surroundings.fetch name = scriptRead
                  generalize surroundings.fetch (Path.ofText image) = imageRead
                  cases scriptRead with
                  | error opening => rfl
                  | ok script => cases imageRead <;> rfl

/-! ## The three ways -/

/-- What is refused is answered by a refusal. -/
theorem start_of_refuses
    {words : Text}
    (refuses : Refuses surroundings.environment surroundings.fetch request words) :
    start surroundings = .over (refusal words) := by
  rw [start, open?_eq surroundings accepted]
  cases refuses with
  | environment refused => rw [refused]
  | overrides inherits keepsSteps refused => simp [inherits, keepsSteps, refused]
  | script configures named unread isSystem =>
      obtain ⟨⟨inherited, inherits, overridden⟩, keepsSteps, keepsLevel⟩ := configures
      simp [inherits, keepsSteps, overridden, keepsLevel, readScript_of_unread named unread,
        fileOpening, isSystem]
  | image configures hasScript unread isSystem =>
      obtain ⟨⟨inherited, inherits, overridden⟩, keepsSteps, keepsLevel⟩ := configures
      simp [inherits, keepsSteps, overridden, keepsLevel, readScript_of_hasScript hasScript, unread,
        fileOpening, isSystem]

/-- What the command line does not answer for escapes. -/
theorem start_of_evades
    {escape : Escape}
    (evades : Evades surroundings.environment surroundings.fetch request escape) :
    start surroundings = .escaped escape := by
  rw [start, open?_eq surroundings accepted]
  cases evades with
  | steps inherits lost => simp [inherits, lost]
  | level inherits keepsSteps overridden lost => simp [inherits, keepsSteps, overridden, lost]
  | script configures named unread notSystem =>
      obtain ⟨⟨inherited, inherits, overridden⟩, keepsSteps, keepsLevel⟩ := configures
      simp [inherits, keepsSteps, overridden, keepsLevel, readScript_of_unread named unread,
        fileOpening, notSystem]
  | undecodable configures named fetched undecodable =>
      obtain ⟨⟨inherited, inherits, overridden⟩, keepsSteps, keepsLevel⟩ := configures
      simp [inherits, keepsSteps, overridden, keepsLevel,
        readScript_of_undecodable named fetched undecodable]
  | image configures hasScript unread notSystem =>
      obtain ⟨⟨inherited, inherits, overridden⟩, keepsSteps, keepsLevel⟩ := configures
      simp [inherits, keepsSteps, overridden, keepsLevel, readScript_of_hasScript hasScript, unread,
        fileOpening, notSystem]

/-- If all is there, a machine is ready. -/
theorem start_of_prepared
    {settings : Settings}
    {script : Option Script}
    {bytes : Array UInt8}
    (prepared :
      Prepared surroundings.environment surroundings.fetch request settings script bytes) :
    start surroundings =
      .ready (ready surroundings settings script (Path.ofText request.image) bytes) := by
  obtain ⟨⟨⟨inherited, inherits, overridden⟩, keepsSteps, keepsLevel⟩, hasScript, fetched⟩ :=
    prepared
  rw [start, open?_eq surroundings accepted]
  simp [inherits, keepsSteps, overridden, keepsLevel, readScript_of_hasScript hasScript, fetched]

end

end Session

section

variable
  (environment : Environment)
  (fetch : Path -> Except FileFailure (Array UInt8))
  (request : Request)

/-- The ways in which a request is answered. -/
inductive Answered : Prop where
  /-- Something is refused. -/
  | refused {words : Text} (refuses : Refuses environment fetch request words)
  /-- The command line does not answer for something. -/
  | evaded {escape : Escape} (evades : Evades environment fetch request escape)
  /-- All is there. -/
  | prepared {settings : Settings} {script : Option Script} {bytes : Array UInt8}
      (prepared : Prepared environment fetch request settings script bytes)

/-- If the settings make sense, the files decide. -/
theorem answered_of_configures
    {settings : Settings}
    (configures : Configures environment request settings) :
    Answered environment fetch request := by
  have image (script : Option Script)
      (hasScript : HasScript fetch request script) : Answered environment fetch request := by
    cases imageRead : fetch (Path.ofText request.image) with
    | ok bytes => exact .prepared ⟨configures, hasScript, imageRead⟩
    | error failure =>
        cases isSystem : failure.isSystem with
        | true => exact .refused (.image configures hasScript imageRead isSystem)
        | false => exact .evaded (.image configures hasScript imageRead isSystem)
  cases named : request.scriptName? with
  | none => exact image none (.none named)
  | some name =>
      cases scriptRead : fetch (Path.ofText name) with
      | error failure =>
          cases isSystem : failure.isSystem with
          | true => exact .refused (.script configures named scriptRead isSystem)
          | false => exact .evaded (.script configures named scriptRead isSystem)
      | ok bytes =>
          cases decoded : Script.ofBytes? bytes.toList with
          | none =>
              exact .evaded (.undecodable configures named scriptRead
                (ofBytes?_eq_none_iff.mp decoded))
          | some script => exact image (some script) (.some named scriptRead decoded)

/-- A request is answered in one of the ways. -/
theorem Request.answered : Answered environment fetch request := by
  cases inherits : Settings.ofEnvironment environment with
  | error problem => exact .refused (.environment inherits)
  | ok inherited =>
      cases steps : request.lostSteps with
      | true => exact .evaded (.steps inherits steps)
      | false =>
          cases overridden : inherited.override request.overrides with
          | error problem => exact .refused (.overrides inherits steps overridden)
          | ok settings =>
              cases level : request.lostLevel with
              | true => exact .evaded (.level inherits steps overridden level)
              | false =>
                  exact answered_of_configures environment fetch request
                    ⟨⟨inherited, inherits, overridden⟩, steps, level⟩

variable {environment fetch request}

/-- If a file cannot be used, no machine is ready. -/
theorem not_prepared_of_unusable
    (unusable : Unusable fetch request)
    (settings : Settings)
    (script : Option Script)
    (bytes : Array UInt8) : ¬ Prepared environment fetch request settings script bytes := by
  rintro ⟨_, hasScript, fetched⟩
  cases unusable with
  | script named unread => cases hasScript <;> simp_all
  | undecodable named fetched undecodable =>
      rw [← ofBytes?_eq_none_iff] at undecodable
      cases hasScript <;> simp_all
  | image unread => simp_all

end

/-! ## Files that cannot be used -/

/-- The answer to a session that is refused: nothing is written but one line on the standard error
output. -/
structure Reports
    (words : Text)
    (conclusion : Conclusion) : Prop where
  /-- The exit code is the one for wrong usage. -/
  exitCode_eq : conclusion.exitCode = 2
  /-- Nothing is written on the standard output. -/
  output_eq : conclusion.output = ""
  /-- One line is written on the standard error output. -/
  errors_eq : conclusion.errors = (Text.ofLines [("synacor-vm: " : Text) ++ words]).shown

theorem reports_refusal (words : Text) : Reports words (refusal words) where
  exitCode_eq := rfl
  output_eq := rfl
  errors_eq := rfl

/-- If the script or the image cannot be read, or the script is no text, then no machine is ready.
The session is over with a report, unless it escapes, and this it does if a value vanished, if the
script is no text, or if a file has a name that no file can have.  Whichever it is, the standard
input and the standard output make no difference. -/
theorem reported_unless_evaded
    (surroundings : Surroundings)
    (request : Request)
    (accepted : Request.ofArguments surroundings.arguments = .ok request)
    (unusable : Unusable surroundings.fetch request) :
    let begins (input : LineFeed) (output : TextStream) :=
      Session.start { surroundings with input, output }
    (∃ words conclusion, Refuses surroundings.environment surroundings.fetch request words ∧
      Reports words conclusion ∧ ∀ input output, begins input output = .over conclusion) ∨
    ∃ escape, Evades surroundings.environment surroundings.fetch request escape ∧
      ∀ input output, begins input output = .escaped escape := by
  intro begins
  cases request.answered surroundings.environment surroundings.fetch with
  | @refused words refuses =>
      refine Or.inl ⟨words, refusal words, refuses, reports_refusal words, ?_⟩
      exact fun input output =>
        Session.start_of_refuses { surroundings with input, output } accepted refuses
  | @evaded escape evades =>
      refine Or.inr ⟨escape, evades, ?_⟩
      exact fun input output =>
        Session.start_of_evades { surroundings with input, output } accepted evades
  | prepared prepared => exact (not_prepared_of_unusable unusable _ _ _ prepared).elim

/-- An image is named, and there are no files. -/
def missingImage : Surroundings where
  arguments := ["prog.bin"]
  fetch := FileTree.empty.read

/-- A missing image is reported. -/
theorem reported_missingImage :
    let request : Request := { image := "prog.bin" }
    let words : Text := (FileFailure.missing (Path.ofText request.image)).message
    Request.ofArguments missingImage.arguments = .ok request ∧
      Unusable missingImage.fetch request ∧
      Session.start missingImage = .over (refusal words) ∧
      ∃ conclusion, conclusion.exitCode = 2 ∧
        ∀ input output,
          Session.start { missingImage with input, output } = .over conclusion := by
  intro request words
  have accepted : Request.ofArguments missingImage.arguments = .ok request := rfl
  have unusable : Unusable missingImage.fetch request := .image rfl
  have reported : Session.start missingImage = .over (refusal words) := rfl
  refine ⟨accepted, unusable, reported, ?_⟩
  rcases reported_unless_evaded missingImage request accepted unusable with
    ⟨_, conclusion, _, reports, begins⟩ | ⟨escape, _, begins⟩
  · exact ⟨conclusion, reports.exitCode_eq, begins⟩
  · cases reported.symm.trans (begins missingImage.input missingImage.output)

/-- The image of a program that writes what it reads, for ever. -/
def echoImage : Array UInt8 :=
  #[20, 0, 0, 128, 19, 0, 0, 128, 6, 0, 0, 0]

/-- A file of one byte that belongs to no text. -/
def undecodableFiles : FileTree :=
  FileTree.empty.write (Path.ofText "s.txt") #[0xFF]

/-- A script that is no text is named beside an image. -/
def undecodableScript : Surroundings where
  arguments := ["prog.bin", "--script", "s.txt"]
  fetch := (undecodableFiles.write (Path.ofText "prog.bin") echoImage).read

/-- A script that is no text is not reported. -/
theorem escapes_undecodableScript :
    let request : Request := { image := "prog.bin", script := some "s.txt" }
    Request.ofArguments undecodableScript.arguments = .ok request ∧
      Unusable undecodableScript.fetch request ∧
      Session.start undecodableScript = .escaped .undecodable ∧
      ¬ ∃ conclusion, Session.start undecodableScript = .over conclusion := by
  intro request
  have escapes : Session.start undecodableScript = .escaped .undecodable := rfl
  refine ⟨rfl, .undecodable rfl rfl rfl, escapes, ?_⟩
  rintro ⟨conclusion, isOver⟩
  cases escapes.symm.trans isOver

end CommandLine
end WordMachine
