import WordMachine.Proofs.BoundedRun
import WordMachine.Proofs.CommandLine.Console
import WordMachine.Proofs.CommandLine.Opening

/-!
# How a session ends

A session runs its machine on the console, flushes the terminal and leaves.  The exit code
tells how the run ended, the standard output has got the characters that the machine sent,
and the standard error output has got what was put on record, followed by a dump of the
machine as it was left.  All of this can be said of the loaded machine and the tape of its
input alone: `session_concludes`.
-/

namespace WordMachine

namespace Machine

open CommandLine

/-! ## Exit codes -/

/-- The exit code of a run that ended tells how the machine was left. -/
theorem exitCode_ofMachine
    (steps : Nat)
    (machine : Machine) :
    Session.exitCode (.ofMachine steps machine) =
      match machine.status with
      | .running => 3
      | .halted => 0
      | .faulted => 1 := by
  unfold Session.exitCode RunResult.ofMachine status fault?
  cases machine.condition <;> rfl

/-- A step is interrupted if the input is. -/
theorem isSome_interrupted_of_read
    {World : Type}
    {channels : Channels World}
    {machine : Machine}
    {world : World}
    {words : Text}
    (read : ChannelCall.read (.interrupted words) ∈ machine.channelCalls channels world) :
    (machine.step channels world).interrupted.isSome := by
  rw [(atomic_step channels machine world).interrupted_eq, List.findSome?_isSome_iff]
  exact ⟨_, read, rfl⟩

/-- In steps that are made one after the other, the input is not interrupted. -/
theorem Proceeds.not_read_interrupted
    {count : Nat}
    {machine : Machine}
    {taped : List (Reply Value) × Unit}
    (proceeds : machine.Proceeds tapeOnly count taped) :
    ¬ ∃ transition ∈ machine.history tapeOnly count taped,
      ∃ words, ChannelCall.read (.interrupted words) ∈ transition.calls := by
  rintro ⟨transition, member, words, read⟩
  have undisturbed := (proceeds transition member).2
  obtain ⟨machine, taped, rfl⟩ := Event.happens_history tapeOnly count machine taped _ member
  have interrupted := isSome_interrupted_of_read read
  change (machine.step tapeOnly taped).interrupted = none at undisturbed
  rw [undisturbed] at interrupted
  cases interrupted

/-- What disrupts a step on the console is an interruption of the input, on the tape as well. -/
theorem exists_interruption_of_disturbed
    {machine : Machine}
    {console : CommandLine.Console}
    {taped : List (Reply Value) × Unit}
    (playsTo : console.PlaysTo taped)
    {count : Nat}
    {disruption : Disruption}
    (disturbed : ((machine.afterSteps Console.channels count console).1.step Console.channels
      (machine.afterSteps Console.channels count console).2).interrupted = some disruption) :
    let last := machine.afterSteps tapeOnly count taped
    ∃ words, disruption = .interruption words ∧
      ChannelCall.read (.interrupted words) ∈ last.1.channelCalls tapeOnly last.2 := by
  intro last
  have stillPlays := (alike_afterSteps Console.alike_taped playsTo count machine).2
  exact exists_interruption_of_playsTo stillPlays
    ((interrupted_of_alike Console.alike_taped playsTo count).symm.trans disturbed)

/-- The steps that a run with a tape attempts before it comes back. -/
structure Attempts
    (budget : Option Int)
    (count : Nat)
    (machine : Machine)
    (taped : List (Reply Value) × Unit) : Prop where
  /-- Each of them finds the machine running. -/
  running : ∀ transition ∈ machine.history tapeOnly count taped,
    transition.before.condition = .running
  /-- None but the last is interrupted. -/
  undisturbed : ∀ transition ∈ (machine.history tapeOnly count taped).dropLast,
    transition.interrupted = none
  /-- The budget allows them. -/
  within : ∀ limit, budget = some limit -> (count : Int) ≤ limit

/-- What an exit code tells about a machine that was run with a tape: the steps that were attempted,
and the machine that was reached. -/
structure Exits
    (budget : Option Int)
    (attempts : List Transition)
    (reached : Machine)
    (exitCode : Nat) : Prop where
  /-- There are four exit codes. -/
  mem : exitCode ∈ [0, 1, 3, 130]
  /-- The program has ended. -/
  halted_iff : exitCode = 0 ↔ reached.status = .halted
  /-- The machine has faulted. -/
  faulted_iff : exitCode = 1 ↔ reached.status = .faulted
  /-- The machine still runs, and has executed as many instructions as the budget allows. -/
  limit_iff : exitCode = 3 ↔
    reached.status = .running ∧ budget = some (reached.executed : Int)
  /-- An interruption came out of the input. -/
  interrupted_iff : exitCode = 130 ↔
    ∃ transition ∈ attempts, ∃ words, ChannelCall.read (.interrupted words) ∈ transition.calls

section

variable
  {budget : Option Int}
  {count : Nat}
  {machine : Machine}
  {taped : List (Reply Value) × Unit}

/-- Where the loop runs to its end, it attempts the steps it completes. -/
theorem attempts_of_runsFor
    (positive : ∀ limit, budget = some limit -> 0 < limit)
    (runs : machine.RunsFor tapeOnly budget count taped) :
    machine.Attempts budget count taped where
  running := fun transition member => (runs.proceeds transition member).1
  undisturbed := fun transition member =>
    runs.proceeds.undisturbed transition (List.dropLast_subset _ member)
  within := by
    intro limit isBudget
    have isPositive := positive limit isBudget
    have within := runs.within limit isBudget
    omega

/-- Where a step is interrupted, the loop attempts one step more than it completes. -/
theorem attempts_of_interrupted
    (proceeds : machine.Proceeds tapeOnly count taped)
    (stillRunning : (machine.afterSteps tapeOnly count taped).1.condition = .running)
    (within : ∀ limit, budget = some limit -> (count : Int) < limit) :
    machine.Attempts budget (count + 1) taped where
  running := proceeds.running_of_mem_history stillRunning
  undisturbed := by
    rw [history_succ, List.dropLast_concat]
    exact proceeds.undisturbed
  within := within

variable (unexecuted : machine.executed = 0)

include unexecuted

/-- As long as no fault has come up, the instructions that were executed are as many as the steps
that were made. -/
theorem executed_afterSteps_of_unfaulted
    (proceeds : machine.Proceeds tapeOnly count taped)
    (unfaulted : (machine.afterSteps tapeOnly count taped).1.status ≠ .faulted) :
    (machine.afterSteps tapeOnly count taped).1.executed = count := by
  have executed := proceeds.executed_eq
  rwa [if_neg fun faults => unfaulted faults.2, unexecuted, Nat.zero_add] at executed

/-- The exit code of a complete run. -/
theorem exits_of_runsFor
    (positive : ∀ limit, budget = some limit -> 0 < limit)
    (runs : machine.RunsFor tapeOnly budget count taped) :
    let reached := (machine.afterSteps tapeOnly count taped).1
    Exits budget (machine.history tapeOnly count taped) reached
      (Session.exitCode (.ofMachine count reached)) := by
  intro reached
  have usedUp (running : reached.status = .running) : budget = some (reached.executed : Int) := by
    have executed : reached.executed = count :=
      executed_afterSteps_of_unfaulted unexecuted runs.proceeds (by rw [running]; decide)
    rcases runs.isOver with stopped | ⟨limit, isBudget, atMost⟩
    · exact absurd (status_eq_running_iff.mp running) stopped
    · have isPositive := positive limit isBudget
      have within := runs.within limit isBudget
      rw [isBudget, executed, show limit = count by omega]
  rw [exitCode_ofMachine]
  exact {
    mem := by cases reached.status <;> decide
    halted_iff := by cases reached.status <;> decide
    faulted_iff := by cases reached.status <;> decide
    limit_iff := by
      rw [and_iff_left_of_imp usedUp]
      cases reached.status <;> decide
    interrupted_iff := by
      refine iff_of_false ?_ runs.proceeds.not_read_interrupted
      cases reached.status <;> decide }

/-- The exit code of an interrupted run. -/
theorem exits_of_interrupted
    (proceeds : machine.Proceeds tapeOnly count taped)
    (stillRunning : (machine.afterSteps tapeOnly count taped).1.condition = .running)
    (within : ∀ limit, budget = some limit -> (count : Int) < limit)
    {words : Text}
    (read : ChannelCall.read (.interrupted words) ∈
      (machine.afterSteps tapeOnly count taped).1.channelCalls tapeOnly
        (machine.afterSteps tapeOnly count taped).2) :
    Exits budget (machine.history tapeOnly (count + 1) taped)
      (machine.afterSteps tapeOnly (count + 1) taped).1 130 := by
  let last := machine.afterSteps tapeOnly count taped
  have unchanged : (machine.afterSteps tapeOnly (count + 1) taped).1 = last.1 := by
    rw [afterSteps_add, afterSteps, afterSteps]
    exact (atomic_step tapeOnly last.1 last.2).unchanged_of_interrupted
      (isSome_interrupted_of_read read)
  have running : last.1.status = .running := status_eq_running_iff.mpr stillRunning
  have executed : last.1.executed = count :=
    executed_afterSteps_of_unfaulted unexecuted proceeds (running ▸ by decide)
  rw [unchanged, history_succ]
  exact {
    mem := by decide
    halted_iff := by rw [running]; decide
    faulted_iff := by rw [running]; decide
    limit_iff := by
      rw [executed]
      refine iff_of_false (by decide) ?_
      exact fun usedUp => Int.lt_irrefl _ (within _ usedUp.2)
    interrupted_iff := by
      exact iff_of_true rfl
        ⟨_, List.mem_append_right _ (List.mem_singleton_self _), words, read⟩ }

end

end Machine

namespace CommandLine

/-! ## What a session leaves -/

/-- Lines may be joined to a text in portions. -/
theorem ofLines_append (lines others : List Text) :
    Text.ofLines (lines ++ others) = Text.ofLines lines ++ Text.ofLines others := by
  ext1
  simp [Text.ofLines, Text.join]

/-- The lines of a dump, if it is wanted. -/
def dumpLines
    (wanted : Bool)
    (machine : Machine) : List Text :=
  if wanted then ["", machine.snapshot.dump] else []

/-- The text on the standard error output is what a journal has kept, and after it the dump, if it
is wanted. -/
def Tells
    (journal : Journal)
    (wanted : Bool)
    (machine : Machine)
    (errors : String) : Prop :=
  errors = (Text.ofLines (journal.toList.map Notice.line ++ dumpLines wanted machine)).shown

/-- What is told about a run that has come back after some steps: its outcome, unless it was
interrupted. -/
def outcomeNotices
    (budget : Option Int)
    (steps : Nat)
    (machine : Machine)
    (exitCode : Nat) : List Notice :=
  if exitCode = 130 then [] else [System.closing budget steps machine]

/-- What is told about an interruption of a run. -/
def interruptionNotices
    (origin : Origin)
    (machine : Machine)
    (exitCode : Nat) : List Notice :=
  if exitCode = 130 then [.runInterrupted origin machine.pc] else []

/-- What is told in a session that attempts so many steps and ends with an exit code: how the image
was loaded, what the steps are logged with, the outcome of the run, what the terminal tells as it is
flushed, and an interruption. -/
def sessionNotices
    (surroundings : Surroundings)
    (request : Request)
    (settings : Settings)
    (script : Option Script)
    (bytes : Array UInt8)
    (attempts exitCode : Nat) : List Notice :=
  let loaded := Machine.fresh.loadImage bytes
  let console := Console.new script surroundings.input surroundings.output
  let last := loaded.afterSteps Console.channels attempts console
  (.imageRead bytes.size (Path.ofText request.image).display :: Image.loadNotices bytes) ++
    (loaded.history Console.channels attempts console).flatMap
      (Transition.logged (settings.trace = some true)) ++
    outcomeNotices settings.maxSteps attempts last.1 exitCode ++
    last.2.terminal.flush.1.notices ++
    interruptionNotices surroundings.origin last.1 exitCode

namespace Session

/-- What a session leaves behind on the error stream is its journal, and the dump if one is
asked for. -/
theorem tells_leave
    (session : Session)
    (exitCode : Nat) :
    Tells session.system.journal session.dumpState session.system.machine
      (session.leave exitCode).errors := by
  refine congrArg Text.shown ?_
  unfold errorText recorded dumpLines
  split
  · rw [ofLines_append]
  · rw [List.append_nil]

/-- The exit code of a session whose run comes back, unless the run can be continued or broke off
with a failure. -/
def exitCode? : RunReply -> Option Nat
  | .finished result => some (exitCode result)
  | .interrupted (.interruption _) _ => some 130
  | .interrupted (.failure _) _ | .unfinished _ => none

/-- No run that ended has the exit code of an interrupted session. -/
theorem exitCode_ne (result : RunResult) : exitCode result ≠ 130 := by
  unfold exitCode
  split
  · decide
  · split <;> decide

/-- However a session ends, it leaves what the terminal has written, what the journal has kept, to
which the end of the session is added, and a dump of the machine. -/
theorem leaves_of_conclude
    {session : Session}
    {reply : RunReply}
    {conclusion : Conclusion}
    (concluded : session.conclude reply = some conclusion) :
    exitCode? reply = some conclusion.exitCode ∧
      conclusion.output = session.system.world.terminal.stream.written ∧
      Tells
        (session.system.journal.recordAll
          (session.system.world.terminal.flush.1.notices ++
            interruptionNotices session.origin session.system.machine conclusion.exitCode))
        session.dumpState session.system.machine conclusion.errors := by
  have written : session.flush.system.world.terminal.stream.written =
      session.system.world.terminal.stream.written :=
    session.system.world.terminal.written_flush
  rw [Journal.recordAll_append]
  match reply with
  | .finished result =>
      cases concluded
      have uninterrupted : interruptionNotices session.origin session.system.machine
          (exitCode result) = [] := if_neg (exitCode_ne result)
      refine ⟨rfl, written, ?_⟩
      change Tells (Journal.recordAll _ (interruptionNotices _ _ (exitCode result))) _ _ _
      rw [uninterrupted]
      exact tells_leave session.flush (exitCode result)
  | .interrupted (.interruption words) steps =>
      cases concluded
      exact ⟨rfl, written, tells_leave _ 130⟩
  | .interrupted (.failure failure) steps => cases concluded
  | .unfinished steps => cases concluded

/-- How a session ends, if so much fuel suffices. -/
def complete?
    (session : Session)
    (fuel : Nat) : Option Conclusion :=
  let (reply, session) := session.advance fuel 0
  session.conclude reply

/-- A session ends if its run comes back. -/
theorem exists_complete_iff
    {session : Session}
    {taped : List (Reply Value) × Unit}
    (playsTo : session.system.world.PlaysTo taped) :
    (∃ fuel conclusion, session.complete? fuel = some conclusion) ↔
      ∃ count, session.system.machine.ComesBackAfter Console.channels session.options.budget
        session.system.world count := by
  rw [← System.exists_fuel_iff]
  refine exists_congr fun fuel => ?_
  have comes := System.comes_run Console.channels session.options 0 session.system fuel
  unfold complete? advance
  generalize session.system.run Console.channels session.options fuel 0 = result at comes ⊢
  cases comes with
  | finished => exact iff_of_true ⟨_, rfl⟩ fun made => RunReply.noConfusion
  | interrupted goesOn fits unfinished disturbed =>
      obtain ⟨words, rfl, _⟩ := Machine.exists_interruption_of_disturbed playsTo disturbed
      exact iff_of_true ⟨_, rfl⟩ fun made => RunReply.noConfusion
  | unfinished =>
      refine iff_of_false ?_ fun never => never _ rfl
      rintro ⟨conclusion, impossible⟩
      cases impossible

end Session

/-- What a session comes to whose arguments are a request: how it ends, which machine is reached in
how many steps from the one that was loaded, and which notices were given to the journal. -/
structure Concluded
    (surroundings : Surroundings)
    (request : Request)
    (settings : Settings)
    (tape : List (Reply Value))
    (loaded : Machine)
    (notices : List Notice)
    (attempts : Nat)
    (reached : Machine)
    (conclusion : Conclusion) : Prop where
  /-- The steps lead to the machine. -/
  reached_eq : reached = (loaded.afterSteps tapeOnly attempts (tape, ())).1
  /-- They are attempted one after the other, as the budget allows. -/
  attempted : loaded.Attempts settings.maxSteps attempts (tape, ())
  /-- The exit code tells how the steps ended. -/
  exits : reached.Exits settings.maxSteps (loaded.history tapeOnly attempts (tape, ()))
    conclusion.exitCode
  /-- The standard output has kept what was sent until there was trouble. -/
  output : ∃ kept,
    surroundings.output.Keeps
      (((loaded.history tapeOnly attempts (tape, ())).flatMap Transition.sent).map fun code =>
        CodePoint.ofNat code.toNat) kept ∧
      conclusion.output = ⟨surroundings.output.written.points ++ kept⟩
  /-- Of the notices those are told that the settings admit, and after them the machine is dumped,
  unless the request says that it is not. -/
  tells : Tells (({ verbosity := verbosity settings } : Journal).recordAll notices)
    (request.overrides.dumpState ≠ some false) reached conclusion.errors

section

variable
  {script : Option Script}
  {input : LineFeed}
  {output : TextStream}
  (absorbable : output.Absorbable)

include absorbable

/-- A console is as good as its tape. -/
theorem playsTo_new :
    (Console.new script input output).PlaysTo (inputTape script input, ()) :=
  ⟨Console.holds_new script input output, absorbable⟩

/-- The standard output keeps what is sent until there is trouble. -/
theorem exists_keeps_afterSteps
    (machine : Machine)
    (count : Nat) :
    ∃ kept,
      output.Keeps
        (((machine.history tapeOnly count (inputTape script input, ())).flatMap
          Transition.sent).map fun code => CodePoint.ofNat code.toNat) kept ∧
        (machine.afterSteps Console.channels count
          (Console.new script input output)).2.terminal.stream.written =
            ⟨output.written.points ++ kept⟩ := by
  have playsTo : (Console.new script input output).PlaysTo (inputTape script input, ()) :=
    playsTo_new absorbable
  obtain ⟨words, sent, _⟩ := Machine.exists_words_sent
    (Event.happens_history tapeOnly count machine (inputTape script input, ()))
  obtain ⟨kept, keeps, latestFirst⟩ := Terminal.exists_keeps absorbable words
  refine ⟨kept, ?_, ?_⟩
  · rw [sent, List.map_map]
    exact keeps
  · rw [Machine.terminal_afterSteps playsTo, Machine.flatMap_sent_eq playsTo, sent]
    unfold TextStream.written
    rw [Console.new, latestFirst]
    simp

end

/-- A run comes back when it has attempted some steps, the exit code tells how they ended, and the
journal is given what they are logged with, and the outcome of a complete run. -/
theorem exists_exits_of_comes
    {system : System Console}
    {taped : List (Reply Value) × Unit}
    (playsTo : system.world.PlaysTo taped)
    (unexecuted : system.machine.executed = 0)
    {options : RunOptions}
    (positive : ∀ limit, options.budget = some limit -> 0 < limit)
    {fuel exitCode : Nat}
    {result : RunReply × System Console}
    (comes : system.Comes Console.channels options fuel 0 result)
    (leaves : Session.exitCode? result.1 = some exitCode) :
    ∃ attempts,
      result.2.machine = (system.machine.afterSteps tapeOnly attempts taped).1 ∧
      (result.2.machine, result.2.world) =
        system.machine.afterSteps Console.channels attempts system.world ∧
      result.2.journal = system.journal.recordAll
        ((system.machine.history Console.channels attempts system.world).flatMap
            (Transition.logged options.trace) ++
          outcomeNotices options.budget attempts result.2.machine exitCode) ∧
      system.machine.Attempts options.budget attempts taped ∧
      result.2.machine.Exits options.budget
        (system.machine.history tapeOnly attempts taped) exitCode := by
  -- The console and its tape take the machine through the same states.
  have same (count : Nat) :=
    (Machine.alike_afterSteps Console.alike_taped playsTo count system.machine).1
  cases comes with
  | @finished count result notice goesOn fits ending =>
      have runs := (goesOn.runsFor ending).of_alike Console.alike_taped playsTo
      rw [Nat.zero_add] at ending
      obtain ⟨_, rfl, rfl⟩ := System.ending?_eq_some_iff.mp ending
      have exits := Machine.exits_of_runsFor unexecuted positive runs
      rw [← same] at exits
      cases leaves
      refine ⟨count, same count, rfl, ?_, Machine.attempts_of_runsFor positive runs, exits⟩
      rw [outcomeNotices, if_neg (Session.exitCode_ne _), Journal.recordAll_append]
      rfl
  | @interrupted count disruption goesOn fits unfinished disturbed =>
      have proceeds := goesOn.proceeds.of_alike Console.alike_taped playsTo
      obtain ⟨stillRunning, within⟩ := System.ending?_eq_none_iff.mp unfinished
      rw [Nat.zero_add] at within
      rw [System.proceeded, same] at stillRunning
      obtain ⟨words, rfl, read⟩ := Machine.exists_interruption_of_disturbed playsTo disturbed
      have exits := Machine.exits_of_interrupted unexecuted proceeds stillRunning within read
      rw [← same] at exits
      cases leaves
      -- The step that was interrupted counts as an attempt.
      refine ⟨count + 1, same (count + 1), rfl, ?_,
        Machine.attempts_of_interrupted proceeds stillRunning within, exits⟩
      rw [outcomeNotices, if_pos rfl, List.append_nil]
      rfl
  | unfinished => cases leaves

/-- What the journal of a session has been given after the run, and what it is given at the end, is
all that is told in the session. -/
theorem recordAll_sessionNotices
    {surroundings : Surroundings}
    {request : Request}
    {settings : Settings}
    {script : Option Script}
    {bytes : Array UInt8}
    {attempts exitCode : Nat}
    {system : System Console}
    (state : (system.machine, system.world) =
      (Machine.fresh.loadImage bytes).afterSteps Console.channels attempts
        (Console.new script surroundings.input surroundings.output))
    (journal : system.journal =
      (Session.ready surroundings settings script (Path.ofText request.image)
          bytes).system.journal.recordAll
        (((Machine.fresh.loadImage bytes).history Console.channels attempts
            (Console.new script surroundings.input surroundings.output)).flatMap
              (Transition.logged (settings.trace = some true)) ++
          outcomeNotices settings.maxSteps attempts system.machine exitCode)) :
    system.journal.recordAll
        (system.world.terminal.flush.1.notices ++
          interruptionNotices surroundings.origin system.machine exitCode) =
      ({ verbosity := verbosity settings } : Journal).recordAll
        (sessionNotices surroundings request settings script bytes attempts exitCode) := by
  unfold sessionNotices
  dsimp only
  rw [journal, ← state]
  simp only [Session.ready, Journal.recordAll_append]

/-- If all that a request asks for is there, a session is ready.  It ends if the steps with its tape
lead to the end of a run or to an interruption, and this is what it comes to whenever it does. -/
theorem session_concludes
    (surroundings : Surroundings)
    {request : Request}
    {settings : Settings}
    {script : Option Script}
    {bytes : Array UInt8}
    (accepted : Request.ofArguments surroundings.arguments = .ok request)
    (prepared :
      Prepared surroundings.environment surroundings.fetch request settings script bytes)
    (absorbable : surroundings.output.Absorbable) :
    let tape := inputTape script surroundings.input
    let loaded := Machine.fresh.loadImage bytes
    ∃ session, Session.start surroundings = .ready session ∧
      ((∃ fuel conclusion, session.complete? fuel = some conclusion) ↔
        ∃ count, loaded.ComesBackAfter tapeOnly settings.maxSteps (tape, ()) count) ∧
      ∀ fuel conclusion, session.complete? fuel = some conclusion ->
        ∃ attempts, Concluded surroundings request settings tape loaded
          (sessionNotices surroundings request settings script bytes attempts conclusion.exitCode)
          attempts (session.advance fuel 0).2.system.machine conclusion := by
  intro tape loaded
  let session := Session.ready surroundings settings script (Path.ofText request.image) bytes
  have playsTo : session.system.world.PlaysTo (tape, ()) := playsTo_new absorbable
  refine ⟨session, Session.start_of_prepared surroundings accepted prepared, ?_, ?_⟩
  · rw [Session.exists_complete_iff playsTo]
    exact exists_congr fun count =>
      Machine.comesBackAfter_iff_of_alike Console.alike_taped playsTo settings.maxSteps
  · intro fuel conclusion completed
    have comes := System.comes_run Console.channels session.options 0 session.system fuel
    obtain ⟨leaves, written, tells⟩ := Session.leaves_of_conclude completed
    obtain ⟨attempts, reached, state, journal, attempted, exits⟩ :=
      exists_exits_of_comes playsTo rfl prepared.configures.positive comes leaves
    obtain ⟨kept, keeps, left⟩ := exists_keeps_afterSteps absorbable loaded attempts
    have world := congrArg Prod.snd state
    exact ⟨attempts, {
      reached_eq := reached
      attempted
      exits
      output := ⟨kept, keeps, by
        rw [written, ← left]
        exact congrArg (fun console => console.terminal.stream.written) world⟩
      tells := by
        rw [← recordAll_sessionNotices state journal, ← prepared.configures.dumpState_eq]
        exact tells }⟩

/-- The image of a program that writes a letter and halts. -/
def singleLetter : Array UInt8 :=
  #[19, 0, 65, 0, 0, 0]

/-- The image is to be run for two steps. -/
def twoSteps : Surroundings where
  arguments := ["prog.bin", "--max-steps", "2"]
  fetch := (FileTree.empty.write (Path.ofText "prog.bin") singleLetter).read

theorem loadImage_singleLetter :
    Machine.fresh.loadImage singleLetter =
      { Machine.fresh with memory := (Memory.empty.set 0 19).set 1 65 } := by
  have words : Image.decode singleLetter = [19, 65, 0] := by decide
  have cells : Memory.empty.load [19, 65, 0] = (Memory.empty.set 0 19).set 1 65 := by
    ext1 address
    rw [Memory.get_load, Memory.get_set, Memory.get_set, Memory.get_empty]
    match address with
    | ⟨0, _⟩ => rfl
    | ⟨1, _⟩ => rfl
    | ⟨2, _⟩ => rfl
    | ⟨address + 3, _⟩ => simp [Fin.ext_iff]
  unfold Machine.loadImage Machine.load
  rw [words, Machine.fresh, cells]

/-- A program that halts in the last step of its budget ends well. -/
theorem session_concludes_twoSteps :
    let request : Request := { image := "prog.bin", overrides := { maxSteps := some 2 } }
    let loaded := Machine.fresh.loadImage singleLetter
    Request.ofArguments twoSteps.arguments = .ok request ∧
      Prepared twoSteps.environment twoSteps.fetch request { maxSteps := some 2 } none
        singleLetter ∧
      twoSteps.output.Absorbable ∧
      ∃ session conclusion, Session.start twoSteps = .ready session ∧
        session.complete? 2 = some conclusion ∧
        conclusion.exitCode = 0 ∧ conclusion.output = "A" ∧
        ∃ attempts, Concluded twoSteps request { maxSteps := some 2 } (inputTape none {}) loaded
          (sessionNotices twoSteps request { maxSteps := some 2 } none singleLetter attempts
            conclusion.exitCode)
          attempts (session.advance 2 0).2.system.machine conclusion := by
  intro request loaded
  have accepted : Request.ofArguments twoSteps.arguments = .ok request := rfl
  have prepared : Prepared twoSteps.environment twoSteps.fetch request { maxSteps := some 2 } none
      singleLetter :=
    ⟨⟨⟨{}, rfl, rfl⟩, rfl, rfl⟩, .none rfl, rfl⟩
  have absorbable : twoSteps.output.Absorbable := ⟨fun _ => trivial, fun _ => trivial⟩
  obtain ⟨session, isReady, _, concludes⟩ :=
    session_concludes twoSteps accepted prepared absorbable
  have completes : (session.complete? 2).map (fun conclusion =>
      (conclusion.exitCode, conclusion.output)) = some (0, ("A" : Text)) := by
    rw [Opening.ready.inj (isReady.symm.trans (Session.start_of_prepared _ accepted prepared))]
    unfold Session.ready
    rw [loadImage_singleLetter]
    rfl
  obtain ⟨conclusion, completed, ends⟩ := Option.map_eq_some_iff.mp completes
  obtain ⟨exitCode, output⟩ := Prod.mk.inj ends
  exact ⟨accepted, prepared, absorbable, session, conclusion, isReady, completed, exitCode, output,
    concludes 2 conclusion completed⟩

end CommandLine
end WordMachine
