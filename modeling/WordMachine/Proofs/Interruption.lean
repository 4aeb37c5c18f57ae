import WordMachine.Proofs.BoundedRun
import WordMachine.Proofs.ChainedInput
import WordMachine.Proofs.Resumption

/-!
# Interrupted input

However many interruptions are put between the lines of the input, and wherever they
are: if whatever was interrupted is asked for again, be it a single step or a run, then
nothing is lost but attempts.  `System.persist_eq_afterSteps` is about runs, and
`Machine.resumes_interrupted` about machines that read a script and then lines.
-/

namespace WordMachine

variable {World : Type}

/-! ## Runs that are taken up again -/

namespace System

/-- Runs, and runs again whenever the run is interrupted, until so many steps have been attempted
or the run is complete. -/
def persist
    (channels : Channels World)
    (options : RunOptions)
    (attempts : Nat)
    (system : System World) : System World :=
  match system.run channels options attempts 0 with
  | (.interrupted _ steps, after) =>
      if steps < attempts then
        after.persist channels options (attempts - (steps + 1))
      else
        after
  | (.finished _, after) | (.unfinished _, after) => after
termination_by attempts

/-- How a run without a budget comes back. -/
inductive RunEnds
    (channels : Channels World)
    (system : System World)
    (fuel steps : Nat) : RunReply × System World -> Prop where
  /-- The run is interrupted when it attempts a step. -/
  | interrupted (disruption : Disruption) (count : Nat) (after : System World)
      (fits : count < fuel)
      (state_eq : (after.machine, after.world) =
        system.machine.afterSteps channels (count + 1) system.world) :
      RunEnds channels system fuel steps (.interrupted disruption (steps + count), after)
  /-- The run is complete, and the other steps would change nothing. -/
  | finished (result : RunResult) (after : System World)
      (state_eq : (after.machine, after.world) =
        system.machine.afterSteps channels fuel system.world) :
      RunEnds channels system fuel steps (.finished result, after)
  /-- All steps are made. -/
  | unfinished (made : Nat) (after : System World)
      (state_eq : (after.machine, after.world) =
        system.machine.afterSteps channels fuel system.world) :
      RunEnds channels system fuel steps (.unfinished made, after)

/-- A run without a budget is at its end only if the machine does not run. -/
theorem stopped_of_ending
    {options : RunOptions}
    (unlimited : options.budget = none)
    {steps : Nat}
    {machine : Machine}
    {conclusion : RunResult × Notice}
    (ending : ending? options steps machine = some conclusion) :
    machine.condition ≠ .running := by
  intro running
  rw [ending?, running, RunOptions.exhaustedBy, unlimited] at ending
  cases ending

theorem ends_run
    (channels : Channels World)
    {options : RunOptions}
    (unlimited : options.budget = none)
    (fuel steps : Nat)
    (system : System World) :
    RunEnds channels system fuel steps (system.run channels options fuel steps) := by
  have comes := comes_run channels options steps system fuel
  generalize system.run channels options fuel steps = result at comes ⊢
  cases comes with
  | @finished count result notice goesOn fits ending =>
      obtain ⟨more, rfl⟩ := Nat.exists_eq_add_of_le fits
      have rests := (Machine.history_of_stopped (stopped_of_ending unlimited ending) channels more
        (system.proceeded channels options.trace count).world).2
      refine .finished result _ ?_
      rw [Machine.afterSteps_add]
      exact rests.symm
  | @interrupted count disruption goesOn fits unfinished disturbed =>
      exact .interrupted disruption count _ fits rfl
  | unfinished goesOn unfinished => exact .unfinished _ _ rfl

/-- However often a run is taken up again, its steps are those that are attempted one by one. -/
theorem persist_eq_afterSteps
    (channels : Channels World)
    {options : RunOptions}
    (unlimited : options.budget = none)
    (attempts : Nat)
    (system : System World) :
    ((system.persist channels options attempts).machine,
        (system.persist channels options attempts).world) =
      system.machine.afterSteps channels attempts system.world := by
  induction attempts using Nat.strongRecOn generalizing system with
  | ind attempts inductionHypothesis =>
      have ends := ends_run channels unlimited attempts 0 system
      unfold persist
      generalize system.run channels options attempts 0 = result at ends ⊢
      cases ends with
      | interrupted disruption count after fits state_eq =>
          have rest := inductionHypothesis (attempts - (count + 1)) (by omega) after
          have whole : attempts = count + 1 + (attempts - (count + 1)) := by omega
          rw [Nat.zero_add]
          dsimp only
          rw [if_pos fits, rest]
          conv => rhs; rw [whole, Machine.afterSteps_add, ← state_eq]
      | finished result after state_eq => exact state_eq
      | unfinished made after state_eq => exact state_eq

end System

/-! ## Lines with interruptions -/

/-- Characters disrupt nothing. -/
theorem countP_map_reply (points : List CodePoint) :
    (points.map CodePoint.reply).countP Reply.disrupts = 0 := by
  refine List.countP_eq_zero.mpr fun reply isReply => ?_
  obtain ⟨point, _, rfl⟩ := List.mem_map.mp isReply
  rw [CodePoint.reply, Reply.disrupts, CodePoint.disruption?_toNat]
  exact Bool.false_ne_true

theorem countP_flatMap_characters (outcomes : List (Reply Text)) :
    (outcomes.flatMap Reply.characters).countP Reply.disrupts =
      outcomes.countP Reply.isInterruption := by
  have single (outcome : Reply Text) : outcome.characters.countP Reply.disrupts =
      if outcome.isInterruption then 1 else 0 := by
    cases outcome with
    | done line =>
        obtain ⟨points⟩ := line
        cases points with
        | nil => rfl
        | cons point points => exact countP_map_reply (point :: points)
    | failed failure => rfl
    | interrupted words => rfl
  induction outcomes with
  | nil => rfl
  | cons outcome outcomes inductionHypothesis =>
      rw [List.flatMap_cons, List.countP_append, inductionHypothesis, single, List.countP_cons,
        Nat.add_comm]

namespace Desk

/-- A desk with a chain of a script and of lines that come in as they may. -/
def withLines
    (text : Text)
    (outcomes : List (Reply Text))
    (sinks : Array Sink) : Desk :=
  chained [.script (.ofText text), .lines { feed := { outcomes } }] sinks

/-- What the script and the lines have in store before they end. -/
def linesTape
    (text : Text)
    (outcomes : List (Reply Text)) : List (Reply Value) :=
  text.points.map CodePoint.reply ++ (outcomes.flatMap Reply.characters).takeWhile (!·.isEnd)

theorem delivers_withLines
    (text : Text)
    (outcomes : List (Reply Text))
    (sinks : Array Sink) :
    (withLines text outcomes sinks).Delivers 2 Chain.exhausted (linesTape text outcomes) := by
  have simple : ∀ part ∈ [Source.script (.ofText text), .lines { feed := { outcomes } }],
      part.IsSimple := by
    simp [Source.IsSimple]
  have script : (Source.script (.ofText text)).tape.takeWhile (!·.isEnd) =
      text.points.map CodePoint.reply :=
    (Supply.script text).takeWhile_tape_source
  have delivers := delivers_chained sinks simple
  rw [List.flatMap_cons, List.flatMap_singleton, script] at delivers
  exact delivers

theorem countP_linesTape_le
    (text : Text)
    (outcomes : List (Reply Text)) :
    (linesTape text outcomes).countP Reply.disrupts ≤
      outcomes.countP Reply.isInterruption := by
  rw [linesTape, List.countP_append, countP_map_reply, Nat.zero_add, ← countP_flatMap_characters]
  exact (List.takeWhile_sublist _).countP_le

end Desk

namespace Machine

/-- So many attempts come to the same with a source and with its tape. -/
theorem attempts_of_delivers
    {input : Nat}
    {desk bench : Desk}
    {ending : Failure}
    {tape : List (Reply Value)}
    (delivers : desk.Delivers input ending tape)
    (sameSinks : bench.sinks = desk.sinks)
    (output : Option Nat)
    (machine : Machine)
    (attempts : Nat) :
    let channels := Desk.channels (some input) output
    let taped := (Desk.channels none output).taped ending
    machine.returned channels attempts desk = machine.returned taped attempts (tape, bench) ∧
      machine.interruptedWrites channels attempts desk =
        machine.interruptedWrites taped attempts (tape, bench) ∧
      (machine.afterSteps channels attempts desk).1 =
        (machine.afterSteps taped attempts (tape, bench)).1 ∧
      (machine.afterSteps channels attempts desk).2.sinks =
        (machine.afterSteps taped attempts (tape, bench)).2.2.sinks := by
  intro channels taped
  obtain ⟨history, reached, sinks⟩ :=
    taped_of_delivers delivers sameSinks output machine attempts
  exact ⟨congrArg (List.filter Transition.returns) history,
    congrArg (List.countP Transition.isInterruptedWrite) history, reached, sinks⟩

/-- A machine resumes with a source that has more interruptions in store. -/
theorem resumes_of_delivers
    {input : Nat}
    {desk other : Desk}
    {ending : Failure}
    {tape otherTape : List (Reply Value)}
    (delivers : desk.Delivers input ending tape)
    (otherDelivers : other.Delivers input ending otherTape)
    (sameSinks : desk.sinks = other.sinks)
    (interspersed : Interspersed tape otherTape)
    (output : Option Nat)
    (machine : Machine) :
    Resumes Desk.sinks (Desk.channels (some input) output) machine desk other := by
  have resumes := resumes_taped (Desk.channels none output) ending interspersed machine desk
  have plays := attempts_of_delivers delivers rfl output machine
  have otherPlays := attempts_of_delivers otherDelivers sameSinks output machine
  -- Either desk can be replaced by its tape, for which this is known.
  have equallyFar {attempts more : Nat}
      (taped : EquallyFar Prod.snd ((Desk.channels none output).taped ending) machine
        (tape, desk) (otherTape, desk) attempts more) :
      EquallyFar Desk.sinks (Desk.channels (some input) output) machine desk other
        attempts more := by
    obtain ⟨returned, writes, reached, sinks⟩ := plays attempts
    obtain ⟨otherReturned, otherWrites, otherReached, otherSinks⟩ := otherPlays more
    exact {
      machine_eq := by rw [reached, otherReached, taped.machine_eq]
      view_eq := by rw [sinks, otherSinks, taped.view_eq]
      returned_eq := by rw [returned, otherReturned, taped.returned_eq]
      writes_eq := by rw [writes, otherWrites, taped.writes_eq] }
  exact {
    reached := by
      intro attempts
      obtain ⟨more, atLeast, taped⟩ := resumes.reached attempts
      exact ⟨more, atLeast, equallyFar taped⟩
    only := by
      intro more
      obtain ⟨attempts, atMost, taped⟩ := resumes.only more
      exact ⟨attempts, atMost, equallyFar taped⟩
    determined := by
      intro attempts more length
      obtain ⟨returned, writes, reached, sinks⟩ := plays attempts
      obtain ⟨otherReturned, otherWrites, otherReached, otherSinks⟩ := otherPlays more
      rw [returned, otherReturned] at length ⊢
      rw [writes, otherWrites, reached, otherReached, sinks, otherSinks]
      obtain ⟨same, sameMachine, seen⟩ := resumes.determined attempts more length
      exact ⟨same, sameMachine,
        fun unwritten otherUnwritten => congrArg Desk.sinks (seen unwritten otherUnwritten)⟩ }

/-- However many steps are to return, so many do, and each interruption costs one attempt at most,
unless writes are interrupted too. -/
theorem exists_attempts_withLines
    (machine : Machine)
    (text : Text)
    (sinks : Array Sink)
    (output : Option Nat)
    (outcomes : List (Reply Text))
    (count : Nat) :
    let channels := Desk.channels (some 2) output
    let desk := Desk.withLines text outcomes sinks
    let enough := count + outcomes.countP Reply.isInterruption
    machine.interruptedWrites channels enough desk = 0 ->
      ∃ attempts, attempts ≤ enough ∧
        (machine.returned channels attempts desk).length = count := by
  intro channels desk enough unwritten
  have taped := attempts_le_taped (Desk.channels none output) Chain.exhausted enough machine
    (Desk.linesTape text outcomes) desk
  have fewer := Desk.countP_linesTape_le text outcomes
  obtain ⟨returned, writes, _⟩ :=
    attempts_of_delivers (Desk.delivers_withLines text outcomes sinks) rfl output machine enough
  rw [← returned, ← writes] at taped
  change enough ≤ (machine.returned channels enough desk).length +
    (Desk.linesTape text outcomes).countP Reply.disrupts +
    machine.interruptedWrites channels enough desk at taped
  exact exists_attempts (by omega)

/-- A machine reads a script and then lines.  If interruptions are put between the lines, and
whatever is interrupted is asked for again, be it a step or a run, then the machine does the same
all the same: when so many steps have returned, it is in the same state and has written the same.
Nothing is lost but attempts, one for each interruption. -/
theorem resumes_interrupted
    (machine : Machine)
    (text : Text)
    (sinks : Array Sink)
    (output : Option Nat)
    (outcomes others : List (Reply Text))
    (interspersed : Interspersed outcomes others) :
    let channels := Desk.channels (some 2) output
    let desk := Desk.withLines text outcomes sinks
    let disturbed := Desk.withLines text others sinks
    Resumes Desk.sinks channels machine desk disturbed ∧
      (∀ count,
        let enough := count + others.countP Reply.isInterruption
        machine.interruptedWrites channels enough disturbed = 0 ->
          ∃ attempts, attempts ≤ enough ∧
            (machine.returned channels attempts disturbed).length = count) ∧
      ∀ journal options attempts, options.budget = none ->
        let start : System Desk := { machine, world := disturbed, journal }
        let last := start.persist channels options attempts
        (last.machine, last.world) = machine.afterSteps channels attempts disturbed := by
  intro channels desk disturbed
  have delivers := Desk.delivers_withLines text outcomes sinks
  have otherDelivers := Desk.delivers_withLines text others sinks
  have tapes : Interspersed (Desk.linesTape text outcomes) (Desk.linesTape text others) :=
    interspersed.characters.takeWhile_isEnd.append_left _
  refine ⟨resumes_of_delivers delivers otherDelivers rfl tapes output machine,
    exists_attempts_withLines machine text sinks output others, ?_⟩
  intro journal options attempts unlimited start last
  exact System.persist_eq_afterSteps channels unlimited attempts start

/-- The machine that writes one character reads it from a line that comes after an interruption. -/
theorem resumes_interrupted_echo :
    let channels := Desk.channels (some 2) (some 0)
    let outcomes : List (Reply Text) := [.done ⟨[.ofChar 'a']⟩]
    let others : List (Reply Text) := [.interrupted ⟨[]⟩, .done ⟨[.ofChar 'a']⟩]
    let desk := Desk.withLines ⟨[]⟩ outcomes #[.collector {}]
    let disturbed := Desk.withLines ⟨[]⟩ others #[.collector {}]
    Interspersed outcomes others ∧ Resumes Desk.sinks channels echo desk disturbed ∧
      (echo.afterSteps channels 4 disturbed).1 = (echo.afterSteps channels 3 desk).1 ∧
      (echo.afterSteps channels 4 disturbed).1.status = .halted := by
  intro channels outcomes others desk disturbed
  have interspersed : Interspersed outcomes others := .put _ (.kept _ .none)
  have resumes := (resumes_interrupted echo ⟨[]⟩ #[.collector {}] (some 0) outcomes others
    interspersed).1
  have sameNumber : (echo.returned channels 3 desk).length =
      (echo.returned channels 4 disturbed).length := by
    decide +kernel
  exact ⟨interspersed, resumes, (resumes.determined 3 4 sameNumber).2.1.symm, by decide +kernel⟩

end Machine
end WordMachine
