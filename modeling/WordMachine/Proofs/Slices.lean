import WordMachine.Proofs.BoundedRun

/-!
# Runs in slices

A run can be cut into slices: runs that are made one after the other, each with a
budget and a choice about tracing of its own.  A slice ends where its budget is used
up, the next one takes up the machine there, and once the machine has stopped the
slices that are left do nothing.  So the slices come to what one run with the sum of
the budgets comes to, and if one of them breaks off, so does the single run in the
same step: `System.slices_compose`.
-/

namespace WordMachine

variable {World : Type}

/-! ## Budgets -/

/-- What two budgets allow together.  A budget below zero allows as much as none at all. -/
def joinedBudget : Option Int -> Option Int -> Option Int
  | some first, some second => some (max first 0 + max second 0)
  | _, _ => none

/-- What the budgets of slices allow together. -/
def wholeBudget : List RunOptions -> Option Int
  | [] => some 0
  | slice :: slices => joinedBudget slice.budget (wholeBudget slices)

/-- Two budgets are joined to a limit if both are limits; one that is negative allows no step,
like 0. -/
theorem joinedBudget_eq_some_iff
    {first second : Option Int}
    {limit : Int} :
    joinedBudget first second = some limit ↔
      ∃ allowed more, first = some allowed ∧ second = some more ∧
        limit = max allowed 0 + max more 0 := by
  cases first <;> cases second <;> simp [joinedBudget, eq_comm]

/-- Slices that are all limited have a limit together. -/
theorem isSome_wholeBudget
    {slices : List RunOptions}
    (limited : ∀ slice ∈ slices, slice.budget.isSome) : (wholeBudget slices).isSome := by
  induction slices with
  | nil => rfl
  | cons slice slices inductionHypothesis =>
      obtain ⟨firstLimited, laterLimited⟩ := List.forall_mem_cons.mp limited
      obtain ⟨allowed, isAllowed⟩ := Option.isSome_iff_exists.mp firstLimited
      obtain ⟨more, isMore⟩ := Option.isSome_iff_exists.mp (inductionHypothesis laterLimited)
      rw [wholeBudget, isAllowed, isMore]
      rfl

namespace Machine

section

variable
  {channels : Channels World}
  {machine : Machine}
  {world : World}

/-- A run that the budget allows nothing makes no step. -/
theorem runsFor_zero : machine.RunsFor channels (some 0) 0 world where
  proceeds := proceeds_zero
  within := fun _ _ => Int.le_max_right _ _
  isOver := Or.inr ⟨0, rfl, Int.le_refl 0⟩

/-- Two runs that are made one after the other make the steps of one run. -/
theorem RunsFor.join
    {budget more : Option Int}
    {first second : Nat}
    (runs : machine.RunsFor channels budget first world)
    (runsOn : (machine.afterSteps channels first world).1.RunsFor channels more second
      (machine.afterSteps channels first world).2) :
    machine.RunsFor channels (joinedBudget budget more) (first + second) world where
  proceeds := proceeds_add_iff.mpr ⟨runs.proceeds, runsOn.proceeds⟩
  within := by
    intro limit isBudget
    obtain ⟨allowed, further, isAllowed, isFurther, rfl⟩ := joinedBudget_eq_some_iff.mp isBudget
    have within := runs.within allowed isAllowed
    have withinMore := runsOn.within further isFurther
    omega
  isOver := by
    rcases runs.isOver with stopped | ⟨allowed, isAllowed, reached⟩
    · -- The second run finds the machine at rest.
      cases runsOn.proceeds.eq_zero_of_stopped stopped
      exact Or.inl stopped
    · rcases runsOn.isOver with stopped | ⟨further, isFurther, reachedMore⟩
      · rw [← afterSteps_add] at stopped
        exact Or.inl stopped
      · refine Or.inr ⟨_, joinedBudget_eq_some_iff.mpr ⟨_, _, isAllowed, isFurther, rfl⟩, ?_⟩
        omega

/-- The steps of one run are made by two runs, one after the other. -/
theorem RunsFor.cut
    {budget more : Option Int}
    {count : Nat}
    (runs : machine.RunsFor channels (joinedBudget budget more) count world) :
    ∃ first second, first + second = count ∧
      machine.RunsFor channels budget first world ∧
      (machine.afterSteps channels first world).1.RunsFor channels more second
        (machine.afterSteps channels first world).2 := by
  -- The first run makes as many of the steps as its budget allows.
  obtain ⟨first, atMost, within, uses⟩ : ∃ first ≤ count,
      (∀ allowed, budget = some allowed -> (first : Int) ≤ max allowed 0) ∧
        (first = count ∨ ∃ allowed, budget = some allowed ∧ allowed ≤ first) := by
    cases budget with
    | none => exact ⟨count, Nat.le_refl count, (fun _ impossible => nomatch impossible), Or.inl rfl⟩
    | some allowed =>
        refine ⟨min count allowed.toNat, Nat.min_le_left _ _, ?_, ?_⟩
        · rintro _ ⟨⟩
          omega
        · by_cases fits : count ≤ allowed.toNat
          · exact Or.inl (Nat.min_eq_left fits)
          · exact Or.inr ⟨allowed, rfl, by omega⟩
  obtain ⟨second, rfl⟩ := Nat.exists_eq_add_of_le atMost
  obtain ⟨proceeds, proceedsOn⟩ := proceeds_add_iff.mp runs.proceeds
  refine ⟨first, second, rfl, ⟨proceeds, within, ?_⟩, ⟨proceedsOn, ?_, ?_⟩⟩
  · rcases uses with whole | usedUp
    · rcases runs.isOver with stopped | ⟨limit, isBudget, reached⟩
      · rw [← whole] at stopped
        exact Or.inl stopped
      · obtain ⟨allowed, more, isAllowed, _, rfl⟩ := joinedBudget_eq_some_iff.mp isBudget
        exact Or.inr ⟨allowed, isAllowed, by omega⟩
    · exact Or.inr usedUp
  · intro more isMore
    rcases uses with whole | ⟨allowed, isAllowed, usedUp⟩
    · omega
    · have inBudget := runs.within _ (joinedBudget_eq_some_iff.mpr
        ⟨allowed, more, isAllowed, isMore, rfl⟩)
      omega
  · rcases runs.isOver with stopped | ⟨limit, isBudget, reached⟩
    · rw [afterSteps_add] at stopped
      exact Or.inl stopped
    · obtain ⟨allowed, more, isAllowed, isMore, rfl⟩ := joinedBudget_eq_some_iff.mp isBudget
      have inBudget := within allowed isAllowed
      exact Or.inr ⟨more, isMore, by omega⟩

/-! ## Runs that break off -/

/-- A step that is interrupted is made by a running machine. -/
theorem running_of_interrupted
    {disruption : Disruption}
    (interrupted : (machine.step channels world).interrupted = some disruption) :
    machine.condition = .running := by
  by_contra stopped
  rw [step_stopped stopped] at interrupted
  cases interrupted

/-- A run under a budget makes so many steps, and then breaks off in the next one. -/
structure BreaksAfter
    (channels : Channels World)
    (budget : Option Int)
    (disruption : Disruption)
    (count : Nat)
    (machine : Machine)
    (world : World) : Prop where
  /-- The steps are made one after the other. -/
  proceeds : machine.Proceeds channels count world
  /-- The budget allows one more. -/
  within : ∀ limit, budget = some limit -> (count : Int) < limit
  /-- That one is disrupted. -/
  disrupted : ((machine.afterSteps channels count world).1.step channels
    (machine.afterSteps channels count world).2).interrupted = some disruption

section

variable
  {budget more : Option Int}
  {disruption : Disruption}
  {count : Nat}

/-- No more steps are made one after the other than before a run breaks off. -/
theorem BreaksAfter.le_of_proceeds
    {other : Nat}
    (breaks : machine.BreaksAfter channels budget disruption count world)
    (proceeds : machine.Proceeds channels other world) : other ≤ count := by
  by_contra further
  have undisturbed := (proceeds.makes (Nat.lt_of_not_le further)).2
  rw [breaks.disrupted] at undisturbed
  cases undisturbed

/-- A run that breaks off is not complete. -/
theorem BreaksAfter.not_runsFor
    {other : Nat}
    (breaks : machine.BreaksAfter channels budget disruption count world) :
    ¬ machine.RunsFor channels budget other world := by
  intro runs
  have atMost := breaks.le_of_proceeds runs.proceeds
  rcases runs.isOver with stopped | ⟨limit, isBudget, reached⟩
  · rcases Nat.eq_or_lt_of_le atMost with rfl | isEarlier
    · exact stopped (running_of_interrupted breaks.disrupted)
    · exact stopped (breaks.proceeds.makes isEarlier).1
  · have within := breaks.within limit isBudget
    omega

/-- A run breaks off in one step only. -/
theorem BreaksAfter.unique
    {otherDisruption : Disruption}
    {other : Nat}
    (breaks : machine.BreaksAfter channels budget disruption count world)
    (breaksToo : machine.BreaksAfter channels budget otherDisruption other world) :
    count = other ∧ disruption = otherDisruption := by
  obtain rfl : count = other := Nat.le_antisymm
    (breaksToo.le_of_proceeds breaks.proceeds) (breaks.le_of_proceeds breaksToo.proceeds)
  exact ⟨rfl, Option.some.inj (breaks.disrupted.symm.trans breaksToo.disrupted)⟩

/-- A run breaks off although it is allowed more. -/
theorem BreaksAfter.join_right
    (breaks : machine.BreaksAfter channels budget disruption count world) :
    machine.BreaksAfter channels (joinedBudget budget more) disruption count world where
  proceeds := breaks.proceeds
  within := by
    intro limit isBudget
    obtain ⟨allowed, further, isAllowed, _, rfl⟩ := joinedBudget_eq_some_iff.mp isBudget
    have within := breaks.within allowed isAllowed
    omega
  disrupted := breaks.disrupted

/-- A run that breaks off after a complete one breaks off as part of one run. -/
theorem RunsFor.join_breaksAfter
    {first second : Nat}
    (runs : machine.RunsFor channels budget first world)
    (breaks : (machine.afterSteps channels first world).1.BreaksAfter channels more disruption
      second (machine.afterSteps channels first world).2) :
    machine.BreaksAfter channels (joinedBudget budget more) disruption (first + second) world where
  proceeds := proceeds_add_iff.mpr ⟨runs.proceeds, breaks.proceeds⟩
  within := by
    intro limit isBudget
    obtain ⟨allowed, further, isAllowed, isFurther, rfl⟩ := joinedBudget_eq_some_iff.mp isBudget
    have within := runs.within allowed isAllowed
    have withinMore := breaks.within further isFurther
    omega
  disrupted := by
    rw [afterSteps_add]
    exact breaks.disrupted

/-- If one run breaks off, then so does the first of two runs that make its steps, or the second
after the first is complete. -/
theorem BreaksAfter.cut
    (breaks : machine.BreaksAfter channels (joinedBudget budget more) disruption count world) :
    machine.BreaksAfter channels budget disruption count world ∨
      ∃ first second, first + second = count ∧
        machine.RunsFor channels budget first world ∧
        (machine.afterSteps channels first world).1.BreaksAfter channels more disruption second
          (machine.afterSteps channels first world).2 := by
  by_cases fits : ∀ allowed, budget = some allowed -> (count : Int) < allowed
  · exact Or.inl ⟨breaks.proceeds, fits, breaks.disrupted⟩
  · -- The first run uses up its budget.
    push Not at fits
    obtain ⟨allowed, rfl, usedUp⟩ := fits
    obtain ⟨second, rfl⟩ := Nat.exists_eq_add_of_le (Int.toNat_le.mpr usedUp)
    obtain ⟨proceeds, proceedsOn⟩ := proceeds_add_iff.mp breaks.proceeds
    have disrupted := breaks.disrupted
    rw [afterSteps_add] at disrupted
    refine Or.inr ⟨allowed.toNat, second, rfl, ⟨proceeds, ?_, ?_⟩, ⟨proceedsOn, ?_, disrupted⟩⟩
    · rintro _ ⟨⟩
      exact Int.toNat_eq_max allowed ▸ Int.le_refl _
    · exact Or.inr ⟨allowed, rfl, Int.self_le_toNat allowed⟩
    · rintro further rfl
      have within := breaks.within _ rfl
      omega

end

end
end Machine

/-! ## Slices -/

namespace System

/-- A run with enough fuel is complete, and comes to a result and a system. -/
def Returns
    (channels : Channels World)
    (options : RunOptions)
    (start : System World)
    (result : RunResult)
    (after : System World) : Prop :=
  ∃ enough, ∀ fuel, enough ≤ fuel ->
    start.run channels options fuel 0 = (.finished result, after)

/-- Runs that are made one after the other are complete, and come to results and a system. -/
inductive ReturnAll (channels : Channels World) :
    List RunOptions -> System World -> List RunResult -> System World -> Prop where
  /-- No run is made. -/
  | none (system : System World) : ReturnAll channels [] system [] system
  /-- A run is made before others. -/
  | next {slice : RunOptions} {slices : List RunOptions} {result : RunResult}
      {results : List RunResult} {start middle last : System World}
      (returns : Returns channels slice start result middle)
      (returnAll : ReturnAll channels slices middle results last) :
      ReturnAll channels (slice :: slices) start (result :: results) last

/-- A run with enough fuel breaks off after some steps, in one that is disrupted. -/
def BreaksOff
    (channels : Channels World)
    (options : RunOptions)
    (start : System World)
    (disruption : Disruption)
    (steps : Nat)
    (after : System World) : Prop :=
  ∃ enough, ∀ fuel, enough ≤ fuel ->
    start.run channels options fuel 0 = (.interrupted disruption steps, after)

/-- Of runs that are made one after the other, one breaks off, and those before it are complete. -/
inductive BreakOff (channels : Channels World) :
    List RunOptions -> System World -> Disruption -> Nat -> System World -> Prop where
  /-- The first run breaks off. -/
  | here {slice : RunOptions} {slices : List RunOptions} {disruption : Disruption}
      {steps : Nat} {start after : System World}
      (breaksOff : BreaksOff channels slice start disruption steps after) :
      BreakOff channels (slice :: slices) start disruption steps after
  /-- The first run is complete, and a later one breaks off. -/
  | later {slice : RunOptions} {slices : List RunOptions} {result : RunResult}
      {disruption : Disruption} {steps : Nat} {start middle after : System World}
      (returns : Returns channels slice start result middle)
      (breakOff : BreakOff channels slices middle disruption steps after) :
      BreakOff channels (slice :: slices) start disruption (result.steps + steps) after

section

variable
  {channels : Channels World}
  {options : RunOptions}
  {start after : System World}
  {result : RunResult}
  {disruption : Disruption}
  {steps : Nat}

/-- A run is complete after the steps that it makes, however much fuel is left. -/
theorem returns_iff :
    Returns channels options start result after ↔
      ∃ count, start.machine.RunsFor channels options.budget count start.world ∧
        let last := start.proceeded channels options.trace count
        result = .ofMachine count last.machine ∧
          after = last.note (closing options.budget count last.machine) := by
  constructor
  · rintro ⟨enough, returns⟩
    obtain ⟨count, _, runs, ends⟩ := run_eq_finished_iff.mp (returns enough (Nat.le_refl enough))
    exact ⟨count, runs, ends⟩
  · rintro ⟨count, runs, ends⟩
    exact ⟨count, fun fuel enough => run_eq_finished_iff.mpr ⟨count, enough, runs, ends⟩⟩

/-- Results of runs that make the steps of one run, one after the other. -/
structure AddUp
    (channels : Channels World)
    (budget : Option Int)
    (start last : System World)
    (results : List RunResult) : Prop where
  /-- The steps are those of one run. -/
  runsFor : start.machine.RunsFor channels budget (results.map RunResult.steps).sum start.world
  /-- The machine and the world are what the steps make of them. -/
  state_eq : (last.machine, last.world) =
    start.machine.afterSteps channels (results.map RunResult.steps).sum start.world
  /-- The last result is about the machine that is left. -/
  final_eq : ∀ final, results.getLast? = some final -> final = .ofMachine final.steps last.machine

theorem addUp_none : AddUp channels (some 0) start start [] where
  runsFor := Machine.runsFor_zero
  state_eq := rfl
  final_eq := fun _ impossible => nomatch impossible

/-- The results of slices that all return add up to that of one run under their whole budget. -/
theorem addUp_of_returnAll
    {slices : List RunOptions}
    {results : List RunResult}
    {last : System World}
    (returnAll : ReturnAll channels slices start results last) :
    AddUp channels (wholeBudget slices) start last results := by
  induction returnAll with
  | none system => exact addUp_none
  | @next slice slices result results start middle last returns returnAll inductionHypothesis =>
      obtain ⟨count, runs, rfl, rfl⟩ := returns_iff.mp returns
      refine ⟨runs.join inductionHypothesis.runsFor, ?_, ?_⟩
      · rw [List.map_cons, List.sum_cons, Machine.afterSteps_add]
        exact inductionHypothesis.state_eq
      · intro final isFinal
        cases returnAll with
        | none =>
            cases isFinal
            rfl
        | next => exact inductionHypothesis.final_eq final isFinal

/-- The steps of one run are made by the slices, one after the other. -/
theorem exists_returnAll
    {slices : List RunOptions}
    {count : Nat}
    (runs : start.machine.RunsFor channels (wholeBudget slices) count start.world) :
    ∃ results last, ReturnAll channels slices start results last := by
  induction slices generalizing start count with
  | nil => exact ⟨[], start, .none start⟩
  | cons slice slices inductionHypothesis =>
      obtain ⟨first, second, _, runsFirst, runsSecond⟩ := runs.cut
      let middle := (start.proceeded channels slice.trace first).note
        (closing slice.budget first (start.proceeded channels slice.trace first).machine)
      have returns : Returns channels slice start _ middle :=
        returns_iff.mpr ⟨first, runsFirst, rfl, rfl⟩
      have runsOn : middle.machine.RunsFor channels (wholeBudget slices) second middle.world :=
        runsSecond
      obtain ⟨results, last, returnAll⟩ := inductionHypothesis runsOn
      exact ⟨_, last, .next returns returnAll⟩

/-- What slices come to is what a single run comes to. -/
structure SameOutcome
    (results : List RunResult)
    (last : System World)
    (single : RunResult)
    (after : System World) : Prop where
  /-- The machine is the same. -/
  machine_eq : last.machine = after.machine
  /-- The world is the same. -/
  world_eq : last.world = after.world
  /-- The numbers of steps add up. -/
  steps_eq : (results.map RunResult.steps).sum = single.steps
  /-- The result of the last slice is the one of the single run, but for the number of steps. -/
  final_eq : ∃ final, results.getLast? = some final ∧
    final.status = single.status ∧
    final.fault = single.fault ∧
    final.limitReached = single.limitReached

/-- A run comes to one result only. -/
theorem Returns.unique
    {single : RunResult}
    {last : System World}
    (returns : Returns channels options start result after)
    (returnsToo : Returns channels options start single last) : result = single ∧ after = last := by
  obtain ⟨enough, returns⟩ := returns
  obtain ⟨enoughToo, returnsToo⟩ := returnsToo
  have same := (returns _ (Nat.le_max_left enough enoughToo)).symm.trans
    (returnsToo _ (Nat.le_max_right enough enoughToo))
  cases same
  exact ⟨rfl, rfl⟩

/-- Slices that are complete come to what the single run comes to. -/
theorem sameOutcome_of_returnAll
    {slices : List RunOptions}
    {results : List RunResult}
    {last : System World}
    (any : slices ≠ [])
    (returnAll : ReturnAll channels slices start results last)
    (trace : Bool) :
    ∃ single after,
      Returns channels { budget := wholeBudget slices, trace } start single after ∧
        SameOutcome results last single after := by
  have addUp := addUp_of_returnAll returnAll
  have machine_eq := congrArg Prod.fst addUp.state_eq
  have someResult : results ≠ [] := by
    cases returnAll with
    | none => exact absurd rfl any
    | next => exact List.cons_ne_nil _ _
  have final_eq := addUp.final_eq _ (List.getLast?_eq_some_getLast someResult)
  dsimp only at machine_eq
  rw [machine_eq] at final_eq
  have status_eq := congrArg RunResult.status final_eq
  have fault_eq := congrArg RunResult.fault final_eq
  have limitReached_eq := congrArg RunResult.limitReached final_eq
  exact ⟨_, _, returns_iff.mpr ⟨_, addUp.runsFor, rfl, rfl⟩, {
    machine_eq
    world_eq := congrArg Prod.snd addUp.state_eq
    steps_eq := rfl
    final_eq := ⟨_, List.getLast?_eq_some_getLast someResult, status_eq, fault_eq,
      limitReached_eq⟩ }⟩

/-- If a single run is complete, then so are its slices. -/
theorem sameOutcome_of_returns
    {slices : List RunOptions}
    {trace : Bool}
    (any : slices ≠ [])
    (returns : Returns channels { budget := wholeBudget slices, trace } start result after) :
    ∃ results last, ReturnAll channels slices start results last ∧
      SameOutcome results last result after := by
  obtain ⟨count, runs, _⟩ := returns_iff.mp returns
  obtain ⟨results, last, returnAll⟩ := exists_returnAll runs
  obtain ⟨single, ended, returnsToo, same⟩ := sameOutcome_of_returnAll any returnAll trace
  obtain ⟨rfl, rfl⟩ := returns.unique returnsToo
  exact ⟨results, last, returnAll, same⟩

/-- Slices with budgets are complete, unless a step that they allow is interrupted. -/
theorem exists_returnAll_of_limited
    {slices : List RunOptions}
    (limited : ∀ slice ∈ slices, slice.budget.isSome)
    (undisturbed : ∀ limit, wholeBudget slices = some limit ->
      start.machine.Undisturbed channels limit.toNat start.world) :
    ∃ results last, ReturnAll channels slices start results last := by
  obtain ⟨limit, isWhole⟩ := Option.isSome_iff_exists.mp (isSome_wholeBudget limited)
  have isOver :
      start.machine.IsOverAfter channels (wholeBudget slices) start.world limit.toNat :=
    Or.inr ⟨limit, isWhole, Int.self_le_toNat limit⟩
  obtain ⟨count, runs⟩ :=
    Machine.exists_runsFor_iff.mpr ⟨limit.toNat, undisturbed limit isWhole, isOver⟩
  exact exists_returnAll runs

/-! ## Slices that break off -/

/-- A run that attempts a step which is disrupted breaks off. -/
theorem GoesOn.breaksAfter
    (goesOn : start.GoesOn channels options.budget 0 steps)
    (unfinished : ending? options (0 + steps)
      (start.proceeded channels options.trace steps).machine = none)
    (disturbed : ((start.proceeded channels options.trace steps).machine.step channels
      (start.proceeded channels options.trace steps).world).interrupted = some disruption) :
    start.machine.BreaksAfter channels options.budget disruption steps start.world where
  proceeds := goesOn.proceeds
  within := by
    rw [Nat.zero_add] at unfinished
    exact (ending?_eq_none_iff.mp unfinished).2
  disrupted := disturbed

/-- A run breaks off after the steps that it makes, however much fuel is left. -/
theorem breaksOff_iff :
    BreaksOff channels options start disruption steps after ↔
      start.machine.BreaksAfter channels options.budget disruption steps start.world ∧
        after = start.proceeded channels options.trace (steps + 1) := by
  constructor
  · rintro ⟨enough, breaksOff⟩
    have comes := comes_run channels options 0 start enough
    rw [breaksOff enough (Nat.le_refl enough)] at comes
    cases comes with
    | @interrupted count _ goesOn fits unfinished disturbed =>
        rw [Nat.zero_add]
        exact ⟨goesOn.breaksAfter unfinished disturbed, rfl⟩
  · rintro ⟨breaks, rfl⟩
    refine ⟨steps + 1, fun fuel enough => ?_⟩
    have comes := comes_run channels options 0 start fuel
    generalize start.run channels options fuel 0 = reply at comes ⊢
    cases comes with
    | finished goesOn fits ending => exact absurd (goesOn.runsFor ending) breaks.not_runsFor
    | interrupted goesOn fits unfinished disturbed =>
        obtain ⟨rfl, rfl⟩ := breaks.unique (goesOn.breaksAfter unfinished disturbed)
        rw [Nat.zero_add]
    | unfinished goesOn => exact absurd (breaks.le_of_proceeds goesOn.proceeds) (by omega)

/-- A run with a budget is complete or breaks off. -/
theorem returns_or_breaksOff
    (channels : Channels World)
    (start : System World)
    (limited : options.budget.isSome) :
    (∃ result after, Returns channels options start result after) ∨
      ∃ disruption steps after, BreaksOff channels options start disruption steps after := by
  obtain ⟨limit, isBudget⟩ := Option.isSome_iff_exists.mp limited
  have comes := comes_run channels options 0 start limit.toNat
  generalize start.run channels options limit.toNat 0 = reply at comes
  cases comes with
  | finished goesOn fits ending =>
      exact Or.inl ⟨_, _, returns_iff.mpr ⟨_, goesOn.runsFor ending, rfl, rfl⟩⟩
  | interrupted goesOn fits unfinished disturbed =>
      exact Or.inr ⟨_, _, _, breaksOff_iff.mpr ⟨goesOn.breaksAfter unfinished disturbed, rfl⟩⟩
  -- The fuel is as much as the budget allows, so it cannot run out first.
  | unfinished goesOn unfinished =>
      have within := (ending?_eq_none_iff.mp unfinished).2 limit isBudget
      omega

/-- Slices with budgets are complete, or one of them breaks off. -/
theorem returnAll_or_breakOff
    {slices : List RunOptions}
    (channels : Channels World)
    (start : System World)
    (limited : ∀ slice ∈ slices, slice.budget.isSome) :
    (∃ results last, ReturnAll channels slices start results last) ∨
      ∃ disruption steps last, BreakOff channels slices start disruption steps last := by
  induction slices generalizing start with
  | nil => exact Or.inl ⟨[], start, .none start⟩
  | cons slice slices inductionHypothesis =>
      obtain ⟨firstLimited, laterLimited⟩ := List.forall_mem_cons.mp limited
      rcases returns_or_breaksOff channels start firstLimited with
        ⟨result, middle, returns⟩ | ⟨disruption, steps, after, breaksOff⟩
      · rcases inductionHypothesis middle laterLimited with
          ⟨results, last, returnAll⟩ | ⟨disruption, steps, last, breakOff⟩
        · exact Or.inl ⟨_, _, .next returns returnAll⟩
        · exact Or.inr ⟨_, _, _, .later returns breakOff⟩
      · exact Or.inr ⟨_, _, _, .here breaksOff⟩

/-- If one of the slices breaks off, the steps and what they leave are those of one run that breaks
off. -/
theorem breaksAfter_of_breakOff
    {slices : List RunOptions}
    {last : System World}
    (breakOff : BreakOff channels slices start disruption steps last) :
    start.machine.BreaksAfter channels (wholeBudget slices) disruption steps start.world ∧
      (last.machine, last.world) = start.machine.afterSteps channels (steps + 1) start.world := by
  induction breakOff with
  | here breaksOff =>
      obtain ⟨breaks, rfl⟩ := breaksOff_iff.mp breaksOff
      exact ⟨breaks.join_right, rfl⟩
  | later returns _ inductionHypothesis =>
      obtain ⟨count, runs, rfl, rfl⟩ := returns_iff.mp returns
      obtain ⟨breaks, state⟩ := inductionHypothesis
      refine ⟨runs.join_breaksAfter breaks, ?_⟩
      rw [RunResult.ofMachine, Nat.add_assoc, Machine.afterSteps_add]
      exact state

/-- If one run breaks off, then so does one of the slices that make its steps. -/
theorem exists_breakOff
    {slices : List RunOptions}
    (breaks :
      start.machine.BreaksAfter channels (wholeBudget slices) disruption steps start.world) :
    ∃ last, BreakOff channels slices start disruption steps last := by
  induction slices generalizing start steps with
  | nil =>
      have within := breaks.within 0 rfl
      omega
  | cons slice slices inductionHypothesis =>
      rcases breaks.cut with first | ⟨made, rest, rfl, runs, breaksLater⟩
      · exact ⟨_, .here (breaksOff_iff.mpr ⟨first, rfl⟩)⟩
      · let middle := (start.proceeded channels slice.trace made).note
          (closing slice.budget made (start.proceeded channels slice.trace made).machine)
        have returns : Returns channels slice start _ middle :=
          returns_iff.mpr ⟨made, runs, rfl, rfl⟩
        have breaksOn : middle.machine.BreaksAfter channels (wholeBudget slices) disruption rest
            middle.world :=
          breaksLater
        obtain ⟨last, breakOff⟩ := inductionHypothesis breaksOn
        exact ⟨last, .later returns breakOff⟩

/-- Slices break off where the single run does. -/
theorem breaksOff_of_breakOff
    {slices : List RunOptions}
    {last : System World}
    (breakOff : BreakOff channels slices start disruption steps last)
    (trace : Bool) :
    ∃ after,
      BreaksOff channels { budget := wholeBudget slices, trace } start disruption steps after ∧
        last.machine = after.machine ∧ last.world = after.world := by
  obtain ⟨breaks, state⟩ := breaksAfter_of_breakOff breakOff
  exact ⟨_, breaksOff_iff.mpr ⟨breaks, rfl⟩, congrArg Prod.fst state, congrArg Prod.snd state⟩

/-- If the single run breaks off, then so does one of its slices. -/
theorem breakOff_of_breaksOff
    {slices : List RunOptions}
    {trace : Bool}
    (breaksOff :
      BreaksOff channels { budget := wholeBudget slices, trace } start disruption steps after) :
    ∃ last, BreakOff channels slices start disruption steps last ∧
      last.machine = after.machine ∧ last.world = after.world := by
  obtain ⟨breaks, rfl⟩ := breaksOff_iff.mp breaksOff
  obtain ⟨last, breakOff⟩ := exists_breakOff breaks
  have state := (breaksAfter_of_breakOff breakOff).2
  exact ⟨last, breakOff, congrArg Prod.fst state, congrArg Prod.snd state⟩

/-- That two slices return says that the first does and the second does from where it leads. -/
theorem returnAll_pair
    {slice other : RunOptions}
    {results : List RunResult}
    {last : System World}
    (returnAll : ReturnAll channels [slice, other] start results last) :
    ∃ first middle second, results = [first, second] ∧
      Returns channels slice start first middle ∧ Returns channels other middle second last := by
  cases returnAll with
  | next returns returnAll =>
      cases returnAll with
      | next returnsOn returnAll =>
          cases returnAll with
          | none => exact ⟨_, _, _, rfl, returns, returnsOn⟩

/-- Two runs with budgets come to what one run with the sum of the budgets comes to, if no step that
they allow is interrupted. -/
theorem exists_limited_pair
    {budget more : Nat}
    (trace traceMore traceWhole : Bool)
    (undisturbed : start.machine.Undisturbed channels (budget + more) start.world) :
    ∃ first middle second last single after,
      Returns channels { budget := some budget, trace } start first middle ∧
        Returns channels { budget := some more, trace := traceMore } middle second last ∧
        Returns channels { budget := some (budget + more : Nat), trace := traceWhole } start
          single after ∧
        SameOutcome [first, second] last single after := by
  let slices : List RunOptions :=
    [{ budget := some budget, trace }, { budget := some more, trace := traceMore }]
  have whole : wholeBudget slices = some ((budget + more : Nat) : Int) := by
    simp only [slices, wholeBudget, joinedBudget, Option.some.injEq]
    omega
  have limited : ∀ slice ∈ slices, slice.budget.isSome := by simp [slices]
  have undisturbedWhole : ∀ limit, wholeBudget slices = some limit ->
      start.machine.Undisturbed channels limit.toNat start.world := by
    rw [whole]
    rintro _ ⟨⟩
    exact undisturbed
  obtain ⟨results, last, returnAll⟩ := exists_returnAll_of_limited limited undisturbedWhole
  obtain ⟨single, after, returns, same⟩ :=
    sameOutcome_of_returnAll (List.cons_ne_nil _ _) returnAll traceWhole
  obtain ⟨first, middle, second, rfl, returnsFirst, returnsSecond⟩ := returnAll_pair returnAll
  rw [whole] at returns
  exact ⟨first, middle, second, last, single, after, returnsFirst, returnsSecond, returns, same⟩

/-- A run with a budget and one without come to what the single run comes to, if that is
complete. -/
theorem exists_unlimited_pair
    {traceWhole : Bool}
    (budget : Nat)
    (trace traceMore : Bool)
    (returns : Returns channels { trace := traceWhole } start result after) :
    ∃ first middle second last,
      Returns channels { budget := some budget, trace } start first middle ∧
        Returns channels { trace := traceMore } middle second last ∧
        SameOutcome [first, second] last result after := by
  let slices : List RunOptions := [{ budget := some budget, trace }, { trace := traceMore }]
  have any : slices ≠ [] := List.cons_ne_nil _ _
  obtain ⟨results, last, returnAll, same⟩ := sameOutcome_of_returns any returns
  obtain ⟨first, middle, second, rfl, returnsFirst, returnsSecond⟩ := returnAll_pair returnAll
  exact ⟨first, middle, second, last, returnsFirst, returnsSecond, same⟩

end

/-- Two runs with budgets, one after the other, come to what one run with the sum of the budgets
comes to, and so do a run with a budget and one without, if the single run is complete.  However a
run is cut into slices, and whichever of them are traced, it comes to the same, and if a step is
disrupted it breaks off there. -/
theorem slices_compose
    (channels : Channels World)
    (start : System World) :
    (∀ (budget more : Nat) (trace traceMore traceWhole : Bool),
      start.machine.Undisturbed channels (budget + more) start.world ->
      ∃ first middle second last single after,
        Returns channels { budget := some budget, trace } start first middle ∧
          Returns channels { budget := some more, trace := traceMore } middle second last ∧
          Returns channels { budget := some (budget + more : Nat), trace := traceWhole } start
            single after ∧
          SameOutcome [first, second] last single after) ∧
    (∀ (budget : Nat) (trace traceMore traceWhole : Bool) (single : RunResult)
        (after : System World),
      Returns channels { trace := traceWhole } start single after ->
        ∃ first middle second last,
          Returns channels { budget := some budget, trace } start first middle ∧
            Returns channels { trace := traceMore } middle second last ∧
            SameOutcome [first, second] last single after) ∧
    ∀ slices : List RunOptions, slices ≠ [] -> ∀ trace : Bool,
      let whole : RunOptions := { budget := wholeBudget slices, trace }
      (∀ results last, ReturnAll channels slices start results last ->
        ∃ single after, Returns channels whole start single after ∧
          SameOutcome results last single after) ∧
      (∀ single after, Returns channels whole start single after ->
        ∃ results last, ReturnAll channels slices start results last ∧
          SameOutcome results last single after) ∧
      (∀ disruption steps last, BreakOff channels slices start disruption steps last ->
        ∃ after, BreaksOff channels whole start disruption steps after ∧
          last.machine = after.machine ∧ last.world = after.world) ∧
      (∀ disruption steps after, BreaksOff channels whole start disruption steps after ->
        ∃ last, BreakOff channels slices start disruption steps last ∧
          last.machine = after.machine ∧ last.world = after.world) ∧
      ((∀ slice ∈ slices, slice.budget.isSome) ->
        ((∃ results last, ReturnAll channels slices start results last) ∨
          ∃ disruption steps last, BreakOff channels slices start disruption steps last) ∧
        ((∀ limit, wholeBudget slices = some limit ->
            start.machine.Undisturbed channels limit.toNat start.world) ->
          ∃ results last, ReturnAll channels slices start results last)) := by
  refine ⟨?_, ?_, ?_⟩
  · intro budget more trace traceMore traceWhole undisturbed
    exact exists_limited_pair trace traceMore traceWhole undisturbed
  · intro budget trace traceMore traceWhole single after returns
    exact exists_unlimited_pair budget trace traceMore returns
  · intro slices any trace whole
    exact ⟨fun results last returnAll => sameOutcome_of_returnAll any returnAll trace,
      fun single after returns => sameOutcome_of_returns any returns,
      fun disruption steps last breakOff => breaksOff_of_breakOff breakOff trace,
      fun disruption steps after breaksOff => breakOff_of_breaksOff breaksOff,
      fun limited => ⟨returnAll_or_breakOff channels start limited,
        exists_returnAll_of_limited limited⟩⟩

/-- A fresh machine halts at its first instruction, in the second of three slices. -/
theorem slices_compose_fresh :
    let start : System Unit :=
      { machine := .fresh, world := (), journal := { verbosity := .silent } }
    let slices : List RunOptions :=
      [{ budget := some 0 }, { budget := some 1, trace := true }, { budget := some (-1) }]
    (∀ count, start.machine.Undisturbed Channels.vacant count start.world) ∧
      ∃ results last, ReturnAll Channels.vacant slices start results last ∧
        ∃ single after, Returns Channels.vacant { budget := some 1 } start single after ∧
          SameOutcome results last single after := by
  intro start slices
  have undisturbed : ∀ count, start.machine.Undisturbed Channels.vacant count start.world :=
    Machine.undisturbed_of_not_disrupts Channels.not_disrupts_vacant
  obtain ⟨returned, _, _, _, complete⟩ :=
    (slices_compose Channels.vacant start).2.2 slices (List.cons_ne_nil _ _) false
  obtain ⟨results, last, returnAll⟩ :=
    (complete (by simp [slices])).2 fun limit _ => undisturbed limit.toNat
  exact ⟨undisturbed, results, last, returnAll, returned results last returnAll⟩

end System
end WordMachine
