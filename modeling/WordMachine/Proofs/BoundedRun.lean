import Mathlib.Data.Nat.Find
import Mathlib.Order.Bounds.Basic
import WordMachine.Proofs.Lockstep
import WordMachine.Proofs.Logging

/-!
# Runs as bounded iteration

A run looks whether the machine has stopped, then whether the budget is used up, and
makes a step if neither is the case.  `System.comes_run` takes it apart: it makes some
steps, each by a running machine and none of them interrupted, and comes back where it
cannot go on.  If it is complete, the number of its steps is the least after which the
machine has stopped or the budget is used up: `System.exact_run`.
-/

namespace WordMachine

variable {World Other : Type}

/-- Channels with nothing behind them never disrupt. -/
theorem Channels.not_disrupts_vacant (disruption : Disruption) :
    ¬ Channels.vacant.Disrupts disruption := by
  intro disrupts
  cases disrupts with
  | read interrupted => cases interrupted
  | value delivered => cases delivered
  | write interrupted => cases interrupted

namespace Machine

/-! ## Steps that are made one after the other -/

/-- So many steps are made one after the other: each finds the machine running, and none is
interrupted. -/
def Proceeds
    (channels : Channels World)
    (count : Nat)
    (machine : Machine)
    (world : World) : Prop :=
  ∀ transition ∈ machine.history channels count world,
    transition.before.condition = .running ∧ transition.interrupted = none

/-- None of so many steps is interrupted. -/
def Undisturbed
    (channels : Channels World)
    (count : Nat)
    (machine : Machine)
    (world : World) : Prop :=
  ∀ transition ∈ machine.history channels count world, transition.interrupted = none

section

variable
  {channels : Channels World}
  {machine : Machine}
  {world : World}

theorem proceeds_zero : machine.Proceeds channels 0 world :=
  fun _ impossible => nomatch impossible

/-- To proceed by one step more is to take that step and proceed from where it leads. -/
theorem proceeds_succ_iff {count : Nat} :
    machine.Proceeds channels (count + 1) world ↔
      (machine.condition = .running ∧ (machine.step channels world).interrupted = none) ∧
        (machine.step channels world).machine.Proceeds channels count
          (machine.step channels world).world :=
  List.forall_mem_cons

/-- Stretches of steps can be joined and cut anywhere. -/
theorem proceeds_add_iff {first second : Nat} :
    machine.Proceeds channels (first + second) world ↔
      machine.Proceeds channels first world ∧
        (machine.afterSteps channels first world).1.Proceeds channels second
          (machine.afterSteps channels first world).2 := by
  unfold Proceeds
  rw [history_add]
  exact List.forall_mem_append

/-- Nothing breaks off a stretch of steps that proceeds. -/
theorem Proceeds.undisturbed
    {count : Nat}
    (proceeds : machine.Proceeds channels count world) :
    machine.Undisturbed channels count world :=
  fun transition member => (proceeds transition member).2

/-- What is left undisturbed for some steps is so for fewer. -/
theorem Undisturbed.mono
    {count fewer : Nat}
    (undisturbed : machine.Undisturbed channels count world)
    (atMost : fewer ≤ count) : machine.Undisturbed channels fewer world := by
  obtain ⟨rest, rfl⟩ := Nat.exists_eq_add_of_le atMost
  unfold Undisturbed at undisturbed
  rw [history_add] at undisturbed
  exact (List.forall_mem_append.mp undisturbed).1

/-- A machine that has stopped makes no step. -/
theorem Proceeds.eq_zero_of_stopped
    {count : Nat}
    (proceeds : machine.Proceeds channels count world)
    (stopped : machine.condition ≠ .running) : count = 0 := by
  cases count with
  | zero => rfl
  | succ count => exact absurd (proceeds_succ_iff.mp proceeds).1.1 stopped

/-- The machine runs before each of the steps that are made, and the step is not interrupted. -/
theorem Proceeds.makes
    {count earlier : Nat}
    (proceeds : machine.Proceeds channels count world)
    (isEarlier : earlier < count) :
    let state := machine.afterSteps channels earlier world
    state.1.condition = .running ∧ (state.1.step channels state.2).interrupted = none := by
  obtain ⟨rest, rfl⟩ := Nat.exists_eq_add_of_lt isEarlier
  rw [Nat.add_assoc] at proceeds
  exact (proceeds_succ_iff.mp (proceeds_add_iff.mp proceeds).2).1

/-- If the machine still runs after the steps that are made, one more step finds it running too. -/
theorem Proceeds.running_of_mem_history
    {count : Nat}
    (proceeds : machine.Proceeds channels count world)
    (stillRunning : (machine.afterSteps channels count world).1.condition = .running) :
    ∀ transition ∈ machine.history channels (count + 1) world,
      transition.before.condition = .running := by
  rw [history_succ]
  refine List.forall_mem_append.mpr ⟨fun transition member => (proceeds transition member).1, ?_⟩
  exact List.forall_mem_singleton.mpr stillRunning

/-- Steps of a machine that runs before each of them are made one after the other, unless one is
interrupted. -/
theorem proceeds_of_running
    {count : Nat}
    (undisturbed : machine.Undisturbed channels count world)
    (running : ∀ earlier < count,
      (machine.afterSteps channels earlier world).1.condition = .running) :
    machine.Proceeds channels count world := by
  induction count generalizing machine world with
  | zero => exact proceeds_zero
  | succ count inductionHypothesis =>
      obtain ⟨firstUndisturbed, laterUndisturbed⟩ := List.forall_mem_cons.mp undisturbed
      refine proceeds_succ_iff.mpr ⟨⟨running 0 (Nat.zero_lt_succ count), firstUndisturbed⟩, ?_⟩
      exact inductionHypothesis laterUndisturbed fun earlier isEarlier =>
        running (earlier + 1) (Nat.succ_lt_succ isEarlier)

/-- A step that is made executes an instruction, unless the machine comes into a fault. -/
theorem executed_step_of_undisturbed
    (running : machine.condition = .running)
    (undisturbed : (machine.step channels world).interrupted = none) :
    (machine.step channels world).machine.executed +
        (if (machine.step channels world).machine.status = .faulted then 1 else 0) =
      machine.executed + 1 := by
  have completes : (machine.transition channels world).completes =
      decide ((machine.step channels world).machine.status ≠ .faulted) := by
    simp [Transition.completes, transition, status_eq_running_iff.mpr running, undisturbed]
  rw [executed_step, completes]
  by_cases faulted : (machine.step channels world).machine.status = .faulted <;> simp [faulted]

/-- Channels that never disrupt disturb no step. -/
theorem undisturbed_of_not_disrupts
    (never : ∀ disruption, ¬ channels.Disrupts disruption)
    (count : Nat) : machine.Undisturbed channels count world := by
  induction count generalizing machine world with
  | zero => exact fun _ impossible => nomatch impossible
  | succ count inductionHypothesis =>
      refine List.forall_mem_cons.mpr ⟨?_, inductionHypothesis⟩
      exact Option.eq_none_iff_forall_ne_some.mpr fun disruption interrupted =>
        never disruption (disrupts_of_step interrupted)

/-- Each of the steps that are made executes an instruction, but for the one in which the machine
comes into a fault. -/
theorem Proceeds.executed_eq
    {count : Nat}
    (proceeds : machine.Proceeds channels count world) :
    (machine.afterSteps channels count world).1.executed +
        (if machine.status ≠ .faulted ∧
            (machine.afterSteps channels count world).1.status = .faulted then 1 else 0) =
      machine.executed + count := by
  induction count generalizing machine world with
  | zero => rw [afterSteps, if_neg fun faults => faults.1 faults.2]
  | succ count inductionHypothesis =>
      obtain ⟨⟨running, undisturbed⟩, later⟩ := proceeds_succ_iff.mp proceeds
      have unfaulted : machine.status ≠ .faulted := by
        rw [status_eq_running_iff.mpr running]
        decide
      have first := executed_step_of_undisturbed running undisturbed
      rw [afterSteps]
      by_cases faulted : (machine.step channels world).machine.status = .faulted
      · -- A machine that came into a fault makes no further step.
        have stopped : (machine.step channels world).machine.condition ≠ .running := by
          rw [← status_eq_running_iff.ne, faulted]
          decide
        cases later.eq_zero_of_stopped stopped
        rw [if_pos faulted] at first
        rw [afterSteps, if_pos ⟨unfaulted, faulted⟩, first]
      · have rest := inductionHypothesis later
        simp only [faulted, ne_eq, not_false_eq_true, true_and, if_false] at first rest
        simp only [unfaulted, ne_eq, not_false_eq_true, true_and]
        omega

end

/-! ## Runs that are complete -/

/-- After so many steps a run is at its end: the machine has stopped, or the budget is used up. -/
def IsOverAfter
    (channels : Channels World)
    (budget : Option Int)
    (machine : Machine)
    (world : World)
    (count : Nat) : Prop :=
  (machine.afterSteps channels count world).1.condition ≠ .running ∨
    ∃ limit, budget = some limit ∧ limit ≤ count

/-- After so many steps a run is at its end, or interrupted in the next step. -/
def ComesBackAfter
    (channels : Channels World)
    (budget : Option Int)
    (machine : Machine)
    (world : World)
    (count : Nat) : Prop :=
  machine.IsOverAfter channels budget world count ∨
    ((machine.afterSteps channels count world).1.step channels
      (machine.afterSteps channels count world).2).interrupted.isSome

/-- A run under a budget makes so many steps until it is complete. -/
structure RunsFor
    (channels : Channels World)
    (budget : Option Int)
    (count : Nat)
    (machine : Machine)
    (world : World) : Prop where
  /-- The steps are made one after the other. -/
  proceeds : machine.Proceeds channels count world
  /-- They are as many as the budget allows at most. -/
  within : ∀ limit, budget = some limit -> (count : Int) ≤ max limit 0
  /-- After them the run is at its end. -/
  isOver : machine.IsOverAfter channels budget world count

section

variable
  {channels : Channels World}
  {budget : Option Int}
  {machine : Machine}
  {world : World}

/-- A run ends as soon as it can. -/
theorem RunsFor.isLeast
    {count : Nat}
    (runs : machine.RunsFor channels budget count world) :
    IsLeast {steps | machine.IsOverAfter channels budget world steps} count := by
  refine ⟨runs.isOver, ?_⟩
  intro steps isOver
  by_contra fewer
  have isEarlier : steps < count := not_le.mp fewer
  rcases isOver with stopped | ⟨limit, isBudget, reached⟩
  · exact stopped (runs.proceeds.makes isEarlier).1
  · have within := runs.within limit isBudget
    omega

/-- The least number of steps after which a run is at its end is the one that it makes, unless one
of them is interrupted. -/
theorem runsFor_of_isLeast
    {count : Nat}
    (undisturbed : machine.Undisturbed channels count world)
    (least : IsLeast {steps | machine.IsOverAfter channels budget world steps} count) :
    machine.RunsFor channels budget count world where
  proceeds := proceeds_of_running undisturbed fun earlier isEarlier => by
    by_contra stopped
    exact absurd (least.2 (Or.inl stopped)) (Nat.not_le_of_gt isEarlier)
  within := by
    intro limit isBudget
    have reached : (limit : Int) ≤ limit.toNat := by omega
    have atMost : count ≤ limit.toNat := least.2 (Or.inr ⟨limit, isBudget, reached⟩)
    omega
  isOver := least.1

/-- A run makes one number of steps only. -/
theorem RunsFor.count_unique
    {count other : Nat}
    (runs : machine.RunsFor channels budget count world)
    (otherRuns : machine.RunsFor channels budget other world) : count = other :=
  runs.isLeast.unique otherRuns.isLeast

/-- A run is complete at some time if some number of steps, none of them interrupted, brings it to
its end. -/
theorem exists_runsFor_iff :
    (∃ count, machine.RunsFor channels budget count world) ↔
      ∃ count, machine.Undisturbed channels count world ∧
        machine.IsOverAfter channels budget world count := by
  classical
  constructor
  · rintro ⟨count, runs⟩
    exact ⟨count, runs.proceeds.undisturbed, runs.isOver⟩
  · rintro ⟨count, undisturbed, isOver⟩
    have ends : ∃ steps, machine.IsOverAfter channels budget world steps := ⟨count, isOver⟩
    have fewer : Nat.find ends ≤ count := Nat.find_min' ends isOver
    refine ⟨Nat.find ends, runsFor_of_isLeast (undisturbed.mono fewer) ⟨Nat.find_spec ends, ?_⟩⟩
    exact fun steps reached => Nat.find_min' ends reached

end

/-! ## Channels that are alike -/

section

variable
  {channels : Channels World}
  {others : Channels Other}
  {related : World -> Other -> Prop}
  (alike : channels.Alike others related)
  {world : World}
  {other : Other}
  (isRelated : related world other)
  {machine : Machine}
  {count : Nat}

include alike isRelated

/-- What holds of all transitions, whatever the output channel tells, holds with channels that are
alike. -/
theorem forall_history_of_alike
    {property : Transition -> Prop}
    (unheard : ∀ transition : Transition, property transition.unheard ↔ property transition)
    (holds : ∀ transition ∈ machine.history channels count world, property transition) :
    ∀ transition ∈ machine.history others count other, property transition := by
  have same := unheard_history alike isRelated count machine
  have all : ∀ transition ∈ (machine.history channels count world).map Transition.unheard,
      property transition :=
    List.forall_mem_map.mpr fun transition member =>
      (unheard transition).mpr (holds transition member)
  rw [same] at all
  exact fun transition member =>
    (unheard transition).mp (List.forall_mem_map.mp all transition member)

/-- Machines on related channels proceed for the same numbers of steps. -/
theorem Proceeds.of_alike
    (proceeds : machine.Proceeds channels count world) : machine.Proceeds others count other :=
  forall_history_of_alike alike isRelated (fun _ => Iff.rfl) proceeds

/-- Machines on related channels are interrupted at the same steps, by the same thing. -/
theorem interrupted_of_alike (count : Nat) :
    ((machine.afterSteps channels count world).1.step channels
        (machine.afterSteps channels count world).2).interrupted =
      ((machine.afterSteps others count other).1.step others
        (machine.afterSteps others count other).2).interrupted := by
  obtain ⟨same, stillRelated⟩ := alike_afterSteps alike isRelated count machine
  rw [same]
  exact (alike_step alike stillRelated _).1.interrupted_eq

/-- A run is over after the same numbers of steps on related channels. -/
theorem isOverAfter_iff_of_alike (budget : Option Int) :
    machine.IsOverAfter channels budget world count ↔
      machine.IsOverAfter others budget other count := by
  rw [IsOverAfter, (alike_afterSteps alike isRelated count machine).1, IsOverAfter]

/-- A run comes back after the same numbers of steps on related channels. -/
theorem comesBackAfter_iff_of_alike (budget : Option Int) :
    machine.ComesBackAfter channels budget world count ↔
      machine.ComesBackAfter others budget other count := by
  rw [ComesBackAfter, isOverAfter_iff_of_alike alike isRelated,
    interrupted_of_alike alike isRelated, ComesBackAfter]

/-- The number of steps that a run takes carries over to related channels. -/
theorem RunsFor.of_alike
    {budget : Option Int}
    (runs : machine.RunsFor channels budget count world) :
    machine.RunsFor others budget count other where
  proceeds := runs.proceeds.of_alike alike isRelated
  within := runs.within
  isOver := (isOverAfter_iff_of_alike alike isRelated budget).mp runs.isOver

end
end Machine

/-! ## How a run comes back -/

/-- The result of a run that is complete after some steps. -/
def RunResult.ofMachine
    (steps : Nat)
    (machine : Machine) : RunResult where
  status := machine.status
  steps
  fault := machine.fault?
  limitReached := machine.status = .running

namespace System

/-- The notice about a run that is complete after some steps. -/
def closing
    (budget : Option Int)
    (steps : Nat)
    (machine : Machine) : Notice :=
  match machine.condition with
  | .running => .budgetExhausted (budget.getD 0) machine.pc
  | .halted => .programHalted steps machine.pc
  | .faulted fault => .programFaulted steps fault

/-- The system after so many steps of a run. -/
def proceeded
    (channels : Channels World)
    (trace : Bool)
    (count : Nat)
    (system : System World) : System World where
  machine := (system.machine.afterSteps channels count system.world).1
  world := (system.machine.afterSteps channels count system.world).2
  journal := system.journal.recordAll
    ((system.machine.history channels count system.world).flatMap (Transition.logged trace))

/-- A run that has made some steps makes so many more: the budget allows them, and they are made
one after the other. -/
structure GoesOn
    (channels : Channels World)
    (budget : Option Int)
    (steps count : Nat)
    (system : System World) : Prop where
  /-- The steps are made one after the other. -/
  proceeds : system.machine.Proceeds channels count system.world
  /-- They are as many as the budget allows at most. -/
  within : ∀ limit, budget = some limit -> count = 0 ∨ (steps + count : Int) ≤ limit

/-- How a run that has made some steps comes back. -/
inductive Comes
    (channels : Channels World)
    (options : RunOptions)
    (fuel steps : Nat)
    (system : System World) : RunReply × System World -> Prop where
  /-- The run is complete. -/
  | finished {count : Nat} {result : RunResult} {notice : Notice}
      (goesOn : system.GoesOn channels options.budget steps count)
      (fits : count ≤ fuel)
      (ending : ending? options (steps + count)
        (system.proceeded channels options.trace count).machine = some (result, notice)) :
      Comes channels options fuel steps system
        (.finished result, (system.proceeded channels options.trace count).note notice)
  /-- The run attempts one more step, and that is interrupted. -/
  | interrupted {count : Nat} {disruption : Disruption}
      (goesOn : system.GoesOn channels options.budget steps count)
      (fits : count < fuel)
      (unfinished : ending? options (steps + count)
        (system.proceeded channels options.trace count).machine = none)
      (disturbed : ((system.proceeded channels options.trace count).machine.step channels
        (system.proceeded channels options.trace count).world).interrupted = some disruption) :
      Comes channels options fuel steps system
        (.interrupted disruption (steps + count),
          system.proceeded channels options.trace (count + 1))
  /-- The fuel is used up. -/
  | unfinished
      (goesOn : system.GoesOn channels options.budget steps fuel)
      (unfinished : ending? options (steps + fuel)
        (system.proceeded channels options.trace fuel).machine = none) :
      Comes channels options fuel steps system
        (.unfinished (steps + fuel), system.proceeded channels options.trace fuel)

section

variable
  {channels : Channels World}
  {options : RunOptions}
  {steps : Nat}

/-- A run goes on as long as the machine runs and something of the budget is left. -/
theorem ending?_eq_none_iff {machine : Machine} :
    ending? options steps machine = none ↔
      machine.condition = .running ∧
        ∀ limit, options.budget = some limit -> (steps : Int) < limit := by
  unfold ending? RunOptions.exhaustedBy
  cases machine.condition with
  | running => simp
  | halted => simp
  | faulted fault => simp

/-- What a run comes to at its end. -/
theorem ending?_eq_some_iff
    {machine : Machine}
    {result : RunResult}
    {notice : Notice} :
    ending? options steps machine = some (result, notice) ↔
      (machine.condition ≠ .running ∨ ∃ limit, options.budget = some limit ∧ limit ≤ steps) ∧
        result = .ofMachine steps machine ∧
        notice = closing options.budget steps machine := by
  unfold ending? RunOptions.exhaustedBy RunResult.ofMachine closing Machine.status Machine.fault?
  cases machine.condition with
  | running =>
      cases options.budget with
      | none => simp
      | some limit =>
          by_cases reached : limit ≤ steps <;> simp [Option.filter, reached, eq_comm]
  | halted => simp [eq_comm]
  | faulted fault => simp [eq_comm]

/-! ## Taking a run apart -/

variable {system : System World}

/-- A run that is over when it is asked for takes no step and records its notice. -/
theorem run_of_ending
    {result : RunResult}
    {notice : Notice}
    (ending : ending? options steps system.machine = some (result, notice))
    (fuel : Nat) :
    system.run channels options fuel steps = (.finished result, system.note notice) := by
  unfold run
  rw [ending]

theorem proceeded_succ (count : Nat) :
    system.proceeded channels options.trace (count + 1) =
      (system.runStep channels options).2.proceeded channels options.trace count := by
  obtain ⟨machine, world, journal⟩ := system
  rw [runStep_eq, proceeded, Machine.afterSteps, Machine.history, List.flatMap_cons,
    Journal.recordAll_append]
  rfl

theorem goesOn_zero (budget : Option Int) : system.GoesOn channels budget steps 0 where
  proceeds := Machine.proceeds_zero
  within := fun _ _ => Or.inl rfl

/-- A run that is not at its end makes the next step, unless that is interrupted. -/
theorem goesOn_succ
    {count : Nat}
    (unfinished : ending? options steps system.machine = none)
    (undisturbed : (system.runStep channels options).1 = none)
    (later :
      (system.runStep channels options).2.GoesOn channels options.budget (steps + 1) count) :
    system.GoesOn channels options.budget steps (count + 1) := by
  obtain ⟨machine, world, journal⟩ := system
  rw [runStep_eq] at undisturbed later
  obtain ⟨running, within⟩ := ending?_eq_none_iff.mp unfinished
  refine ⟨Machine.proceeds_succ_iff.mpr ⟨⟨running, undisturbed⟩, later.proceeds⟩, ?_⟩
  intro limit isBudget
  have first := within limit isBudget
  have rest := later.within limit isBudget
  omega

/-- How a run comes back after its next step, it comes back before it. -/
theorem comes_succ
    {fuel : Nat}
    {reply : RunReply × System World}
    (unfinished : ending? options steps system.machine = none)
    (undisturbed : (system.runStep channels options).1 = none)
    (comes :
      (system.runStep channels options).2.Comes channels options fuel (steps + 1) reply) :
    system.Comes channels options (fuel + 1) steps reply := by
  have total (count : Nat) : steps + 1 + count = steps + (count + 1) := by omega
  cases comes with
  | finished goesOn fits ending =>
      rw [total, ← proceeded_succ] at ending
      rw [← proceeded_succ]
      exact .finished (goesOn_succ unfinished undisturbed goesOn) (Nat.succ_le_succ fits) ending
  | interrupted goesOn fits goes disturbed =>
      rw [total, ← proceeded_succ] at goes
      rw [← proceeded_succ] at disturbed
      rw [total, ← proceeded_succ]
      exact .interrupted (goesOn_succ unfinished undisturbed goesOn) (Nat.succ_lt_succ fits) goes
        disturbed
  | unfinished goesOn goes =>
      rw [total, ← proceeded_succ] at goes
      rw [total, ← proceeded_succ]
      exact .unfinished (goesOn_succ unfinished undisturbed goesOn) goes

variable (channels options steps system)

/-- A run comes back in one of the ways. -/
theorem comes_run (fuel : Nat) :
    system.Comes channels options fuel steps (system.run channels options fuel steps) := by
  induction fuel generalizing steps system with
  | zero =>
      cases ending : ending? options steps system.machine with
      | some conclusion =>
          rw [run_of_ending ending]
          exact .finished (goesOn_zero _) (Nat.le_refl 0) ending
      | none =>
          unfold run
          rw [ending]
          exact .unfinished (goesOn_zero _) ending
  | succ fuel inductionHypothesis =>
      cases ending : ending? options steps system.machine with
      | some conclusion =>
          rw [run_of_ending ending]
          exact .finished (goesOn_zero _) (Nat.zero_le _) ending
      | none =>
          cases stepped : system.runStep channels options with
          | mk interrupted after =>
              cases interrupted with
              | some disruption =>
                  have disturbed :
                      (system.machine.step channels system.world).interrupted =
                        some disruption := by
                    rw [runStep_eq] at stepped
                    exact congrArg Prod.fst stepped
                  have last : after = system.proceeded channels options.trace 1 := by
                    rw [proceeded_succ, stepped]
                    rfl
                  rw [run_of_interrupted ending stepped, last]
                  exact .interrupted (goesOn_zero _) (Nat.zero_lt_succ fuel) ending disturbed
              | none =>
                  -- The rest of the run counts its steps from the state after this one.
                  have later := inductionHypothesis (steps + 1) after
                  rw [run_of_returned ending stepped]
                  refine comes_succ ending ?_ ?_
                  · rw [stepped]
                  · rwa [stepped]

variable {channels options system}

/-- The steps of a run that is complete are those that it makes. -/
theorem GoesOn.runsFor
    {count : Nat}
    {conclusion : RunResult × Notice}
    (goesOn : system.GoesOn channels options.budget 0 count)
    (ending : ending? options (0 + count)
      (system.proceeded channels options.trace count).machine = some conclusion) :
    system.machine.RunsFor channels options.budget count system.world where
  proceeds := goesOn.proceeds
  within := by
    intro limit isBudget
    have within := goesOn.within limit isBudget
    omega
  isOver := by
    rw [Nat.zero_add] at ending
    exact (ending?_eq_some_iff.mp ending).1

/-- A run that is not at its end has made fewer steps than it makes. -/
theorem lt_of_unfinished
    {count made : Nat}
    (runs : system.machine.RunsFor channels options.budget count system.world)
    (goesOn : system.GoesOn channels options.budget 0 made)
    (unfinished : ending? options (0 + made)
      (system.proceeded channels options.trace made).machine = none) : made < count := by
  rw [Nat.zero_add] at unfinished
  obtain ⟨running, within⟩ := ending?_eq_none_iff.mp unfinished
  by_contra notFewer
  have atLeast : count ≤ made := Nat.le_of_not_lt notFewer
  rcases runs.isOver with stopped | ⟨limit, isBudget, reached⟩
  · rcases Nat.eq_or_lt_of_le atLeast with rfl | isEarlier
    · exact stopped running
    · exact stopped (goesOn.proceeds.makes isEarlier).1
  · have inBudget := within limit isBudget
    omega

/-- A run comes back if the fuel suffices, and there is enough of it if some number of steps brings
the run to its end or to an interruption. -/
theorem exists_fuel_iff :
    (∃ fuel, ∀ made, (system.run channels options fuel 0).1 ≠ .unfinished made) ↔
      ∃ count, system.machine.ComesBackAfter channels options.budget system.world count := by
  constructor
  · rintro ⟨fuel, enough⟩
    have comes := comes_run channels options 0 system fuel
    generalize system.run channels options fuel 0 = reply at comes enough
    cases comes with
    | @finished count result notice goesOn fits ending =>
        exact ⟨count, Or.inl (goesOn.runsFor ending).isOver⟩
    | @interrupted count disruption goesOn fits unfinished disturbed =>
        exact ⟨count, Or.inr (Option.isSome_of_mem disturbed)⟩
    | unfinished => exact absurd rfl (enough _)
  · rintro ⟨count, comesBack⟩
    refine ⟨count + 1, fun made unfinished => ?_⟩
    have comes := comes_run channels options 0 system (count + 1)
    generalize system.run channels options (count + 1) 0 = reply at comes unfinished
    cases comes with
    | finished => cases unfinished
    | interrupted => cases unfinished
    | unfinished goesOn =>
        -- One more step was made after which the run is to be at its end or interrupted.
        obtain ⟨running, undisturbed⟩ := goesOn.proceeds.makes (Nat.lt_succ_self count)
        rcases comesBack with (stopped | ⟨limit, isBudget, reached⟩) | disturbed
        · exact stopped running
        · have within := goesOn.within limit isBudget
          omega
        · rw [undisturbed] at disturbed
          cases disturbed

/-- A run with enough fuel makes its steps and is complete. -/
theorem run_of_runsFor
    {count fuel : Nat}
    (runs : system.machine.RunsFor channels options.budget count system.world)
    (enough : count ≤ fuel) :
    let last := system.proceeded channels options.trace count
    system.run channels options fuel 0 =
      (.finished (.ofMachine count last.machine),
        last.note (closing options.budget count last.machine)) := by
  intro last
  have comes := comes_run channels options 0 system fuel
  generalize system.run channels options fuel 0 = reply at comes ⊢
  cases comes with
  | finished goesOn fits ending =>
      cases (goesOn.runsFor ending).count_unique runs
      obtain ⟨_, rfl, rfl⟩ := ending?_eq_some_iff.mp ending
      rw [Nat.zero_add]
  | interrupted goesOn fits unfinished disturbed =>
      have made := runs.proceeds.makes (lt_of_unfinished runs goesOn unfinished)
      exact absurd (made.2.symm.trans disturbed) (Option.some_ne_none _).symm
  | unfinished goesOn unfinished =>
      exact absurd (lt_of_unfinished runs goesOn unfinished) (Nat.not_lt_of_ge enough)

/-- A run is complete after the steps that it makes, and only then. -/
theorem run_eq_finished_iff
    {fuel : Nat}
    {result : RunResult}
    {after : System World} :
    system.run channels options fuel 0 = (.finished result, after) ↔
      ∃ count ≤ fuel,
        system.machine.RunsFor channels options.budget count system.world ∧
          let last := system.proceeded channels options.trace count
          result = .ofMachine count last.machine ∧
            after = last.note (closing options.budget count last.machine) := by
  constructor
  · intro ran
    have comes := comes_run channels options 0 system fuel
    rw [ran] at comes
    cases comes with
    | @finished count result notice goesOn fits ending =>
        have runs := goesOn.runsFor ending
        rw [Nat.zero_add] at ending
        obtain ⟨_, rfl, rfl⟩ := ending?_eq_some_iff.mp ending
        exact ⟨count, fits, runs, rfl, rfl⟩
  · rintro ⟨count, enough, runs, rfl, rfl⟩
    exact run_of_runsFor runs enough

end

/-! ## Complete runs are exact -/

end System

/-- Whether a notice is about the outcome of a run. -/
def Notice.tellsOutcome : Notice -> Bool
  | .budgetExhausted .. | .programHalted .. | .programFaulted .. => true
  | _ => false

/-- Steps tell of no outcome, unless the output channel does. -/
theorem Transition.filter_tellsOutcome_logged
    (trace : Bool)
    (transition : Transition) :
    (transition.logged trace).filter Notice.tellsOutcome =
      transition.told.filter Notice.tellsOutcome := by
  have faults (fault? : Option Fault) :
      (fault?.toList.map Notice.machineFaulted).filter Notice.tellsOutcome = [] := by
    cases fault? <;> rfl
  have reports (report? : Option StepReport) :
      (report?.toList.map Notice.stepTraced).filter Notice.tellsOutcome = [] := by
    cases report? <;> rfl
  unfold logged notices
  cases trace <;> split <;> simp [faults, reports]

namespace System

/-- The outcome of a run is good news if the program has ended. -/
theorem level_closing
    (budget : Option Int)
    (steps : Nat)
    (machine : Machine) :
    (closing budget steps machine).level =
      if machine.status = .halted then .info else .warning := by
  unfold closing Machine.status
  cases machine.condition <;> rfl

/-- Whichever way a run ends, its last notice is about its outcome. -/
theorem tellsOutcome_closing
    (budget : Option Int)
    (steps : Nat)
    (machine : Machine) : (closing budget steps machine).tellsOutcome = true := by
  unfold closing
  cases machine.condition <;> rfl

/-- A complete run is as many steps as there are until it is at its end. -/
structure ExactRun
    (channels : Channels World)
    (options : RunOptions)
    (start after : System World)
    (result : RunResult) : Prop where
  /-- The steps are made one after the other, and the budget allows them. -/
  runsFor : start.machine.RunsFor channels options.budget result.steps start.world
  /-- Their number is the least after which the machine has stopped or the budget is used up. -/
  least : IsLeast
    {steps | start.machine.IsOverAfter channels options.budget start.world steps} result.steps
  /-- The machine and the world are what the steps make of them. -/
  state_eq : (after.machine, after.world) =
    start.machine.afterSteps channels result.steps start.world
  /-- The status is the one of the machine. -/
  status_eq : result.status = after.machine.status
  /-- The fault is the one of the machine, which has one if its status says so. -/
  fault_eq : result.fault = after.machine.fault? ∧
    (result.fault = none ↔ after.machine.status ≠ .faulted)
  /-- The budget is what ended the run if the machine still runs. -/
  limitReached_iff : result.limitReached = true ↔ after.machine.status = .running
  /-- If the machine still runs, the budget is used up to the last step. -/
  steps_eq : after.machine.status = .running ->
    ∃ limit, options.budget = some limit ∧ (result.steps : Int) = max limit 0
  /-- Each step executes an instruction, but for the one in which the machine comes into a fault. -/
  executed_eq :
    after.machine.executed +
        (if start.machine.status ≠ .faulted ∧ after.machine.status = .faulted then 1 else 0) =
      start.machine.executed + result.steps
  /-- The journal is given what the steps are logged with, and then one notice about the outcome,
  which is ordinary if the machine has halted and a warning if not. -/
  journal_eq :
    let steps := start.machine.history channels result.steps start.world
    let notice := closing options.budget result.steps after.machine
    let given := steps.flatMap (Transition.logged options.trace) ++ [notice]
    after.journal = start.journal.recordAll given ∧
      given.filter Notice.tellsOutcome =
        (steps.flatMap Transition.told).filter Notice.tellsOutcome ++ [notice] ∧
      notice.level = if after.machine.status = .halted then .info else .warning

/-- A count of steps for which the loop runs is all that has to be found: it fixes reply, state,
counter and journal. -/
theorem exactRun_of_runsFor
    {channels : Channels World}
    {options : RunOptions}
    {start : System World}
    {count : Nat}
    (runs : start.machine.RunsFor channels options.budget count start.world) :
    let last := start.proceeded channels options.trace count
    ExactRun channels options start (last.note (closing options.budget count last.machine))
      (.ofMachine count last.machine) := by
  intro last
  exact {
    runsFor := runs
    least := runs.isLeast
    state_eq := rfl
    status_eq := rfl
    fault_eq := by
      refine ⟨rfl, ?_⟩
      change last.machine.fault? = none ↔ last.machine.status ≠ .faulted
      rw [ne_eq, ← Machine.isSome_fault?_iff, Option.not_isSome_iff_eq_none]
    limitReached_iff := decide_eq_true_iff
    steps_eq := by
      intro running
      rcases runs.isOver with stopped | ⟨limit, isBudget, reached⟩
      · exact absurd (Machine.status_eq_running_iff.mp running) stopped
      · have within := runs.within limit isBudget
        exact ⟨limit, isBudget, show (count : Int) = max limit 0 by omega⟩
    executed_eq := runs.proceeds.executed_eq
    journal_eq := by
      intro steps notice given
      refine ⟨?_, ?_, level_closing _ _ _⟩
      · exact (Journal.recordAll_append start.journal _ [notice]).symm
      · have told : [notice].filter Notice.tellsOutcome = [notice] :=
          List.filter_cons_of_pos (tellsOutcome_closing _ _ _)
        rw [List.filter_append, List.filter_flatMap, List.filter_flatMap, told]
        simp only [Transition.filter_tellsOutcome_logged] }

/-- Whenever a run is complete, it is exact.  A run is complete at some time if some number of steps
brings it to its end; without a budget, if some number of steps, none of them interrupted, brings
the machine to a stop. -/
theorem exact_run
    (channels : Channels World)
    (options : RunOptions)
    (start : System World) :
    (∀ fuel result after, start.run channels options fuel 0 = (.finished result, after) ->
      ExactRun channels options start after result) ∧
    ((∃ fuel result after, start.run channels options fuel 0 = (.finished result, after)) ↔
      ∃ count, start.machine.RunsFor channels options.budget count start.world) ∧
    (options.budget = none ->
      ((∃ fuel result after, start.run channels options fuel 0 = (.finished result, after)) ↔
        ∃ count, start.machine.Undisturbed channels count start.world ∧
          (start.machine.afterSteps channels count start.world).1.condition ≠ .running)) := by
  have returns :
      (∃ fuel result after, start.run channels options fuel 0 = (.finished result, after)) ↔
        ∃ count, start.machine.RunsFor channels options.budget count start.world := by
    constructor
    · rintro ⟨fuel, result, after, ran⟩
      obtain ⟨count, _, runs, _⟩ := run_eq_finished_iff.mp ran
      exact ⟨count, runs⟩
    · rintro ⟨count, runs⟩
      exact ⟨count, _, _, run_of_runsFor runs (Nat.le_refl count)⟩
  refine ⟨?_, returns, ?_⟩
  · intro fuel result after ran
    obtain ⟨count, _, runs, rfl, rfl⟩ := run_eq_finished_iff.mp ran
    exact exactRun_of_runsFor runs
  · intro unlimited
    rw [returns, Machine.exists_runsFor_iff, unlimited]
    simp [Machine.IsOverAfter]

/-- A fresh machine halts at its first instruction, with the last step of its budget or without a
budget. -/
theorem exact_run_fresh :
    let start : System Unit :=
      { machine := .fresh, world := (), journal := { verbosity := .silent } }
    let halted : RunResult :=
      { status := .halted, steps := 1, fault := none, limitReached := false }
    (∃ after, start.run Channels.vacant { budget := some 1 } 1 0 = (.finished halted, after) ∧
        ExactRun Channels.vacant { budget := some 1 } start after halted) ∧
      ((∃ fuel result after, start.run Channels.vacant {} fuel 0 = (.finished result, after)) ↔
        ∃ count, start.machine.Undisturbed Channels.vacant count start.world ∧
          (start.machine.afterSteps Channels.vacant count start.world).1.condition ≠
            .running) := by
  intro start halted
  have exact := exact_run Channels.vacant { budget := some 1 } start
  have unlimited := exact_run Channels.vacant {} start
  exact ⟨⟨_, rfl, exact.1 1 halted _ rfl⟩, unlimited.2.2 rfl⟩

end System
end WordMachine
