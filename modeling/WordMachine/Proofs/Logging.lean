import WordMachine.Proofs.LifeCycle

/-!
# What logging changes

The journal is written and never read: whichever it is, the same comes of every call, and
it is given the same notices (`System.overlooks_performAll`).  So a higher level only drops
records.  A run that is traced does for every step what a plain run does, and records the
report on the step besides (`System.runsAlike`).  Both are put together in
`System.logging_transparent`.
-/

namespace WordMachine

variable {World : Type}

namespace Journal

variable (journal : Journal)

/-- Notices may be put on record in portions. -/
theorem recordAll_append (notices others : List Notice) :
    journal.recordAll (notices ++ others) = (journal.recordAll notices).recordAll others :=
  List.foldl_append

/-- Reports on steps are given to a journal in vain that does not show steps. -/
theorem recordAll_stepTraced
    (hidden : journal.verbosity.showsSteps = false)
    (reports : List StepReport) :
    journal.recordAll (reports.map .stepTraced) = journal := by
  induction reports with
  | nil => rfl
  | cons report reports inductionHypothesis =>
      have dropped : journal.record (.stepTraced report) = journal :=
        if_neg (Bool.eq_false_iff.mp hidden)
      rw [List.map_cons, recordAll, List.foldl_cons, dropped]
      exact inductionHypothesis

end Journal

/-! ## Levels as numbers -/

namespace Level

/-- The number by which the importance of a level is compared with a threshold. -/
def severity (level : Level) : Int :=
  10 * (level.rank + 1)

/-- The levels are listed in the order of their severity. -/
theorem pairwise_all : all.Pairwise fun lower higher => lower.rank ≤ higher.rank := by
  decide

/-- The levels that reach a threshold are those from the first that does on. -/
theorem rank_le_iff_of_find?
    {threshold : Int}
    {least : Level}
    (found : all.find? (fun level => threshold ≤ level.severity) = some least)
    (level : Level) : least.rank ≤ level.rank ↔ threshold ≤ level.severity := by
  obtain ⟨reached, lower, higher, parts, below⟩ := List.find?_eq_some_iff_append.mp found
  constructor
  · intro above
    have leastReaches : threshold ≤ least.severity := of_decide_eq_true reached
    unfold severity at leastReaches ⊢
    omega
  · intro reaches
    have ordered := pairwise_all
    have member := level.mem_all
    rw [parts] at ordered member
    rcases List.mem_append.mp member with before | rest
    · have misses := below level before
      simp [reaches] at misses
    · rcases List.mem_cons.mp rest with rfl | after
      · exact Nat.le_refl _
      · exact (List.pairwise_cons.mp (List.pairwise_append.mp ordered).2.1).1 level after

end Level

/-- The threshold that counts where a level is set as a number: the level itself, or what is
inherited from elsewhere if the level is zero, which stands for no level. -/
def Level.threshold (inherited own : Int) : Int :=
  if own = 0 then inherited else own

namespace Verbosity

/-- Which notices are kept if all those below a threshold are dropped. -/
def ofThreshold (threshold : Int) : Verbosity :=
  match Level.all.find? fun level => threshold ≤ level.severity with
  | some least => .atLeast least
  | none => .silent

/-- A verbosity made from a threshold admits what is at least as severe, whoever says it. -/
theorem admits_ofThreshold
    (threshold : Int)
    (origin : Origin)
    (level : Level) :
    (ofThreshold threshold).admits origin level = decide (threshold ≤ level.severity) := by
  unfold ofThreshold
  split
  · next least found => exact decide_eq_decide.mpr (Level.rank_le_iff_of_find? found level)
  · next missing =>
      have misses := List.find?_eq_none.mp missing level level.mem_all
      exact (Bool.eq_false_iff.mpr misses).symm

end Verbosity

/-! ## Records of steps -/

namespace Transition

/-- The report on a step, unless it was interrupted. -/
def report? (transition : Transition) : Option StepReport :=
  if transition.interrupted.isNone then
    some (.between transition.before.mnemonic transition.before.snapshot
      transition.after.snapshot)
  else
    none

/-- What a run gives to the journal about a step. -/
def logged
    (trace : Bool)
    (transition : Transition) : List Notice :=
  transition.notices ++ if trace then transition.report?.toList.map .stepTraced else []

/-- What a journal keeps of the notices of a step. -/
def kept
    (journal : Journal)
    (transition : Transition) : List Notice :=
  transition.notices.filter journal.keeps

/-- What a journal keeps of the report on a step. -/
def traced
    (journal : Journal)
    (transition : Transition) : List Notice :=
  if journal.verbosity.showsSteps then transition.report?.toList.map .stepTraced else []

/-- A journal keeps of a traced step what it keeps of the plain step, and the trace if that is
asked for. -/
theorem filter_logged
    (journal : Journal)
    (trace : Bool)
    (transition : Transition) :
    (transition.logged trace).filter journal.keeps =
      transition.kept journal ++ if trace then transition.traced journal else [] := by
  rw [logged, List.filter_append, kept, traced]
  cases trace with
  | false => rfl
  | true =>
      cases transition.report? with
      | none => simp
      | some report =>
          rw [if_pos rfl, if_pos rfl, Option.toList_some, List.map_singleton,
            List.filter_singleton, Bool.cond_eq_ite]
          rfl

end Transition

namespace System

section

variable (channels : Channels World)

/-! ## The journal is not read -/

/-- Whichever journal there is, the same comes of what is done, and the journal is given the same
notices. -/
def Overlooks
    {α : Type}
    (activity : System World -> α × System World)
    (machine : Machine)
    (world : World) : Prop :=
  ∃ answer after last notices, ∀ journal,
    activity { machine, world, journal } =
      (answer, { machine := after, world := last, journal := journal.recordAll notices })

variable
  (machine : Machine)
  (world : World)

/-- A step of the whole system is one of the machine, with its notices put on record. -/
theorem step_eq (journal : Journal) :
    System.step channels { machine, world, journal } =
      ((machine.step channels world).interrupted,
        { machine := (machine.step channels world).machine
          world := (machine.step channels world).world
          journal := journal.recordAll (machine.transition channels world).notices }) := by
  rw [← Machine.notices_step]
  rfl

/-- A traced step adds the report to the record and nothing else. -/
theorem tracedStep_eq (journal : Journal) :
    System.tracedStep channels { machine, world, journal } =
      ((machine.step channels world).interrupted,
        { machine := (machine.step channels world).machine
          world := (machine.step channels world).world
          journal := journal.recordAll ((machine.transition channels world).logged true) }) := by
  have report?_eq : (machine.transition channels world).report? =
      if (machine.step channels world).interrupted.isNone then
        some (.between machine.mnemonic machine.snapshot
          (machine.step channels world).machine.snapshot)
      else
        none :=
    rfl
  unfold tracedStep reportedStep Transition.logged
  rw [step_eq, report?_eq, Journal.recordAll_append]
  cases (machine.step channels world).interrupted <;> rfl

/-- A step of a traced run differs only in the report that it gives to the journal. -/
theorem runStep_eq
    (options : RunOptions)
    (journal : Journal) :
    System.runStep channels options { machine, world, journal } =
      ((machine.step channels world).interrupted,
        { machine := (machine.step channels world).machine
          world := (machine.step channels world).world
          journal :=
            journal.recordAll ((machine.transition channels world).logged options.trace) }) := by
  have plain : (machine.transition channels world).logged false =
      (machine.transition channels world).notices := List.append_nil _
  unfold runStep
  cases options.trace with
  | false =>
      rw [Bool.false_and, if_neg Bool.false_ne_true, plain]
      exact step_eq channels machine world journal
  | true =>
      rw [Bool.true_and]
      cases shows : journal.verbosity.showsSteps with
      | true => exact tracedStep_eq channels machine world journal
      | false =>
          have hidden : (journal.recordAll
              (machine.transition channels world).notices).verbosity.showsSteps = false := by
            rw [Journal.verbosity_recordAll, shows]
          rw [if_neg Bool.false_ne_true, step_eq, Transition.logged, if_pos rfl,
            Journal.recordAll_append, Journal.recordAll_stepTraced _ hidden]

/-! ## Runs -/

section

variable
  {channels : Channels World}
  {options : RunOptions}
  {steps : Nat}
  {system after : System World}
  (goesOn : ending? options steps system.machine = none)

include goesOn

/-- An interrupted step breaks the run off; the step itself is not counted. -/
theorem run_of_interrupted
    {disruption : Disruption}
    (stepped : system.runStep channels options = (some disruption, after))
    (fuel : Nat) :
    system.run channels options (fuel + 1) steps = (.interrupted disruption steps, after) := by
  unfold run
  simp only [goesOn, stepped]

/-- After a step that returned, the run goes on with one step more to its count. -/
theorem run_of_returned
    (stepped : system.runStep channels options = (none, after))
    (fuel : Nat) :
    system.run channels options (fuel + 1) steps =
      after.run channels options fuel (steps + 1) := by
  conv_lhs => unfold run
  simp only [goesOn, stepped]

end

/-- A run makes the same steps whether it is traced or not and whichever journal there is, and
gives to the journal what is to be logged about each step, and a notice when it is complete. -/
def RunsAlike
    (budget : Option Int)
    (fuel steps : Nat) : Prop :=
  ∃ reply count after last closing,
    reply.attempts = steps + count ∧
      ∀ trace journal,
        System.run channels { budget, trace } fuel steps { machine, world, journal } =
          (reply,
            { machine := after
              world := last
              journal := journal.recordAll
                ((machine.history channels count world).flatMap (Transition.logged trace) ++
                  closing) })

/-- Where the loop ends before a step, tracing makes no difference because nothing is traced. -/
theorem runsAlike_of_ending
    {budget : Option Int}
    {steps : Nat}
    {result : RunResult}
    {notice : Notice}
    (ending : ending? { budget } steps machine = some (result, notice))
    (fuel : Nat) : RunsAlike channels machine world budget fuel steps := by
  refine ⟨.finished result, 0, machine, world, [notice], (ending?_spec ending).1, ?_⟩
  intro trace journal
  have endsToo : ending? { budget, trace } steps machine = some (result, notice) := ending
  unfold run
  rw [endsToo]
  rfl

/-- Traced or not, a run takes the same steps; the induction is on the fuel. -/
theorem runsAlike
    (budget : Option Int)
    (fuel steps : Nat) : RunsAlike channels machine world budget fuel steps := by
  -- The count of steps and the notices of the rest do not depend on the journal, so that they can
  -- be chosen before it is known whether there is a trace.
  induction fuel generalizing machine world steps with
  | zero =>
      cases ending : ending? { budget } steps machine with
      | some conclusion => exact runsAlike_of_ending channels machine world ending 0
      | none =>
          refine ⟨.unfinished steps, 0, machine, world, [], rfl, ?_⟩
          intro trace journal
          have goesOn : ending? { budget, trace } steps machine = none := ending
          unfold run
          rw [goesOn]
          rfl
  | succ fuel inductionHypothesis =>
      cases ending : ending? { budget } steps machine with
      | some conclusion => exact runsAlike_of_ending channels machine world ending _
      | none =>
          cases interrupted : (machine.step channels world).interrupted with
          | some disruption =>
              refine ⟨.interrupted disruption steps, 1, (machine.step channels world).machine,
                (machine.step channels world).world, [], rfl, ?_⟩
              intro trace journal
              have stepped := runStep_eq channels machine world { budget, trace } journal
              rw [interrupted] at stepped
              rw [run_of_interrupted ending stepped fuel, List.append_nil, Machine.history,
                Machine.history, List.flatMap_singleton]
          | none =>
              obtain ⟨reply, count, after, last, closing, attempts, runs⟩ :=
                inductionHypothesis (machine.step channels world).machine
                  (machine.step channels world).world (steps + 1)
              refine ⟨reply, count + 1, after, last, closing, by omega, ?_⟩
              intro trace journal
              have stepped := runStep_eq channels machine world { budget, trace } journal
              rw [interrupted] at stepped
              rw [run_of_returned ending stepped fuel, Machine.history, List.flatMap_cons,
                List.append_assoc, Journal.recordAll_append]
              exact runs trace _

/-! ## Calls -/

/-- Every call overlooks the journal. -/
theorem overlooks_perform (call : Call) :
    Overlooks (System.perform channels call) machine world := by
  cases call with
  | load bytes =>
      exact ⟨.ok (.loaded (Image.decode bytes).length), machine.loadImage bytes, world,
        Image.loadNotices bytes, fun journal => rfl⟩
  | step =>
      refine ⟨(machine.step channels world).interrupted.elim
          (.ok (.stepped (machine.step channels world).machine.status)) .error,
        (machine.step channels world).machine, (machine.step channels world).world,
        (machine.transition channels world).notices, fun journal => ?_⟩
      rw [perform, step_eq]
      cases (machine.step channels world).interrupted <;> rfl
  | reportedStep =>
      refine ⟨(machine.step channels world).interrupted.elim
          (.ok (.reported (.between machine.mnemonic machine.snapshot
            (machine.step channels world).machine.snapshot))) .error,
        (machine.step channels world).machine, (machine.step channels world).world,
        (machine.transition channels world).notices, fun journal => ?_⟩
      rw [perform, reportedStep, step_eq]
      cases (machine.step channels world).interrupted <;> rfl
  | run options fuel =>
      obtain ⟨budget, trace⟩ := options
      obtain ⟨reply, count, after, last, closing, _, runs⟩ :=
        runsAlike channels machine world budget fuel 0
      refine ⟨reply.answer, after, last,
        (machine.history channels count world).flatMap (Transition.logged trace) ++ closing,
        fun journal => ?_⟩
      rw [perform, runs trace journal]

/-- Whichever journal there is, the same comes of calls, and the journal is given the same
notices. -/
theorem overlooks_performAll (calls : List Call) :
    Overlooks (System.performAll channels calls) machine world := by
  induction calls generalizing machine world with
  | nil => exact ⟨[], machine, world, [], fun journal => rfl⟩
  | cons call calls inductionHypothesis =>
      obtain ⟨answer, middle, next, notices, performs⟩ :=
        overlooks_perform channels machine world call
      obtain ⟨answers, after, last, more, performsAll⟩ := inductionHypothesis middle next
      refine ⟨answer :: answers, after, last, notices ++ more, fun journal => ?_⟩
      rw [performAll, performs journal]
      dsimp only
      rw [performsAll, Journal.recordAll_append]

end

/-! ## Logging is transparent -/

/-- The calls of channels that are made in calls. -/
def allChannelCalls
    (channels : Channels World)
    (system : System World)
    (calls : List Call) : List ChannelCall :=
  let recorded : System (World × List ChannelCall) :=
    { machine := system.machine, world := (system.world, []), journal := system.journal }
  (recorded.performAll channels.recorded calls).2.world.2

/-- A run that is traced differs from a plain run in its journal only. -/
structure OnlyTraces
    (channels : Channels World)
    (start : System World)
    (plain traced : RunReply × System World) : Prop where
  /-- The runs come back alike. -/
  reply_eq : traced.1 = plain.1
  /-- They leave the same machine. -/
  machine_eq : traced.2.machine = plain.2.machine
  /-- They leave the same world. -/
  world_eq : traced.2.world = plain.2.world
  /-- The traced run puts the report on each step on record after what the plain run puts on
  record about the step. -/
  journals : ∃ closing : List Notice,
    let steps := start.machine.history channels plain.1.attempts start.world
    plain.2.journal.toList =
        start.journal.toList ++ steps.flatMap (Transition.kept start.journal) ++ closing ∧
      traced.2.journal.toList =
        start.journal.toList ++
          steps.flatMap (fun step => step.kept start.journal ++ step.traced start.journal) ++
          closing

/-- Calls that are made with a higher threshold differ in their journal only, which has lost the
notices below the threshold. -/
structure OnlyMuffles
    (threshold : Int)
    (plain muffled : List (Except Disruption Answer) × System World) : Prop where
  /-- The answers are the same. -/
  answers_eq : muffled.1 = plain.1
  /-- The machine is the same. -/
  machine_eq : muffled.2.machine = plain.2.machine
  /-- The world is the same. -/
  world_eq : muffled.2.world = plain.2.world
  /-- The journal is the same from the threshold on. -/
  journal_eq : muffled.2.journal.toList =
    plain.2.journal.toList.filter fun notice => threshold ≤ notice.level.severity

section

variable
  (channels : Channels World)
  (machine : Machine)
  (world : World)

/-- The journal of a traced run is that of the plain one with traces put between. -/
theorem onlyTraces_run
    (journal : Journal)
    (budget : Option Int)
    (fuel : Nat) :
    OnlyTraces channels { machine, world, journal }
      (System.run channels { budget } fuel 0 { machine, world, journal })
      (System.run channels { budget, trace := true } fuel 0 { machine, world, journal }) := by
  obtain ⟨reply, count, after, last, closing, attempts, runs⟩ :=
    runsAlike channels machine world budget fuel 0
  rw [Nat.zero_add] at attempts
  rw [runs false, runs true]
  refine ⟨rfl, rfl, rfl, closing.filter journal.keeps, ?_⟩
  dsimp only
  rw [attempts]
  simp only [Journal.toList_recordAll, List.filter_append, List.filter_flatMap,
    Transition.filter_logged, List.append_assoc]
  simp

/-- Tracing neither adds nor removes a call of a channel. -/
theorem channelCalls_run_traced
    (journal : Journal)
    (budget : Option Int)
    (fuel : Nat) :
    System.channelCalls channels { machine, world, journal }
        (.run { budget, trace := true } fuel) =
      System.channelCalls channels { machine, world, journal } (.run { budget } fuel) := by
  obtain ⟨reply, count, after, last, closing, _, runs⟩ :=
    runsAlike channels.recorded machine (world, []) budget fuel 0
  unfold channelCalls perform
  dsimp only
  rw [runs true, runs false]

/-- The bare machine looks up every instruction that it traces, and never fails to. -/
theorem bare_run_traced
    (journal : Journal)
    (budget : Option Int)
    (fuel : Nat) :
    (Bare.perform channels journal.verbosity (.run { budget, trace := true } fuel)).run
        (machine.bare, world) =
      (Bare.perform channels journal.verbosity (.run { budget } fuel)).run
        (machine.bare, world) := by
  obtain ⟨reply, count, after, last, closing, _, runs⟩ :=
    runsAlike channels machine world budget fuel 0
  have plain := Bare.run_perform_exposed channels (.run { budget } fuel)
    { machine, world, journal }
  have traced := Bare.run_perform_exposed channels (.run { budget, trace := true } fuel)
    { machine, world, journal }
  unfold perform at plain traced
  dsimp only at plain traced
  rw [runs false] at plain
  rw [runs true] at traced
  refine traced.trans (Eq.trans ?_ plain.symm)
  cases reply <;> rfl

/-- The system with an empty journal that keeps what reaches a threshold. -/
def withThreshold (threshold : Int) : System World :=
  { machine, world, journal := { verbosity := .ofThreshold threshold } }

/-- What a journal with a threshold keeps depends on the severity alone. -/
theorem keeps_ofThreshold (threshold : Int) :
    ({ verbosity := .ofThreshold threshold } : Journal).keeps =
      fun notice => decide (threshold ≤ notice.level.severity) :=
  funext fun notice => Verbosity.admits_ofThreshold threshold notice.origin notice.level

/-- Over any list of calls, a raised threshold only takes records away. -/
theorem onlyMuffles_performAll
    (calls : List Call)
    {threshold raised : Int}
    (higher : threshold ≤ raised) :
    OnlyMuffles raised
      ((withThreshold machine world threshold).performAll channels calls)
      ((withThreshold machine world raised).performAll channels calls) := by
  obtain ⟨answers, after, last, notices, performs⟩ :=
    overlooks_performAll channels machine world calls
  unfold withThreshold
  rw [performs, performs]
  refine ⟨rfl, rfl, rfl, ?_⟩
  have reachesBoth : ∀ notice : Notice,
      (decide (raised ≤ notice.level.severity) && decide (threshold ≤ notice.level.severity)) =
        decide (raised ≤ notice.level.severity) := by
    intro notice
    rw [← Bool.decide_and]
    exact decide_eq_decide.mpr ⟨And.left, fun reaches => ⟨reaches, by omega⟩⟩
  simp only [Journal.toList_recordAll, keeps_ofThreshold, List.filter_append, List.filter_filter,
    reachesBoth]
  rfl

/-- The calls of the channels are the same under every threshold. -/
theorem allChannelCalls_withThreshold
    (calls : List Call)
    (threshold other : Int) :
    (withThreshold machine world threshold).allChannelCalls channels calls =
      (withThreshold machine world other).allChannelCalls channels calls := by
  obtain ⟨answers, after, last, notices, performs⟩ :=
    overlooks_performAll channels.recorded machine (world, []) calls
  unfold allChannelCalls withThreshold
  dsimp only
  rw [performs, performs]

/-- The bare machine answers the same under every threshold. -/
theorem bare_performAll_withThreshold
    (calls : List Call)
    (threshold other : Int) :
    Bare.performAll channels (.ofThreshold threshold) calls (machine.bare, world) =
      Bare.performAll channels (.ofThreshold other) calls (machine.bare, world) := by
  obtain ⟨answers, after, last, notices, performs⟩ :=
    overlooks_performAll channels machine world calls
  have one := Bare.performAll_exposed channels calls (withThreshold machine world threshold)
  have another := Bare.performAll_exposed channels calls (withThreshold machine world other)
  unfold withThreshold at one another
  rw [performs] at one another
  exact one.trans another.symm

end

/-- Tracing a run adds nothing but reports to the journal, and a higher level takes nothing but
the notices below it from the journal.  Of two levels that is the higher one whose threshold is,
whether it is set or inherited. -/
theorem logging_transparent
    (channels : Channels World)
    (machine : Machine)
    (world : World) :
    (∀ (journal : Journal) (budget : Option Int) (fuel : Nat),
      let start : System World := { machine, world, journal }
      let plain : Call := .run { budget } fuel
      let traced : Call := .run { budget, trace := true } fuel
      OnlyTraces channels start (start.run channels { budget } fuel 0)
          (start.run channels { budget, trace := true } fuel 0) ∧
        start.channelCalls channels traced = start.channelCalls channels plain ∧
        (Bare.perform channels journal.verbosity traced).run (machine.bare, world) =
          (Bare.perform channels journal.verbosity plain).run (machine.bare, world)) ∧
    ∀ (calls : List Call) (inherited own raised : Int),
      let threshold := Level.threshold inherited own
      let raisedThreshold := Level.threshold inherited raised
      let lower := withThreshold machine world threshold
      let higher := withThreshold machine world raisedThreshold
      threshold ≤ raisedThreshold ->
        OnlyMuffles raisedThreshold (lower.performAll channels calls)
            (higher.performAll channels calls) ∧
          higher.allChannelCalls channels calls = lower.allChannelCalls channels calls ∧
          Bare.performAll channels (.ofThreshold raisedThreshold) calls (machine.bare, world) =
            Bare.performAll channels (.ofThreshold threshold) calls (machine.bare, world) := by
  refine ⟨?_, ?_⟩
  · intro journal budget fuel
    exact ⟨onlyTraces_run channels machine world journal budget fuel,
      channelCalls_run_traced channels machine world journal budget fuel,
      bare_run_traced channels machine world journal budget fuel⟩
  · intro calls inherited own raised threshold raisedThreshold lower higher isHigher
    exact ⟨onlyMuffles_performAll channels machine world calls isHigher,
      allChannelCalls_withThreshold channels machine world calls _ _,
      bare_performAll_withThreshold channels machine world calls _ _⟩

/-- Where warnings are inherited, a machine that faults puts that on record, unless the level is
raised to that of failures. -/
theorem logging_transparent_fault :
    let machine := { Machine.fresh with memory := Memory.empty.set 0 22 }
    let threshold := Level.threshold Level.warning.severity 0
    let raised := Level.threshold Level.warning.severity Level.error.severity
    let plain := (withThreshold machine () threshold).performAll Channels.vacant [.step]
    let muffled := (withThreshold machine () raised).performAll Channels.vacant [.step]
    threshold ≤ raised ∧
      plain.2.journal.toList.map Notice.level = [.warning] ∧
      muffled.2.journal.toList = [] ∧
      OnlyMuffles raised plain muffled := by
  intro machine threshold raised plain muffled
  have isHigher : threshold ≤ raised := by decide
  have transparent := (logging_transparent Channels.vacant machine ()).2 [.step]
    Level.warning.severity 0 Level.error.severity isHigher
  exact ⟨isHigher, rfl, rfl, transparent.1⟩

end System
end WordMachine
