import WordMachine.Proofs.Call
import WordMachine.Proofs.History

/-!
# The events of calls

The events of a call are the programs that it loads and the steps that it makes, in
their order: a run comes to the steps that its reply numbers.  They lead from the
machine before the call to the machine after it, and tell which records about faults
of the machine the journal gains: `System.passes_performAll`.
-/

namespace WordMachine

variable {World : Type}

/-! ## Records of faults -/

/-- The fault that a notice of the machine is about. -/
def Notice.machineFault? : Notice -> Option Fault
  | .machineFaulted fault => some fault
  | _ => none

namespace Journal

/-- The faults of machines that were recorded, the earliest first. -/
def machineFaults (journal : Journal) : List Fault :=
  journal.toList.filterMap Notice.machineFault?

/-- Whether the faults of machines are recorded. -/
def keepsFaults (journal : Journal) : Bool :=
  journal.verbosity.admits .machine .warning

/-- Faults of the machine are announced at one level, so that a journal keeps all of them or
none. -/
theorem fault?_of_keeps
    (journal : Journal)
    (notice : Notice) :
    (if journal.keeps notice then notice.machineFault? else none) =
      if journal.keepsFaults then notice.machineFault? else none := by
  cases notice with
  | machineFaulted fault => rfl
  | _ => exact (ite_self none).trans (ite_self none).symm

/-- The faults that a journal keeps of a list of notices are all in it, or none. -/
theorem filterMap_filter_keeps
    (journal : Journal)
    (notices : List Notice) :
    (notices.filter journal.keeps).filterMap Notice.machineFault? =
      if journal.keepsFaults then notices.filterMap Notice.machineFault? else [] := by
  simp only [List.filterMap_filter, fault?_of_keeps]
  cases journal.keepsFaults with
  | true => rfl
  | false => simp

/-- A journal that keeps faults gains those in the notices. -/
theorem machineFaults_recordAll
    (journal : Journal)
    (notices : List Notice) :
    (journal.recordAll notices).machineFaults =
      journal.machineFaults ++
        if journal.keepsFaults then notices.filterMap Notice.machineFault? else [] := by
  rw [machineFaults, toList_recordAll, List.filterMap_append, filterMap_filter_keeps]
  rfl

end Journal

theorem Machine.condition_loadImage
    (machine : Machine)
    (bytes : Array UInt8) : (machine.loadImage bytes).condition = machine.condition := by
  rw [loadImage, load]

/-! ## Events -/

/-- Something that happens to a machine. -/
inductive Event where
  /-- A program image is loaded into a machine. -/
  | loaded (before : Machine) (bytes : Array UInt8)
  /-- A step is made. -/
  | stepped (transition : Transition)

namespace Event

/-- The machine before an event. -/
def before : Event -> Machine
  | .loaded before _ => before
  | .stepped transition => transition.before

/-- The machine after an event. -/
def after : Event -> Machine
  | .loaded before bytes => before.loadImage bytes
  | .stepped transition => transition.after

/-- What the output channel tells. -/
def told : Event -> List Notice
  | .loaded .. => []
  | .stepped transition => transition.told

/-- A step among the events is one that some machine makes. -/
def Happens (channels : Channels World) : Event -> Prop
  | .loaded .. => True
  | .stepped transition =>
      ∃ machine : Machine, ∃ world, machine.transition channels world = transition

/-- Every transition of a history is one that the channels allow. -/
theorem happens_history
    (channels : Channels World)
    (count : Nat)
    (machine : Machine)
    (world : World) :
    ∀ transition ∈ machine.history channels count world,
      (Event.stepped transition).Happens channels := by
  induction count generalizing machine world with
  | zero => exact List.forall_mem_nil _
  | succ count inductionHypothesis =>
      exact List.forall_mem_cons.mpr ⟨⟨machine, world, rfl⟩, inductionHypothesis _ _⟩

/-- Each event begins with the machine that the one before it left. -/
inductive Lead : Machine -> List Event -> Machine -> Prop where
  /-- Nothing happens. -/
  | none (machine : Machine) : Lead machine [] machine
  /-- One event comes before others. -/
  | next (event : Event) {events : List Event} {last : Machine}
      (leadsOn : Lead event.after events last) :
      Lead event.before (event :: events) last

/-- Histories can be joined where one ends and the next begins. -/
theorem Lead.append
    {first middle last : Machine}
    {events others : List Event}
    (leads : Lead first events middle)
    (leadsOn : Lead middle others last) : Lead first (events ++ others) last := by
  induction leads with
  | none machine => exact leadsOn
  | next event _ inductionHypothesis => exact .next event (inductionHypothesis leadsOn)

/-- The faults that an event puts on record, if those of machines are kept: those that the output
channel tells of, and the one that the machine comes into. -/
def faults (event : Event) : List Fault :=
  event.told.filterMap Notice.machineFault? ++
    if event.before.condition = .running then event.after.fault?.toList else []

theorem faults_loaded
    (machine : Machine)
    (bytes : Array UInt8) : (loaded machine bytes).faults = [] := by
  unfold faults
  split
  · next running =>
      have faultless : (machine.loadImage bytes).fault? = none :=
        Machine.fault?_of_running (Eq.trans (Machine.condition_loadImage machine bytes) running)
      exact congrArg Option.toList faultless
  · rfl

end Event

/-- What a step tells about faults is what the output channel tells, and the fault that it ends
in. -/
theorem Machine.filterMap_notices_step
    (channels : Channels World)
    (machine : Machine)
    (world : World) :
    (machine.step channels world).notices.filterMap Notice.machineFault? =
      (Event.stepped (machine.transition channels world)).faults := by
  rw [notices_step, Transition.notices, List.filterMap_append]
  unfold Event.faults Event.told Event.before Event.after
  dsimp only
  split
  · cases (machine.transition channels world).after.fault? <;> rfl
  · rfl

/-- How many steps a run has begun when it comes back. -/
def RunReply.attempts : RunReply -> Nat
  | .finished result => result.steps
  | .interrupted _ steps => steps + 1
  | .unfinished steps => steps

namespace System

/-- The events of a call. -/
def events
    (channels : Channels World)
    (system : System World) : Call -> List Event
  | .load bytes => [.loaded system.machine bytes]
  | .step | .reportedStep => [.stepped (system.machine.transition channels system.world)]
  | .run options fuel =>
      let attempts := (system.run channels options fuel 0).1.attempts
      (system.machine.history channels attempts system.world).map .stepped

/-- The events of calls that are made one after the other. -/
def allEvents
    (channels : Channels World)
    (system : System World) : List Call -> List Event
  | [] => []
  | call :: calls =>
      system.events channels call ++ (system.perform channels call).2.allEvents channels calls

/-- Events lead a system to another one. -/
structure Passes
    (channels : Channels World)
    (system : System World)
    (events : List Event)
    (after : System World) : Prop where
  /-- They are events of a machine with the channels. -/
  happen : ∀ event ∈ events, event.Happens channels
  /-- They lead from the machine to the machine. -/
  leads : Event.Lead system.machine events after.machine
  /-- The same notices are kept. -/
  verbosity_eq : after.journal.verbosity = system.journal.verbosity
  /-- The journal gains the faults that the events put on record. -/
  machineFaults_eq : after.journal.machineFaults = system.journal.machineFaults ++
    if system.journal.keepsFaults then events.flatMap Event.faults else []

/-- A system comes to another one by so many steps. -/
structure Makes
    (channels : Channels World)
    (count : Nat)
    (system after : System World) : Prop where
  /-- The machine and the world are what the steps make of them. -/
  state_eq : (after.machine, after.world) = system.machine.afterSteps channels count system.world
  /-- The steps lead there. -/
  passes : Passes channels system
    ((system.machine.history channels count system.world).map .stepped) after

section

variable
  {channels : Channels World}
  {system middle after : System World}

/-! ## Events one after the other -/

/-- Passages can be joined where one ends and the next begins. -/
theorem Passes.trans
    {events others : List Event}
    (first : Passes channels system events middle)
    (second : Passes channels middle others after) :
    Passes channels system (events ++ others) after where
  happen := List.forall_mem_append.mpr ⟨first.happen, second.happen⟩
  leads := first.leads.append second.leads
  verbosity_eq := second.verbosity_eq.trans first.verbosity_eq
  machineFaults_eq := by
    have sameKeeps : middle.journal.keepsFaults = system.journal.keepsFaults :=
      congrArg (Verbosity.admits · .machine .warning) first.verbosity_eq
    rw [second.machineFaults_eq, first.machineFaults_eq, sameKeeps, List.flatMap_append,
      List.append_assoc]
    cases system.journal.keepsFaults <;> simp

/-- The steps that two calls make one after the other add up. -/
theorem Makes.trans
    {count more : Nat}
    (first : Makes channels count system middle)
    (second : Makes channels more middle after) :
    Makes channels (count + more) system after := by
  have machine_eq := congrArg Prod.fst first.state_eq
  have world_eq := congrArg Prod.snd first.state_eq
  dsimp only at machine_eq world_eq
  refine ⟨?_, ?_⟩
  · rw [Machine.afterSteps_add, ← machine_eq, ← world_eq]
    exact second.state_eq
  · rw [Machine.history_add, ← machine_eq, ← world_eq, List.map_append]
    exact first.passes.trans second.passes

/-! ## Runs -/

variable (channels system)

theorem makes_step : Makes channels 1 system (system.step channels).2 where
  state_eq := rfl
  passes := {
    happen := List.forall_mem_singleton.mpr ⟨system.machine, system.world, rfl⟩
    leads := .next (.stepped (system.machine.transition channels system.world)) (.none _)
    verbosity_eq := verbosity_step channels system
    machineFaults_eq := by
      have recorded := Journal.machineFaults_recordAll system.journal
        (system.machine.step channels system.world).notices
      rw [Machine.filterMap_notices_step] at recorded
      exact recorded.trans (by rw [Machine.history, Machine.history, List.map_singleton,
        List.flatMap_singleton]) }

theorem makes_none : Makes channels 0 system system where
  state_eq := rfl
  passes := {
    happen := fun event impossible => nomatch impossible
    leads := .none system.machine
    verbosity_eq := rfl
    machineFaults_eq := by simp [Machine.history] }

/-- To put a notice on record is no step. -/
theorem makes_note
    {notice : Notice}
    (otherwise : notice.machineFault? = none) :
    Makes channels 0 system (system.note notice) where
  state_eq := rfl
  passes := {
    happen := fun event impossible => nomatch impossible
    leads := .none system.machine
    verbosity_eq := Journal.verbosity_record _ _
    machineFaults_eq := by
      have recorded := Journal.machineFaults_recordAll system.journal [notice]
      rw [List.filterMap_cons_none otherwise] at recorded
      exact recorded }

/-- A step within a run is one step, traced or not. -/
theorem makes_runStep (options : RunOptions) :
    Makes channels 1 system (system.runStep channels options).2 := by
  have makesStep := makes_step channels system
  rw [← snd_reportedStep] at makesStep
  unfold runStep
  split
  · unfold tracedStep
    cases result : system.reportedStep channels with
    | mk reply stepped =>
        rw [result] at makesStep
        cases reply with
        | error words => exact makesStep
        | ok report => exact makesStep.trans (makes_note channels stepped rfl)
  · rwa [← snd_reportedStep]

/-- What ends a run is not the record of a fault, and the result numbers the steps. -/
theorem ending?_spec
    {options : RunOptions}
    {steps : Nat}
    {machine : Machine}
    {result : RunResult}
    {notice : Notice}
    (ending : ending? options steps machine = some (result, notice)) :
    result.steps = steps ∧ notice.machineFault? = none := by
  unfold ending? at ending
  split at ending
  · obtain ⟨budget, _, same⟩ := Option.map_eq_some_iff.mp ending
    cases same
    exact ⟨rfl, rfl⟩
  all_goals
    cases ending
    exact ⟨rfl, rfl⟩

/-- A run makes the steps that its reply numbers. -/
theorem makes_run
    (options : RunOptions)
    (fuel steps : Nat) :
    ∃ count,
      (system.run channels options fuel steps).1.attempts = steps + count ∧
        Makes channels count system (system.run channels options fuel steps).2 := by
  induction fuel generalizing system steps with
  | zero =>
      unfold run
      cases ending : ending? options steps system.machine with
      | some conclusion =>
          obtain ⟨sameSteps, otherwise⟩ := ending?_spec ending
          exact ⟨0, sameSteps, makes_note channels system otherwise⟩
      | none => exact ⟨0, rfl, makes_none channels system⟩
  | succ fuel inductionHypothesis =>
      have first := makes_runStep channels system options
      unfold run
      cases ending : ending? options steps system.machine with
      | some conclusion =>
          obtain ⟨sameSteps, otherwise⟩ := ending?_spec ending
          exact ⟨0, sameSteps, makes_note channels system otherwise⟩
      | none =>
          dsimp only
          cases result : system.runStep channels options with
          | mk interrupted stepped =>
              rw [result] at first
              cases interrupted with
              | some words => exact ⟨1, rfl, first⟩
              | none =>
                  obtain ⟨count, attempts, rest⟩ := inductionHypothesis stepped (steps + 1)
                  exact ⟨1 + count, by rw [attempts, Nat.add_assoc], first.trans rest⟩

/-! ## Calls -/

/-- Loading never announces a fault. -/
theorem filterMap_loadNotices (bytes : Array UInt8) :
    (Image.loadNotices bytes).filterMap Notice.machineFault? = [] := by
  unfold Image.loadNotices
  dsimp only
  split <;> rfl

/-- Loading is one event. -/
theorem passes_load (bytes : Array UInt8) :
    Passes channels system [.loaded system.machine bytes] (system.load bytes) where
  happen := List.forall_mem_singleton.mpr trivial
  leads := .next (.loaded system.machine bytes) (.none _)
  verbosity_eq := Journal.verbosity_recordAll _ _
  machineFaults_eq := by
    have recorded := Journal.machineFaults_recordAll system.journal (Image.loadNotices bytes)
    rw [filterMap_loadNotices] at recorded
    rw [List.flatMap_singleton, Event.faults_loaded]
    exact recorded

/-- The events of a call lead to the system after it. -/
theorem passes_perform (call : Call) :
    Passes channels system (system.events channels call) (system.perform channels call).2 := by
  cases call with
  | load bytes => exact passes_load channels system bytes
  | step =>
      rw [snd_perform_step]
      exact (makes_step channels system).passes
  | reportedStep =>
      have step := (makes_step channels system).passes
      rwa [← snd_reportedStep] at step
  | run options fuel =>
      obtain ⟨count, attempts, makes⟩ := makes_run channels system options fuel 0
      rw [Nat.zero_add] at attempts
      unfold events
      dsimp only
      rw [attempts]
      exact makes.passes

/-- The events of calls lead to the system after them. -/
theorem passes_performAll (calls : List Call) :
    Passes channels system (system.allEvents channels calls)
      (system.performAll channels calls).2 := by
  induction calls generalizing system with
  | nil => exact (makes_none channels system).passes
  | cons call calls inductionHypothesis =>
      exact (passes_perform channels system call).trans (inductionHypothesis _)

end

end System
end WordMachine
