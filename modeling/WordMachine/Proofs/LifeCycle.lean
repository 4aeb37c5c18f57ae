import Mathlib.Data.List.Chain
import WordMachine.Proofs.Bare.Safety
import WordMachine.Proofs.Events

/-!
# The life of a machine

A machine runs until it halts or faults, and rests from then on: programs can still
be loaded into its memory, but whatever else is asked of it changes nothing and calls
no channel.  What a single event does to a machine is `Event.Lawful`; along events
that lead from one machine to the next it adds up to `System.lifeCycle`.
-/

namespace WordMachine

variable {World : Type}

namespace Machine

/-- If the first machine stopped, the second is the same but for programs loaded since. -/
def RestsAs (earlier later : Machine) : Prop :=
  earlier.condition ≠ .running -> later = { earlier with memory := later.memory }

/-- What rests stays at rest, so that resting machines can be compared across any number of
calls. -/
theorem RestsAs.trans
    {first second third : Machine}
    (rests : RestsAs first second)
    (restsOn : RestsAs second third) : RestsAs first third := by
  intro stopped
  have same := rests stopped
  have stillStopped : second.condition ≠ .running := by
    rw [same]
    exact stopped
  rw [restsOn stillStopped, same]

instance : Trans RestsAs RestsAs RestsAs where
  trans := RestsAs.trans

/-- Loading an image does not touch the fault record. -/
theorem fault?_withMemory
    (machine : Machine)
    (memory : Memory) : { machine with memory }.fault? = machine.fault? :=
  rfl

/-- A fault is recorded exactly for a faulted machine. -/
theorem isSome_fault?_iff {machine : Machine} :
    machine.fault?.isSome ↔ machine.status = .faulted := by
  unfold fault? status
  cases machine.condition <;> simp

/-- If the machine faulted, the fault is the one of the instruction that it is at. -/
def FaultHere (machine : Machine) : Prop :=
  ∀ fault, machine.fault? = some fault -> fault.pc = machine.pc

end Machine

/-- Whether a running machine makes the step, without a fault. -/
def Transition.completes (transition : Transition) : Bool :=
  transition.before.status = .running ∧
    transition.interrupted = none ∧
    transition.after.status ≠ .faulted

namespace Transition

section

variable {transition : Transition}

/-- A step of a stopped machine completes no instruction. -/
theorem completes_of_stopped (stopped : transition.before.condition ≠ .running) :
    transition.completes = false := by
  simp [completes, Machine.status_eq_running_iff, stopped]

/-- A step that faults completes no instruction. -/
theorem completes_of_fail
    {machine : Machine}
    {cause : Cause}
    (failed : transition.after = machine.fail cause) : transition.completes = false := by
  simp [completes, failed, Machine.fail, Machine.status]

/-- A step that puts an effect into force completes an instruction, also if that halts the
machine. -/
theorem completes_of_apply
    {opcode : Opcode}
    {effect : Effect}
    (running : transition.before.condition = .running)
    (undisturbed : transition.interrupted = none)
    (executed : transition.after = transition.before.apply opcode effect) :
    transition.completes = true := by
  have unfaulted : (transition.before.apply opcode effect).status ≠ .faulted := by
    rw [ne_eq, ← Machine.isSome_fault?_iff, Machine.fault?_apply running]
    exact Bool.false_ne_true
  simp [completes, Machine.status_eq_running_iff, running, undisturbed, executed, unfaulted]

end

end Transition

/-! ## One step -/

namespace Machine

section

variable
  (channels : Channels World)
  (machine : Machine)
  (world : World)

/-- A running machine can only fault at the address where it stands. -/
theorem faultHere_step (running : machine.condition = .running) :
    (machine.step channels world).machine.FaultHere := by
  intro fault faulted
  have ends := machine.ends_step channels world
  generalize machine.step channels world = outcome at ends faulted ⊢
  cases ends with
  | stopped stopped after => exact absurd running stopped
  | failed running cause after =>
      cases faulted
      rfl
  | interrupted running words after =>
      rw [fault?_of_running running] at faulted
      cases faulted
  | executed running known offers after =>
      rw [fault?_apply running] at faulted
      cases faulted

/-- The counter goes up by one for a completed instruction and stays otherwise. -/
theorem executed_step :
    (machine.step channels world).machine.executed =
      machine.executed +
        if (machine.transition channels world).completes then 1 else 0 := by
  unfold transition
  have ends := machine.ends_step channels world
  generalize machine.step channels world = outcome at ends ⊢
  cases ends with
  | stopped stopped after =>
      rw [Transition.completes_of_stopped stopped]
      rfl
  | failed running cause after =>
      rw [Transition.completes_of_fail (rfl : _ = machine.fail cause)]
      rfl
  | interrupted running words after => simp [Transition.completes]
  | @executed opcode effect running known offers after =>
      rw [Transition.completes_of_apply running rfl rfl, if_pos rfl]
      exact congrArg executed (machine.apply_eq opcode effect)

end

end Machine

namespace Event

/-- Whether an event is a step that is completed. -/
def completes : Event -> Bool
  | .loaded .. => false
  | .stepped transition => transition.completes

/-! ## One event -/

/-- What an event does to a machine. -/
structure Lawful (event : Event) : Prop where
  /-- A machine that stopped rests. -/
  rests : event.before.RestsAs event.after
  /-- A machine that stopped writes no output. -/
  silent : event.before.condition ≠ .running -> event.told = []
  /-- A running machine faults at its instruction. -/
  faultHere : event.before.condition = .running -> event.after.FaultHere
  /-- Completed steps are counted. -/
  executed_eq : event.after.executed = event.before.executed + if event.completes then 1 else 0

/-- Loading leaves everything but memory as it was, so it obeys the laws in every state. -/
theorem lawful_loaded
    (machine : Machine)
    (bytes : Array UInt8) : Lawful (.loaded machine bytes) where
  rests := fun _ => rfl
  silent := fun _ => rfl
  faultHere := by
    intro running fault faulted
    have stillRunning := (machine.condition_loadImage bytes).trans running
    rw [after, Machine.fault?_of_running stillRunning] at faulted
    cases faulted
  executed_eq := rfl

/-- Every step obeys the laws, whatever the channels do. -/
theorem lawful_stepped
    (channels : Channels World)
    (machine : Machine)
    (world : World) : Lawful (.stepped (machine.transition channels world)) where
  rests := by
    intro (stopped : machine.condition ≠ .running)
    have same : (machine.step channels world).machine = machine := by
      rw [Machine.step_stopped stopped]
    change (machine.step channels world).machine =
      { machine with memory := (machine.step channels world).machine.memory }
    rw [same]
  silent := Machine.told_of_stopped
  faultHere := machine.faultHere_step channels world
  executed_eq := machine.executed_step channels world

/-- Whatever happens to a machine is lawful. -/
theorem Happens.lawful
    {channels : Channels World}
    {event : Event}
    (happens : event.Happens channels) : event.Lawful := by
  cases event with
  | loaded machine bytes => exact lawful_loaded machine bytes
  | stepped transition =>
      obtain ⟨machine, world, rfl⟩ := happens
      exact lawful_stepped channels machine world

/-- A fault stays at the instruction that the machine is at. -/
theorem Lawful.faultHere_after
    {event : Event}
    (lawful : event.Lawful)
    (faultHere : event.before.FaultHere) : event.after.FaultHere := by
  by_cases running : event.before.condition = .running
  · exact lawful.faultHere running
  · rw [lawful.rests running, Machine.FaultHere, Machine.fault?_withMemory]
    exact faultHere

/-! ## Events one after the other -/

section

variable
  {first last : Machine}
  {events : List Event}

/-- The state that a history leads to is among its states. -/
theorem Lead.last_mem (leads : Lead first events last) :
    last ∈ first :: events.map after := by
  induction leads with
  | none machine => exact List.mem_cons_self
  | next event _ inductionHypothesis => exact List.mem_cons_of_mem _ inductionHypothesis

/-- Between neighbouring states of a lawful history, whatever has stopped rests. -/
theorem isChain_restsAs
    (leads : Lead first events last)
    (lawful : ∀ event ∈ events, event.Lawful) :
    (first :: events.map after).IsChain Machine.RestsAs := by
  induction leads with
  | none machine => exact .singleton machine
  | next event _ inductionHypothesis =>
      obtain ⟨firstLawful, laterLawful⟩ := List.forall_mem_cons.mp lawful
      exact .cons_cons firstLawful.rests (inductionHypothesis laterLawful)

/-- In every state of a lawful history, a recorded fault is one at the program counter. -/
theorem faultHere_of_mem
    (leads : Lead first events last)
    (lawful : ∀ event ∈ events, event.Lawful)
    (faultHere : first.FaultHere) :
    ∀ state ∈ first :: events.map after, state.FaultHere := by
  induction leads with
  | none machine => exact List.forall_mem_singleton.mpr faultHere
  | next event _ inductionHypothesis =>
      obtain ⟨firstLawful, laterLawful⟩ := List.forall_mem_cons.mp lawful
      refine List.forall_mem_cons.mpr ⟨faultHere, ?_⟩
      exact inductionHypothesis laterLawful (firstLawful.faultHere_after faultHere)

/-- Over a lawful history the counter has gone up by the number of completed instructions. -/
theorem executed_eq_add_countP
    (leads : Lead first events last)
    (lawful : ∀ event ∈ events, event.Lawful) :
    last.executed = first.executed + events.countP completes := by
  induction leads with
  | none machine => rfl
  | next event _ inductionHypothesis =>
      obtain ⟨firstLawful, laterLawful⟩ := List.forall_mem_cons.mp lawful
      rw [inductionHypothesis laterLawful, firstLawful.executed_eq, List.countP_cons]
      omega

/-- A machine that stopped comes into no fault and writes no output. -/
theorem quiet_of_stopped
    (leads : Lead first events last)
    (lawful : ∀ event ∈ events, event.Lawful)
    (stopped : first.condition ≠ .running) :
    events.flatMap told = [] ∧ events.flatMap faults = [] ∧ last.fault? = first.fault? := by
  induction leads with
  | none machine => exact ⟨rfl, rfl, rfl⟩
  | next event _ inductionHypothesis =>
      obtain ⟨firstLawful, laterLawful⟩ := List.forall_mem_cons.mp lawful
      have same := firstLawful.rests stopped
      have sameCondition : event.after.condition = event.before.condition := by
        rw [same]
      obtain ⟨toldLater, faultsLater, sameFault⟩ :=
        inductionHypothesis laterLawful (sameCondition.trans_ne stopped)
      have silent := firstLawful.silent stopped
      refine ⟨?_, ?_, ?_⟩
      · rw [List.flatMap_cons, silent, toldLater, List.append_nil]
      · rw [List.flatMap_cons, faults, silent, if_neg stopped, faultsLater]
        rfl
      · rw [sameFault, same, Machine.fault?_withMemory]

/-- A machine that runs comes into a fault once at most, and that is the fault that it has in the
end. -/
theorem faults_of_running
    (leads : Lead first events last)
    (lawful : ∀ event ∈ events, event.Lawful)
    (running : first.condition = .running) :
    events.flatMap faults =
      (events.flatMap told).filterMap Notice.machineFault? ++ last.fault?.toList := by
  induction leads with
  | none machine =>
      rw [Machine.fault?_of_running running]
      rfl
  | next event leadsOn inductionHypothesis =>
      obtain ⟨firstLawful, laterLawful⟩ := List.forall_mem_cons.mp lawful
      rw [List.flatMap_cons, List.flatMap_cons, List.filterMap_append, faults, if_pos running]
      by_cases stillRunning : event.after.condition = .running
      · rw [inductionHypothesis laterLawful stillRunning,
          Machine.fault?_of_running stillRunning]
        simp
      · obtain ⟨toldLater, faultsLater, sameFault⟩ :=
          quiet_of_stopped leadsOn laterLawful stillRunning
        rw [toldLater, faultsLater, sameFault]
        simp

end

end Event

/-! ## Calls that find a machine at rest -/

/-- Whether a call asks for the execution of instructions. -/
def Call.Executes : Call -> Prop
  | .load _ => False
  | .step | .reportedStep | .run .. => True

namespace System

/-- The calls of channels that are made in a call. -/
def channelCalls
    (channels : Channels World)
    (system : System World)
    (call : Call) : List ChannelCall :=
  let recorded : System (World × List ChannelCall) :=
    { machine := system.machine, world := (system.world, []), journal := system.journal }
  (recorded.perform channels.recorded call).2.world.2

/-- A call changes nothing and calls no channel. -/
structure Idles
    (channels : Channels World)
    (system : System World)
    (call : Call) : Prop where
  /-- The machine stays as it is. -/
  machine_eq : (system.perform channels call).2.machine = system.machine
  /-- The world stays as it is. -/
  world_eq : (system.perform channels call).2.world = system.world
  /-- No channel is called. -/
  channelCalls_eq : system.channelCalls channels call = []

section

variable
  (channels : Channels World)
  {system : System World}

/-- A run that finds the machine at rest is at its end, whatever the budget is. -/
theorem run_of_stopped
    (stopped : system.machine.condition ≠ .running)
    (options : RunOptions)
    (fuel steps : Nat) :
    ∃ notice, system.run channels options fuel steps =
      (.finished
        { status := system.machine.status
          steps
          fault := system.machine.fault?
          limitReached := false },
        system.note notice) := by
  unfold run ending? Machine.status Machine.fault?
  cases condition : system.machine.condition with
  | running => exact absurd condition stopped
  | halted => exact ⟨_, rfl⟩
  | faulted fault => exact ⟨_, rfl⟩

/-- No call that executes instructions can move a stopped machine or its channels. -/
theorem machine_world_of_stopped
    (stopped : system.machine.condition ≠ .running)
    {call : Call}
    (executes : call.Executes) :
    (system.perform channels call).2.machine = system.machine ∧
      (system.perform channels call).2.world = system.world := by
  have step : (system.step channels).2.machine = system.machine ∧
      (system.step channels).2.world = system.world := by
    unfold step
    dsimp only
    rw [Machine.step_stopped stopped]
    exact ⟨rfl, rfl⟩
  cases call with
  | load bytes => exact executes.elim
  | step => rwa [snd_perform_step]
  | reportedStep => rwa [← snd_reportedStep] at step
  | run options fuel =>
      obtain ⟨notice, ran⟩ := run_of_stopped channels stopped options fuel 0
      rw [perform, ran]
      exact ⟨rfl, rfl⟩

/-- On a stopped machine every executing call only answers with the state as it is. -/
theorem idles_of_stopped
    (stopped : system.machine.condition ≠ .running)
    {call : Call}
    (executes : call.Executes) : system.Idles channels call := by
  obtain ⟨machine_eq, world_eq⟩ := machine_world_of_stopped channels stopped executes
  refine ⟨machine_eq, world_eq, ?_⟩
  let recorded : System (World × List ChannelCall) :=
    { machine := system.machine, world := (system.world, []), journal := system.journal }
  have recordedStopped : recorded.machine.condition ≠ .running := stopped
  have same := machine_world_of_stopped channels.recorded recordedStopped executes
  exact congrArg Prod.snd same.2

end

/-! ## The whole life -/

/-- What can be said about calls that lead from a machine that runs to another machine. -/
structure LifeCycle
    (channels : Channels World)
    (start last : System World)
    (events : List Event) : Prop where
  /-- The steps among the events are steps that machines make with the channels. -/
  happen : ∀ event ∈ events, event.Happens channels
  /-- The events lead from the machine to the machine. -/
  leads : Event.Lead start.machine events last.machine
  /-- A machine that stopped rests, at all later times. -/
  rests : (start.machine :: events.map Event.after).Pairwise Machine.RestsAs
  /-- There is a fault if the status says so, and it is at the program counter. -/
  faulted : ∀ state ∈ start.machine :: events.map Event.after,
    (state.fault?.isSome ↔ state.status = .faulted) ∧ state.FaultHere
  /-- The instructions that were executed are the completed steps. -/
  executed_eq : last.machine.executed = start.machine.executed + events.countP Event.completes
  /-- Of the faults that the output channel does not tell of, the journal has the one of the
  machine, once, and no other. -/
  machineFaults_eq : last.journal.machineFaults = start.journal.machineFaults ++
    if start.journal.keepsFaults then
      (events.flatMap Event.told).filterMap Notice.machineFault? ++ last.machine.fault?.toList
    else
      []
  /-- Once the machine stopped, no call executes anything. -/
  idles : last.machine.condition ≠ .running -> ∀ call : Call, call.Executes ->
    last.Idles channels call
  /-- Once the machine stopped, runs end before their first step, whatever the budget is. -/
  finished : last.machine.condition ≠ .running -> ∀ options fuel,
    (last.run channels options fuel 0).1 =
      .finished
        { status := last.machine.status
          steps := 0
          fault := last.machine.fault?
          limitReached := false }

/-- Calls that start with a fresh machine make a life. -/
theorem lifeCycle
    (channels : Channels World)
    (world : World)
    (journal : Journal)
    (calls : List Call) :
    let start : System World := { machine := .fresh, world, journal }
    let last := (start.performAll channels calls).2
    let events := start.allEvents channels calls
    let bare := (Bare.performAll channels journal.verbosity calls (.fresh, world)).2.1
    LifeCycle channels start last events ∧
      (bare.fault.isSome ↔ bare.status = .faulted) ∧
      (∀ report, bare.fault = some report -> report.pc = bare.pc) ∧
      bare.executed = events.countP Event.completes := by
  intro start last events bare
  have passes := passes_performAll channels start calls
  have lawful : ∀ event ∈ events, event.Lawful := fun event member =>
    (passes.happen event member).lawful
  have faultHere := Event.faultHere_of_mem passes.leads lawful fun fault impossible =>
    nomatch impossible
  have executed := Event.executed_eq_add_countP passes.leads lawful
  -- What holds of the bare machine is read off from the other one.
  have bare_eq : bare = last.machine.bare := by
    have exposed := Bare.performAll_exposed channels calls start
    rw [Bare.exposed, ← BareMachine.fresh_eq_bare] at exposed
    exact congrArg (fun result => result.2.1) exposed
  refine ⟨?_, ?_, ?_, ?_⟩
  · exact {
      happen := passes.happen
      leads := passes.leads
      rests := List.isChain_iff_pairwise.mp (Event.isChain_restsAs passes.leads lawful)
      faulted := fun state member => ⟨Machine.isSome_fault?_iff, faultHere state member⟩
      executed_eq := executed
      machineFaults_eq := by
        rw [passes.machineFaults_eq, Event.faults_of_running passes.leads lawful rfl]
      idles := fun stopped call executes => idles_of_stopped channels stopped executes
      finished := fun stopped options fuel => by
        obtain ⟨notice, ran⟩ := run_of_stopped channels stopped options fuel 0
        rw [ran] }
  · rw [bare_eq, Machine.bare, Option.isSome_map]
    exact Machine.isSome_fault?_iff
  · rw [bare_eq]
    intro report reported
    obtain ⟨fault, faulted, rfl⟩ := Option.map_eq_some_iff.mp reported
    exact congrArg (fun pc : Address => (pc.val : Int))
      (faultHere last.machine passes.leads.last_mem fault faulted)
  · rw [bare_eq]
    exact congrArg Nat.cast (executed.trans (Nat.zero_add _))

end System
end WordMachine
