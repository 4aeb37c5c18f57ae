import Mathlib.Data.List.Forall2
import Mathlib.Data.List.Nodup
import WordMachine.Proofs.FaultKinds
import WordMachine.Proofs.LifeCycle
import WordMachine.Proofs.Lines
import WordMachine.Proofs.Patch

/-!
# Reports on steps

The report on a step names the opcode that was executed, and lists what became different.
The reports on steps that are made one after the other are a full record of them: each
begins with the snapshot that the one before it ended with, and the changes that they list
lead from the first snapshot to the last, and back: `System.reports_lossless`.
-/

namespace WordMachine

variable {World : Type}

/-! ## Mnemonics -/

namespace Opcode

theorem mem_all (opcode : Opcode) : opcode ∈ all :=
  List.mem_of_getElem? (ofCode?_code opcode)

/-- No two opcodes share a mnemonic. -/
theorem mnemonic_injective : Function.Injective mnemonic := by
  have distinct : (all.map mnemonic).Nodup := by decide
  intro left right same
  exact List.inj_on_of_nodup_map distinct left.mem_all right.mem_all same

/-- No opcode looks like an unknown one in a report. -/
theorem head_mnemonic_ne (opcode : Opcode) : opcode.mnemonic.toList.head? ≠ some '?' := by
  cases opcode <;> decide

end Opcode

theorem toList_questioned (code : Nat) : s!"?{code}".toList = '?' :: Nat.toDigits 10 code := by
  simp [ToString.toString]

/-- The name of an unknown word in a report tells the word. -/
theorem questioned_injective : Function.Injective fun code : Nat => s!"?{code}" := by
  intro left right same
  have digits := congrArg String.toList same
  dsimp only at digits
  rw [toList_questioned, toList_questioned] at digits
  rw [← Nat.ofDigitChars_ten_toDigits (n := left), (List.cons.inj digits).2,
    Nat.ofDigitChars_ten_toDigits]

namespace Machine

section

variable {machine : Machine}

theorem mnemonic_of_known
    {opcode : Opcode}
    (known : machine.opcode? = some opcode) : machine.mnemonic = opcode.mnemonic := by
  unfold opcode? at known
  rw [mnemonic, known]

theorem mnemonic_of_unknown (unknown : machine.opcode? = none) :
    machine.mnemonic = s!"?{(machine.memory.get machine.pc).toNat}" := by
  unfold opcode? at unknown
  rw [mnemonic, unknown]

/-- The mnemonic is that of the opcode at the program counter, and of no other. -/
theorem mnemonic_eq_iff (opcode : Opcode) :
    machine.mnemonic = opcode.mnemonic ↔ machine.opcode? = some opcode := by
  refine ⟨?_, mnemonic_of_known⟩
  intro same
  cases known : machine.opcode? with
  | some found =>
      rw [mnemonic_of_known known] at same
      rw [Opcode.mnemonic_injective same]
  | none =>
      rw [mnemonic_of_unknown known] at same
      refine absurd ?_ opcode.head_mnemonic_ne
      rw [← same, toList_questioned, List.head?_cons]

/-- There is a question mark exactly if the word at the program counter is no opcode. -/
theorem mnemonic_eq_questioned_iff (code : Word) :
    machine.mnemonic = s!"?{code.toNat}" ↔
      machine.opcode? = none ∧ machine.memory.get machine.pc = code := by
  constructor
  · intro same
    cases known : machine.opcode? with
    | some found =>
        rw [mnemonic_of_known known] at same
        refine absurd ?_ found.head_mnemonic_ne
        rw [same, toList_questioned, List.head?_cons]
    | none =>
        rw [mnemonic_of_unknown known] at same
        exact ⟨rfl, UInt16.toNat_inj.mp (questioned_injective same)⟩
  · rintro ⟨unknown, rfl⟩
    exact mnemonic_of_unknown unknown

end

/-! ## Executed opcodes -/

/-- Executes the instruction with a given opcode, whatever stands at the program counter. -/
def execute
    (channels : Channels World)
    (machine : Machine)
    (opcode : Opcode)
    (world : World) : Outcome World :=
  match machine.planOpcode opcode with
  | .ok action => machine.carryOut channels world opcode action
  | .error cause => machine.faultOutcome cause world []

section

variable
  {channels : Channels World}
  {machine : Machine}
  {world : World}

/-- A step ends in the fault of an unknown opcode exactly if the word at the program counter is
none. -/
theorem fault?_step_eq_unknownOpcode_iff
    (running : machine.condition = .running)
    (code : Word) :
    (machine.step channels world).machine.fault? =
        some { cause := .unknownOpcode code machine.pc, pc := machine.pc } ↔
      machine.opcode? = none ∧ machine.memory.get machine.pc = code := by
  constructor
  · intro faulted
    cases known : machine.opcode? with
    | some opcode =>
        have faults : (machine.step channels world).Faults .unknownOpcode :=
          ⟨_, fault?_eq_some_iff.mp faulted, rfl⟩
        rw [faults_step_of_known running known] at faults
        obtain impossible | ⟨action, _, impossible⟩ := faults
        · exact impossible.elim
        · cases action <;> exact impossible.elim
    | none =>
        rw [step_unknown running known] at faulted
        cases faulted
        exact ⟨rfl, rfl⟩
  · rintro ⟨unknown, rfl⟩
    rw [step_unknown running unknown]
    rfl

end
end Machine

/-- A step executes the opcode: it stands at the program counter, and what its instruction does
is what the step does. -/
def Transition.Executes
    (channels : Channels World)
    (transition : Transition)
    (opcode : Opcode) : Prop :=
  transition.before.opcode? = some opcode ∧
    ∃ world, transition.before.transition channels world = transition ∧
      transition.before.step channels world = transition.before.execute channels opcode world

/-! ## Single reports -/

namespace StepReport

/-- Whether a running machine made the step that is reported, without a fault. -/
def completes (report : StepReport) : Bool :=
  report.before.status = .running ∧ report.status ≠ .faulted

/-- A report tells about a step. -/
structure Tells
    (channels : Channels World)
    (report : StepReport)
    (transition : Transition) : Prop where
  /-- The report says where the instruction was. -/
  pc_eq : report.pc = transition.before.pc.val
  /-- The first snapshot is the one before the step. -/
  before_eq : report.before = transition.before.snapshot
  /-- The second snapshot is the one after the step. -/
  after_eq : report.after = transition.after.snapshot
  /-- No field is listed twice. -/
  nodup : (report.changed.map Change.name).Nodup
  /-- Only what really is different is listed. -/
  differ : ∀ change ∈ report.changed, change.Differs
  /-- The mnemonic is the one of the opcode that is executed. -/
  known : transition.before.status = .running -> ∀ opcode : Opcode,
    (report.mnemonic = opcode.mnemonic ↔ transition.Executes channels opcode)
  /-- The mnemonic is a question mark and a code if the word with this code is no opcode. -/
  unknown : transition.before.status = .running -> ∀ code : Word,
    (report.mnemonic = s!"?{code.toNat}" ↔
      transition.after.fault? = some
        { cause := .unknownOpcode code transition.before.pc, pc := transition.before.pc })

/-- The report drawn up from the snapshots before and after a step tells that step. -/
theorem tells_between
    (channels : Channels World)
    (machine : Machine)
    (world : World) :
    (between machine.mnemonic machine.snapshot
        (machine.step channels world).machine.snapshot).Tells channels
      (machine.transition channels world) where
  pc_eq := rfl
  before_eq := rfl
  after_eq := rfl
  nodup := Snapshot.nodup_names_changes machine.length_registers_snapshot _
  differ := Snapshot.differs_of_mem_changes _ _
  known := by
    intro running opcode
    have runs := Machine.status_eq_running_iff.mp running
    refine Text.ofString_injective.eq_iff.trans ((Machine.mnemonic_eq_iff opcode).trans ?_)
    exact ⟨fun known => ⟨known, world, rfl, Machine.step_known runs known⟩, And.left⟩
  unknown := by
    intro running code
    have runs := Machine.status_eq_running_iff.mp running
    refine Text.ofString_injective.eq_iff.trans ((Machine.mnemonic_eq_questioned_iff code).trans ?_)
    exact (Machine.fault?_step_eq_unknownOpcode_iff runs code).symm

/-- The report still names an instruction that overwrites itself. -/
example :
    let memory := (Memory.empty.set Machine.fresh.pc 16).set (Machine.fresh.pc.advance 2) 99
    let machine := { Machine.fresh with memory }
    let after := (machine.step Channels.vacant ()).machine
    machine.mnemonic = "wmem" ∧ after.memory.get machine.pc = 99 := by
  decide +kernel

end StepReport

/-! ## Reports one after the other -/

namespace Snapshot

/-- Puts what the fields are after each of the reported steps in their place, one step after the
other. -/
def replay
    (snapshot : Snapshot)
    (reports : List StepReport) : Snapshot :=
  reports.foldl (fun snapshot report => snapshot.patch report.changed) snapshot

/-- Puts what the fields were before each of the reported steps in their place, beginning with
the last step. -/
def rewind
    (snapshot : Snapshot)
    (reports : List StepReport) : Snapshot :=
  reports.foldr (fun report snapshot => snapshot.unpatch report.changed) snapshot

/-- Replaying reports does not look at the fields that no report holds. -/
theorem Agrees.replay
    {left right : Snapshot}
    (agrees : left.Agrees right)
    (reports : List StepReport) : (left.replay reports).Agrees (right.replay reports) := by
  induction reports generalizing left right with
  | nil => exact agrees
  | cons report reports inductionHypothesis =>
      exact inductionHypothesis (agrees.patch report.changed)

/-- Rewinding reports does not look at the fields that no report holds. -/
theorem Agrees.rewind
    {left right : Snapshot}
    (agrees : left.Agrees right)
    (reports : List StepReport) : (left.rewind reports).Agrees (right.rewind reports) := by
  induction reports with
  | nil => exact agrees
  | cons report reports inductionHypothesis => exact inductionHypothesis.patch _

end Snapshot

/-- Reports are a full record of the steps that lead from one machine to another. -/
structure Recounts
    (channels : Channels World)
    (start : Machine)
    (transitions : List Transition)
    (reports : List StepReport)
    (last : Machine) : Prop where
  /-- There is a report on every step that is not interrupted. -/
  tells : List.Forall₂ (StepReport.Tells channels) reports
    (transitions.filter fun transition => transition.interrupted.isNone)
  /-- Each report begins with the snapshot that the one before it ended with. -/
  linked : reports.map StepReport.before ++ [last.snapshot] =
    start.snapshot :: reports.map StepReport.after
  /-- The changes lead from the first snapshot to the last. -/
  forward : (start.snapshot.replay reports).Agrees last.snapshot
  /-- The changes taken back lead from the last snapshot to the first. -/
  backward : (last.snapshot.rewind reports).Agrees start.snapshot
  /-- The instructions that were executed are those that are reported as completed. -/
  executed_eq : last.executed = start.executed + reports.countP StepReport.completes

/-- No reports recount no steps. -/
theorem Recounts.none
    (channels : Channels World)
    (machine : Machine) : Recounts channels machine [] [] machine where
  tells := .nil
  linked := rfl
  forward := ⟨rfl, rfl, rfl, rfl⟩
  backward := ⟨rfl, rfl, rfl, rfl⟩
  executed_eq := rfl

section

variable
  {channels : Channels World}
  {machine : Machine}
  {world : World}

/-- There is no report on a step that is interrupted. -/
theorem Recounts.interrupted
    {disruption : Disruption}
    (interrupted : (machine.step channels world).interrupted = some disruption) :
    Recounts channels machine [machine.transition channels world] []
      (machine.step channels world).machine := by
  have passed : [machine.transition channels world].filter
      (fun transition => transition.interrupted.isNone) = [] := by
    simp [Machine.transition, interrupted]
  rw [Machine.step_machine_of_interrupted interrupted]
  have nothing := Recounts.none channels machine
  refine ⟨?_, nothing.linked, nothing.forward, nothing.backward, nothing.executed_eq⟩
  rw [passed]
  exact .nil

/-- The report on a step that is not interrupted is its full record. -/
theorem Recounts.single (returned : (machine.step channels world).interrupted = Option.none) :
    Recounts channels machine [machine.transition channels world]
      [.between machine.mnemonic machine.snapshot (machine.step channels world).machine.snapshot]
      (machine.step channels world).machine where
  tells := by
    have kept : [machine.transition channels world].filter
        (fun transition => transition.interrupted.isNone) =
          [machine.transition channels world] := by
      simp [Machine.transition, returned]
    rw [kept]
    exact .cons (StepReport.tells_between channels machine world) .nil
  linked := rfl
  forward := Snapshot.patch_changes machine.length_registers_snapshot
    (machine.step channels world).machine.length_registers_snapshot
  backward := Snapshot.unpatch_changes machine.length_registers_snapshot
    (machine.step channels world).machine.length_registers_snapshot
  executed_eq := by
    have same : (machine.transition channels world).completes =
        StepReport.completes (.between machine.mnemonic machine.snapshot
          (machine.step channels world).machine.snapshot) := by
      simp only [Transition.completes, Machine.transition, returned, true_and]
      rfl
    rw [machine.executed_step channels world, same, List.countP_singleton]

end

/-- Recounted stretches can be joined where one ends and the next begins. -/
theorem Recounts.trans
    {channels : Channels World}
    {start middle last : Machine}
    {transitions others : List Transition}
    {reports more : List StepReport}
    (first : Recounts channels start transitions reports middle)
    (second : Recounts channels middle others more last) :
    Recounts channels start (transitions ++ others) (reports ++ more) last where
  tells := by
    rw [List.filter_append]
    exact List.rel_append first.tells second.tells
  linked := by
    rw [List.map_append, List.map_append, List.append_assoc, second.linked,
      ← List.singleton_append, ← List.append_assoc, first.linked, List.cons_append]
  forward := by
    rw [Snapshot.replay, List.foldl_append]
    exact (first.forward.replay more).trans second.forward
  backward := by
    rw [Snapshot.rewind, List.foldr_append]
    exact (second.backward.rewind reports).trans first.backward
  executed_eq := by
    rw [second.executed_eq, first.executed_eq, List.countP_append, Nat.add_assoc]

/-- The report that a call is answered with. -/
def Answer.report? : Except Disruption Answer -> Option StepReport
  | .ok (.reported report) => some report
  | _ => none

theorem Answer.report?_map_reported (reply : Except Disruption StepReport) :
    report? (.reported <$> reply) = reply.toOption := by
  cases reply <;> rfl

theorem Answer.filterMap_cons_report?
    (answer : Except Disruption Answer)
    (answers : List (Except Disruption Answer)) :
    (answer :: answers).filterMap report? =
      (report? answer).toList ++ answers.filterMap report? := by
  rw [List.filterMap_cons]
  cases report? answer <;> rfl

namespace System

/-- The report on a step is on record, if there is one. -/
theorem recounts_reportedStep
    (channels : Channels World)
    (system : System World) :
    Recounts channels system.machine [system.machine.transition channels system.world]
      (system.reportedStep channels).1.toOption.toList
      (system.reportedStep channels).2.machine := by
  obtain ⟨machine, world, journal⟩ := system
  unfold reportedStep step
  dsimp only
  cases interrupted : (machine.step channels world).interrupted with
  | some disruption => exact .interrupted interrupted
  | none => exact .single interrupted

/-- A reported step answers with its report, unless it is interrupted. -/
theorem perform_reportedStep
    (channels : Channels World)
    (system : System World) :
    system.perform channels .reportedStep =
      (.reported <$> (system.reportedStep channels).1, (system.reportedStep channels).2) :=
  rfl

/-- Reported steps taken one after another recount the machine's history; only interrupted steps
go without a report. -/
theorem recounts_performAll
    (channels : Channels World)
    (system : System World)
    (count : Nat) :
    Recounts channels system.machine (system.machine.history channels count system.world)
      ((system.performAll channels (List.replicate count .reportedStep)).1.filterMap
        Answer.report?)
      (system.performAll channels (List.replicate count .reportedStep)).2.machine := by
  induction count generalizing system with
  | zero => exact .none channels system.machine
  | succ count inductionHypothesis =>
      have first := recounts_reportedStep channels system
      have rest := inductionHypothesis (system.reportedStep channels).2
      rw [snd_reportedStep] at first rest
      have both := first.trans rest
      rw [List.replicate_succ, performAll, perform_reportedStep, snd_reportedStep]
      dsimp only
      rw [Answer.filterMap_cons_report?, Answer.report?_map_reported]
      exact both

/-- The reports on consecutive steps are a full record of them, whatever the machine is, and the
bare machine gives the same. -/
theorem reports_lossless
    (channels : Channels World)
    (system : System World)
    (count : Nat) :
    let calls := List.replicate count Call.reportedStep
    let (answers, last) := system.performAll channels calls
    Recounts channels system.machine (system.machine.history channels count system.world)
        (answers.filterMap Answer.report?) last.machine ∧
      Bare.performAll channels system.journal.verbosity calls (Bare.exposed system) =
        (answers.map (Except.mapError .disruption), Bare.exposed last) :=
  ⟨recounts_performAll channels system count, Bare.performAll_exposed channels _ system⟩

end System
end WordMachine
