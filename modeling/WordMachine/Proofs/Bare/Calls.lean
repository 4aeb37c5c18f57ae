import WordMachine.Proofs.Bare.Simulation
import WordMachine.Proofs.ImageCoding

/-!
# Calls of corresponding machines

Loading, reported steps and runs of the bare machine come to what they come to
in a system, and so does every sequence of calls: `performAll_exposed`.
-/

namespace WordMachine
namespace Bare

variable {World α β : Type}

/-- The machine of a system as plain numbers and lists, and its world. -/
def exposed (system : System World) : BareMachine × World :=
  (system.machine.bare, system.world)

/-- What comes of a call of the bare machine, if a call of a system comes to the given result. -/
def answered : Except Disruption α × System World -> EStateM.Result Exit (BareMachine × World) α
  | (.ok answer, system) => .ok answer (exposed system)
  | (.error disruption, system) => .error (.disruption disruption) (exposed system)

/-- What is made of an answer changes nothing about how a call ends. -/
theorem run_map_exposed
    {activity : Activity World α}
    {system : System World}
    {reply : Except Disruption α × System World}
    (answer : α -> β)
    (same : activity.run (exposed system) = answered reply) :
    (do return answer (← activity) : Activity World β).run (exposed system) =
      answered (answer <$> reply.1, reply.2) := by
  obtain ⟨result, after⟩ := reply
  cases result with
  | ok value => exact run_bind_of_ok same
  | error disruption => exact run_bind_of_error same

/-! ## Steps -/

section

variable
  (channels : Channels World)
  (system : System World)

/-- The answer to a step that may have been interrupted. -/
def completed (answer : System World -> α) :
    Option Disruption × System World -> Except Disruption α × System World
  | (some disruption, system) => (.error disruption, system)
  | (none, system) => (.ok (answer system), system)

/-- A step of the bare machine answers with the status and leaves the exposed system as the
machine's own step does. -/
theorem run_step_exposed :
    (step channels).run (exposed system) =
      answered (completed (fun after => after.machine.status) (system.step channels)) := by
  refine (run_step_bare channels system.machine system.world).trans ?_
  unfold stepped System.step
  dsimp only
  cases (system.machine.step channels system.world).interrupted <;> rfl

/-- A snapshot shows the same of the bare machine. -/
theorem snapshot_bare (machine : Machine) :
    machine.bare.snapshot = machine.snapshot := by
  have sameError :
      (machine.fault?.map Fault.report).map FaultReport.describe =
        machine.fault?.map Fault.describe := by
    rw [Option.map_map]
    rfl
  exact congrArg (fun error => ({ machine.snapshot with error } : Snapshot)) sameError

/-- Snapshots of a machine have all eight registers, so that comparing them meets no defect. -/
theorem run_compare_bare
    (mnemonic : Text)
    (before after : Machine)
    (state : BareMachine × World) :
    (compare mnemonic before.bare.snapshot after.bare.snapshot).run state =
      .ok (.between mnemonic before.snapshot after.snapshot) state := by
  rw [snapshot_bare, snapshot_bare, compare, Snapshot.diff?_snapshot]
  rfl

/-- The instruction at the program counter has the same name on both sides. -/
theorem run_mnemonic_bare
    (machine : Machine)
    (state : BareMachine × World) :
    (mnemonic (codeNumber machine)).run state = .ok machine.mnemonic state := by
  unfold mnemonic Machine.mnemonic
  rw [codeNumber, shownNumber_word]
  dsimp only
  cases Opcode.ofCode? (machine.memory.get machine.pc).toNat <;> rfl

/-- A reported step of the bare machine gives the report of the machine's own. -/
theorem run_reportedStep_exposed :
    (reportedStep channels).run (exposed system) = answered (system.reportedStep channels) := by
  refine (run_bind_of_ok (run_machine _)).trans ?_
  refine (run_bind_of_ok
    (run_cell_bare system.machine system.world system.machine.pc)).trans ?_
  refine (run_bind_of_ok (run_mnemonic_bare system.machine _)).trans ?_
  have taken := run_step_exposed channels system
  unfold System.reportedStep
  cases result : system.step channels with
  | mk interrupted after =>
      rw [result] at taken
      cases interrupted with
      | some disruption => exact run_bind_of_error taken
      | none =>
          refine (run_bind_of_ok taken).trans ((run_bind_of_ok (run_machine _)).trans ?_)
          exact run_compare_bare system.machine.mnemonic system.machine after.machine _

end

/-! ## Loading -/

/-- Loaded words take the place of as many cells. -/
theorem numbers_load
    (memory : Memory)
    {words : List Word}
    (fits : words.length ≤ 32768) :
    numbers (memory.load words).cells.toList =
      numbers words ++ (numbers memory.cells.toList).drop words.length := by
  have cells :
      (memory.load words).cells.toList = words ++ memory.cells.toList.drop words.length := by
    apply List.ext_getElem
    · simp
      omega
    · intro address bound _
      by_cases covered : address < words.length
      · simp [Memory.load, covered]
      · have offset : words.length + (address - words.length) = address := by omega
        simp [Memory.load, List.getElem_append, covered, Memory.get, offset]
  rw [cells]
  simp [numbers]

theorem bare_withMemory
    (machine : Machine)
    (memory : Memory) :
    { machine with memory }.bare =
      { machine.bare with memory := numbers memory.cells.toList } :=
  rfl

/-- Loading puts the words in front and keeps the cells behind them. -/
theorem bare_load
    (machine : Machine)
    {words : List Word}
    (fits : words.length ≤ 32768) :
    (machine.load words).bare =
      { machine.bare with
        memory := numbers words ++ machine.bare.memory.drop words.length } := by
  rw [Machine.load, bare_withMemory, numbers_load machine.memory fits]
  rfl

/-- Words for which there is room are copied as they are. -/
theorem run_copy
    {words : List Word}
    {state : BareMachine × World}
    (room : words.length ≤ state.1.memory.length) :
    (copy words).run state =
      .ok words.length
        ({ state.1 with memory := numbers words ++ state.1.memory.drop words.length },
          state.2) := by
  refine (run_bind_of_ok (run_machine _)).trans ?_
  rw [if_pos room]
  rfl

/-- Up to 32768 words fit into the memory of any machine. -/
theorem run_copy_bare
    (machine : Machine)
    (world : World)
    {words : List Word}
    (fits : words.length ≤ 32768) :
    (copy words).run (machine.bare, world) =
      .ok words.length ((machine.load words).bare, world) := by
  have room : words.length ≤ machine.bare.memory.length := by
    simpa [Machine.bare] using fits
  rw [bare_load machine fits]
  exact run_copy room

/-- An image has pairs of bytes only once it is cut to the size of the memory. -/
theorem load_eq_copy (bytes : Array UInt8) :
    (load bytes : Activity World Nat) = copy (Image.decode bytes) := by
  unfold load
  rw [Image.decode?_capacity]

theorem exposed_withMachine
    (system : System World)
    (machine : Machine)
    (journal : Journal) :
    exposed { system with machine, journal } = (machine.bare, system.world) :=
  rfl

/-- Loading any bytes succeeds, because decoding is limited to the size of memory. -/
theorem run_load_exposed
    (bytes : Array UInt8)
    (system : System World) :
    (load bytes).run (exposed system) =
      .ok (Image.decode bytes).length (exposed (system.load bytes)) := by
  rw [load_eq_copy, System.load, exposed_withMachine]
  exact run_copy_bare system.machine system.world (Image.length_decode_le bytes)

/-! ## Runs -/

section

variable (channels : Channels World)

/-- One round of the loop has the same outcome on the bare machine. -/
theorem run_runStep_exposed
    (options : RunOptions)
    (system : System World) :
    (runStep channels (options.trace && system.journal.verbosity.showsSteps)).run
        (exposed system) =
      answered (completed (fun _ => ()) (system.runStep channels options)) := by
  unfold runStep System.runStep
  cases options.trace && system.journal.verbosity.showsSteps with
  | true =>
      have reported := run_reportedStep_exposed channels system
      rw [if_pos rfl, if_pos rfl, System.tracedStep]
      refine (run_map_exposed (fun _ => ()) reported).trans ?_
      rcases system.reportedStep channels with ⟨reply, after⟩
      cases reply <;> rfl
  | false =>
      have taken := run_step_exposed channels system
      rw [if_neg Bool.false_ne_true, if_neg Bool.false_ne_true]
      refine (run_map_exposed (fun _ => ()) taken).trans ?_
      rcases system.step channels with ⟨interrupted, after⟩
      cases interrupted <;> rfl

section

variable
  (options : RunOptions)
  (traced : Bool)
  (fuel steps : Nat)
  (system : System World)

/-- A run that is at its end gives its result. -/
theorem run_run_of_ending
    {result : RunResult}
    {notice : Notice}
    (ending : System.ending? options steps system.machine = some (result, notice)) :
    (run channels options traced fuel steps).run (exposed system) =
      .ok (.ran result.report) (exposed system) := by
  unfold System.ending? at ending
  unfold run
  refine (run_bind_of_ok (run_machine _)).trans ?_
  have status : (exposed system).1.status = system.machine.status := rfl
  have fault : (exposed system).1.fault = system.machine.fault?.map Fault.report := rfl
  rw [status, fault, Machine.status, Machine.fault?]
  cases condition : system.machine.condition with
  | running =>
      rw [condition] at ending
      obtain ⟨budget, exhausted, same⟩ := Option.map_eq_some_iff.mp ending
      obtain ⟨rfl, rfl⟩ := Prod.mk.inj same
      rw [exhausted]
      rfl
  | halted =>
      rw [condition] at ending
      obtain ⟨rfl, rfl⟩ := Prod.mk.inj (Option.some.inj ending)
      rfl
  | faulted fault =>
      rw [condition] at ending
      obtain ⟨rfl, rfl⟩ := Prod.mk.inj (Option.some.inj ending)
      rfl

/-- A run that is not at its end makes a step, if there is fuel left. -/
theorem run_run_of_continuing
    (continuing : System.ending? options steps system.machine = none) :
    (run channels options traced fuel steps).run (exposed system) =
      match fuel with
      | 0 => .ok (.unfinished steps) (exposed system)
      | fuel + 1 =>
          (runStep channels traced >>= fun _ =>
            run channels options traced fuel (steps + 1)).run (exposed system) := by
  unfold System.ending? at continuing
  conv_lhs => unfold run
  refine (run_bind_of_ok (run_machine _)).trans ?_
  have status : (exposed system).1.status = system.machine.status := rfl
  rw [status, Machine.status]
  cases condition : system.machine.condition with
  | running =>
      rw [condition] at continuing
      rw [Option.map_eq_none_iff.mp continuing]
      cases fuel <;> rfl
  | halted => simp [condition] at continuing
  | faulted fault => simp [condition] at continuing

end

/-- The loop has the same outcome on the bare machine; the verbosity stays the same throughout,
so that it can be asked once. -/
theorem run_run_exposed
    (options : RunOptions)
    {verbosity : Verbosity}
    (fuel steps : Nat)
    (system : System World)
    (sameVerbosity : system.journal.verbosity = verbosity) :
    (run channels options (options.trace && verbosity.showsSteps) fuel steps).run
        (exposed system) =
      answered
        ((system.run channels options fuel steps).1.answer,
          (system.run channels options fuel steps).2) := by
  induction fuel generalizing system steps with
  | zero =>
      unfold System.run
      cases ending : System.ending? options steps system.machine with
      | some conclusion => exact run_run_of_ending channels options _ 0 steps system ending
      | none => exact run_run_of_continuing channels options _ 0 steps system ending
  | succ fuel inductionHypothesis =>
      unfold System.run
      cases ending : System.ending? options steps system.machine with
      | some conclusion => exact run_run_of_ending channels options _ _ steps system ending
      | none =>
          refine (run_run_of_continuing channels options _ _ steps system ending).trans ?_
          have stepped := run_runStep_exposed channels options system
          have kept := System.verbosity_runStep channels options system
          rw [sameVerbosity] at stepped kept
          dsimp only
          cases result : system.runStep channels options with
          | mk interrupted after =>
              rw [result] at stepped kept
              cases interrupted with
              | some disruption => exact run_bind_of_error stepped
              | none =>
                  exact (run_bind_of_ok stepped).trans
                    (inductionHypothesis (steps + 1) after kept)

/-! ## All calls -/

/-- Every call has the same outcome on the bare machine. -/
theorem run_perform_exposed
    (call : Call)
    (system : System World) :
    (perform channels system.journal.verbosity call).run (exposed system) =
      answered (system.perform channels call) := by
  cases call with
  | load bytes => exact run_bind_of_ok (run_load_exposed bytes system)
  | step =>
      refine (run_map_exposed Answer.stepped (run_step_exposed channels system)).trans ?_
      rw [System.perform]
      rcases system.step channels with ⟨interrupted, after⟩
      cases interrupted <;> rfl
  | reportedStep => exact run_map_exposed Answer.reported (run_reportedStep_exposed channels system)
  | run options fuel => exact run_run_exposed channels options fuel 0 system rfl

/-- Calls of the bare machine come to what they come to in a system, and what disrupts the one
disrupts the other. -/
theorem performAll_exposed
    (calls : List Call)
    (system : System World) :
    performAll channels system.journal.verbosity calls (exposed system) =
      ((system.performAll channels calls).1.map (Except.mapError .disruption),
        exposed (system.performAll channels calls).2) := by
  induction calls generalizing system with
  | nil => rfl
  | cons call calls inductionHypothesis =>
      have performed := run_perform_exposed channels call system
      have kept := System.verbosity_perform channels call system
      unfold performAll System.performAll
      cases result : system.perform channels call with
      | mk answer after =>
          rw [result] at performed kept
          have rest := inductionHypothesis after
          rw [kept] at rest
          cases answer with
          | ok answer =>
              rw [performed]
              dsimp only [answered]
              rw [rest]
              rfl
          | error disruption =>
              rw [performed]
              dsimp only [answered]
              rw [rest]
              rfl

end

end Bare
end WordMachine
