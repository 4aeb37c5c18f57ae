import WordMachine.Proofs.Bare.Calls
import WordMachine.Proofs.ChannelCalls

/-!
# Safety

A system never asks for what its machine does not have.  Whatever is loaded and
however the channels behave, a sequence of calls of a bare machine that starts
out fresh meets no defect and keeps the machine well-formed, and it comes to
what it comes to in a system.  If a call ends without an answer, then the channels
are the reason: they were interrupted, or a failure came out of a value that they
delivered.
-/

namespace WordMachine

variable {World : Type}

/-! ## Disruptions -/

/-- What the channels may cause that nothing absorbs. -/
inductive Channels.Disrupts (channels : Channels World) : Disruption -> Prop where
  /-- A read may be interrupted. -/
  | read {world : World} {words : Text}
      (interrupted : (channels.read world).1 = .interrupted words) :
      Disrupts channels (.interruption words)
  /-- A value may be delivered that disrupts whoever looks at it. -/
  | value {world : World} {value : Value} {disruption : Disruption}
      (delivered : (channels.read world).1 = .done value)
      (disrupts : value.disruption? = some disruption) :
      Disrupts channels disruption
  /-- A write may be interrupted. -/
  | write {code : Int} {world : World} {words : Text}
      (interrupted : (channels.write code world).1.reply = .interrupted words) :
      Disrupts channels (.interruption words)

section

variable {channels : Channels World}

/-- An action is interrupted by its channel or by a value from it. -/
theorem Machine.disrupts_of_carryOut
    {machine : Machine}
    {world : World}
    {opcode : Opcode}
    {action : Action}
    {disruption : Disruption}
    (interrupted : (machine.carryOut channels world opcode action).interrupted = some disruption) :
    channels.Disrupts disruption := by
  cases action with
  | settle effect => cases interrupted
  | send code =>
      unfold Machine.carryOut at interrupted
      dsimp only at interrupted
      rcases written : channels.write code.toNat world with ⟨⟨reply, notices⟩, after⟩
      rw [written] at interrupted
      cases reply with
      | done value => cases interrupted
      | failed failure => cases interrupted
      | interrupted words =>
          cases interrupted
          exact .write (congrArg (fun result => result.1.reply) written)
  | receive target =>
      unfold Machine.carryOut at interrupted
      dsimp only at interrupted
      rcases read : channels.read world with ⟨reply, after⟩
      rw [read] at interrupted
      cases reply with
      | done value =>
          dsimp only at interrupted
          rcases received : Machine.receivedWord value with (cause | other) | word <;>
            rw [received] at interrupted <;> cases interrupted
          exact .value (congrArg Prod.fst read) (Machine.receivedWord_eq_disruption_iff.mp received)
      | failed failure => cases interrupted
      | interrupted words =>
          cases interrupted
          exact .read (congrArg Prod.fst read)

/-- A step has no other source of disruption than its channels. -/
theorem Machine.disrupts_of_step
    {machine : Machine}
    {world : World}
    {disruption : Disruption}
    (interrupted : (machine.step channels world).interrupted = some disruption) :
    channels.Disrupts disruption := by
  by_cases running : machine.condition = .running
  · rw [Machine.step_running running] at interrupted
    cases plan : machine.plan with
    | error cause =>
        rw [plan] at interrupted
        cases interrupted
    | ok instruction =>
        rw [plan] at interrupted
        exact Machine.disrupts_of_carryOut interrupted
  · rw [Machine.step_stopped running] at interrupted
    cases interrupted

theorem System.disrupts_of_step
    {system : System World}
    {disruption : Disruption}
    (interrupted : (system.step channels).1 = some disruption) :
    channels.Disrupts disruption :=
  Machine.disrupts_of_step interrupted

theorem System.disrupts_of_reportedStep
    {system : System World}
    {disruption : Disruption}
    (interrupted : (system.reportedStep channels).1 = .error disruption) :
    channels.Disrupts disruption := by
  rw [System.reportedStep] at interrupted
  cases result : system.step channels with
  | mk reply after =>
      rw [result] at interrupted
      cases reply with
      | some reply =>
          cases interrupted
          exact System.disrupts_of_step (congrArg Prod.fst result)
      | none => cases interrupted

theorem System.disrupts_of_runStep
    {system : System World}
    {options : RunOptions}
    {disruption : Disruption}
    (interrupted : (system.runStep channels options).1 = some disruption) :
    channels.Disrupts disruption := by
  unfold System.runStep at interrupted
  split at interrupted
  · rw [System.tracedStep] at interrupted
    cases result : system.reportedStep channels with
    | mk reply after =>
        rw [result] at interrupted
        cases reply with
        | error reply =>
            cases interrupted
            exact System.disrupts_of_reportedStep (congrArg Prod.fst result)
        | ok report => cases interrupted
  · exact System.disrupts_of_step interrupted

theorem System.disrupts_of_run
    {system : System World}
    {options : RunOptions}
    {fuel steps : Nat}
    {disruption : Disruption}
    (interrupted : (system.run channels options fuel steps).1.answer = .error disruption) :
    channels.Disrupts disruption := by
  induction fuel generalizing system steps with
  | zero =>
      unfold System.run at interrupted
      split at interrupted <;> cases interrupted
  | succ fuel inductionHypothesis =>
      unfold System.run at interrupted
      split at interrupted
      · cases interrupted
      · dsimp only at interrupted
        cases result : system.runStep channels options with
        | mk reply after =>
            rw [result] at interrupted
            cases reply with
            | some reply =>
                cases interrupted
                exact System.disrupts_of_runStep (congrArg Prod.fst result)
            | none => exact inductionHypothesis interrupted

/-- A call that does not come back with an answer is disrupted by the channels. -/
theorem System.disrupts_of_perform
    {system : System World}
    {call : Call}
    {disruption : Disruption}
    (interrupted : (system.perform channels call).1 = .error disruption) :
    channels.Disrupts disruption := by
  cases call with
  | load bytes => cases interrupted
  | step =>
      rw [System.perform] at interrupted
      cases result : system.step channels with
      | mk reply after =>
          rw [result] at interrupted
          cases reply with
          | some reply =>
              cases interrupted
              exact System.disrupts_of_step (congrArg Prod.fst result)
          | none => cases interrupted
  | reportedStep =>
      rw [System.perform] at interrupted
      cases result : system.reportedStep channels with
      | mk reply after =>
          rw [result] at interrupted
          cases reply with
          | error reply =>
              cases interrupted
              exact System.disrupts_of_reportedStep (congrArg Prod.fst result)
          | ok report => cases interrupted
  | run options fuel => exact System.disrupts_of_run interrupted

/-- Whatever leaves one of many calls comes from the channels. -/
theorem System.disrupts_of_performAll
    {system : System World}
    {calls : List Call}
    {disruption : Disruption}
    (interrupted : .error disruption ∈ (system.performAll channels calls).1) :
    channels.Disrupts disruption := by
  induction calls generalizing system with
  | nil => cases interrupted
  | cons call calls inductionHypothesis =>
      rcases List.mem_cons.mp interrupted with first | later
      · exact System.disrupts_of_perform first.symm
      · exact inductionHypothesis later

end

/-! ## Well-formed machines -/

theorem Bare.numbers_replicate (size : Nat) :
    numbers (Vector.replicate size 0).toList = List.replicate size 0 := by
  simp [numbers]

theorem BareMachine.fresh_eq_bare : BareMachine.fresh = Machine.fresh.bare :=
  BareMachine.ext (Bare.numbers_replicate 32768).symm (Bare.numbers_replicate 8).symm
    rfl rfl rfl rfl rfl

/-- The bare form of a machine has the right sizes, and all its numbers are in range. -/
theorem Machine.wellFormed_bare (machine : Machine) : machine.bare.WellFormed where
  memory_length := by simp [bare]
  registers_length := by simp [bare]
  memory_isWord := fun _ => Bare.isWord_of_mem_numbers
  registers_isWord := fun _ => Bare.isWord_of_mem_numbers
  stack_isWord := fun _ => Bare.isWord_of_mem_numbers
  pc_inRange := by
    have bound := machine.pc.isLt
    constructor <;> simp only [bare] <;> omega

namespace Bare

/-- Calls that start with a fresh bare machine leave the machine that they leave in a system. -/
theorem machine_performAll_fresh
    (channels : Channels World)
    (world : World)
    (journal : Journal)
    (calls : List Call) :
    (performAll channels journal.verbosity calls (.fresh, world)).2.1 =
      (System.performAll channels calls { machine := .fresh, world, journal }).2.machine.bare := by
  have same := performAll_exposed channels calls { machine := .fresh, world, journal }
  rw [exposed, ← BareMachine.fresh_eq_bare] at same
  exact congrArg (fun result => result.2.1) same

/-- How a call may end: with an answer, or because the channels disrupt it. -/
def Permitted
    {α : Type}
    (channels : Channels World) : Except Exit α -> Prop
  | .ok _ => True
  | .error (.disruption disruption) => channels.Disrupts disruption
  | .error _ => False

/-- Calls that start with a fresh machine end with an answer or with a disruption that the channels
cause, be it an interruption or a failure of a value that they deliver; they leave the machine
well-formed, and come to what they come to in a system. -/
theorem performAll_fresh
    (channels : Channels World)
    (world : World)
    (journal : Journal)
    (calls : List Call) :
    let (answers, machine, after) :=
      performAll channels journal.verbosity calls (.fresh, world)
    let (sameAnswers, system) :=
      System.performAll channels calls { machine := .fresh, world, journal }
    (∀ answer ∈ answers, Permitted channels answer) ∧
      machine.WellFormed ∧
      answers = sameAnswers.map (Except.mapError .disruption) ∧
      machine = system.machine.bare ∧
      after = system.world := by
  have same := performAll_exposed channels calls { machine := .fresh, world, journal }
  rw [exposed, ← BareMachine.fresh_eq_bare] at same
  dsimp only at same ⊢
  rw [same]
  refine ⟨?_, Machine.wellFormed_bare _, rfl, rfl, rfl⟩
  intro answer member
  obtain ⟨answer, sameMember, rfl⟩ := List.mem_map.mp member
  cases answer with
  | ok answer => trivial
  | error disruption => exact System.disrupts_of_performAll sameMember

/-- The image of a program that reads one value. -/
def singleRead : Array UInt8 :=
  #[20, 0, 0, 128]

/-- The program has two words, its instruction and the first register. -/
theorem decode_singleRead : Image.decode singleRead = [20, 32768] := by decide

/-- Once it is loaded, the program asks for a value for the first register. -/
theorem plan_singleRead :
    (Machine.fresh.loadImage singleRead).opcode? = some .input ∧
      (Machine.fresh.loadImage singleRead).planOpcode .input =
        .ok (.receive (.register 0)) := by
  constructor
  · simp [Machine.opcode?, Machine.loadImage, decode_singleRead, Machine.load, Machine.fresh]
    rfl
  · simp [Machine.planOpcode, Machine.destination, Machine.operandWord, Machine.loadImage,
      decode_singleRead, Machine.load, Machine.fresh]
    rfl

/-- A failure that comes out of a value escapes from the step that reads it, although the value can
be shown. -/
theorem performAll_evasive :
    let failure : Failure := { kind := .runtime, argument := some "no number" }
    let value : Value := .evasive (.failure failure) (.ok "1")
    let calls : List Call := [.load singleRead, .step]
    value.display = .ok "1" ∧
      (performAll (Channels.delivering value) .silent calls (.fresh, ())).1 =
        [.ok (.loaded 2), .error (.disruption (.failure failure))] := by
  intro failure value calls
  let channels := Channels.delivering value
  let start : System Unit :=
    { machine := .fresh, world := (), journal := { verbosity := .silent } }
  have interrupted :
      ((Machine.fresh.loadImage singleRead).step channels ()).interrupted =
        some (.failure failure) := by
    obtain ⟨reads, planned⟩ := plan_singleRead
    rw [Machine.step_known rfl reads, planned]
    rfl
  -- For any system, so that the image is not worked out here.
  have loadedAndStepped (system : System Unit) :
      (system.performAll channels calls).1 =
        [.ok (.loaded (Image.decode singleRead).length),
          ((system.load singleRead).perform channels .step).1] :=
    rfl
  have stepped : ((start.load singleRead).perform channels .step).1 =
      .error (.failure failure) := System.fst_perform_step_of_interrupted channels interrupted
  have same := congrArg Prod.fst (performAll_exposed channels calls start)
  rw [exposed, ← BareMachine.fresh_eq_bare] at same
  refine ⟨rfl, same.trans ?_⟩
  rw [loadedAndStepped, stepped, decode_singleRead]
  rfl

end Bare
end WordMachine
