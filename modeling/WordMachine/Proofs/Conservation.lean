import WordMachine.Proofs.Accounting
import WordMachine.Proofs.Scripted

/-!
# Conservation of input and output

A machine reads from a script and writes to a collector.  Of the script nothing is lost
and nothing is read twice: what is not pending went to the instructions for input, in
their order, but for a last character that was rejected.  The collector has got the
operands of the instructions for output, in their order, and nothing else.  This is so
for every step, and hence for all calls that make steps:
`System.input_output_conserved`.
-/

namespace WordMachine

variable {World : Type}

/-- The code of a character. -/
def CodePoint.code (point : CodePoint) : Int :=
  point.toNat

/-! ## One step -/

/-- Transitions take codes from a script and hand codes to a collector, and lead to a machine. -/
structure Conserves
    (script : Script)
    (collector : Collector)
    (transitions : List Transition)
    (last : Machine)
    (scriptLeft : Script)
    (collectorLeft : Collector) : Prop where
  /-- What was pending was accepted, or at last rejected, or is pending still. -/
  pending_eq : script.pending.map CodePoint.code =
    transitions.flatMap Transition.accepted ++ transitions.flatMap Transition.rejected ++
      scriptLeft.pending.map CodePoint.code
  /-- What is rejected is too large, and the machine has faulted at it. -/
  rejected_cases : transitions.flatMap Transition.rejected = [] ∨
    ∃ code fault, transitions.flatMap Transition.rejected = [code] ∧ 32767 < code ∧
      last.fault? = some fault ∧ fault.cause.kind = .channelFailure ∧
      last.opcode? = some .input
  /-- What was sent was written. -/
  codes_eq : collectorLeft.codes = collector.codes ++ transitions.flatMap Transition.sent
  /-- The collector still accepts everything. -/
  unlimited : collectorLeft.limit = none

section

variable
  {transition : Transition}
  {script scriptLeft : Script}
  {collector collectorLeft : Collector}
  {last : Machine}

theorem conserves_single
    (pending_eq : script.pending.map CodePoint.code =
      transition.accepted ++ transition.rejected ++ scriptLeft.pending.map CodePoint.code)
    (rejected_cases : transition.rejected = [] ∨
      ∃ code fault, transition.rejected = [code] ∧ 32767 < code ∧
        last.fault? = some fault ∧ fault.cause.kind = .channelFailure ∧
        last.opcode? = some .input)
    (codes_eq : collectorLeft.codes = collector.codes ++ transition.sent)
    (unlimited : collectorLeft.limit = none) :
    Conserves script collector [transition] last scriptLeft collectorLeft where
  pending_eq := by rwa [List.flatMap_singleton, List.flatMap_singleton]
  rejected_cases := by rwa [List.flatMap_singleton]
  codes_eq := by rwa [List.flatMap_singleton]
  unlimited

/-- A step that takes nothing conserves the script. -/
theorem conserves_of_untaken
    (untaken : transition.taken = [])
    (codes_eq : collectorLeft.codes = collector.codes ++ transition.sent)
    (unlimited : collectorLeft.limit = none) :
    Conserves script collector [transition] last script collectorLeft := by
  have unaccepted : transition.accepted = [] := by
    rw [Transition.accepted, untaken, ite_self]
  have unrejected : transition.rejected = [] := by
    rw [Transition.rejected, untaken, ite_self]
  refine conserves_single ?_ (Or.inl unrejected) codes_eq unlimited
  rw [unaccepted, unrejected]
  rfl

end

namespace Machine

/-- A character is accepted if its code is a fifteen-bit number. -/
theorem receivedWord_code (point : CodePoint) :
    receivedWord (.integer point.code) =
      if point.toNat < 32768 then
        .ok (UInt16.ofNat point.toNat)
      else
        .error (.fault (.inputOutOfRange (toString point.code))) := by
  have enough := Text.Numeral.le_leastUnwritten
  have isSmall := point.isSmall
  unfold receivedWord CodePoint.code
  dsimp only
  by_cases small : point.toNat < 32768
  · rw [if_pos small, if_pos (by omega)]
    rfl
  · rw [if_neg small, if_neg (by omega), shownNumber_of_lt (by omega)]
    rfl

section

variable
  {machine : Machine}
  {collector : Collector}
  (unlimited : collector.limit = none)

include unlimited

/-- A machine that reads a character accepts it, or rejects it and faults. -/
theorem conserves_reading
    {target : Operand}
    (asks : machine.Asks target)
    (point : CodePoint)
    (points : List CodePoint) :
    let reply := Reply.done (.integer point.code)
    Conserves ⟨point :: points⟩ collector [machine.reading target reply]
      (machine.receive target reply ()).machine ⟨points⟩ collector := by
  intro reply
  have known : machine.opcode? = some .input := (plan_eq_ok_iff.mp asks.2).1
  have taken : (machine.reading target reply).taken = [point.code] := rfl
  by_cases small : point.toNat < 32768
  · have received := (receivedWord_code point).trans (if_pos small)
    have complete := completes_reading_of_ok machine target asks.1 received
    obtain ⟨accepted, unrejected, unsent⟩ := Transition.of_complete complete known
    rw [if_pos rfl, taken] at accepted
    rw [if_neg (by decide)] at unsent
    refine conserves_single ?_ (Or.inl unrejected) ?_ unlimited
    · rw [accepted, unrejected]
      rfl
    · rw [unsent, List.append_nil]
  · have refused := (receivedWord_code point).trans (if_neg small)
    have incomplete := completes_reading_of_error machine target refused
    obtain ⟨unaccepted, rejected, unsent⟩ := Transition.of_incomplete incomplete
    rw [taken] at rejected
    have large : 32767 < point.code := by
      unfold CodePoint.code
      omega
    refine conserves_single ?_ (Or.inr ?_) ?_ unlimited
    · rw [unaccepted, rejected]
      rfl
    · rw [receive_of_fault machine target refused]
      exact ⟨point.code, _, rejected, large, rfl, rfl, known⟩
    · rw [unsent, List.append_nil]

end

/-- A step from a script and a collector leaves a script and a collector, and conserves both. -/
def ConservesStep
    (script : Script)
    (collector : Collector)
    (machine : Machine) : Prop :=
  let channels := Desk.channels (some 0) (some 0)
  let desk := Desk.scripted script #[.collector collector]
  let outcome := machine.step channels desk
  ∃ scriptLeft collectorLeft,
    outcome.world = .scripted scriptLeft #[.collector collectorLeft] ∧
      Conserves script collector [machine.transition channels desk] outcome.machine
        scriptLeft collectorLeft

section

variable
  {machine : Machine}
  {collector : Collector}
  (unlimited : collector.limit = none)
  (script : Script)

include unlimited

theorem conservesStep_of_asks
    {target : Operand}
    (asks : machine.Asks target) : machine.ConservesStep script collector := by
  obtain ⟨same, world, transition⟩ :=
    scripted_of_asks (some 0) #[.collector collector] script asks
  refine ⟨script.read.2, collector, world, ?_⟩
  rw [same, transition]
  obtain ⟨pending⟩ := script
  cases pending with
  | nil =>
      have incomplete : (machine.reading target (.failed Script.exhausted)).completes = false :=
        Transition.completes_of_fail (rfl : _ = machine.fail (.noInput _))
      have unsent := (Transition.of_incomplete incomplete).2.2
      refine conserves_of_untaken rfl ?_ unlimited
      exact (List.append_nil _).symm.trans (congrArg (collector.codes ++ ·) unsent.symm)
  | cons point points =>
      have read : (Script.mk (point :: points)).read = (.done (.integer point.code), ⟨points⟩) :=
        rfl
      rw [read]
      exact conserves_reading unlimited asks point points

/-- A step that calls no channel and sends nothing conserves everything. -/
theorem conservesStep_of_uncalled
    (sameWorld : (machine.step (Desk.channels (some 0) (some 0))
      (.scripted script #[.collector collector])).world =
        .scripted script #[.collector collector])
    (uncalled : machine.channelCalls (Desk.channels (some 0) (some 0))
      (.scripted script #[.collector collector]) = [])
    (unsent : (machine.transition (Desk.channels (some 0) (some 0))
      (.scripted script #[.collector collector])).sent = []) :
    machine.ConservesStep script collector := by
  have untaken := congrArg (List.filterMap ChannelCall.delivered?) uncalled
  refine ⟨script, collector, sameWorld, conserves_of_untaken untaken ?_ unlimited⟩
  rw [unsent, List.append_nil]

theorem conservesStep_of_send
    {code : Word}
    (running : machine.condition = .running)
    (planned : machine.plan = .ok (.output, .send code))
    (evaluates : machine.Evaluates 1 code) :
    machine.ConservesStep script collector := by
  obtain ⟨latestFirst, limit⟩ := collector
  obtain rfl : limit = none := unlimited
  let channels := Desk.channels (some 0) (some 0)
  let desk := Desk.scripted script #[.collector { latestFirst }]
  let written : Collector := { latestFirst := code.toNat :: latestFirst }
  have wrote : channels.write code.toNat desk =
      ({ reply := .done () }, Desk.scripted script #[.collector written]) :=
    rfl
  have done := congrArg (fun result => result.1.reply) wrote
  have step := step_of_send running planned done
  have sent := sent_of_send running planned evaluates done
  have called : (machine.transition channels desk).calls = [.write code.toNat (.done ())] := by
    unfold transition
    dsimp only
    rw [channelCalls_of_ok channels desk running planned, Action.channelCalls, wrote]
  refine ⟨script, written, congrArg Outcome.world step, ?_⟩
  refine conserves_of_untaken ?_ ?_ rfl
  · rw [Transition.taken, called]
    rfl
  · rw [sent]
    exact List.reverse_cons

/-- Every step conserves the script and the collector. -/
theorem conservesStep : machine.ConservesStep script collector := by
  let channels := Desk.channels (some 0) (some 0)
  let desk := Desk.scripted script #[.collector collector]
  cases machine.nextStep with
  | stopped stopped =>
      have step : machine.step channels desk = { machine, world := desk } := step_stopped stopped
      have incomplete : (machine.transition channels desk).completes = false :=
        Transition.completes_of_stopped stopped
      exact conservesStep_of_uncalled unlimited script (congrArg Outcome.world step)
        (channelCalls_of_stopped channels desk stopped) (Transition.of_incomplete incomplete).2.2
  | @failing cause running planned =>
      have step : machine.step channels desk = machine.faultOutcome cause desk [] := by
        rw [step_running running, planned]
      have incomplete : (machine.transition channels desk).completes = false :=
        completes_of_error running planned
      exact conservesStep_of_uncalled unlimited script (congrArg Outcome.world step)
        (channelCalls_of_error channels desk running planned)
        (Transition.of_incomplete incomplete).2.2
  | @settling opcode effect running planned otherwise =>
      have step : machine.step channels desk =
          { machine := machine.apply opcode effect, world := desk } := by
        rw [step_running running, planned]
        rfl
      exact conservesStep_of_uncalled unlimited script (congrArg Outcome.world step)
        (channelCalls_of_ok channels desk running planned)
        (Transition.sent_of_ne (plan_eq_ok_iff.mp planned).1 otherwise.2)
  | sending running planned evaluates =>
      exact conservesStep_of_send unlimited script running planned evaluates
  | asking asks => exact conservesStep_of_asks unlimited script asks

end

end Machine

/-! ## Many steps -/

/-- What both of two runs conserve is conserved, unless the second takes something although the
first has rejected something. -/
theorem Conserves.append
    {script scriptBetween scriptLeft : Script}
    {collector collectorBetween collectorLeft : Collector}
    {transitions others : List Transition}
    {middle last : Machine}
    (first : Conserves script collector transitions middle scriptBetween collectorBetween)
    (second : Conserves scriptBetween collectorBetween others last scriptLeft collectorLeft)
    (rejectedLast : transitions.flatMap Transition.rejected = [] ∨
      others.flatMap Transition.accepted = [] ∧ others.flatMap Transition.rejected = [] ∧
        last = middle) :
    Conserves script collector (transitions ++ others) last scriptLeft collectorLeft where
  pending_eq := by
    rw [first.pending_eq, second.pending_eq, List.flatMap_append, List.flatMap_append]
    rcases rejectedLast with unrejected | ⟨unaccepted, unrejected, _⟩
    · rw [unrejected]
      simp
    · rw [unaccepted, unrejected]
      simp
  rejected_cases := by
    rw [List.flatMap_append]
    rcases rejectedLast with unrejected | ⟨_, unrejected, rfl⟩
    · rw [unrejected]
      exact second.rejected_cases
    · rw [unrejected, List.append_nil]
      exact first.rejected_cases
  codes_eq := by
    rw [second.codes_eq, first.codes_eq, List.append_assoc, List.flatMap_append]
  unlimited := second.unlimited

namespace Machine

/-- A machine that does not run takes nothing any more. -/
theorem flatMap_resting
    {machine : Machine}
    (stopped : machine.condition ≠ .running)
    (count : Nat) :
    (List.replicate count machine.resting).flatMap Transition.accepted = [] ∧
      (List.replicate count machine.resting).flatMap Transition.rejected = [] := by
  have incomplete : machine.resting.completes = false := Transition.completes_of_stopped stopped
  obtain ⟨unaccepted, rejected, _⟩ := Transition.of_incomplete incomplete
  constructor
  · refine List.flatMap_eq_nil_iff.mpr fun transition isMember => ?_
    rw [List.eq_of_mem_replicate isMember, unaccepted]
  · refine List.flatMap_eq_nil_iff.mpr fun transition isMember => ?_
    rw [List.eq_of_mem_replicate isMember, rejected]
    rfl

/-- All steps together conserve the script and the collector. -/
theorem conserves_history
    {collector : Collector}
    (unlimited : collector.limit = none)
    (script : Script)
    (count : Nat)
    (machine : Machine) :
    let channels := Desk.channels (some 0) (some 0)
    let desk := Desk.scripted script #[.collector collector]
    ∃ last scriptLeft collectorLeft,
      machine.afterSteps channels count desk =
          (last, .scripted scriptLeft #[.collector collectorLeft]) ∧
        Conserves script collector (machine.history channels count desk) last
          scriptLeft collectorLeft := by
  intro channels desk
  induction count generalizing machine script collector with
  | zero =>
      exact ⟨machine, script, collector, rfl, {
        pending_eq := rfl
        rejected_cases := Or.inl rfl
        codes_eq := (List.append_nil _).symm
        unlimited }⟩
  | succ count inductionHypothesis =>
      have conserves : machine.ConservesStep script collector := conservesStep unlimited script
      obtain ⟨scriptBetween, collectorBetween, world, first⟩ := conserves
      obtain ⟨last, scriptLeft, collectorLeft, state, later⟩ :=
        inductionHypothesis first.unlimited scriptBetween (machine.step channels desk).machine
      rw [afterSteps, history, world]
      refine ⟨last, scriptLeft, collectorLeft, state, first.append later ?_⟩
      -- A character that was refused has stopped the machine, so nothing is read after it.
      rcases first.rejected_cases with unrejected | ⟨_, fault, _, _, faulted, _⟩
      · exact Or.inl unrejected
      · have stopped := stopped_of_fault? faulted
        obtain ⟨rests, rested⟩ := history_of_stopped stopped channels count
          (.scripted scriptBetween #[.collector collectorBetween])
        rw [rests]
        obtain ⟨unaccepted, unrejected⟩ := flatMap_resting stopped count
        exact Or.inr ⟨unaccepted, unrejected, congrArg Prod.fst (state.symm.trans rested)⟩

end Machine

/-! ## Collected text -/

theorem mapM_codePoint
    {codes : List Int}
    {points : List CodePoint}
    (characters : codes.map codePoint = points.map Except.ok) :
    codes.mapM codePoint = .ok points := by
  induction codes generalizing points with
  | nil =>
      obtain rfl := List.map_eq_nil_iff.mp characters.symm
      rfl
  | cons code codes inductionHypothesis =>
      obtain ⟨point, points, rfl, first, rest⟩ := List.map_eq_cons_iff.mp characters.symm
      rw [List.mapM_cons, ← first, inductionHypothesis rest.symm]
      rfl

/-- A collector that has got the codes of characters holds their text. -/
theorem Collector.text_eq
    {collector : Collector}
    {points : List CodePoint}
    (characters : collector.codes.map codePoint = points.map Except.ok) :
    collector.text = .ok ⟨points⟩ := by
  rw [text, mapM_codePoint characters]
  rfl

/-- What was sent is a text with one character for every executed instruction for output. -/
theorem Machine.text_of_sent
    {channels : Channels World}
    {transitions : List Transition}
    (happen : ∀ transition ∈ transitions, (Event.stepped transition).Happens channels)
    {collector : Collector}
    (codes_eq : collector.codes = transitions.flatMap Transition.sent) :
    ∃ output, collector.text = .ok output ∧
      output.points.length = transitions.countP (Transition.executes .output) := by
  obtain ⟨words, sent, length⟩ := exists_words_sent happen
  refine ⟨⟨words.map fun word => CodePoint.ofNat word.toNat⟩, ?_, ?_⟩
  · refine Collector.text_eq ?_
    rw [codes_eq, sent, List.map_map, List.map_map]
    exact congrArg (words.map ·) (funext codePoint_word)
  · rw [← length]
    exact List.length_map _

/-! ## Calls -/

namespace System

/-- What steps make of a text in a script and of an empty collector. -/
structure Accounts
    (text : Text)
    (transitions : List Transition)
    (last : Machine)
    (script : Script)
    (collector : Collector) : Prop where
  /-- First comes what was accepted, then what was rejected, then what is pending. -/
  text_eq : text.points.map CodePoint.code =
    transitions.flatMap Transition.accepted ++ transitions.flatMap Transition.rejected ++
      script.pending.map CodePoint.code
  /-- An executed instruction for input accepts exactly one code, and stores it. -/
  accepted : ∀ transition ∈ transitions, transition.executes .input = true ->
    ∃ word : Word, ∃ target,
      transition.accepted = [(word.toNat : Int)] ∧
        transition.before.destination 1 = .ok target ∧
        transition.after = transition.before.apply .input (.assign target word)
  /-- At most one code is rejected: a code that is too large, at which the machine has faulted. -/
  rejected : transitions.flatMap Transition.rejected = [] ∨
    ∃ code fault, transitions.flatMap Transition.rejected = [code] ∧ 32767 < code ∧
      last.fault? = some fault ∧ fault.cause.kind = .channelFailure ∧
      last.opcode? = some .input
  /-- The operands of the executed instructions for output are collected. -/
  codes_eq : collector.codes = transitions.flatMap Transition.sent
  /-- They make a text, to which each of these instructions contributes one character. -/
  text_of_codes : ∃ output, collector.text = .ok output ∧
    output.points.length = transitions.countP (Transition.executes .output)
  /-- Nothing but input and output calls a channel, and not if the operand is invalid. -/
  calls : ∀ transition ∈ transitions, transition.calls ≠ [] ->
    (transition.before.opcode? = some .input ∨ transition.before.opcode? = some .output) ∧
      ∀ fault, transition.after.fault? = some fault -> fault.cause.kind ≠ .invalidOperand

/-- A machine that reads a text from a script and writes to a collector accounts for all that it
takes and hands out, in whatever way its steps are asked for. -/
theorem input_output_conserved
    (machine : Machine)
    (text : Text)
    (journal : Journal)
    (calls : List Call)
    (executing : ∀ call ∈ calls, call.Executes) :
    let channels := Desk.channels (some 0) (some 0)
    let desk := Desk.scripted (.ofText text) #[.collector {}]
    let start : System Desk := { machine, world := desk, journal }
    let last := (start.performAll channels calls).2
    let transitions := start.transitions channels calls
    ∃ count script collector,
      transitions = machine.history channels count desk ∧
        (last.machine, last.world) = machine.afterSteps channels count desk ∧
        last.world = .scripted script #[.collector collector] ∧
        Accounts text transitions last.machine script collector := by
  intro channels desk start last transitions
  obtain ⟨count, made, makes⟩ := makes_performAll channels start executing
  have unlimited : ({} : Collector).limit = none := rfl
  obtain ⟨lastMachine, script, collector, state, conserves⟩ :=
    Machine.conserves_history unlimited (.ofText text) count machine
  have happen : ∀ transition ∈ machine.history channels count desk,
      (Event.stepped transition).Happens channels :=
    fun transition isMember => makes.passes.happen _ (List.mem_map_of_mem isMember)
  have lastState : (last.machine, last.world) = (lastMachine, _) := makes.state_eq.trans state
  refine ⟨count, script, collector, made, makes.state_eq, congrArg Prod.snd lastState, ?_⟩
  rw [show transitions = _ from made, show last.machine = _ from congrArg Prod.fst lastState]
  exact {
    text_eq := conserves.pending_eq
    accepted := by
      intro transition isMember executed
      obtain ⟨machine, world, rfl⟩ := happen transition isMember
      exact Machine.accepted_of_executes executed
    rejected := conserves.rejected_cases
    codes_eq := conserves.codes_eq
    text_of_codes := Machine.text_of_sent happen conserves.codes_eq
    calls := by
      intro transition isMember called
      obtain ⟨machine, world, rfl⟩ := happen transition isMember
      exact Machine.opcode_of_calls channels machine world called }

/-- So does the machine that writes one character, when it is asked for a step, for a step with a
report and for a run. -/
theorem input_output_conserved_echo :
    let channels := Desk.channels (some 0) (some 0)
    let text : Text := ⟨[.ofChar 'a', .ofChar 'b']⟩
    let desk := Desk.scripted (.ofText text) #[.collector {}]
    let start : System Desk :=
      { machine := .echo, world := desk, journal := { verbosity := .silent } }
    let calls : List Call := [.step, .reportedStep, .run {} 2]
    let last := (start.performAll channels calls).2
    let transitions := start.transitions channels calls
    (∀ call ∈ calls, call.Executes) ∧ last.machine.status = .halted ∧
      ∃ count script collector,
        transitions = Machine.echo.history channels count desk ∧
          (last.machine, last.world) = Machine.echo.afterSteps channels count desk ∧
          last.world = .scripted script #[.collector collector] ∧
          Accounts text transitions last.machine script collector := by
  have executing : ∀ call ∈ [Call.step, .reportedStep, .run {} 2], call.Executes := by
    simp [Call.Executes]
  exact ⟨executing, by decide +kernel,
    input_output_conserved .echo _ { verbosity := .silent } _ executing⟩

end System
end WordMachine