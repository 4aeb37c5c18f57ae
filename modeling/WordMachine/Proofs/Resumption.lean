import WordMachine.Proofs.Atomicity
import WordMachine.Proofs.Tape

/-!
# Resumption

A step whose read is interrupted is not made, and can be attempted again.  On a tape
with more interruptions a machine needs more attempts, but the steps that return are
the same: `Machine.resumes_taped`.  It does not need many more:
`Machine.attempts_le_taped`.
-/

namespace WordMachine

variable {World : Type}

/-! ## More interruptions -/

/-- Whether a reply is an interruption. -/
def Reply.isInterruption {α : Type} : Reply α -> Bool
  | .interrupted _ => true
  | .done _ | .failed _ => false

/-- Whether a reply disrupts the step that reads it: it is an interruption, or delivers a value out
of which something comes. -/
def Reply.disrupts : Reply Value -> Bool
  | .interrupted _ => true
  | .done value => value.disruption?.isSome
  | .failed _ => false

/-- The second replies are the first ones with interruptions put in. -/
inductive Interspersed {α : Type} : List (Reply α) -> List (Reply α) -> Prop where
  /-- There is nothing left. -/
  | none : Interspersed [] []
  /-- Both begin with the same reply. -/
  | kept (reply : Reply α) {replies others : List (Reply α)}
      (rest : Interspersed replies others) :
      Interspersed (reply :: replies) (reply :: others)
  /-- An interruption is put in. -/
  | put (words : Text) {replies others : List (Reply α)}
      (rest : Interspersed replies others) :
      Interspersed replies (.interrupted words :: others)

namespace Interspersed

theorem append_left
    {α : Type}
    {replies others : List (Reply α)}
    (interspersed : Interspersed replies others)
    (front : List (Reply α)) :
    Interspersed (front ++ replies) (front ++ others) := by
  induction front with
  | nil => exact interspersed
  | cons reply front inductionHypothesis => exact .kept reply inductionHypothesis

/-- Interruptions between lines are interruptions between characters. -/
theorem characters
    {outcomes others : List (Reply Text)}
    (interspersed : Interspersed outcomes others) :
    Interspersed (outcomes.flatMap Reply.characters) (others.flatMap Reply.characters) := by
  induction interspersed with
  | none => exact .none
  | kept outcome _ inductionHypothesis => exact inductionHypothesis.append_left outcome.characters
  | put words _ inductionHypothesis => exact .put words inductionHypothesis

/-- An interruption is not the end. -/
theorem takeWhile_isEnd
    {tape other : List (Reply Value)}
    (interspersed : Interspersed tape other) :
    Interspersed (tape.takeWhile (!·.isEnd)) (other.takeWhile (!·.isEnd)) := by
  induction interspersed with
  | none => exact .none
  | kept reply _ inductionHypothesis =>
      rw [List.takeWhile_cons, List.takeWhile_cons]
      split
      · exact .kept reply inductionHypothesis
      · exact .none
  | put words _ inductionHypothesis => exact .put words inductionHypothesis

end Interspersed

/-- Whether the step is not interrupted. -/
def Transition.returns (transition : Transition) : Bool :=
  transition.interrupted.isNone

/-- Whether an instruction for output is interrupted. -/
def Transition.isInterruptedWrite (transition : Transition) : Bool :=
  !transition.returns && transition.before.opcode? = some .output

namespace Machine

/-! ## Steps that return -/

/-- The transitions of those among so many attempted steps that return. -/
def returned
    (channels : Channels World)
    (attempts : Nat)
    (machine : Machine)
    (world : World) : List Transition :=
  (machine.history channels attempts world).filter Transition.returns

/-- How many writes are interrupted in so many attempts. -/
def interruptedWrites
    (channels : Channels World)
    (attempts : Nat)
    (machine : Machine)
    (world : World) : Nat :=
  (machine.history channels attempts world).countP Transition.isInterruptedWrite

theorem returned_add
    (channels : Channels World)
    (first second : Nat)
    (machine : Machine)
    (world : World) :
    machine.returned channels (first + second) world =
      machine.returned channels first world ++
        (machine.afterSteps channels first world).1.returned channels second
          (machine.afterSteps channels first world).2 := by
  unfold returned
  rw [history_add, List.filter_append]

theorem interruptedWrites_add
    (channels : Channels World)
    (first second : Nat)
    (machine : Machine)
    (world : World) :
    machine.interruptedWrites channels (first + second) world =
      machine.interruptedWrites channels first world +
        (machine.afterSteps channels first world).1.interruptedWrites channels second
          (machine.afterSteps channels first world).2 := by
  unfold interruptedWrites
  rw [history_add, List.countP_append]

/-- A step that does not read can only be interrupted by a write. -/
theorem isInterruptedWrite_of_idle
    {channels : Channels World}
    {machine : Machine}
    {world : World}
    (idle : ∀ target, ¬ machine.Asks target)
    (interrupted : (machine.transition channels world).returns ≠ true) :
    (machine.transition channels world).isInterruptedWrite = true := by
  suffices known : (machine.transition channels world).before.opcode? = some .output by
    simp [Transition.isInterruptedWrite, interrupted, known]
  change (machine.step channels world).interrupted.isNone ≠ true at interrupted
  cases machine.nextStep with
  | stopped stopped =>
      rw [step_stopped stopped] at interrupted
      exact absurd rfl interrupted
  | failing running planned =>
      rw [step_running running, planned] at interrupted
      exact absurd rfl interrupted
  | settling running planned _ =>
      rw [step_running running, planned] at interrupted
      exact absurd rfl interrupted
  | sending _ planned _ => exact (plan_eq_ok_iff.mp planned).1
  | asking asks => exact absurd asks (idle _)

section

variable {View : Type}

/-- If no step returns, the machine stays as it is, and what can be seen of the world stays unless a
write is interrupted. -/
theorem unchanged_of_returned_eq_nil
    {view : World -> View}
    {channels : Channels World}
    (unseen : ∀ world, view (channels.read world).2 = view world)
    {attempts : Nat}
    {machine : Machine}
    {world : World}
    (nothing : machine.returned channels attempts world = []) :
    (machine.afterSteps channels attempts world).1 = machine ∧
      (machine.interruptedWrites channels attempts world = 0 ->
        view (machine.afterSteps channels attempts world).2 = view world) := by
  induction attempts generalizing world with
  | zero => exact ⟨rfl, fun _ => rfl⟩
  | succ attempts inductionHypothesis =>
      obtain ⟨disturbed, later⟩ := List.forall_mem_cons.mp (List.filter_eq_nil_iff.mp nothing)
      have interrupted : (machine.step channels world).interrupted.isSome = true :=
        Option.isSome_iff_ne_none.mpr (mt Option.isNone_iff_eq_none.mpr disturbed)
      have same := (atomic_step channels machine world).unchanged_of_interrupted interrupted
      rw [same] at later
      obtain ⟨sameLater, seenLater⟩ := inductionHypothesis (List.filter_eq_nil_iff.mpr later)
      rw [afterSteps, same]
      refine ⟨sameLater, fun unwritten => ?_⟩
      rw [interruptedWrites, history, List.countP_cons, same] at unwritten
      rcases machine.asks_or_idle with ⟨target, asks⟩ | idle
      · rw [seenLater (Nat.eq_zero_of_add_eq_zero_right unwritten),
          step_of_asks channels world asks, (receive_eq machine target _ _ ()).2.2, unseen]
      · rw [if_pos (isInterruptedWrite_of_idle idle disturbed)] at unwritten
        cases unwritten

/-- The number of steps that return determines them and the machine that is reached, and what can be
seen of the world unless a write is interrupted. -/
theorem returned_determined
    {view : World -> View}
    {channels : Channels World}
    (unseen : ∀ world, view (channels.read world).2 = view world)
    (machine : Machine)
    (world : World)
    {attempts more : Nat}
    (length : (machine.returned channels attempts world).length =
      (machine.returned channels more world).length) :
    machine.returned channels attempts world = machine.returned channels more world ∧
      (machine.afterSteps channels attempts world).1 =
        (machine.afterSteps channels more world).1 ∧
      (machine.interruptedWrites channels attempts world = 0 ->
        machine.interruptedWrites channels more world = 0 ->
        view (machine.afterSteps channels attempts world).2 =
          view (machine.afterSteps channels more world).2) := by
  wlog fewer : attempts ≤ more generalizing attempts more
  · obtain ⟨sameReturned, same, seen⟩ := this length.symm (Nat.le_of_not_le fewer)
    exact ⟨sameReturned.symm, same.symm,
      fun unwritten otherUnwritten => (seen otherUnwritten unwritten).symm⟩
  obtain ⟨extra, rfl⟩ := Nat.exists_eq_add_of_le fewer
  rw [returned_add, List.length_append] at length
  have nothing := List.eq_nil_of_length_eq_zero (Nat.left_eq_add.mp length)
  obtain ⟨same, seen⟩ := unchanged_of_returned_eq_nil unseen nothing
  rw [returned_add, nothing, List.append_nil, afterSteps_add, same]
  refine ⟨rfl, rfl, fun _ unwritten => ?_⟩
  rw [interruptedWrites_add] at unwritten
  exact (seen (Nat.eq_zero_of_add_eq_zero_left unwritten)).symm

end

/-- So many attempts in one world come as far as so many in another. -/
structure EquallyFar {View : Type}
    (view : World -> View)
    (channels : Channels World)
    (machine : Machine)
    (world other : World)
    (attempts more : Nat) : Prop where
  /-- The machine that is reached is the same. -/
  machine_eq : (machine.afterSteps channels attempts world).1 =
    (machine.afterSteps channels more other).1
  /-- What can be seen of the worlds that are reached is the same. -/
  view_eq : view (machine.afterSteps channels attempts world).2 =
    view (machine.afterSteps channels more other).2
  /-- The same steps return. -/
  returned_eq : machine.returned channels attempts world = machine.returned channels more other
  /-- The same number of writes is interrupted. -/
  writes_eq : machine.interruptedWrites channels attempts world =
    machine.interruptedWrites channels more other

/-- What a machine does in one world it also does in another one, where it may need more
attempts. -/
structure Resumes {View : Type}
    (view : World -> View)
    (channels : Channels World)
    (machine : Machine)
    (world other : World) : Prop where
  /-- The machine comes as far in the other world. -/
  reached : ∀ attempts, ∃ more, attempts ≤ more ∧
    EquallyFar view channels machine world other attempts more
  /-- It comes to nothing else there. -/
  only : ∀ more, ∃ attempts, attempts ≤ more ∧
    EquallyFar view channels machine world other attempts more
  /-- The number of steps that return determines them and the machine, and what can be seen of the
  world unless a write is interrupted. -/
  determined : ∀ attempts more,
    (machine.returned channels attempts world).length =
      (machine.returned channels more other).length ->
    machine.returned channels attempts world = machine.returned channels more other ∧
      (machine.afterSteps channels attempts world).1 =
        (machine.afterSteps channels more other).1 ∧
      (machine.interruptedWrites channels attempts world = 0 ->
        machine.interruptedWrites channels more other = 0 ->
        view (machine.afterSteps channels attempts world).2 =
          view (machine.afterSteps channels more other).2)

/-- Machines that make the same step come equally far if they do so afterwards. -/
theorem EquallyFar.cons
    {View : Type}
    {view : World -> View}
    {channels : Channels World}
    {machine after : Machine}
    {world other worldAfter otherAfter : World}
    {attempts more : Nat}
    {transition : Transition}
    (history_eq : machine.history channels (attempts + 1) world =
      transition :: after.history channels attempts worldAfter)
    (state_eq : machine.afterSteps channels (attempts + 1) world =
      after.afterSteps channels attempts worldAfter)
    (otherHistory_eq : machine.history channels (more + 1) other =
      transition :: after.history channels more otherAfter)
    (otherState_eq : machine.afterSteps channels (more + 1) other =
      after.afterSteps channels more otherAfter)
    (equallyFar : EquallyFar view channels after worldAfter otherAfter attempts more) :
    EquallyFar view channels machine world other (attempts + 1) (more + 1) where
  machine_eq := by rw [state_eq, otherState_eq, equallyFar.machine_eq]
  view_eq := by rw [state_eq, otherState_eq, equallyFar.view_eq]
  returned_eq := by
    have later := equallyFar.returned_eq
    unfold returned at later ⊢
    rw [history_eq, otherHistory_eq, List.filter_cons, List.filter_cons, later]
  writes_eq := by
    have later := equallyFar.writes_eq
    unfold interruptedWrites at later ⊢
    rw [history_eq, otherHistory_eq, List.countP_cons, List.countP_cons, later]

/-! ## Tapes with interruptions -/

section

variable
  (channels : Channels World)
  (ending : Failure)
  {machine : Machine}
  {world : World}

/-- A machine that does not read makes the same step on both tapes. -/
theorem EquallyFar.of_idle
    {tape other : List (Reply Value)}
    {attempts more : Nat}
    (idle : ∀ target, ¬ machine.Asks target)
    (equallyFar : EquallyFar Prod.snd (channels.taped ending) (machine.step channels world).machine
      (tape, (machine.step channels world).world) (other, (machine.step channels world).world)
      attempts more) :
    EquallyFar Prod.snd (channels.taped ending) machine (tape, world) (other, world)
      (attempts + 1) (more + 1) := by
  obtain ⟨history, state⟩ := taped_of_idle channels ending tape world attempts idle
  obtain ⟨otherHistory, otherState⟩ := taped_of_idle channels ending other world more idle
  exact .cons history state otherHistory otherState equallyFar

/-- A machine that reads the same reply makes the same step. -/
theorem EquallyFar.of_asks
    {tape other : List (Reply Value)}
    {attempts more : Nat}
    {target : Operand}
    (asks : machine.Asks target)
    (same : tape.headD (.failed ending) = other.headD (.failed ending))
    (equallyFar : EquallyFar Prod.snd (channels.taped ending)
      (machine.receive target (tape.headD (.failed ending)) ()).machine
      (tape.tail, world) (other.tail, world) attempts more) :
    EquallyFar Prod.snd (channels.taped ending) machine (tape, world) (other, world)
      (attempts + 1) (more + 1) := by
  obtain ⟨history, state⟩ := taped_of_asks channels ending tape world attempts asks
  obtain ⟨otherHistory, otherState⟩ := taped_of_asks channels ending other world more asks
  rw [← same] at otherHistory otherState
  exact .cons history state otherHistory otherState equallyFar

/-- A machine whose read is interrupted has to attempt it again. -/
theorem EquallyFar.of_interrupted
    {tape other : List (Reply Value)}
    {attempts more : Nat}
    {target : Operand}
    (asks : machine.Asks target)
    (words : Text)
    (equallyFar : EquallyFar Prod.snd (channels.taped ending) machine (tape, world) (other, world)
      attempts more) :
    EquallyFar Prod.snd (channels.taped ending) machine (tape, world)
      (.interrupted words :: other, world) attempts (more + 1) := by
  obtain ⟨history, state⟩ :=
    taped_of_asks channels ending (.interrupted words :: other) world more asks
  exact {
    machine_eq := equallyFar.machine_eq.trans (congrArg Prod.fst state).symm
    view_eq := equallyFar.view_eq.trans (congrArg (fun state => state.2.2) state).symm
    returned_eq := by
      have later := equallyFar.returned_eq
      unfold returned at later ⊢
      rw [later, history]
      rfl
    writes_eq := by
      have later := equallyFar.writes_eq
      have known : (machine.reading target (.interrupted words)).before.opcode? = some .input :=
        (plan_eq_ok_iff.mp asks.2).1
      have read : ¬ (machine.reading target (.interrupted words)).isInterruptedWrite = true := by
        simp [Transition.isInterruptedWrite, known]
      unfold interruptedWrites at later ⊢
      rw [later, history]
      exact (List.countP_cons_of_neg read).symm }

/-! ## Both ways -/

variable
  {tape other : List (Reply Value)}
  (interspersed : Interspersed tape other)

include interspersed

/-- A machine comes as far on a tape with more interruptions. -/
theorem exists_more_taped
    (machine : Machine)
    (world : World)
    (attempts : Nat) :
    ∃ more, attempts ≤ more ∧
      EquallyFar Prod.snd (channels.taped ending) machine (tape, world) (other, world)
        attempts more := by
  induction attempts generalizing machine world tape other with
  | zero => exact ⟨0, Nat.le_refl 0, rfl, rfl, rfl, rfl⟩
  | succ attempts inductionHypothesis =>
      rcases machine.asks_or_idle with ⟨target, asks⟩ | idle
      · -- Before the reply of the shorter tape there may be any number of interruptions.
        induction interspersed with
        | none =>
            obtain ⟨more, atLeast, equallyFar⟩ := inductionHypothesis .none
              (machine.receive target (.failed ending) ()).machine world
            exact ⟨more + 1, Nat.succ_le_succ atLeast,
              .of_asks channels ending asks rfl equallyFar⟩
        | kept reply rest _ =>
            obtain ⟨more, atLeast, equallyFar⟩ := inductionHypothesis rest
              (machine.receive target reply ()).machine world
            exact ⟨more + 1, Nat.succ_le_succ atLeast,
              .of_asks channels ending asks rfl equallyFar⟩
        | put words _ restHypothesis =>
            obtain ⟨more, atLeast, equallyFar⟩ := restHypothesis
            exact ⟨more + 1, Nat.le_succ_of_le atLeast,
              .of_interrupted channels ending asks words equallyFar⟩
      · obtain ⟨more, atLeast, equallyFar⟩ := inductionHypothesis interspersed
          (machine.step channels world).machine (machine.step channels world).world
        exact ⟨more + 1, Nat.succ_le_succ atLeast, .of_idle channels ending idle equallyFar⟩

/-- On a tape with more interruptions a machine comes to nothing else. -/
theorem exists_fewer_taped
    (machine : Machine)
    (world : World)
    (more : Nat) :
    ∃ attempts, attempts ≤ more ∧
      EquallyFar Prod.snd (channels.taped ending) machine (tape, world) (other, world)
        attempts more := by
  induction more generalizing machine world tape other with
  | zero => exact ⟨0, Nat.le_refl 0, rfl, rfl, rfl, rfl⟩
  | succ more inductionHypothesis =>
      rcases machine.asks_or_idle with ⟨target, asks⟩ | idle
      · cases interspersed with
        | none =>
            obtain ⟨attempts, atMost, equallyFar⟩ := inductionHypothesis .none
              (machine.receive target (.failed ending) ()).machine world
            exact ⟨attempts + 1, Nat.succ_le_succ atMost,
              .of_asks channels ending asks rfl equallyFar⟩
        | kept reply rest =>
            obtain ⟨attempts, atMost, equallyFar⟩ := inductionHypothesis rest
              (machine.receive target reply ()).machine world
            exact ⟨attempts + 1, Nat.succ_le_succ atMost,
              .of_asks channels ending asks rfl equallyFar⟩
        | put words rest =>
            obtain ⟨attempts, atMost, equallyFar⟩ := inductionHypothesis rest machine world
            exact ⟨attempts, Nat.le_succ_of_le atMost,
              .of_interrupted channels ending asks words equallyFar⟩
      · obtain ⟨attempts, atMost, equallyFar⟩ := inductionHypothesis interspersed
          (machine.step channels world).machine (machine.step channels world).world
        exact ⟨attempts + 1, Nat.succ_le_succ atMost, .of_idle channels ending idle equallyFar⟩

/-- A machine resumes on a tape with more interruptions. -/
theorem resumes_taped
    (machine : Machine)
    (world : World) :
    Resumes Prod.snd (channels.taped ending) machine (tape, world) (other, world) where
  reached := exists_more_taped channels ending interspersed machine world
  only := exists_fewer_taped channels ending interspersed machine world
  determined := by
    intro attempts more length
    obtain ⟨fewer, _, equallyFar⟩ :=
      exists_fewer_taped channels ending interspersed machine world more
    rw [← equallyFar.returned_eq] at length ⊢
    rw [← equallyFar.machine_eq, ← equallyFar.view_eq, ← equallyFar.writes_eq]
    have unseen : ∀ taped : List (Reply Value) × World,
        ((channels.taped ending).read taped).2.2 = taped.2 :=
      fun _ => rfl
    exact returned_determined unseen machine (tape, world) length

end

/-! ## Attempts that are lost -/

/-- A step that reads returns unless the reply disrupts it. -/
theorem returns_reading
    (machine : Machine)
    (target : Operand)
    (reply : Reply Value) :
    (machine.reading target reply).returns = !reply.disrupts := by
  unfold Transition.returns reading receive Reply.disrupts
  cases reply with
  | done value =>
      dsimp only
      rcases received : receivedWord value with (cause | disruption) | word
      · rw [disruption?_of_fault received]
        rfl
      · rw [receivedWord_eq_disruption_iff.mp received]
        rfl
      · rw [disruption?_of_ok received]
        rfl
  | failed failure => rfl
  | interrupted words => rfl

/-- No more attempts are lost than there are replies on the tape that disrupt a step, and writes
that are interrupted. -/
theorem attempts_le_taped
    (channels : Channels World)
    (ending : Failure)
    (attempts : Nat)
    (machine : Machine)
    (tape : List (Reply Value))
    (world : World) :
    attempts ≤ (machine.returned (channels.taped ending) attempts (tape, world)).length +
      tape.countP Reply.disrupts +
      machine.interruptedWrites (channels.taped ending) attempts (tape, world) := by
  unfold returned interruptedWrites
  rw [← List.countP_eq_length_filter]
  induction attempts generalizing machine tape world with
  | zero => exact Nat.zero_le _
  | succ attempts inductionHypothesis =>
      rcases machine.asks_or_idle with ⟨target, asks⟩ | idle
      · have later := inductionHypothesis
          (machine.receive target (tape.headD (.failed ending)) ()).machine tape.tail world
        -- A step that asks uses up one reply: it returns, or the reply was one that disrupts.
        have disruptions : tape.countP Reply.disrupts =
            tape.tail.countP Reply.disrupts +
              if (tape.headD (.failed ending)).disrupts then 1 else 0 := by
          cases tape with
          | nil => rfl
          | cons reply replies => exact List.countP_cons
        rw [(taped_of_asks channels ending tape world attempts asks).1, List.countP_cons,
          List.countP_cons, returns_reading, disruptions]
        generalize tape.headD (.failed ending) = reply at later ⊢
        cases reply.disrupts with
        | true =>
            rw [if_pos rfl]
            omega
        | false =>
            rw [Bool.not_false, if_pos rfl]
            omega
      · have later := inductionHypothesis (machine.step channels world).machine tape
          (machine.step channels world).world
        rw [(taped_of_idle channels ending tape world attempts idle).1, List.countP_cons,
          List.countP_cons]
        by_cases returns : (machine.transition channels world).returns = true
        · rw [if_pos returns]
          omega
        · rw [if_pos (isInterruptedWrite_of_idle idle returns)]
          omega

/-- If enough steps return, then there is a time when so many have returned. -/
theorem exists_attempts
    {channels : Channels World}
    {attempts count : Nat}
    {machine : Machine}
    {world : World}
    (enough : count ≤ (machine.returned channels attempts world).length) :
    ∃ fewer, fewer ≤ attempts ∧ (machine.returned channels fewer world).length = count := by
  induction attempts with
  | zero => exact ⟨0, Nat.le_refl 0, (Nat.le_zero.mp enough).symm⟩
  | succ attempts inductionHypothesis =>
      by_cases earlier : count ≤ (machine.returned channels attempts world).length
      · obtain ⟨fewer, atMost, same⟩ := inductionHypothesis earlier
        exact ⟨fewer, Nat.le_succ_of_le atMost, same⟩
      · refine ⟨attempts + 1, Nat.le_refl _, ?_⟩
        have last : ((machine.afterSteps channels attempts world).1.returned channels 1
            (machine.afterSteps channels attempts world).2).length ≤ 1 :=
          List.length_filter_le _ _
        rw [returned_add, List.length_append] at enough ⊢
        omega

end Machine
end WordMachine
