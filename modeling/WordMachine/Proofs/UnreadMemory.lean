import Mathlib.Data.Set.Basic
import WordMachine.Proofs.MemoryWrites

/-!
# Memory that is not looked at

A step looks at the words of its own instruction, and at one more cell if the instruction
reads from memory.  Whatever the other cells hold makes no difference to the step.  So two
machines that differ in some cells only go the same way for as long as none of these cells
is looked at before it is overwritten: `Machine.unread_unnoticed`.
-/

namespace WordMachine

variable {World α β : Type}

/-! ## Looking and overwriting -/

/-- How many words the instruction at the program counter has.  A word that is no opcode stands
for itself. -/
def Machine.instructionWidth (machine : Machine) : Nat :=
  match machine.opcode? with
  | some opcode => opcode.width
  | none => 1

namespace Transition

/-- The step fetches the word in a cell as a part of its instruction. -/
def Fetches
    (transition : Transition)
    (address : Address) : Prop :=
  ∃ distance < transition.before.instructionWidth,
    address = transition.before.pc.advance distance

/-- The instruction of the step is one that reads the cell from memory. -/
def ReadsCell
    (transition : Transition)
    (address : Address) : Prop :=
  transition.before.opcode? = some .readMemory ∧
    transition.before.resolve (transition.before.operandNumber 2) = .ok (address.val : Int)

/-- The machine runs, and the step looks at the cell. -/
def LooksAt
    (transition : Transition)
    (address : Address) : Prop :=
  transition.before.condition = .running ∧
    (transition.Fetches address ∨ transition.ReadsCell address)

/-- The step writes a word to the cell. -/
def Overwrites
    (transition : Transition)
    (address : Address) : Prop :=
  (enteredAt address transition.write?).isSome

instance (transition : Transition) (address : Address) : Decidable (transition.LooksAt address) :=
  inferInstanceAs (Decidable (_ ∧ ((∃ distance < _, _) ∨ (_ ∧ _))))

instance (transition : Transition) (address : Address) :
    Decidable (transition.Overwrites address) :=
  inferInstanceAs (Decidable (_ = true))

/-- The other step is the same, but for what the memories hold. -/
structure Mirrors (transition other : Transition) : Prop where
  /-- All but the memory is the same before the step. -/
  before_eq : other.before = { transition.before with memory := other.before.memory }
  /-- The same calls of channels are made, with the same replies. -/
  calls_eq : other.calls = transition.calls
  /-- The output channel tells the same. -/
  told_eq : other.told = transition.told
  /-- All but the memory is the same after the step. -/
  after_eq : other.after = { transition.after with memory := other.after.memory }
  /-- Both steps are interrupted by the same, or none is. -/
  interrupted_eq : other.interrupted = transition.interrupted

/-- None of the steps looks at a hidden cell, unless one of the steps before it has overwritten the
cell. -/
def Overlook
    (hidden : Set Address)
    (transitions : List Transition) : Prop :=
  ∀ index (bound : index < transitions.length), ∀ address ∈ hidden,
    transitions[index].LooksAt address ->
      ∃ earlier ∈ transitions.take index, earlier.Overwrites address

/-- What is overwritten by the first step is not hidden from the others. -/
theorem Overlook.of_cons
    {hidden : Set Address}
    {transition : Transition}
    {transitions : List Transition}
    (overlook : Overlook hidden (transition :: transitions)) :
    (∀ address ∈ hidden, ¬ transition.LooksAt address) ∧
      Overlook {address ∈ hidden | ¬ transition.Overwrites address} transitions := by
  constructor
  · intro address isHidden looks
    obtain ⟨earlier, impossible, _⟩ :=
      overlook 0 (Nat.zero_lt_succ transitions.length) address isHidden looks
    cases impossible
  · rintro index bound address ⟨isHidden, kept⟩ looks
    obtain ⟨earlier, member, overwrites⟩ :=
      overlook (index + 1) (Nat.succ_lt_succ bound) address isHidden looks
    rw [List.take_succ_cons] at member
    rcases List.mem_cons.mp member with rfl | later
    · exact absurd overwrites kept
    · exact ⟨earlier, later, overwrites⟩

end Transition

namespace Machine

/-! ## Plans -/

theorem bind_congr_of_ok
    {check : Except Cause α}
    {first second : α -> Except Cause β}
    (same : ∀ value, check = .ok value -> first value = second value) :
    check >>= first = check >>= second := by
  cases check with
  | ok value => exact same value rfl
  | error cause => rfl

/-- A plan depends on the operand words and, if it is for reading from memory, on the cell that is
to be read, but on no other cell. -/
theorem planOpcode_withMemory
    (machine : Machine)
    (memory : Memory)
    (opcode : Opcode)
    (sameWords : ∀ distance, 1 ≤ distance -> distance ≤ opcode.operandCount ->
      { machine with memory }.operandWord distance = machine.operandWord distance)
    (sameCell : opcode = .readMemory -> ∀ address : Address,
      machine.resolve (machine.operandNumber 2) = .ok (address.val : Int) ->
      memory.get address = machine.memory.get address) :
    { machine with memory }.planOpcode opcode = machine.planOpcode opcode := by
  have source (distance : Nat) (low : 1 ≤ distance) (high : distance ≤ opcode.operandCount) :
      { machine with memory }.source distance = machine.source distance := by
    unfold Machine.source
    rw [sameWords distance low high]
    rfl
  have destination (distance : Nat) (low : 1 ≤ distance)
      (high : distance ≤ opcode.operandCount) :
      { machine with memory }.destination distance = machine.destination distance := by
    unfold Machine.destination
    rw [sameWords distance low high]
  cases opcode with
  | halt | noop | ret => rfl
  | push | jump | call | output =>
      have first := source 1 (by decide) (by decide)
      simp only [planOpcode, first]
  | input =>
      have target := destination 1 (by decide) (by decide)
      simp only [planOpcode, target]
  | pop =>
      have target := destination 1 (by decide) (by decide)
      simp only [planOpcode, target]
  | set | bitNot =>
      have second := source 2 (by decide) (by decide)
      have target := destination 1 (by decide) (by decide)
      simp only [planOpcode, second, target]
  | jumpIf | jumpUnless | writeMemory =>
      have first := source 1 (by decide) (by decide)
      have second := source 2 (by decide) (by decide)
      simp only [planOpcode, planBranch, first, second]
  | equal | greater | add | multiply | bitAnd | bitOr | modulo =>
      have second := source 2 (by decide) (by decide)
      have third := source 3 (by decide) (by decide)
      have target := destination 1 (by decide) (by decide)
      simp only [planOpcode, planBinary, second, third, target]
  | readMemory =>
      have second := source 2 (by decide) (by decide)
      have target := destination 1 (by decide) (by decide)
      simp only [planOpcode, second, target]
      refine bind_congr_of_ok fun word sourced => bind_congr_of_ok fun place found => ?_
      have evaluates := (source_eq_ok_iff word).mp sourced
      have located := (located_eq_ok_iff .read word place).mp found
      rw [sameCell rfl place (located ▸ evaluates.2)]

/-! ## Steps -/

/-- The machines differ in the hidden cells at most. -/
structure AgreesExcept
    (hidden : Set Address)
    (machine other : Machine) : Prop where
  /-- All but the memory is the same. -/
  others_eq : other = { machine with memory := other.memory }
  /-- The cells that are not hidden hold the same. -/
  memory_eq : ∀ address, address ∉ hidden ->
    other.memory.get address = machine.memory.get address

section

variable
  {machine : Machine}
  {hidden : Set Address}
  {channels : Channels World}
  {world : World}

/-- Machines that agree where the step looks make the same plan. -/
theorem AgreesExcept.plan_eq
    {other : Machine}
    (agree : AgreesExcept hidden machine other)
    (running : machine.condition = .running)
    (unseen : ∀ address ∈ hidden, ¬ (machine.transition channels world).LooksAt address) :
    other.plan = machine.plan := by
  obtain ⟨others_eq, memory_eq⟩ := agree
  generalize other.memory = memory at others_eq memory_eq
  subst others_eq
  have fetched (distance : Nat) (inside : distance < machine.instructionWidth) :
      memory.get (machine.pc.advance distance) =
        machine.memory.get (machine.pc.advance distance) :=
    memory_eq _ fun isHidden => unseen _ isHidden ⟨running, Or.inl ⟨distance, inside, rfl⟩⟩
  have atStart : machine.pc.advance 0 = machine.pc :=
    Fin.ext (Nat.mod_eq_of_lt machine.pc.isLt)
  have someWidth : 0 < machine.instructionWidth := by
    unfold instructionWidth
    cases machine.opcode? with
    | none => decide
    | some opcode => exact Nat.lt_of_lt_of_le Nat.zero_lt_one (Nat.le_add_right 1 _)
  have first := fetched 0 someWidth
  rw [atStart] at first
  have sameOpcode : { machine with memory }.opcode? = machine.opcode? := by
    unfold opcode?
    rw [first]
  unfold plan
  rw [sameOpcode]
  cases known : machine.opcode? with
  | none =>
      dsimp only
      rw [first]
  | some opcode =>
      have width_eq : machine.instructionWidth = 1 + opcode.operandCount := by
        rw [instructionWidth, known]
        rfl
      have samePlan := planOpcode_withMemory machine memory opcode
        (fun distance _ high => fetched distance (by omega))
        (fun reads address resolved => memory_eq address fun isHidden =>
          unseen address isHidden ⟨running, Or.inr ⟨reads ▸ known, resolved⟩⟩)
      dsimp only
      rw [samePlan]

/-! ## Effects -/

theorem apply_withMemory
    (machine : Machine)
    (memory : Memory)
    (opcode : Opcode)
    (effect : Effect) :
    { machine with memory }.apply opcode effect =
      { machine.apply opcode effect with memory := effect.overwrite memory } := by
  cases effect with
  | assign target word => cases target <;> rfl
  | pop target top => cases target <;> rfl
  | _ => rfl

/-- An effect writes the same to either memory. -/
theorem get_overwrite_congr
    {memory other : Memory}
    {effect : Effect}
    {address : Address}
    (same : other.get address = memory.get address ∨ (enteredAt address effect.write?).isSome) :
    (effect.overwrite other).get address = (effect.overwrite memory).get address := by
  have left := effect.get_overwrite other address
  have right := effect.get_overwrite memory address
  rw [← UInt16.toNat_inj, ← Int.ofNat_inj, left, right]
  rcases same with same | written
  · rw [same]
  · obtain ⟨number, entered⟩ := Option.isSome_iff_exists.mp written
    rw [entered]
    rfl

/-- What a write leaves of the hidden cells. -/
def leftOver
    (hidden : Set Address)
    (write : Option (Int × Int)) : Set Address :=
  {address ∈ hidden | ¬ (enteredAt address write).isSome}

section

variable
  {other : Machine}
  (agree : AgreesExcept hidden machine other)

include agree

/-- After an effect, memories agree outside the hidden cells that it has not overwritten. -/
theorem AgreesExcept.apply
    (opcode : Opcode)
    (effect : Effect) :
    AgreesExcept (leftOver hidden effect.write?) (machine.apply opcode effect)
      (other.apply opcode effect) := by
  obtain ⟨others_eq, memory_eq⟩ := agree
  generalize other.memory = memory at others_eq memory_eq
  subst others_eq
  refine ⟨?_, fun address seen => ?_⟩
  · rw [apply_withMemory]
  · rw [apply_withMemory, memory_apply]
    refine get_overwrite_congr ?_
    by_cases written : (enteredAt address effect.write?).isSome
    · exact Or.inr written
    · exact Or.inl (memory_eq address fun isHidden => seen ⟨isHidden, written⟩)

theorem AgreesExcept.leftOver_none : AgreesExcept (leftOver hidden none) machine other where
  others_eq := agree.others_eq
  memory_eq := fun address seen => agree.memory_eq address fun isHidden =>
    seen ⟨isHidden, Bool.false_ne_true⟩

theorem AgreesExcept.fail (cause : Cause) :
    AgreesExcept hidden (machine.fail cause) (other.fail cause) := by
  obtain ⟨others_eq, memory_eq⟩ := agree
  generalize other.memory = memory at others_eq memory_eq
  subst others_eq
  exact ⟨rfl, memory_eq⟩

end

/-- The outcomes are the same but for the hidden cells. -/
structure Outcome.AgreesExcept
    (hidden : Set Address)
    (outcome other : Outcome World) : Prop where
  /-- The machines differ in the hidden cells at most. -/
  machine : Machine.AgreesExcept hidden outcome.machine other.machine
  /-- The worlds are the same. -/
  world_eq : other.world = outcome.world
  /-- The same is told. -/
  notices_eq : other.notices = outcome.notices
  /-- Both steps are interrupted by the same, or none is. -/
  interrupted_eq : other.interrupted = outcome.interrupted

section

variable
  {other : Machine}
  (agree : AgreesExcept hidden machine other)

include agree

theorem AgreesExcept.faultOutcome
    (cause : Cause)
    (world : World)
    (notices : List Notice) :
    Outcome.AgreesExcept hidden (machine.faultOutcome cause world notices)
      (other.faultOutcome cause world notices) := by
  have pc_eq : other.pc = machine.pc := by
    rw [agree.others_eq]
  refine ⟨agree.fail cause, rfl, ?_, rfl⟩
  unfold Machine.faultOutcome
  rw [pc_eq]

/-- What an instruction asks for is carried out with the same result. -/
theorem AgreesExcept.carryOut
    (channels : Channels World)
    (world : World)
    (opcode : Opcode)
    (action : Action) :
    Outcome.AgreesExcept (leftOver hidden action.write?)
      (machine.carryOut channels world opcode action)
      (other.carryOut channels world opcode action) := by
  cases action with
  | settle effect => exact ⟨agree.apply opcode effect, rfl, rfl, rfl⟩
  | send code =>
      unfold Machine.carryOut
      dsimp only
      rcases channels.write code.toNat world with ⟨⟨reply, notices⟩, after⟩
      cases reply with
      | done value => exact ⟨agree.apply opcode .proceed, rfl, rfl, rfl⟩
      | failed failure => exact agree.leftOver_none.faultOutcome _ after notices
      | interrupted words => exact ⟨agree.leftOver_none, rfl, rfl, rfl⟩
  | receive target =>
      unfold Machine.carryOut
      dsimp only
      rcases channels.read world with ⟨reply, after⟩
      cases reply with
      | done value =>
          dsimp only
          rcases receivedWord value with (cause | disruption) | word
          · exact agree.leftOver_none.faultOutcome cause after []
          · exact ⟨agree.leftOver_none, rfl, rfl, rfl⟩
          · exact ⟨agree.apply opcode (.assign target word), rfl, rfl, rfl⟩
      | failed failure => exact agree.leftOver_none.faultOutcome _ after []
      | interrupted words => exact ⟨agree.leftOver_none, rfl, rfl, rfl⟩

/-- Machines that agree where the step looks make the same step, and agree after it also where it
has written. -/
theorem AgreesExcept.step
    (unseen : ∀ address ∈ hidden, ¬ (machine.transition channels world).LooksAt address) :
    Outcome.AgreesExcept (leftOver hidden (machine.transition channels world).write?)
        (machine.step channels world) (other.step channels world) ∧
      other.channelCalls channels world = machine.channelCalls channels world ∧
      other.told channels world = machine.told channels world := by
  have sameCondition : other.condition = machine.condition := by
    rw [agree.others_eq]
  by_cases running : machine.condition = .running
  · have otherRunning := sameCondition.trans running
    -- The plan looks at memory only where the machines agree; from here on they do the same.
    have samePlan := agree.plan_eq running unseen
    cases planned : machine.plan with
    | error cause =>
        have otherPlanned := samePlan.trans planned
        have incomplete : (machine.transition channels world).completes = false :=
          completes_of_error running planned
        rw [write?_of_incomplete incomplete, step_running running, step_running otherRunning,
          planned, otherPlanned, channelCalls_of_error channels world running planned,
          channelCalls_of_error channels world otherRunning otherPlanned,
          told_of_error planned, told_of_error otherPlanned]
        exact ⟨agree.leftOver_none.faultOutcome cause world [], rfl, rfl⟩
    | ok instruction =>
        obtain ⟨opcode, action⟩ := instruction
        have otherPlanned := samePlan.trans planned
        rw [write?_of_plan channels machine world running planned, step_running running,
          step_running otherRunning, planned, otherPlanned,
          channelCalls_of_ok channels world running planned,
          channelCalls_of_ok channels world otherRunning otherPlanned,
          told_of_ok running planned, told_of_ok otherRunning otherPlanned]
        exact ⟨agree.carryOut channels world opcode action, rfl, rfl⟩
  · have otherStopped : other.condition ≠ .running := sameCondition.trans_ne running
    have incomplete : (machine.transition channels world).completes = false :=
      Transition.completes_of_stopped running
    rw [write?_of_incomplete incomplete, step_stopped running, step_stopped otherStopped,
      channelCalls_of_stopped channels world running,
      channelCalls_of_stopped channels world otherStopped,
      told_of_stopped running, told_of_stopped otherStopped]
    exact ⟨⟨agree.leftOver_none, rfl, rfl, rfl⟩, rfl, rfl⟩

end

end

/-! ## Runs -/

/-- Machines that agree outside a set of cells agree outside a larger one. -/
theorem AgreesExcept.mono
    {machine other : Machine}
    {hidden larger : Set Address}
    (agree : AgreesExcept hidden machine other)
    (included : hidden ⊆ larger) : AgreesExcept larger machine other where
  others_eq := agree.others_eq
  memory_eq := fun address seen => agree.memory_eq address fun isHidden =>
    seen (included isHidden)

/-- Two machines that differ in hidden cells only, none of which is looked at before it is
overwritten, make the same steps, and differ in the end in those of the cells only that were never
overwritten. -/
theorem unread_unnoticed
    (channels : Channels World)
    (steps : Nat)
    (machine other : Machine)
    (world : World)
    (hidden : Set Address)
    (agree : AgreesExcept hidden machine other)
    (overlook : Transition.Overlook hidden (machine.history channels steps world)) :
    List.Forall₂ Transition.Mirrors (machine.history channels steps world)
        (other.history channels steps world) ∧
      (other.afterSteps channels steps world).2 = (machine.afterSteps channels steps world).2 ∧
      AgreesExcept
        {address ∈ hidden | ∀ transition ∈ machine.history channels steps world,
          ¬ transition.Overwrites address}
        (machine.afterSteps channels steps world).1
        (other.afterSteps channels steps world).1 := by
  induction steps generalizing machine other world hidden with
  | zero =>
      refine ⟨.nil, rfl, agree.mono fun address isHidden => ⟨isHidden, ?_⟩⟩
      exact fun transition impossible => nomatch impossible
  | succ steps inductionHypothesis =>
      obtain ⟨unseen, later⟩ := Transition.Overlook.of_cons overlook
      obtain ⟨outcomes, calls, told⟩ := agree.step unseen
      have mirrors : (machine.transition channels world).Mirrors
          (other.transition channels world) :=
        ⟨agree.others_eq, calls, told, outcomes.machine.others_eq, outcomes.interrupted_eq⟩
      obtain ⟨transitions, worlds, last⟩ := inductionHypothesis
        (machine.step channels world).machine (other.step channels world).machine
        (machine.step channels world).world _ outcomes.machine later
      rw [history, history, afterSteps, afterSteps, outcomes.world_eq]
      refine ⟨.cons mirrors transitions, worlds, last.mono ?_⟩
      rintro address ⟨⟨isHidden, kept⟩, keptLater⟩
      exact ⟨isHidden, List.forall_mem_cons.mpr ⟨kept, keptLater⟩⟩

/-- A program that writes a number to the cell with address 20, reads it from there into a
register, and halts. -/
def writeAndRead : Machine :=
  let place := fresh.pc.advance
  { fresh with
    memory :=
      (((((Memory.empty.set (place 0) 16).set (place 1) 20).set (place 2) 5).set
        (place 3) 15).set (place 4) 32768).set (place 5) 20 }

/-- The same program, with other words where it does not look before it writes. -/
def writeAndReadOther : Machine :=
  let place := fresh.pc.advance
  { writeAndRead with memory := (writeAndRead.memory.set (place 20) 7).set (place 21) 9 }

/-- The cells in which the two differ. -/
def twoCells : Set Address :=
  {fresh.pc.advance 20, fresh.pc.advance 21}

theorem agreesExcept_twoCells : AgreesExcept twoCells writeAndRead writeAndReadOther where
  others_eq := rfl
  memory_eq := by
    intro address outside
    have notFirst : address ≠ fresh.pc.advance 20 := fun same => outside (Or.inl same)
    have notSecond : address ≠ fresh.pc.advance 21 := fun same => outside (Or.inr same)
    simp [writeAndReadOther, Memory.get_set, notFirst, notSecond]

theorem overlook_twoCells :
    Transition.Overlook twoCells (writeAndRead.history Channels.vacant 3 ()) := by
  have first : ∀ index (bound : index < (writeAndRead.history Channels.vacant 3 ()).length),
      (writeAndRead.history Channels.vacant 3 ())[index].LooksAt
          (fresh.pc.advance 20) ->
        ∃ earlier ∈ (writeAndRead.history Channels.vacant 3 ()).take index,
          earlier.Overwrites (fresh.pc.advance 20) := by
    decide +kernel
  have second : ∀ index (bound : index < (writeAndRead.history Channels.vacant 3 ()).length),
      ¬ (writeAndRead.history Channels.vacant 3 ())[index].LooksAt (fresh.pc.advance 21) := by
    decide +kernel
  intro index bound address isHidden looks
  rcases isHidden with rfl | rfl
  · exact first index bound looks
  · exact absurd looks (second index bound)

/-- The number that is read is the one that was written, whatever was there before. -/
theorem unread_unnoticed_twoCells :
    AgreesExcept twoCells writeAndRead writeAndReadOther ∧
      Transition.Overlook twoCells (writeAndRead.history Channels.vacant 3 ()) ∧
      List.Forall₂ Transition.Mirrors (writeAndRead.history Channels.vacant 3 ())
        (writeAndReadOther.history Channels.vacant 3 ()) ∧
      (writeAndReadOther.afterSteps Channels.vacant 3 ()).2 =
        (writeAndRead.afterSteps Channels.vacant 3 ()).2 ∧
      AgreesExcept
        {address ∈ twoCells | ∀ transition ∈ writeAndRead.history Channels.vacant 3 (),
          ¬ transition.Overwrites address}
        (writeAndRead.afterSteps Channels.vacant 3 ()).1
        (writeAndReadOther.afterSteps Channels.vacant 3 ()).1 :=
  ⟨agreesExcept_twoCells, overlook_twoCells,
    unread_unnoticed Channels.vacant 3 writeAndRead writeAndReadOther () twoCells
      agreesExcept_twoCells overlook_twoCells⟩

end Machine
end WordMachine
