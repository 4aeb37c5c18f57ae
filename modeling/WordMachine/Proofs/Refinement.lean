import WordMachine.Proofs.ChannelCalls
import WordMachine.Proofs.Operands
import WordMachine.Proofs.Reference
import WordMachine.Proofs.Word

/-!
# Successful steps follow the reference semantics

`Machine.view` is the machine in terms of natural numbers.  What a successful plan
asks for is what the instruction table says about the view, and so the view of the
machine after a step that neither faults nor is interrupted is the reference
semantics of the view before it.
-/

namespace WordMachine

variable {World : Type}

namespace Machine

/-- The machine in terms of natural numbers. -/
def view (machine : Machine) : Reference.State where
  memory := fun address =>
    if inRange : address < 32768 then (machine.memory.get ⟨address, inRange⟩).toNat else 0
  registers := fun index =>
    if inRange : index < 8 then (getElem machine.registers index inRange).toNat else 0
  stack := machine.stack.map UInt16.toNat
  pc := machine.pc.val
  status := machine.status
  executed := machine.executed

/-! ## Reading -/

/-- A word that passes the address check denotes the same address on both sides. -/
theorem yields_view_located
    (access : Access)
    (word : Word) :
    Yields (fun address => word.toNat = address.val) (located access word) :=
  fun address found => (located_eq_ok_iff access word address).mp found

section

variable (machine : Machine)

theorem view_memory_val (address : Address) :
    machine.view.memory address.val = (machine.memory.get address).toNat :=
  dif_pos address.isLt

theorem view_registers_val (index : RegisterIndex) :
    machine.view.registers index.val = (machine.valueOf (.register index)).toNat :=
  dif_pos index.isLt

/-- The view reads the operand words that the machine reads, wrapped round the end of memory
alike. -/
theorem view_operand (distance : Nat) :
    machine.view.operand distance = machine.operandNumber distance :=
  machine.view_memory_val (machine.pc.advance distance)

/-- A source operand evaluates to the value that the view assigns it. -/
theorem yields_view_value (distance : Nat) :
    Yields (fun word => machine.view.value distance = word.toNat) (machine.source distance) := by
  unfold Reference.State.value
  rw [view_operand]
  unfold operandNumber source denoted
  generalize machine.operandWord distance = operand
  rcases Operand.ofWord?_cases operand with
    ⟨small, denoted⟩ | ⟨index, number, denoted⟩ | ⟨large, denoted⟩
  · rw [denoted]
    exact yields_pure (if_pos small)
  · rw [denoted]
    refine yields_pure ?_
    have offset : operand.toNat - 32768 = index.val := by omega
    rw [Reference.State.resolve, if_neg (by omega), offset, view_registers_val]
  · rw [denoted]
    exact yields_error _

/-! ## Changing -/

theorem view_set
    (address : Address)
    (word : Word) :
    { machine with memory := machine.memory.set address word }.view =
      { machine.view with
        memory := Function.update machine.view.memory address.val word.toNat } := by
  refine Reference.State.ext ?_ rfl rfl rfl rfl rfl
  funext other
  by_cases inRange : other < 32768
  · have cell := Memory.get_set machine.memory address ⟨other, inRange⟩ word
    by_cases same : other = address.val
    · subst same
      simp [view]
    · have different : (⟨other, inRange⟩ : Address) ≠ address := fun equal =>
        same (congrArg Fin.val equal)
      simp [view, inRange, cell, same, different]
  · have different : other ≠ address.val := by
      have := address.isLt
      omega
    simp [view, inRange, different]

/-- Writing a register changes the view at the index of that register only. -/
theorem view_setRegister
    (index : RegisterIndex)
    (word : Word) :
    (machine.store (.register index) word).view =
      { machine.view with
        registers := Function.update machine.view.registers index.val word.toNat } := by
  refine Reference.State.ext rfl ?_ rfl rfl rfl rfl
  funext other
  by_cases inRange : other < 8
  · by_cases same : other = index.val
    · subst same
      simp [view, store]
    · have different : index.val ≠ other := fun equal => same equal.symm
      simp [view, store, inRange, same, different]
  · have different : other ≠ index.val := by
      have := index.isLt
      omega
    simp [view, inRange, different]

/-- Storing where the first operand says. -/
theorem yields_view_store :
    Yields
      (fun target => ∀ word : Word,
        (machine.store target word).view = machine.view.assign word.toNat)
      (machine.destination 1) := by
  unfold Reference.State.assign
  rw [view_operand]
  unfold operandNumber destination denoted
  generalize machine.operandWord 1 = operand
  rcases Operand.ofWord?_cases operand with
    ⟨small, denoted⟩ | ⟨index, number, denoted⟩ | ⟨large, denoted⟩
  · rw [denoted]
    refine yields_pure ?_
    intro word
    rw [if_pos small]
    rfl
  · rw [denoted]
    refine yields_pure ?_
    intro word
    have offset : operand.toNat - 32768 = index.val := by omega
    rw [if_neg (by omega), offset, view_setRegister]
  · rw [denoted]
    exact yields_error _

theorem view_withStack (stack : List Word) :
    { machine with stack }.view =
      { machine.view with stack := stack.map UInt16.toNat } :=
  rfl

/-- To continue elsewhere counts the instruction in the view, as it does in the machine. -/
theorem view_continueAt (next : Address) :
    (machine.continueAt next).view =
      { machine.view.goTo next.val with executed := machine.view.executed + 1 } :=
  rfl

/-! ## Actions -/

/-- What the instruction table says about the machine, if the instruction has a code. -/
def tabled
    (code received : Nat) : Reference.State × List Reference.Event :=
  ({ machine.view.perform received code with executed := machine.view.executed + 1 },
    machine.view.events received code)

/-- An action changes the view of the machine as the instruction table says. -/
def Implements
    (opcode : Opcode) : Action -> Prop
  | .settle effect => ∀ received,
      ((machine.apply opcode effect).view, []) = machine.tabled opcode.code received
  | .send code => ∀ received,
      ((machine.apply opcode .proceed).view, [.sent code.toNat]) =
        machine.tabled opcode.code received
  | .receive target => ∀ word : Word,
      ((machine.apply opcode (.assign target word)).view, [.received word.toNat]) =
        machine.tabled opcode.code word.toNat

variable {machine}

/-- Assigning a word, and going on with the next instruction. -/
theorem view_apply_assign
    {target : Operand}
    (assigns : ∀ word : Word,
      (machine.store target word).view = machine.view.assign word.toNat)
    (opcode : Opcode)
    (word : Word) :
    (machine.apply opcode (.assign target word)).view =
      { (machine.view.assign word.toNat).advance opcode.width with
        executed := machine.view.executed + 1 } := by
  rw [apply, view_continueAt, assigns, Reference.State.executed_assign,
    Reference.State.advance, Reference.State.pc_assign]
  rfl

/-- Popping a word, and going on with the next instruction. -/
theorem view_apply_pop
    {target : Operand}
    (assigns : ∀ word : Word,
      (machine.store target word).view = machine.view.assign word.toNat)
    (opcode : Opcode)
    (word : Word) :
    (machine.apply opcode (.pop target word)).view =
      { { machine.view.assign word.toNat with
          stack := machine.stack.tail.map UInt16.toNat }.advance opcode.width with
        executed := machine.view.executed + 1 } := by
  rw [apply, view_continueAt, view_withStack, assigns, Reference.State.executed_assign,
    Reference.State.advance, Reference.State.pc_assign]
  rfl

/-! ## Families of plans -/

/-- One-operand instructions implement the reference as soon as their operation on words agrees
with the operation on numbers. -/
theorem implements_unary
    {opcode : Opcode}
    (operation : Word -> Word)
    (number : Nat -> Nat)
    (sameOperation : ∀ word : Word, (operation word).toNat = number word.toNat)
    (performs : ∀ received, machine.view.perform received opcode.code =
      (machine.view.assign (number (machine.view.value 2))).advance opcode.width)
    (silent : ∀ received, machine.view.events received opcode.code = []) :
    Yields (machine.Implements opcode)
      (do
        let word ← machine.source 2
        return Action.settle (.assign (← machine.destination 1) (operation word))) := by
  refine yields_bind (machine.yields_view_value 2) ?_
  intro word value
  refine yields_bind machine.yields_view_store ?_
  intro target assigns
  refine yields_pure ?_
  intro received
  rw [tabled, performs, silent, value, ← sameOperation, view_apply_assign assigns opcode]

/-- Two-operand instructions implement the reference as soon as their operation on words agrees
with the operation on numbers. -/
theorem implements_planBinary
    {opcode : Opcode}
    (operation : Word -> Word -> Word)
    (number : Nat -> Nat -> Nat)
    (sameOperation : ∀ left right : Word,
      (operation left right).toNat = number left.toNat right.toNat)
    (performs : ∀ received, machine.view.perform received opcode.code =
      (machine.view.assign (number (machine.view.value 2) (machine.view.value 3))).advance
        opcode.width)
    (silent : ∀ received, machine.view.events received opcode.code = []) :
    Yields (machine.Implements opcode) (machine.planBinary operation) := by
  refine yields_bind (machine.yields_view_value 2) ?_
  intro left leftValue
  refine yields_bind (machine.yields_view_value 3) ?_
  intro right rightValue
  refine yields_bind machine.yields_view_store ?_
  intro target assigns
  refine yields_pure ?_
  intro received
  rw [tabled, performs, silent, leftValue, rightValue, ← sameOperation,
    view_apply_assign assigns opcode]

/-- The two conditional jumps differ in their test only. -/
theorem implements_planBranch
    {opcode : Opcode}
    {taken : Word -> Bool}
    (numberTaken : Nat -> Prop)
    [DecidablePred numberTaken]
    (sameTest : ∀ word : Word, taken word = decide (numberTaken word.toNat))
    (performs : ∀ received, machine.view.perform received opcode.code =
      if numberTaken (machine.view.value 1) then
        machine.view.goTo (machine.view.value 2)
      else
        machine.view.advance opcode.width)
    (silent : ∀ received, machine.view.events received opcode.code = []) :
    Yields (machine.Implements opcode) (machine.planBranch taken) := by
  refine yields_bind (machine.yields_view_value 1) ?_
  intro condition value
  rw [sameTest]
  by_cases test : numberTaken condition.toNat
  · rw [decide_eq_true test, if_pos rfl]
    refine yields_bind (machine.yields_view_value 2) ?_
    intro word targetValue
    refine yields_bind (yields_view_located .jump word) ?_
    intro target same
    refine yields_pure ?_
    intro received
    rw [tabled, performs, silent, value, if_pos test, targetValue, same]
    rfl
  · rw [decide_eq_false test, if_neg Bool.false_ne_true]
    refine yields_pure ?_
    intro received
    rw [tabled, performs, silent, value, if_neg test]
    rfl

/-! ## Single plans -/

/-- Past the check for a zero divisor, the plan of a remainder implements the reference. -/
theorem implements_modulo :
    Yields (machine.Implements .modulo) (machine.planOpcode .modulo) := by
  refine yields_bind (machine.yields_view_value 3) ?_
  intro divisor divisorValue
  by_cases zero : divisor = 0
  · rw [if_pos zero]
    exact yields_error _
  · rw [if_neg zero]
    refine yields_bind (machine.yields_view_value 2) ?_
    intro dividend dividendValue
    refine yields_bind machine.yields_view_store ?_
    intro target assigns
    refine yields_pure ?_
    intro received
    simp only [tabled, Opcode.code, Reference.State.perform, Reference.State.events,
      divisorValue, dividendValue, ← UInt16.toNat_mod, view_apply_assign assigns]
    rfl

/-- An address that passes the check is the one that the reference reads. -/
theorem implements_readMemory :
    Yields (machine.Implements .readMemory) (machine.planOpcode .readMemory) := by
  refine yields_bind (machine.yields_view_value 2) ?_
  intro word value
  refine yields_bind (yields_view_located .read word) ?_
  intro address same
  refine yields_bind machine.yields_view_store ?_
  intro target assigns
  refine yields_pure ?_
  intro received
  simp only [tabled, Opcode.code, Reference.State.perform, Reference.State.events, value, same,
    view_memory_val, view_apply_assign assigns]
  rfl

/-- An address that passes the check is the one that the reference overwrites. -/
theorem implements_writeMemory :
    Yields (machine.Implements .writeMemory) (machine.planOpcode .writeMemory) := by
  refine yields_bind (machine.yields_view_value 1) ?_
  intro word value
  refine yields_bind (yields_view_located .write word) ?_
  intro address same
  refine yields_bind (machine.yields_view_value 2) ?_
  intro source sourceValue
  refine yields_pure ?_
  intro received
  simp only [tabled, Opcode.code, Reference.State.perform, Reference.State.events, value, same,
    sourceValue, apply, view_continueAt, view_set]
  rfl

/-- The return address that is pushed wraps at 32768, as in the reference. -/
theorem implements_call :
    Yields (machine.Implements .call) (machine.planOpcode .call) := by
  refine yields_bind (machine.yields_view_value 1) ?_
  intro word value
  refine yields_bind (yields_view_located .call word) ?_
  intro target same
  refine yields_pure ?_
  intro received
  have pushed : (machine.pc.advance 2).toWord.toNat = (machine.view.pc + 2) % 32768 :=
    Address.toWord_toNat _
  simp only [tabled, Opcode.code, Reference.State.perform, Reference.State.events, value, same,
    ← pushed]
  rfl

/-- A pop that does not underflow stores and removes the word that the reference has on top. -/
theorem implements_pop :
    Yields (machine.Implements .pop) (machine.planOpcode .pop) := by
  unfold planOpcode
  cases stack : machine.stack with
  | nil => exact yields_error _
  | cons top rest =>
      have viewed : machine.view.stack = top.toNat :: rest.map UInt16.toNat :=
        congrArg (List.map UInt16.toNat) stack
      refine yields_bind machine.yields_view_store ?_
      intro target assigns
      refine yields_pure ?_
      intro received
      simp only [tabled, Opcode.code, Reference.State.perform, Reference.State.events, viewed,
        view_apply_pop assigns, stack]
      rfl

/-- A return halts on an empty stack in both; otherwise both leave for the top word. -/
theorem implements_return :
    Yields (machine.Implements .ret) (machine.planOpcode .ret) := by
  unfold planOpcode
  cases stack : machine.stack with
  | nil =>
      have viewed : machine.view.stack = [] :=
        congrArg (List.map UInt16.toNat) stack
      refine yields_pure ?_
      intro received
      simp only [tabled, Opcode.code, Reference.State.perform, Reference.State.events, viewed]
      rfl
  | cons top rest =>
      have viewed : machine.view.stack = top.toNat :: rest.map UInt16.toNat :=
        congrArg (List.map UInt16.toNat) stack
      refine yields_bind (yields_view_located .ret top) ?_
      intro target same
      refine yields_pure ?_
      intro received
      simp only [tabled, Opcode.code, Reference.State.perform, Reference.State.events, viewed,
        same, apply, view_continueAt, view_withStack, stack]
      rfl

/-- A successful plan asks for what the instruction table says. -/
theorem implements_planOpcode (opcode : Opcode) :
    Yields (machine.Implements opcode) (machine.planOpcode opcode) := by
  cases opcode with
  | halt => exact yields_pure fun received => rfl
  | set => exact implements_unary id id (fun _ => rfl) (fun _ => rfl) fun _ => rfl
  | push =>
      refine yields_bind (machine.yields_view_value 1) ?_
      intro word value
      refine yields_pure ?_
      intro received
      simp only [tabled, Opcode.code, Reference.State.perform, Reference.State.events, value]
      rfl
  | pop => exact implements_pop
  | equal =>
      have sameOperation (left right : Word) :
          (Word.ofBool (left == right)).toNat =
            if left.toNat = right.toNat then 1 else 0 := by
        simp [← UInt16.toNat_inj]
      exact implements_planBinary _ (fun left right => if left = right then 1 else 0)
        sameOperation (fun _ => rfl) fun _ => rfl
  | greater =>
      have sameOperation (left right : Word) :
          (Word.ofBool (decide (left > right))).toNat =
            if left.toNat > right.toNat then 1 else 0 := by
        simp [UInt16.lt_iff_toNat_lt]
      exact implements_planBinary _ (fun left right => if left > right then 1 else 0)
        sameOperation (fun _ => rfl) fun _ => rfl
  | jump =>
      refine yields_bind (machine.yields_view_value 1) ?_
      intro word value
      refine yields_bind (yields_view_located .jump word) ?_
      intro target same
      refine yields_pure ?_
      intro received
      simp only [tabled, Opcode.code, Reference.State.perform, Reference.State.events, value, same]
      rfl
  | jumpIf =>
      have sameTest (word : Word) : (word != 0) = decide (word.toNat ≠ 0) := by
        rw [Bool.eq_iff_iff]
        simp [← UInt16.toNat_inj]
      exact implements_planBranch (fun number => number ≠ 0) sameTest (fun _ => rfl) fun _ => rfl
  | jumpUnless =>
      have sameTest (word : Word) : (word == 0) = decide (word.toNat = 0) := by
        rw [Bool.eq_iff_iff]
        simp [← UInt16.toNat_inj]
      exact implements_planBranch (fun number => number = 0) sameTest (fun _ => rfl) fun _ => rfl
  | add =>
      exact implements_planBinary _ (fun left right => (left + right) % 32768)
        Word.toNat_add (fun _ => rfl) fun _ => rfl
  | multiply =>
      exact implements_planBinary _ (fun left right => left * right % 32768)
        Word.toNat_multiply (fun _ => rfl) fun _ => rfl
  | modulo => exact implements_modulo
  | bitAnd =>
      exact implements_planBinary _ (fun left right => left &&& right)
        UInt16.toNat_and (fun _ => rfl) fun _ => rfl
  | bitOr =>
      exact implements_planBinary _ (fun left right => left ||| right)
        UInt16.toNat_or (fun _ => rfl) fun _ => rfl
  | bitNot =>
      have sameOperation (word : Word) :
          word.complement.toNat = (Int.land (Int.lnot word.toNat) 32767).toNat := by
        rw [Word.land_lnot]
        rfl
      exact implements_unary Word.complement
        (fun number => (Int.land (Int.lnot number) 32767).toNat) sameOperation
        (fun _ => rfl) fun _ => rfl
  | readMemory => exact implements_readMemory
  | writeMemory => exact implements_writeMemory
  | call => exact implements_call
  | ret => exact implements_return
  | output =>
      refine yields_bind (machine.yields_view_value 1) ?_
      intro word value
      refine yields_pure ?_
      intro received
      simp only [tabled, Opcode.code, Reference.State.perform, Reference.State.events, value]
      rfl
  | input =>
      refine yields_bind machine.yields_view_store ?_
      intro target assigns
      refine yields_pure ?_
      intro word
      simp only [tabled, Opcode.code, Reference.State.perform, Reference.State.events,
        view_apply_assign assigns]
      rfl
  | noop => exact yields_pure fun received => rfl

end

/-! ## Steps -/

/-- The call of a channel that an event stands for. -/
def calledBy : Reference.Event -> ChannelCall
  | .sent code => .write code (.done ())
  | .received code => .read (.done (.integer code))

/-- An outcome of a step is what the instruction table says, unless the step failed. -/
def Outcome.Tabled
    (machine : Machine)
    (opcode : Opcode)
    (calls : List ChannelCall)
    (outcome : Outcome World) : Prop :=
  (∀ fault, outcome.machine.condition ≠ .faulted fault) -> outcome.interrupted = none ->
    ∃ received events,
      machine.tabled opcode.code received = (outcome.machine.view, events) ∧
        calls = events.map calledBy

/-- The table speaks of steps that succeed, so that a fault contradicts nothing in it. -/
theorem tabled_faultOutcome
    (machine : Machine)
    (opcode : Opcode)
    (calls : List ChannelCall)
    (cause : Cause)
    (world : World)
    (notices : List Notice) :
    (machine.faultOutcome cause world notices).Tabled machine opcode calls :=
  fun noFault _ => absurd rfl (noFault _)

/-- Unless it fails, carrying out an action that implements the reference makes the calls and
the changes in the table. -/
theorem tabled_carryOut
    {machine : Machine}
    {opcode : Opcode}
    {action : Action}
    (implements : machine.Implements opcode action)
    (channels : Channels World)
    (world : World) :
    (machine.carryOut channels world opcode action).Tabled machine opcode
      (action.channelCalls channels world) := by
  cases action with
  | settle effect => exact fun _ _ => ⟨0, [], (implements 0).symm, rfl⟩
  | send code =>
      unfold carryOut Action.channelCalls
      dsimp only
      rcases channels.write code.toNat world with ⟨⟨reply, notices⟩, after⟩
      cases reply with
      | done value => exact fun _ _ => ⟨0, [.sent code.toNat], (implements 0).symm, rfl⟩
      | failed failure => exact tabled_faultOutcome machine opcode _ _ after notices
      | interrupted words => exact fun _ interrupted => nomatch interrupted
  | receive target =>
      unfold carryOut Action.channelCalls
      dsimp only
      rcases channels.read world with ⟨reply, after⟩
      cases reply with
      | done value =>
          dsimp only
          rcases received : receivedWord value with (cause | disruption) | word
          · exact tabled_faultOutcome machine opcode _ cause after []
          · exact fun _ interrupted => nomatch interrupted
          · rw [(receivedWord_eq_ok_iff.mp received).1]
            exact fun _ _ =>
              ⟨word.toNat, [.received word.toNat], (implements word).symm, rfl⟩
      | failed failure => exact tabled_faultOutcome machine opcode _ _ after []
      | interrupted words => exact fun _ interrupted => nomatch interrupted

/-- A step that neither faults nor is interrupted is a step of the reference semantics, for the
value that the input channel delivers. -/
theorem step_eq_reference
    (channels : Channels World)
    (machine : Machine)
    (world : World)
    (running : machine.condition = .running)
    (noFault : ∀ fault, (machine.step channels world).machine.condition ≠ .faulted fault)
    (uninterrupted : (machine.step channels world).interrupted = none) :
    ∃ received events,
      Reference.step received machine.view =
          ((machine.step channels world).machine.view, events) ∧
        machine.channelCalls channels world = events.map calledBy := by
  cases known : machine.opcode? with
  | none =>
      rw [step_unknown running known] at noFault
      exact absurd rfl (noFault _)
  | some opcode =>
      cases planned : machine.planOpcode opcode with
      | error cause =>
          rw [step_known running known, planned] at noFault
          exact absurd rfl (noFault _)
      | ok action =>
          have plan : machine.plan = .ok (opcode, action) := by
            rw [Machine.plan, known]
            dsimp only
            rw [planned]
            rfl
          have code : machine.view.memory machine.view.pc = opcode.code := by
            have numbers := (Opcode.ofCode?_eq_some_iff _ opcode).mp known
            exact (machine.view_memory_val machine.pc).trans (Int.ofNat_inj.mp numbers)
          have table (received : Nat) :
              Reference.step received machine.view = machine.tabled opcode.code received := by
            rw [Reference.step, code]
            rfl
          rw [step_known running known, planned] at noFault uninterrupted ⊢
          simp only [table, channelCalls_of_ok channels world running plan]
          exact tabled_carryOut (implements_planOpcode opcode action planned) channels world
            noFault uninterrupted

/-- An addition around the end of memory whose destination is one of its sources. -/
def wrappedAddition : Machine :=
  { fresh with
    memory :=
      (((Memory.empty.set ⟨32767, by decide⟩ 9).set ⟨0, by decide⟩ 32768).set
        ⟨1, by decide⟩ 32768).set ⟨2, by decide⟩ 32767
    pc := ⟨32767, by decide⟩ }

theorem wrappedAddition_step :
    wrappedAddition.step Channels.vacant () =
      { machine := wrappedAddition.apply .add (.assign (.register 0) 32767), world := () } := by
  have opcode : wrappedAddition.opcode? = some .add := by
    simp [opcode?, wrappedAddition, Memory.get_set]
    rfl
  have first : wrappedAddition.operandWord 1 = 32768 := by
    simp only [operandWord, wrappedAddition, Memory.get_set, Memory.get_empty]
    decide
  have second : wrappedAddition.operandWord 2 = 32768 := by
    simp only [operandWord, wrappedAddition, Memory.get_set, Memory.get_empty]
    decide
  have third : wrappedAddition.operandWord 3 = 32767 := by
    simp only [operandWord, wrappedAddition, Memory.get_set, Memory.get_empty]
    decide
  have planned :
      wrappedAddition.planOpcode .add = .ok (.settle (.assign (.register 0) 32767)) := by
    unfold planOpcode planBinary source destination
    rw [first, second, third]
    rfl
  rw [step_known rfl opcode, planned]
  rfl

/-- The reference semantics describes an addition around the end of memory. -/
theorem wrappedAddition_eq_reference :
    wrappedAddition.condition = .running ∧
      ∃ received events,
        Reference.step received wrappedAddition.view =
            ((wrappedAddition.step Channels.vacant ()).machine.view, events) ∧
          wrappedAddition.channelCalls Channels.vacant () = events.map calledBy := by
  refine ⟨rfl, step_eq_reference Channels.vacant wrappedAddition () rfl ?_ ?_⟩
  · intro fault
    rw [wrappedAddition_step, condition_apply]
    simp [wrappedAddition, fresh]
  · rw [wrappedAddition_step]

end Machine
end WordMachine
