import WordMachine.Image
import WordMachine.Proofs.FaultKinds
import WordMachine.Proofs.History
import WordMachine.Proofs.Word

/-!
# Raw words

Arithmetic comes to fifteen bits, and so does input.  A program image may hold any
words of sixteen, and those from 32768 up stay in the cells that they were loaded
into, until an instruction reads one of them from memory into a register.  As long
as none does, a machine is `Machine.Sealed`: no register, no entry of the stack and
no code that is written exceeds fifteen bits, and no word is too large for an
address.
-/

namespace WordMachine

variable {World : Type}

/-- The operation does not lead out of fifteen bits. -/
def Word.Confined (operation : Word -> Word -> Word) : Prop :=
  ∀ left right : Word, left.toNat < 32768 -> right.toNat < 32768 ->
    (operation left right).toNat < 32768

namespace Word

/-- Comparisons yield 0 or 1 only. -/
theorem confined_ofBool (comparison : Word -> Word -> Bool) :
    Confined fun left right => ofBool (comparison left right) := by
  intro left right _ _
  rw [toNat_ofBool]
  split <;> decide

/-- Addition reduces its result modulo 32768, whatever its operands. -/
theorem confined_add : Confined add := by
  intro left right _ _
  rw [toNat_add]
  exact Nat.mod_lt _ (by decide)

/-- Multiplication reduces its result modulo 32768, whatever its operands. -/
theorem confined_multiply : Confined multiply := by
  intro left right _ _
  rw [toNat_multiply]
  exact Nat.mod_lt _ (by decide)

/-- Bitwise conjunction is not masked; it stays below 32768 because its operands do. -/
theorem confined_and : Confined fun left right => left &&& right := by
  intro left right small _
  rw [UInt16.toNat_and]
  exact Nat.lt_of_le_of_lt Nat.and_le_left small

/-- Bitwise disjunction is not masked; it stays below 32768 because its operands do. -/
theorem confined_or : Confined fun left right => left ||| right := by
  intro left right small otherSmall
  rw [UInt16.toNat_or]
  exact Nat.or_lt_two_pow (n := 15) small otherSmall

/-- A remainder is not reduced either: it is small because the dividend is, also for a divisor
of 0. -/
theorem modulo_lt
    {dividend : Word}
    (small : dividend.toNat < 32768)
    (divisor : Word) : (dividend % divisor).toNat < 32768 := by
  rw [UInt16.toNat_mod]
  exact Nat.lt_of_le_of_lt (Nat.mod_le _ _) small

/-- The complement is masked to 15 bits, so that even a raw word gives a small one. -/
theorem complement_lt (word : Word) : (complement word).toNat < 32768 := by
  rw [complement, UInt16.toNat_and]
  exact Nat.lt_of_le_of_lt Nat.and_le_right (by decide)

end Word

/-- All words that an effect puts into registers, onto the stack or into memory have fifteen
bits. -/
def Effect.Tame : Effect -> Prop
  | .assign (.register _) word | .push word | .pop _ word | .poke _ word =>
      word.toNat < 32768
  | _ => True

/-- All words that an action uses have fifteen bits. -/
def Action.Tame : Action -> Prop
  | .settle effect => effect.Tame
  | .send code => code.toNat < 32768
  | .receive _ => True

/-- The step reads a word from memory and puts it into a register, where it exceeds fifteen bits. -/
def Transition.StoresRaw (transition : Transition) : Prop :=
  transition.before.condition = .running ∧
    transition.before.opcode? = some .readMemory ∧
    transition.after.fault? = none ∧
    ∃ index, Operand.ofWord? (transition.before.operandWord 1) = some (.register index) ∧
      32768 ≤ (transition.after.valueOf (.register index)).toNat

instance (transition : Transition) : Decidable transition.StoresRaw :=
  inferInstanceAs (Decidable (_ ∧ _))

namespace Machine

/-- Words that exceed fifteen bits are only where the image has them, and none of them made the
machine fault. -/
structure Sealed
    (image : List Word)
    (machine : Machine) : Prop where
  /-- The registers have fifteen bits. -/
  registers : ∀ index, (machine.valueOf (.register index)).toNat < 32768
  /-- The entries of the stack have fifteen bits. -/
  stack : ∀ word ∈ machine.stack, word.toNat < 32768
  /-- A cell with a larger word holds the word of the image. -/
  memory : ∀ address, 32768 ≤ (machine.memory.get address).toNat ->
    image[address.val]? = some (machine.memory.get address)
  /-- No word was used as an address that is none. -/
  addresses : ∀ fault, machine.fault? = some fault -> fault.cause.kind ≠ .invalidMemoryAccess

section

variable
  {image : List Word}
  {machine : Machine}

/-! ## Plans -/

/-- No operand of a sealed machine evaluates to a raw word: literals are below 32768 by their
form, registers by the seal. -/
theorem Sealed.valueOf_lt
    (isSealed : machine.Sealed image)
    {distance : Nat}
    {word : Word}
    (evaluates : machine.Evaluates distance word) : word.toNat < 32768 := by
  have sourced := (source_eq_ok_iff word).mpr evaluates
  rcases Operand.ofWord?_cases (machine.operandWord distance) with
    ⟨small, found⟩ | ⟨index, _, found⟩ | ⟨_, found⟩
  · rw [source, denoted, found] at sourced
    cases sourced
    exact small
  · rw [source, denoted, found] at sourced
    cases sourced
    exact isSealed.registers index
  · rw [source, denoted, found] at sourced
    cases sourced

/-- Fetching a source operand of a sealed machine gives a small word, if it gives one. -/
theorem Sealed.yields_source
    (isSealed : machine.Sealed image)
    (distance : Nat) :
    Yields (fun word => word.toNat < 32768) (machine.source distance) :=
  fun word sourced => isSealed.valueOf_lt ((source_eq_ok_iff word).mp sourced)

/-- To assign a small word is tame, whatever the target. -/
theorem tame_assign
    (target : Operand)
    {word : Word}
    (small : word.toNat < 32768) : (Action.settle (.assign target word)).Tame := by
  cases target with
  | literal value => trivial
  | register index => exact small

/-- A confined operation on the operands of a sealed machine assigns a small word. -/
theorem Sealed.tame_planBinary
    (isSealed : machine.Sealed image)
    {operation : Word -> Word -> Word}
    (confined : Word.Confined operation) :
    Yields Action.Tame (machine.planBinary operation) :=
  yields_bind (isSealed.yields_source 2) fun left small =>
    yields_bind (isSealed.yields_source 3) fun right otherSmall =>
      yields_bind (yields_true _) fun target _ =>
        yields_pure (tame_assign target (confined left right small otherSmall))

/-- A branch moves the program counter only, so it is tame on any machine. -/
theorem tame_planBranch
    (machine : Machine)
    (taken : Word -> Bool) :
    Yields Action.Tame (machine.planBranch taken) := by
  refine yields_bind (yields_true _) fun word _ => ?_
  cases taken word with
  | true =>
      exact yields_bind (yields_true _) fun _ _ => yields_bind (yields_true _) fun _ _ =>
        yields_pure trivial
  | false => exact yields_pure trivial

/-- Only an instruction that reads from memory can ask for more than fifteen bits. -/
theorem Sealed.tame_planOpcode
    (isSealed : machine.Sealed image)
    {opcode : Opcode}
    (notRead : opcode ≠ .readMemory) :
    Yields Action.Tame (machine.planOpcode opcode) := by
  have source := isSealed.yields_source
  cases opcode with
  | halt | noop => exact yields_pure trivial
  | set =>
      exact yields_bind (source 2) fun word small => yields_bind (yields_true _) fun target _ =>
        yields_pure (tame_assign target small)
  | bitNot =>
      exact yields_bind (yields_true _) fun word _ => yields_bind (yields_true _) fun target _ =>
        yields_pure (tame_assign target word.complement_lt)
  | push | output => exact yields_bind (source 1) fun word small => yields_pure small
  | jump | call =>
      exact yields_bind (yields_true _) fun _ _ => yields_bind (yields_true _) fun _ _ =>
        yields_pure trivial
  | input => exact yields_bind (yields_true _) fun _ _ => yields_pure trivial
  | writeMemory =>
      exact yields_bind (yields_true _) fun _ _ => yields_bind (yields_true _) fun _ _ =>
        yields_bind (source 2) fun word small => yields_pure small
  | equal => exact isSealed.tame_planBinary (Word.confined_ofBool (· == ·))
  | greater => exact isSealed.tame_planBinary (Word.confined_ofBool fun left right => right < left)
  | add => exact isSealed.tame_planBinary Word.confined_add
  | multiply => exact isSealed.tame_planBinary Word.confined_multiply
  | bitAnd => exact isSealed.tame_planBinary Word.confined_and
  | bitOr => exact isSealed.tame_planBinary Word.confined_or
  | jumpIf | jumpUnless => exact tame_planBranch machine _
  | modulo =>
      refine yields_bind (yields_true _) fun divisor _ => ?_
      by_cases zero : divisor = 0
      · rw [if_pos zero]
        exact yields_error _
      · rw [if_neg zero]
        exact yields_bind (source 2) fun dividend small =>
          yields_bind (yields_true _) fun target _ =>
            yields_pure (tame_assign target (Word.modulo_lt small divisor))
  | pop =>
      unfold planOpcode
      cases stack : machine.stack with
      | nil => exact yields_error _
      | cons top rest =>
          have small := isSealed.stack top (stack ▸ List.mem_cons_self)
          exact yields_bind (yields_true _) fun target _ => yields_pure small
  | ret =>
      unfold planOpcode
      cases machine.stack with
      | nil => exact yields_pure trivial
      | cons top rest => exact yields_bind (yields_true _) fun _ _ => yields_pure trivial
  | readMemory => contradiction

/-- What an instruction that reads from memory asks for. -/
theorem yields_readMemory (machine : Machine) :
    Yields
      (fun action => ∃ target place, denoted (machine.operandWord 1) = .ok target ∧
        action = .settle (.assign target (machine.memory.get place)))
      (machine.planOpcode .readMemory) := by
  have destination : Yields (fun target => denoted (machine.operandWord 1) = .ok target)
      (machine.destination 1) := fun target found => found
  exact yields_bind (yields_true _) fun _ _ => yields_bind (yields_true _) fun place _ =>
    yields_bind destination fun target found => yields_pure ⟨target, place, found, rfl⟩

/-! ## Addresses -/

/-- Every address that a sealed machine computes lies within memory. -/
theorem Sealed.not_usesInvalidAddress
    (isSealed : machine.Sealed image)
    (opcode : Opcode) : ¬ machine.UsesInvalidAddress opcode := by
  rintro ⟨word, uses, large⟩
  have small : word.toNat < 32768 := by
    cases opcode with
    | readMemory | writeMemory | jump | call => exact isSealed.valueOf_lt uses
    | jumpIf | jumpUnless => exact isSealed.valueOf_lt uses.2
    | ret => exact isSealed.stack word (List.mem_of_mem_head? uses)
    | _ => exact uses.elim
  omega

/-- A sealed machine never faults over an address. -/
theorem Sealed.not_faults
    (isSealed : machine.Sealed image)
    (channels : Channels World)
    (world : World)
    (running : machine.condition = .running) :
    ¬ (machine.step channels world).Faults .invalidMemoryAccess := by
  cases known : machine.opcode? with
  | none =>
      rw [step_unknown running known, faults_faultOutcome]
      exact fun impossible => nomatch impossible
  | some opcode =>
      rw [faults_step_of_known running known]
      rintro (uses | ⟨action, _, condition⟩)
      · exact isSealed.not_usesInvalidAddress opcode uses
      · cases action <;> exact condition

/-! ## Effects -/

theorem valueOf_store_self
    (machine : Machine)
    (index : RegisterIndex)
    (word : Word) : (machine.store (.register index) word).valueOf (.register index) = word :=
  Vector.getElem_set_self _

/-- Storing a small word keeps the seal. -/
theorem Sealed.store
    (isSealed : machine.Sealed image)
    {target : Operand}
    {word : Word}
    (tame : (Effect.assign target word).Tame) : (machine.store target word).Sealed image := by
  cases target with
  | literal value => exact isSealed
  | register target =>
      refine ⟨fun index => ?_, isSealed.stack, isSealed.memory, isSealed.addresses⟩
      unfold Machine.store valueOf
      dsimp only
      rw [Vector.getElem_set]
      split
      · exact tame
      · exact isSealed.registers index

/-- What a tame effect does to registers, stack and memory keeps the seal. -/
theorem Sealed.enact
    (isSealed : machine.Sealed image)
    (next : Address)
    {effect : Effect}
    (tame : effect.Tame) : (machine.enact next effect).Sealed image := by
  obtain ⟨registers, stack, memory, addresses⟩ := isSealed
  cases effect with
  | halt => exact ⟨registers, stack, memory, fun fault impossible => nomatch impossible⟩
  | proceed | jump target => exact ⟨registers, stack, memory, addresses⟩
  | assign target word => exact Sealed.store ⟨registers, stack, memory, addresses⟩ tame
  | push word => exact ⟨registers, List.forall_mem_cons.mpr ⟨tame, stack⟩, memory, addresses⟩
  | pop target top =>
      have stored : (machine.store target top).Sealed image :=
        Sealed.store ⟨registers, stack, memory, addresses⟩ (tame_assign target tame)
      exact ⟨stored.registers, fun word member => stack word (List.mem_of_mem_tail member),
        stored.memory, stored.addresses⟩
  | poke address word =>
      refine ⟨registers, stack, fun place large => ?_, addresses⟩
      change 32768 ≤ ((machine.memory.set address word).get place).toNat at large
      change image[place.val]? = some ((machine.memory.set address word).get place)
      rw [Memory.get_set] at large ⊢
      split at large
      · exact absurd large (Nat.not_le.mpr tame)
      · next other =>
          rw [if_neg other]
          exact memory place large
  | call target =>
      have small : next.toWord.toNat < 32768 := by
        rw [Address.toWord_toNat]
        exact next.isLt
      exact ⟨registers, List.forall_mem_cons.mpr ⟨small, stack⟩, memory, addresses⟩
  | leave target =>
      exact ⟨registers, fun word member => stack word (List.mem_of_mem_tail member), memory,
        addresses⟩

/-- A tame effect keeps the seal, wherever it sends the program counter. -/
theorem Sealed.apply
    (isSealed : machine.Sealed image)
    (opcode : Opcode)
    {effect : Effect}
    (tame : effect.Tame) : (machine.apply opcode effect).Sealed image := by
  have enacted := isSealed.enact (machine.pc.advance opcode.width) tame
  rw [apply_eq]
  exact ⟨enacted.registers, enacted.stack, enacted.memory, enacted.addresses⟩

/-! ## Steps -/

/-- An instruction that is executed is tame, unless it puts a larger word into a register. -/
theorem Sealed.tame_of_offers
    (isSealed : machine.Sealed image)
    {opcode : Opcode}
    {effect : Effect}
    (offers : machine.Offers opcode effect)
    (notRead : opcode ≠ .readMemory) : effect.Tame := by
  cases offers with
  | settled planned => exact isSealed.tame_planOpcode notRead _ planned
  | sent planned => trivial
  | received planned small => exact tame_assign _ small

/-- Reading memory is the one plan that can store a raw word; it is tame if the register it
fills ends up with a small one. -/
theorem tame_of_offers_readMemory
    {effect : Effect}
    (offers : machine.Offers .readMemory effect)
    (kept : ∀ index, Operand.ofWord? (machine.operandWord 1) = some (.register index) ->
      ((machine.apply .readMemory effect).valueOf (.register index)).toNat < 32768) :
    effect.Tame := by
  have reads := yields_readMemory machine
  cases offers with
  | settled planned =>
      obtain ⟨target, place, found, same⟩ := reads _ planned
      cases same
      cases target with
      | literal value => trivial
      | register index =>
          have small := kept index (denoted_eq_ok_iff.mp found)
          change ((machine.store (.register index) _).valueOf (.register index)).toNat < 32768
            at small
          rwa [valueOf_store_self] at small
  | sent planned =>
      obtain ⟨_, _, _, impossible⟩ := reads _ planned
      cases impossible
  | received planned small => exact tame_assign _ small

variable
  {channels : Channels World}
  {world : World}

/-- The seal is invariant: only a step that itself stores a raw word can break it. -/
theorem Sealed.step
    (isSealed : machine.Sealed image)
    (notRaw : ¬ (machine.transition channels world).StoresRaw) :
    (machine.step channels world).machine.Sealed image := by
  by_cases running : machine.condition = .running
  · have notFaults := isSealed.not_faults channels world running
    unfold transition Transition.StoresRaw at notRaw
    dsimp only at notRaw
    have ends := machine.ends_step channels world
    generalize machine.step channels world = outcome at ends notRaw notFaults ⊢
    cases ends with
    | stopped stopped after => exact isSealed
    | failed running cause after =>
        refine ⟨isSealed.registers, isSealed.stack, isSealed.memory, fun fault faulted kind => ?_⟩
        exact notFaults ⟨fault, fault?_eq_some_iff.mp faulted, kind⟩
    | interrupted running words after => exact isSealed
    | @executed opcode effect running known offers after =>
        refine isSealed.apply opcode ?_
        -- Only reading memory can bring up a raw word, and that it does not is assumed.
        by_cases read : opcode = .readMemory
        · subst read
          refine tame_of_offers_readMemory offers fun index found => ?_
          refine Nat.lt_of_not_le fun large => ?_
          exact notRaw ⟨running, known, fault?_apply running _ _, index, found, large⟩
        · exact isSealed.tame_of_offers offers read
  · rw [step_stopped running]
    exact isSealed

/-- The codes that a sealed machine writes have fifteen bits. -/
theorem Sealed.code_lt
    (isSealed : machine.Sealed image)
    {code : Int}
    {reply : Reply Unit}
    (written : .write code reply ∈ machine.channelCalls channels world) :
    0 ≤ code ∧ code < 32768 := by
  obtain ⟨opcode, word, planned, rfl, _⟩ := planned_of_write_mem channels world written
  have plannedAction := (plan_eq_ok_iff.mp planned).2
  have notRead : opcode ≠ .readMemory := by
    rintro rfl
    obtain ⟨_, _, _, impossible⟩ := yields_readMemory machine _ plannedAction
    cases impossible
  have small : word.toNat < 32768 := isSealed.tame_planOpcode notRead _ plannedAction
  omega

end

/-- A machine with a program image is sealed before its first step. -/
theorem sealed_loadImage (bytes : Array UInt8) :
    (fresh.loadImage bytes).Sealed (Image.decode bytes) where
  registers := by
    intro index
    have zero : (fresh.loadImage bytes).valueOf (.register index) = 0 :=
      Vector.getElem_replicate index.isLt
    rw [zero]
    decide
  stack := fun word impossible => nomatch impossible
  memory := by
    intro address large
    have loaded : (fresh.loadImage bytes).memory.get address =
        (Image.decode bytes)[address.val]?.getD 0 := by
      rw [← Memory.get_empty address]
      exact Memory.get_load _ _ _
    rw [loaded] at large ⊢
    cases found : (Image.decode bytes)[address.val]? with
    | none =>
        rw [found] at large
        exact absurd large (by decide)
    | some word => rfl
  addresses := fun fault impossible => nomatch impossible

/-- As long as no raw word is read from memory into a register, a machine with a program image is
sealed, and writes no raw words. -/
theorem sealed_until_raw_read
    (bytes : Array UInt8)
    (channels : Channels World)
    (world : World)
    (steps : Nat)
    (noneStored : ∀ transition ∈ (fresh.loadImage bytes).history channels steps world,
      ¬ transition.StoresRaw) :
    ((fresh.loadImage bytes).afterSteps channels steps world).1.Sealed (Image.decode bytes) ∧
      ∀ transition ∈ (fresh.loadImage bytes).history channels steps world,
        ∀ code reply, .write code reply ∈ transition.calls -> 0 ≤ code ∧ code < 32768 := by
  have kept (machine : Machine) (world : World)
      (isSealed : machine.Sealed (Image.decode bytes))
      (notRaw : ¬ (machine.transition channels world).StoresRaw) :
      (machine.step channels world).machine.Sealed (Image.decode bytes) :=
    isSealed.step notRaw
  obtain ⟨last, along⟩ :=
    invariant_history kept steps _ world (sealed_loadImage bytes) noneStored
  refine ⟨last, fun transition member code reply written => ?_⟩
  obtain ⟨machine, world, isSealed, rfl⟩ := along transition member
  exact isSealed.code_lt written

/-- A program that reads the letter at its end into a register and writes it, and halts. -/
def letterImage : Array UInt8 :=
  #[15, 0, 0, 128, 6, 0, 19, 0, 0, 128, 0, 0, 65, 0]

/-- The machine with this program. -/
def letterMachine : Machine :=
  let place := fresh.pc.advance
  { fresh with
    memory :=
      (((((Memory.empty.set (place 0) 15).set (place 1) 32768).set (place 2) 6).set
        (place 3) 19).set (place 4) 32768).set (place 6) 65 }

theorem loadImage_letterImage : fresh.loadImage letterImage = letterMachine := by
  have words : Image.decode letterImage = [15, 32768, 6, 19, 32768, 0, 65] := by decide
  rw [loadImage, words]
  refine congrArg (fun memory => { fresh with memory }) (Memory.ext fun address => ?_)
  rw [Memory.get_load]
  simp only [Memory.get_set, Fin.ext_iff]
  match address with
  | ⟨0, _⟩ | ⟨1, _⟩ | ⟨2, _⟩ | ⟨3, _⟩ | ⟨4, _⟩ | ⟨5, _⟩ | ⟨6, _⟩ => rfl
  | ⟨place + 7, _⟩ => rfl

/-- The letter is no raw word. -/
theorem sealed_until_raw_read_letterImage :
    (∀ transition ∈ (fresh.loadImage letterImage).history Channels.vacant 3 (),
      ¬ transition.StoresRaw) ∧
      ((fresh.loadImage letterImage).afterSteps Channels.vacant 3 ()).1.Sealed
        (Image.decode letterImage) ∧
      ∀ transition ∈ (fresh.loadImage letterImage).history Channels.vacant 3 (),
        ∀ code reply, .write code reply ∈ transition.calls -> 0 ≤ code ∧ code < 32768 := by
  have noneStored : ∀ transition ∈ (fresh.loadImage letterImage).history Channels.vacant 3 (),
      ¬ transition.StoresRaw := by
    rw [loadImage_letterImage]
    decide +kernel
  exact ⟨noneStored, sealed_until_raw_read letterImage Channels.vacant () 3 noneStored⟩

end Machine
end WordMachine
