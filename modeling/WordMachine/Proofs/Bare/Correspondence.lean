import WordMachine.Proofs.Bare.Execution
import WordMachine.Proofs.Word

/-!
# The correspondence of machines and bare machines

`Machine.bare` forgets that the parts of a machine have their proper sizes and
ranges.  Every access, handler and step of the bare machine does to it what the
machine itself says, and meets no defect.
-/

namespace WordMachine

/-- The machine as plain numbers and lists. -/
def Machine.bare (machine : Machine) : BareMachine where
  memory := Bare.numbers machine.memory.cells.toList
  registers := Bare.numbers machine.registers.toList
  stack := Bare.numbers machine.stackFromBottom
  pc := machine.pc.val
  status := machine.status
  fault := machine.fault?.map Fault.report
  executed := machine.executed

namespace Bare

variable {World α : Type}

/-! ## Numbers -/

@[simp] theorem length_numbers (words : List Word) :
    (numbers words).length = words.length :=
  List.length_map _

/-- Words are numbers that sixteen bits hold. -/
theorem isWord_toNat (word : Word) : IsWord word.toNat := by
  have bound := word.toNat_lt
  constructor <;> omega

/-- A list that represents words holds numbers of sixteen bits only. -/
theorem isWord_of_mem_numbers
    {words : List Word}
    {number : Int}
    (member : number ∈ numbers words) : IsWord number := by
  obtain ⟨word, _, rfl⟩ := List.mem_map.mp member
  exact isWord_toNat word

/-- Looking up a place that exists finds the word there. -/
theorem entry?_numbers
    {size : Nat}
    (words : Vector Word size)
    (place : Fin size) :
    entry? (numbers words.toList) (place.val : Int) = some ((words[place]).toNat : Int) := by
  have found : (numbers words.toList)[place.val]? = some ((words[place]).toNat : Int) := by
    simp [numbers]
  exact found

/-- No defect arises from a place that exists. -/
theorem fetch_numbers
    (missing : Int -> Defect)
    {size : Nat}
    (words : Vector Word size)
    (place : Fin size) :
    fetch missing (numbers words.toList) (place.val : Int) = .ok ((words[place]).toNat : Int) := by
  rw [fetch, entry?_numbers]

/-- Storing a word into a place that exists neither fails nor wraps. -/
theorem replace_numbers
    (missing : Int -> Defect)
    {size : Nat}
    (words : Vector Word size)
    (place : Fin size)
    (word : Word) :
    replace missing (numbers words.toList) (place.val : Int) (word.toNat : Int) =
      .ok (numbers (words.set place.val word place.isLt).toList) := by
  have replaced :
      (numbers words.toList).set place.val word.toNat =
        numbers (words.set place.val word place.isLt).toList := by
    rw [numbers, numbers, Vector.toList_set, List.map_set]
  simp only [replace, entry?_numbers, if_pos (isWord_toNat word), Int.toNat_natCast, replaced]

/-! ## Accesses -/

section

variable
  (machine : Machine)
  (world : World)

/-- Every address is within the list of cells. -/
theorem run_cell_bare (address : Address) :
    (cell (address.val : Int)).run (machine.bare, world) =
      .ok ((machine.memory.get address).toNat : Int) (machine.bare, world) := by
  have found :
      fetch .missingCell machine.bare.memory (address.val : Int) =
        .ok ((machine.memory.get address).toNat : Int) :=
    fetch_numbers _ _ _
  rw [run_cell, found]

/-- Every word can be stored at every address. -/
theorem run_setCell_bare
    (address : Address)
    (word : Word) :
    (setCell (address.val : Int) (word.toNat : Int)).run (machine.bare, world) =
      .ok () ({ machine with memory := machine.memory.set address word }.bare, world) := by
  have replaced :
      replace .missingCell machine.bare.memory (address.val : Int) (word.toNat : Int) =
        .ok (numbers (machine.memory.set address word).cells.toList) :=
    replace_numbers _ _ _ _
  rw [run_setCell, replaced]
  rfl

/-- Every register index is within the list of registers. -/
theorem run_register_bare (index : RegisterIndex) :
    (register (index.val : Int)).run (machine.bare, world) =
      .ok ((machine.valueOf (.register index)).toNat : Int) (machine.bare, world) := by
  have found :
      fetch .missingRegister machine.bare.registers (index.val : Int) =
        .ok ((machine.valueOf (.register index)).toNat : Int) :=
    fetch_numbers _ _ _
  rw [run_register, found]

/-- Every word can be stored into every register. -/
theorem run_setRegister_bare
    (index : RegisterIndex)
    (word : Word) :
    (setRegister (index.val : Int) (word.toNat : Int)).run (machine.bare, world) =
      .ok () ((machine.store (.register index) word).bare, world) := by
  have replaced :
      replace .missingRegister machine.bare.registers (index.val : Int) (word.toNat : Int) =
        .ok (numbers (machine.registers.set index.val word index.isLt).toList) :=
    replace_numbers _ _ _ _
  rw [run_setRegister, replaced]
  rfl

theorem run_push_bare (word : Word) :
    (push (word.toNat : Int)).run (machine.bare, world) =
      .ok () ({ machine with stack := word :: machine.stack }.bare, world) := by
  have grown :
      machine.bare.stack ++ [(word.toNat : Int)] = numbers (word :: machine.stack).reverse := by
    simp [Machine.bare, Machine.stackFromBottom, numbers]
  rw [run_push, grown]
  rfl

/-- The top of the stack comes last in the list that represents it. -/
theorem bare_stack_cons
    {word : Word}
    {rest : List Word}
    (stack : machine.stack = word :: rest) :
    machine.bare.stack = numbers rest.reverse ++ [(word.toNat : Int)] := by
  simp [Machine.bare, Machine.stackFromBottom, numbers, stack]

/-- A stack that is not empty has a top to look at. -/
theorem run_top_bare
    {word : Word}
    {rest : List Word}
    (stack : machine.stack = word :: rest) :
    top.run (machine.bare, world) = .ok (word.toNat : Int) (machine.bare, world) := by
  rw [run_top, bare_stack_cons machine stack, List.getLast?_concat]

/-- A stack that is not empty has a top to remove. -/
theorem run_drop_bare
    {word : Word}
    {rest : List Word}
    (stack : machine.stack = word :: rest) :
    drop.run (machine.bare, world) =
      .ok () ({ machine with stack := machine.stack.tail }.bare, world) := by
  rw [run_drop, bare_stack_cons machine stack, List.getLast?_concat, List.dropLast_concat, stack]
  rfl

/-! ## Operands -/

/-- What comes of an activity that finds the number of what the machine looks up, or fails for the
same cause, and changes nothing. -/
def lookedUp
    (number : α -> Int) : Except Cause α -> EStateM.Result Exit (BareMachine × World) Int
  | .ok value => .ok (number value) (machine.bare, world)
  | .error cause => .error (.fault cause.kind cause.message) (machine.bare, world)

/-- Resolving an operand word gives the word of the source operand, or the same fault. -/
theorem run_resolve_bare (distance : Nat) :
    (resolve ((machine.operandWord distance).toNat : Int)).run (machine.bare, world) =
      lookedUp machine world (fun word => (word.toNat : Int)) (machine.source distance) := by
  unfold Machine.source Machine.denoted
  generalize machine.operandWord distance = word
  rcases Operand.ofWord?_cases word with
    ⟨small, denoted⟩ | ⟨index, number, denoted⟩ | ⟨large, denoted⟩
  · rw [denoted, resolve, if_pos (by omega)]
    rfl
  · have offset : (word.toNat : Int) - 32768 = (index.val : Int) := by omega
    rw [denoted, resolve, if_neg (by omega), if_pos (by omega), offset, run_register_bare]
    rfl
  · rw [denoted, resolve, if_neg (by omega), if_neg (by omega), shownNumber_word]
    rfl

/-- Storing through an operand word changes what the destination names, discards the word, or
faults. -/
theorem run_store_bare
    (distance : Nat)
    (word : Word) :
    (store ((machine.operandWord distance).toNat : Int) (word.toNat : Int)).run
        (machine.bare, world) =
      match machine.destination distance with
      | .ok target => .ok () ((machine.store target word).bare, world)
      | .error cause => .error (.fault cause.kind cause.message) (machine.bare, world) := by
  unfold Machine.destination Machine.denoted
  generalize machine.operandWord distance = operand
  rcases Operand.ofWord?_cases operand with
    ⟨small, denoted⟩ | ⟨index, number, denoted⟩ | ⟨large, denoted⟩
  · rw [denoted, store, if_pos (by omega)]
    rfl
  · have offset : (operand.toNat : Int) - 32768 = (index.val : Int) := by omega
    rw [denoted, store, if_neg (by omega), if_neg (by omega), offset, run_setRegister_bare]
  · rw [denoted, store, if_neg (by omega), if_pos (by omega), shownNumber_word]
    rfl

/-- The comparison with both ends of memory refuses exactly the words that denote no address. -/
theorem run_locate_bare
    (access : Access)
    (word : Word) :
    (locate access (word.toNat : Int)).run (machine.bare, world) =
      lookedUp machine world (fun address => (address.val : Int))
        (Machine.located access word) := by
  unfold Machine.located Word.address? locate
  by_cases inRange : word.toNat < 32768
  · rw [dif_pos inRange, if_pos (by omega)]
    rfl
  · rw [dif_neg inRange, if_neg (by omega), shownNumber_word]
    rfl

end

end Bare
end WordMachine
