import WordMachine.Fault
import WordMachine.Memory
import WordMachine.Operand

/-!
# The state of a machine

A machine is its memory, its registers, its stack, the program counter, whether
it still runs, and the number of instructions executed so far.  This module also
holds the ways to look at a machine and to load a program into it; execution is
in `WordMachine.Machine.Step`.
-/

namespace WordMachine

/-- Whether a machine still runs, without the reason why it does not. -/
inductive Status where
  /-- The next instruction can be executed. -/
  | running
  /-- The program has ended. -/
  | halted
  /-- An instruction could not be executed. -/
  | faulted
deriving DecidableEq, Repr

namespace Status

/-- All statuses. -/
def all : List Status :=
  [.running, .halted, .faulted]

/-- The name in capital letters. -/
def name : Status -> String
  | .running => "RUNNING"
  | .halted => "HALTED"
  | .faulted => "FAULTED"

/-- The name in small letters, which serves as the label of the status. -/
def label (status : Status) : String :=
  status.name.toLower

/-- The status with a given label. -/
def ofLabel? (label : Text) : Option Status :=
  all.find? fun status => Text.ofString status.label == label

/-- Whether nothing is executed any more. -/
def isTerminal (status : Status) : Bool :=
  status != .running

end Status

/-- Whether a machine still runs, and if it faulted, why. -/
inductive Condition where
  /-- The next instruction can be executed. -/
  | running
  /-- The program has ended. -/
  | halted
  /-- An instruction could not be executed. -/
  | faulted (fault : Fault)
deriving DecidableEq, Repr

/-- The state of a machine. -/
@[ext] structure Machine where
  /-- The memory. -/
  memory : Memory
  /-- The registers in the order of their numbers. -/
  registers : Vector Word 8
  /-- The stack, its top first. -/
  stack : List Word
  /-- The program counter: the address of the next instruction. -/
  pc : Address
  /-- Whether the machine still runs. -/
  condition : Condition
  /-- How many instructions have been executed. -/
  executed : Nat

namespace Machine

/-- The machine before anything is loaded: all zero, and ready to run. -/
def fresh : Machine where
  memory := Memory.empty
  registers := Vector.replicate 8 0
  stack := []
  pc := ⟨0, Nat.zero_lt_succ _⟩
  condition := .running
  executed := 0

/-- Copies a program to the start of the memory and changes nothing else. -/
def load
    (machine : Machine)
    (words : List Word) : Machine :=
  { machine with memory := machine.memory.load words }

/-- The status of a machine. -/
def status (machine : Machine) : Status :=
  match machine.condition with
  | .running => .running
  | .halted => .halted
  | .faulted _ => .faulted

/-- The fault of a machine that faulted. -/
def fault? (machine : Machine) : Option Fault :=
  match machine.condition with
  | .faulted fault => some fault
  | _ => none

/-- The contents of the stack, its bottom first. -/
def stackFromBottom (machine : Machine) : List Word :=
  machine.stack.reverse

/-- The register with any number, if there is one. -/
def register?
    (machine : Machine) : Int -> Option Word
  | .ofNat index => machine.registers[index]?
  | .negSucc _ => none

/-- The cell at any number, if there is one. -/
def cell?
    (machine : Machine) : Int -> Option Word
  | .ofNat address =>
      if inRange : address < 32768 then some (machine.memory.get ⟨address, inRange⟩) else none
  | .negSucc _ => none

/-- The value of an operand. -/
def valueOf
    (machine : Machine) : Operand -> Word
  | .literal value => value
  | .register index => getElem machine.registers index.val index.isLt

/-- The value that any number stands for as a source operand: itself below 32768, the contents of
a register for the eight numbers from 32768 up. -/
def resolve
    (machine : Machine)
    (operand : Int) : Except Refusal Int :=
  if operand < 32768 then
    .ok operand
  else
    match machine.register? (operand - 32768) with
    | some word => .ok word.toNat
    | none => .error (.showing .badOperand (shownNumber operand))

/-- Stores a word where an operand says.  A literal discards it. -/
def store
    (machine : Machine)
    (target : Operand)
    (word : Word) : Machine :=
  match target with
  | .literal _ => machine
  | .register index => { machine with registers := machine.registers.set index.val word index.isLt }

/-- A number below 32768 stands for itself. -/
theorem resolve_of_lt
    (machine : Machine)
    {operand : Int}
    (small : operand < 32768) :
    machine.resolve operand = .ok operand := by
  rw [resolve, if_pos small]

/-- Resolving the number of an operand word gives the value of the operand that it denotes. -/
theorem resolve_word
    (machine : Machine)
    (word : Word) :
    machine.resolve word.toNat =
      match Operand.ofWord? word with
      | some operand => .ok ((machine.valueOf operand).toNat : Int)
      | none => .error (.fault (.badOperand (toString word.toNat))) := by
  by_cases small : word.toNat < 32768
  · have smallNumber : (word.toNat : Int) < 32768 := by omega
    rw [Operand.ofWord?_of_lt small, machine.resolve_of_lt smallNumber]
    rfl
  · have largeNumber : ¬ (word.toNat : Int) < 32768 := by omega
    obtain ⟨index, offset⟩ : ∃ index, word.toNat - 32768 = index := ⟨_, rfl⟩
    have numberOffset : (word.toNat : Int) - 32768 = Int.ofNat index := by
      simp only [Int.ofNat_eq_natCast]
      omega
    rw [resolve, if_neg largeNumber, numberOffset, shownNumber_word]
    unfold Operand.ofWord?
    rw [if_neg small]
    simp only [offset]
    by_cases inRange : index < 8
    · simp [register?, inRange, valueOf]
    · simp [register?, inRange, Refusal.showing]

end Machine
end WordMachine
