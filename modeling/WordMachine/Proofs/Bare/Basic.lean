import WordMachine.Channel.Basic
import WordMachine.Opcode
import WordMachine.Snapshot.Basic

/-!
# Machines of plain numbers

A bare machine is made of integers and lists of integers, so that nothing about
its shape goes without saying: a look-up may miss, and a number that is to be
stored may be no word.  Trouble of this sort is a defect of the machine and not
a fault of its program.  Nor can every number be written that a message tells
about.  Activities change a bare machine in place; what they did before they end
early stays done.
-/

namespace WordMachine

/-- What can be wrong with a machine itself. -/
inductive Defect where
  /-- There is no cell with the address. -/
  | missingCell (address : Int)
  /-- There is no register with the number. -/
  | missingRegister (index : Int)
  /-- A number was to be stored that does not fit into sixteen bits. -/
  | oversizedNumber (number : Int)
  /-- The top of an empty stack was wanted. -/
  | missingTop
  /-- A remainder was taken by zero. -/
  | zeroDivisor
  /-- Nothing is known about how an opcode is executed. -/
  | missingHandler (opcode : Opcode)
  /-- An instruction was given a wrong number of operands. -/
  | operandMismatch (given : Nat)
  /-- A block of bytes does not consist of words. -/
  | unpairedByte
  /-- A block of words does not fit into memory. -/
  | oversizedBlock (words : Nat)
deriving DecidableEq, Repr

/-- How an activity ends early. -/
inductive Exit where
  /-- The program asks for something impossible. -/
  | fault (kind : FaultKind) (message : Text)
  /-- The machine is defective. -/
  | defect (defect : Defect)
  /-- Something disrupted the activity, and it is nobody's business to absorb it. -/
  | disruption (disruption : Disruption)
deriving DecidableEq, Repr

/-- A machine whose parts are plain numbers and lists. -/
@[ext] structure BareMachine where
  /-- The cells in address order. -/
  memory : List Int
  /-- The registers in the order of their numbers. -/
  registers : List Int
  /-- The stack, its bottom first. -/
  stack : List Int
  /-- The program counter. -/
  pc : Int
  /-- The status. -/
  status : Status
  /-- What is told about the fault, if there is one. -/
  fault : Option FaultReport
  /-- How many instructions have been executed. -/
  executed : Int
deriving DecidableEq, Repr

/-- Whether a number fits into sixteen bits. -/
def IsWord (number : Int) : Prop :=
  0 ≤ number ∧ number < 65536

instance (number : Int) : Decidable (IsWord number) :=
  inferInstanceAs (Decidable (_ ∧ _))

namespace BareMachine

/-- The machine before anything is loaded. -/
def fresh : BareMachine where
  memory := List.replicate 32768 0
  registers := List.replicate 8 0
  stack := []
  pc := 0
  status := .running
  fault := none
  executed := 0

/-- Everything that is observable except the memory. -/
def snapshot (machine : BareMachine) : Snapshot where
  pc := machine.pc
  registers := machine.registers
  stack := machine.stack
  status := machine.status
  executed := machine.executed
  error := machine.fault.map FaultReport.describe

/-- Every part has its proper size, and every number its proper range. -/
structure WellFormed (machine : BareMachine) : Prop where
  /-- There is one cell for every address. -/
  memory_length : machine.memory.length = 32768
  /-- There are eight registers. -/
  registers_length : machine.registers.length = 8
  /-- Every cell holds a word. -/
  memory_isWord : ∀ number ∈ machine.memory, IsWord number
  /-- Every register holds a word. -/
  registers_isWord : ∀ number ∈ machine.registers, IsWord number
  /-- Every entry of the stack is a word. -/
  stack_isWord : ∀ number ∈ machine.stack, IsWord number
  /-- The program counter is an address. -/
  pc_inRange : 0 ≤ machine.pc ∧ machine.pc < 32768

end BareMachine

namespace Bare

/-- Words as plain numbers. -/
def numbers (words : List Word) : List Int :=
  words.map fun word => (word.toNat : Int)

/-- The number at any place, if there is one.  No place is counted from the end. -/
def entry? (numbers : List Int) : Int -> Option Int
  | .ofNat place => numbers[place]?
  | .negSucc _ => none

/-- Looks up the number at a place. -/
def fetch
    (missing : Int -> Defect)
    (numbers : List Int)
    (place : Int) : Except Defect Int :=
  match entry? numbers place with
  | some number => .ok number
  | none => .error (missing place)

/-- Replaces the number at a place by another one, which has to fit into sixteen bits. -/
def replace
    (missing : Int -> Defect)
    (numbers : List Int)
    (place number : Int) : Except Defect (List Int) :=
  match entry? numbers place with
  | some _ =>
      if IsWord number then
        .ok (numbers.set place.toNat number)
      else
        .error (.oversizedNumber number)
  | none => .error (missing place)

/-- Something that is done with a bare machine and the world behind its channels. -/
abbrev Activity (World α : Type) : Type :=
  EStateM Exit (BareMachine × World) α

variable {World α : Type}

/-- The machine as it is. -/
def machine : Activity World BareMachine :=
  return (← get).1

@[simp] theorem run_machine (state : BareMachine × World) :
    machine.run state = .ok state.1 state :=
  rfl

/-- Changes the machine. -/
def change (update : BareMachine -> BareMachine) : Activity World Unit :=
  modify fun (machine, world) => (update machine, world)

/-- Ends the activity with a fault of the program. -/
def raise
    (kind : FaultKind)
    (message : Text) : Activity World α :=
  throw (.fault kind message)

/-- Takes a result, or ends the activity with a defect. -/
def demand : Except Defect α -> Activity World α
  | .ok value => return value
  | .error defect => throw (.defect defect)

theorem run_demand
    (result : Except Defect α)
    (state : BareMachine × World) :
    (demand result).run state =
      match result with
      | .ok value => .ok value state
      | .error defect => .error (.defect defect) state := by
  cases result <;> rfl

/-- Takes a written form, or ends the activity with what disrupts the writing. -/
def spell : Except Disruption String -> Activity World String
  | .ok shown => return shown
  | .error disruption => throw (.disruption disruption)

@[simp] theorem run_spell_ok
    (shown : String)
    (state : BareMachine × World) :
    (spell (.ok shown)).run state = .ok shown state :=
  rfl

/-- Attempts an activity, and comes back with what is told about a fault of the program. -/
def attempt (activity : Activity World α) : Activity World (Except (FaultKind × Text) α) :=
  fun state =>
    match activity.run state with
    | .ok value state => .ok (.ok value) state
    | .error (.fault kind message) state => .ok (.error (kind, message)) state
    | .error exit state => .error exit state

theorem run_attempt
    (activity : Activity World α)
    (state : BareMachine × World) :
    (attempt activity).run state =
      match activity.run state with
      | .ok value state => .ok (.ok value) state
      | .error (.fault kind message) state => .ok (.error (kind, message)) state
      | .error exit state => .error exit state :=
  rfl

/-- The word in a cell. -/
def cell (address : Int) : Activity World Int := do
  demand (fetch .missingCell (← machine).memory address)

theorem run_cell
    (address : Int)
    (state : BareMachine × World) :
    (cell address).run state =
      match fetch .missingCell state.1.memory address with
      | .ok number => .ok number state
      | .error defect => .error (.defect defect) state := by
  rw [cell, EStateM.run_bind, run_machine]
  dsimp only
  cases fetch .missingCell state.1.memory address <;> rfl

/-- Stores a word in a cell. -/
def setCell (address number : Int) : Activity World Unit := do
  let memory ← demand (replace .missingCell (← machine).memory address number)
  change fun machine => { machine with memory }

theorem run_setCell
    (address number : Int)
    (state : BareMachine × World) :
    (setCell address number).run state =
      match replace .missingCell state.1.memory address number with
      | .ok memory => .ok () ({ state.1 with memory }, state.2)
      | .error defect => .error (.defect defect) state := by
  rw [setCell, EStateM.run_bind, run_machine]
  dsimp only
  rw [EStateM.run_bind, run_demand]
  cases replace .missingCell state.1.memory address number <;> rfl

/-- The word in a register. -/
def register (index : Int) : Activity World Int := do
  demand (fetch .missingRegister (← machine).registers index)

theorem run_register
    (index : Int)
    (state : BareMachine × World) :
    (register index).run state =
      match fetch .missingRegister state.1.registers index with
      | .ok number => .ok number state
      | .error defect => .error (.defect defect) state := by
  rw [register, EStateM.run_bind, run_machine]
  dsimp only
  cases fetch .missingRegister state.1.registers index <;> rfl

/-- Stores a word in a register. -/
def setRegister (index number : Int) : Activity World Unit := do
  let registers ← demand (replace .missingRegister (← machine).registers index number)
  change fun machine => { machine with registers }

theorem run_setRegister
    (index number : Int)
    (state : BareMachine × World) :
    (setRegister index number).run state =
      match replace .missingRegister state.1.registers index number with
      | .ok registers => .ok () ({ state.1 with registers }, state.2)
      | .error defect => .error (.defect defect) state := by
  rw [setRegister, EStateM.run_bind, run_machine]
  dsimp only
  rw [EStateM.run_bind, run_demand]
  cases replace .missingRegister state.1.registers index number <;> rfl

/-- The top of the stack. -/
def top : Activity World Int := do
  match (← machine).stack.getLast? with
  | some number => return number
  | none => throw (.defect .missingTop)

theorem run_top (state : BareMachine × World) :
    top.run state =
      match state.1.stack.getLast? with
      | some number => .ok number state
      | none => .error (.defect .missingTop) state := by
  rw [top, EStateM.run_bind, run_machine]
  dsimp only
  cases state.1.stack.getLast? <;> rfl

/-- Puts a number onto the stack. -/
def push (number : Int) : Activity World Unit :=
  change fun machine => { machine with stack := machine.stack ++ [number] }

@[simp] theorem run_push
    (number : Int)
    (state : BareMachine × World) :
    (push number).run state =
      .ok () ({ state.1 with stack := state.1.stack ++ [number] }, state.2) :=
  rfl

/-- Takes the top off the stack. -/
def drop : Activity World Unit := do
  let _ ← top
  change fun machine => { machine with stack := machine.stack.dropLast }

theorem run_drop (state : BareMachine × World) :
    drop.run state =
      match state.1.stack.getLast? with
      | some _ => .ok () ({ state.1 with stack := state.1.stack.dropLast }, state.2)
      | none => .error (.defect .missingTop) state := by
  rw [drop, EStateM.run_bind, run_top]
  cases state.1.stack.getLast? <;> rfl

/-- The remainder of a division. -/
def remainder (dividend divisor : Int) : Activity World Int :=
  if divisor = 0 then
    throw (.defect .zeroDivisor)
  else
    return dividend.fmod divisor

/-- Writes to the output channel. -/
def callWrite
    (channels : Channels World)
    (code : Int) : Activity World (Reply Unit) :=
  modifyGet fun (machine, world) =>
    let (receipt, world) := channels.write code world
    (receipt.reply, (machine, world))

@[simp] theorem run_callWrite
    (channels : Channels World)
    (code : Int)
    (machine : BareMachine)
    (world : World) :
    (callWrite channels code).run (machine, world) =
      .ok (channels.write code world).1.reply (machine, (channels.write code world).2) :=
  rfl

/-- Reads from the input channel. -/
def callRead (channels : Channels World) : Activity World (Reply Value) :=
  modifyGet fun (machine, world) =>
    let (reply, world) := channels.read world
    (reply, (machine, world))

@[simp] theorem run_callRead
    (channels : Channels World)
    (machine : BareMachine)
    (world : World) :
    (callRead channels).run (machine, world) =
      .ok (channels.read world).1 (machine, (channels.read world).2) :=
  rfl

end Bare
end WordMachine
