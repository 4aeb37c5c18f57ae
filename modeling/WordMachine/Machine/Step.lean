import WordMachine.Machine.Basic
import WordMachine.Opcode
import WordMachine.Channel.Basic

/-!
# Execution of one instruction

A step has two phases.  `Machine.plan` only looks at the machine: it decodes the
instruction at the program counter and evaluates its operands, and either finds
a cause for a fault or says what is to be done.  Then, after at most one call of
a channel, `Machine.apply` changes the machine.  So a machine whose instruction
fails, or is interrupted, is as it was.  What the input channel delivers may fail
when it is looked at; that does not make the machine fault, but cuts the step
short like an interruption.
-/

namespace WordMachine

/-- A change of a machine by one instruction, its operands evaluated. -/
inductive Effect where
  /-- The program ends here. -/
  | halt
  /-- Only the program counter moves on. -/
  | proceed
  /-- Execution goes on elsewhere. -/
  | jump (target : Address)
  /-- A word goes where an operand says. -/
  | assign (target : Operand) (word : Word)
  /-- A word goes onto the stack. -/
  | push (word : Word)
  /-- The top of the stack goes where an operand says. -/
  | pop (target : Operand) (top : Word)
  /-- A word goes into memory. -/
  | poke (address : Address) (word : Word)
  /-- The address of the next instruction goes onto the stack, and execution goes on elsewhere. -/
  | call (target : Address)
  /-- The top of the stack is dropped, and execution goes on elsewhere. -/
  | leave (target : Address)
deriving DecidableEq, Repr

/-- What an instruction asks for. -/
inductive Action where
  /-- A change of the machine alone. -/
  | settle (effect : Effect)
  /-- A character code for the output channel. -/
  | send (code : Word)
  /-- A character code from the input channel. -/
  | receive (target : Operand)
deriving DecidableEq, Repr

namespace Machine

/-! ## Reading the machine -/

/-- The operand word at a distance from the program counter. -/
def operandWord
    (machine : Machine)
    (distance : Nat) : Word :=
  machine.memory.get (machine.pc.advance distance)

/-- What an operand word denotes, or the cause why it denotes nothing. -/
def denoted (word : Word) : Except Cause Operand :=
  match Operand.ofWord? word with
  | some operand => .ok operand
  | none => .error (.badOperand (toString word.toNat))

/-- The value of the operand at a distance from the program counter. -/
def source
    (machine : Machine)
    (distance : Nat) : Except Cause Word := do
  let operand ← denoted (machine.operandWord distance)
  return machine.valueOf operand

/-- The destination at a distance from the program counter. -/
def destination
    (machine : Machine)
    (distance : Nat) : Except Cause Operand :=
  denoted (machine.operandWord distance)

/-- The address that a word names, or the cause why it cannot be accessed. -/
def located
    (access : Access)
    (word : Word) : Except Cause Address :=
  match Word.address? word with
  | some address => .ok address
  | none => .error (.badAddress access word)

/-- An instruction that stores a function of its second and third operand in its first. -/
def planBinary
    (machine : Machine)
    (operation : Word -> Word -> Word) : Except Cause Action := do
  let left ← machine.source 2
  let right ← machine.source 3
  let target ← machine.destination 1
  return .settle (.assign target (operation left right))

/-- An instruction that jumps if its first operand passes a test. -/
def planBranch
    (machine : Machine)
    (taken : Word -> Bool) : Except Cause Action := do
  if taken (← machine.source 1) then
    return .settle (.jump (← located .jump (← machine.source 2)))
  else
    return .settle .proceed

/-- What the instruction with a given opcode at the program counter asks for. -/
def planOpcode
    (machine : Machine) : Opcode -> Except Cause Action
  | .halt => return .settle .halt
  | .set => do
      let word ← machine.source 2
      return .settle (.assign (← machine.destination 1) word)
  | .push => return .settle (.push (← machine.source 1))
  | .pop =>
      match machine.stack with
      | [] => throw .emptyStack
      | top :: _ => return .settle (.pop (← machine.destination 1) top)
  | .equal => machine.planBinary fun left right => Word.ofBool (left == right)
  | .greater => machine.planBinary fun left right => Word.ofBool (right < left)
  | .jump => return .settle (.jump (← located .jump (← machine.source 1)))
  | .jumpIf => machine.planBranch fun word => word != 0
  | .jumpUnless => machine.planBranch fun word => word == 0
  | .add => machine.planBinary Word.add
  | .multiply => machine.planBinary Word.multiply
  | .modulo => do
      let divisor ← machine.source 3
      if divisor = 0 then
        throw .zeroDivisor
      let dividend ← machine.source 2
      return .settle (.assign (← machine.destination 1) (dividend % divisor))
  | .bitAnd => machine.planBinary fun left right => left &&& right
  | .bitOr => machine.planBinary fun left right => left ||| right
  | .bitNot => do
      let word ← machine.source 2
      return .settle (.assign (← machine.destination 1) (Word.complement word))
  | .readMemory => do
      let place ← located .read (← machine.source 2)
      return .settle (.assign (← machine.destination 1) (machine.memory.get place))
  | .writeMemory => do
      let place ← located .write (← machine.source 1)
      return .settle (.poke place (← machine.source 2))
  | .call => return .settle (.call (← located .call (← machine.source 1)))
  | .ret =>
      match machine.stack with
      | [] => return .settle .halt
      | top :: _ => return .settle (.leave (← located .ret top))
  | .output => return .send (← machine.source 1)
  | .input => return .receive (← machine.destination 1)
  | .noop => return .settle .proceed

/-- The opcode at the program counter, if there is one. -/
def opcode? (machine : Machine) : Option Opcode :=
  Opcode.ofCode? (machine.memory.get machine.pc).toNat

/-- The opcode at the program counter, and what its instruction asks for. -/
def plan (machine : Machine) : Except Cause (Opcode × Action) :=
  match machine.opcode? with
  | none => .error (.unknownOpcode (machine.memory.get machine.pc) machine.pc)
  | some opcode => do return (opcode, ← machine.planOpcode opcode)

/-! ## Changing the machine -/

/-- Counts one executed instruction, after which execution goes on at an address. -/
def continueAt
    (machine : Machine)
    (next : Address) : Machine :=
  { machine with pc := next, executed := machine.executed + 1 }

/-- Changes the machine as an instruction of the given opcode asks for. -/
def apply
    (machine : Machine)
    (opcode : Opcode)
    (effect : Effect) : Machine :=
  let next := machine.pc.advance opcode.width
  match effect with
  | .halt =>
      { machine with condition := .halted, executed := machine.executed + 1 }
  | .proceed => machine.continueAt next
  | .jump target => machine.continueAt target
  | .assign target word => (machine.store target word).continueAt next
  | .push word => { machine with stack := word :: machine.stack }.continueAt next
  | .pop target top =>
      { machine.store target top with stack := machine.stack.tail }.continueAt next
  | .poke address word =>
      { machine with memory := machine.memory.set address word }.continueAt next
  | .call target => { machine with stack := next.toWord :: machine.stack }.continueAt target
  | .leave target => { machine with stack := machine.stack.tail }.continueAt target

/-- The machine after a fault of its present instruction. -/
def fail
    (machine : Machine)
    (cause : Cause) : Machine :=
  { machine with condition := .faulted { cause, pc := machine.pc } }

/-! ## Steps -/

/-- The word that a value from the input channel is, or why it is none. -/
def receivedWord : Value -> Except Refusal Word
  | .integer number =>
      if 0 ≤ number ∧ number < 32768 then
        .ok (UInt16.ofNat number.toNat)
      else
        .error (.showing .inputOutOfRange (shownNumber number))
  | .evasive disruption _ => .error (.disruption disruption)
  | value => .error (.showing .inputNotInteger value.display)

/-- Why an instruction faults whose read failed. -/
def readCause (failure : Failure) : Cause :=
  if failure.isEndOfInput then .noInput failure.text else .inputFailed failure

/-- What comes of a step. -/
structure Outcome (World : Type) where
  /-- The machine after the step. -/
  machine : Machine
  /-- The world after the step. -/
  world : World
  /-- What the channels and the machine have to tell about the step. -/
  notices : List Notice := []
  /-- What interrupted the step, which then was not made. -/
  interrupted : Option Disruption := none

/-- What comes of a step that faults. -/
def faultOutcome {World : Type}
    (machine : Machine)
    (cause : Cause)
    (world : World)
    (notices : List Notice) : Outcome World :=
  let fault : Fault := { cause, pc := machine.pc }
  { machine := machine.fail cause, world, notices := notices ++ [.machineFaulted fault] }

/-- Executes one instruction.  A machine that does not run stays as it is. -/
def step {World : Type}
    (channels : Channels World)
    (machine : Machine)
    (world : World) : Outcome World :=
  match machine.condition with
  | .running =>
      match machine.plan with
      | .error cause => machine.faultOutcome cause world []
      | .ok (opcode, .settle effect) => { machine := machine.apply opcode effect, world }
      | .ok (opcode, .send code) =>
          match channels.write code.toNat world with
          | (⟨.done _, notices⟩, world) =>
              { machine := machine.apply opcode .proceed, world, notices }
          | (⟨.failed failure, notices⟩, world) =>
              machine.faultOutcome (.outputFailed failure) world notices
          | (⟨.interrupted words, notices⟩, world) =>
              { machine, world, notices, interrupted := some (.interruption words) }
      | .ok (opcode, .receive target) =>
          match channels.read world with
          | (.done value, world) =>
              match receivedWord value with
              | .ok word => { machine := machine.apply opcode (.assign target word), world }
              | .error (.fault cause) => machine.faultOutcome cause world []
              | .error (.disruption disruption) =>
                  { machine, world, interrupted := some disruption }
          | (.failed failure, world) => machine.faultOutcome (readCause failure) world []
          | (.interrupted words, world) =>
              { machine, world, interrupted := some (.interruption words) }
  | _ => { machine, world }

end Machine
end WordMachine
