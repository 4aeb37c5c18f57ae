import Mathlib.Data.Int.Bitwise
import WordMachine.Proofs.Bare.Basic

/-!
# The instructions of a bare machine

Every opcode has a handler: an activity that checks, reads and changes in an
order of its own, and comes back with the address where execution goes on, or
with nothing if that is the next instruction.
-/

namespace WordMachine
namespace Bare

variable {World α : Type}

/-! ## Operands -/

/-- The value of a source operand. -/
def resolve (operand : Int) : Activity World Int :=
  if operand < 32768 then
    return operand
  else if operand ≤ 32775 then
    register (operand - 32768)
  else do
    raise .invalidOperand s!"invalid operand {← spell (shownNumber operand)}"

/-- Stores a number where an operand says.  A literal discards it. -/
def store (operand number : Int) : Activity World Unit :=
  if operand < 32768 then
    return
  else if 32775 < operand then do
    raise .invalidOperand s!"invalid operand {← spell (shownNumber operand)}"
  else
    setRegister (operand - 32768) number

/-- A number that is to serve as an address. -/
def locate
    (access : Access)
    (number : Int) : Activity World Int :=
  if 0 ≤ number ∧ number < 32768 then
    return number
  else do
    let shown ← spell (shownNumber number)
    raise .invalidMemoryAccess s!"{access.name} address {shown} outside 0..32767"

/-! ## Handlers -/

/-- Ends the program. -/
def handleHalt : Activity World (Option Int) := do
  change fun machine => { machine with status := .halted }
  return some (← machine).pc

/-- Stores the second operand in the first. -/
def handleSet (target source : Int) : Activity World (Option Int) := do
  store target (← resolve source)
  return none

/-- Pushes an operand. -/
def handlePush (source : Int) : Activity World (Option Int) := do
  push (← resolve source)
  return none

/-- Pops into an operand.  The entry is dropped only after it has been stored. -/
def handlePop (target : Int) : Activity World (Option Int) := do
  if (← machine).stack.isEmpty then
    raise .stackUnderflow "pop from empty stack"
  else
    store target (← top)
    drop
    return none

/-- Stores a function of the second and third operand in the first. -/
def handleBinary
    (operation : Int -> Int -> Int)
    (target left right : Int) : Activity World (Option Int) := do
  let left ← resolve left
  let right ← resolve right
  store target (operation left right)
  return none

/-- Jumps. -/
def handleJump (target : Int) : Activity World (Option Int) :=
  return some (← locate .jump (← resolve target))

/-- Jumps if the first operand passes a test. -/
def handleBranch
    (taken : Int -> Bool)
    (condition target : Int) : Activity World (Option Int) := do
  if taken (← resolve condition) then
    return some (← locate .jump (← resolve target))
  else
    return none

/-- Stores the remainder of the second operand by the third in the first. -/
def handleModulo (target dividend divisor : Int) : Activity World (Option Int) := do
  let divisor ← resolve divisor
  if divisor = 0 then
    raise .arithmeticFault "mod by zero"
  else
    store target (← remainder (← resolve dividend) divisor)
    return none

/-- Stores the fifteen low bits of the second operand, each reversed, in the first. -/
def handleBitNot (target source : Int) : Activity World (Option Int) := do
  store target (Int.land (Int.lnot (← resolve source)) 32767)
  return none

/-- Stores the cell whose address is the second operand in the first. -/
def handleReadMemory (target source : Int) : Activity World (Option Int) := do
  let address ← locate .read (← resolve source)
  store target (← cell address)
  return none

/-- Stores the second operand in the cell whose address is the first. -/
def handleWriteMemory (target source : Int) : Activity World (Option Int) := do
  let address ← locate .write (← resolve target)
  setCell address (← resolve source)
  return none

/-- Pushes the address of the next instruction and jumps. -/
def handleCall (target : Int) : Activity World (Option Int) := do
  let address ← locate .call (← resolve target)
  push (((← machine).pc + 2) % 32768)
  return some address

/-- Pops an address and jumps to it, or ends the program if the stack is empty. -/
def handleReturn : Activity World (Option Int) := do
  if (← machine).stack.isEmpty then
    handleHalt
  else
    let address ← locate .ret (← top)
    drop
    return some address

/-- Writes an operand to the output channel. -/
def handleOutput
    (channels : Channels World)
    (source : Int) : Activity World (Option Int) := do
  match ← callWrite channels (← resolve source) with
  | .done _ => return none
  | .failed failure => raise .channelFailure s!"output port raised {failure.display}"
  | .interrupted words => throw (.disruption (.interruption words))

/-- The number of a value from the input channel.  Nobody attempts to absorb what comes out of the
value while it is looked at. -/
def accept : Value -> Activity World Int
  | .integer number => do
      if 0 ≤ number ∧ number ≤ 32767 then
        return number
      else
        let shown ← spell (shownNumber number)
        raise .channelFailure s!"input port produced out-of-range value {shown}"
  | .evasive disruption _ => throw (.disruption disruption)
  | value => do
      raise .channelFailure s!"input port produced non-integer value {← spell value.display}"

/-- Stores a character from the input channel in an operand.  The operand is checked first. -/
def handleInput
    (channels : Channels World)
    (target : Int) : Activity World (Option Int) := do
  if 32775 < target then
    raise .invalidOperand s!"invalid operand {← spell (shownNumber target)}"
  else
    match ← callRead channels with
    | .done value =>
        store target (← accept value)
        return none
    | .failed failure =>
        if failure.isEndOfInput then
          raise .inputExhausted ("input exhausted: " ++ failure.text)
        else
          raise .channelFailure s!"input port raised {failure.display}"
    | .interrupted words => throw (.disruption (.interruption words))

/-- Does nothing. -/
def handleNoop : Activity World (Option Int) :=
  return none

/-! ## Dispatch -/

/-- A handler, which takes a fixed number of operands. -/
inductive Handler (World : Type) where
  /-- It takes no operand. -/
  | nullary (body : Activity World (Option Int))
  /-- It takes one operand. -/
  | unary (body : Int -> Activity World (Option Int))
  /-- It takes two operands. -/
  | binary (body : Int -> Int -> Activity World (Option Int))
  /-- It takes three operands. -/
  | ternary (body : Int -> Int -> Int -> Activity World (Option Int))

/-- Calls a handler with operands. -/
def Handler.call : Handler World -> List Int -> Activity World (Option Int)
  | .nullary body, [] => body
  | .unary body, [first] => body first
  | .binary body, [first, second] => body first second
  | .ternary body, [first, second, third] => body first second third
  | _, operands => throw (.defect (.operandMismatch operands.length))

/-- The handlers under their opcodes. -/
def handlers (channels : Channels World) : List (Opcode × Handler World) :=
  [(.halt, .nullary handleHalt),
    (.set, .binary handleSet),
    (.push, .unary handlePush),
    (.pop, .unary handlePop),
    (.equal, .ternary (handleBinary fun left right => if left = right then 1 else 0)),
    (.greater, .ternary (handleBinary fun left right => if right < left then 1 else 0)),
    (.jump, .unary handleJump),
    (.jumpIf, .binary (handleBranch fun number => number != 0)),
    (.jumpUnless, .binary (handleBranch fun number => number == 0)),
    (.add, .ternary (handleBinary fun left right => (left + right) % 32768)),
    (.multiply, .ternary (handleBinary fun left right => left * right % 32768)),
    (.modulo, .ternary handleModulo),
    (.bitAnd, .ternary (handleBinary Int.land)),
    (.bitOr, .ternary (handleBinary Int.lor)),
    (.bitNot, .binary handleBitNot),
    (.readMemory, .binary handleReadMemory),
    (.writeMemory, .binary handleWriteMemory),
    (.call, .unary handleCall),
    (.ret, .nullary handleReturn),
    (.output, .unary (handleOutput channels)),
    (.input, .unary (handleInput channels)),
    (.noop, .nullary handleNoop)]

/-- The handler of an opcode. -/
def handler
    (channels : Channels World)
    (opcode : Opcode) : Activity World (Handler World) :=
  match (handlers channels).lookup opcode with
  | some handler => return handler
  | none => throw (.defect (.missingHandler opcode))

end Bare
end WordMachine
