import WordMachine.Channel.Failure
import WordMachine.Word

/-!
# Faults

A fault is the reason why an instruction could not be executed, together with
the place of that instruction.  `Cause.kind` classifies the reasons and
`Cause.message` words them; `FaultReport.describe` is the one-line form in which
faults appear in dumps and in the log.  A cause holds the written form of what
it tells about; where the writing is disrupted there is no cause, and a `Refusal`
is the one or the other.
-/

namespace WordMachine

/-- The classes of faults. -/
inductive FaultKind where
  /-- An entry was wanted from an empty stack. -/
  | stackUnderflow
  /-- The instruction code means nothing. -/
  | unknownOpcode
  /-- A word was used as an address and is none. -/
  | invalidMemoryAccess
  /-- A remainder was to be taken by zero. -/
  | arithmeticFault
  /-- An operand word means nothing. -/
  | invalidOperand
  /-- Input was wanted and there was none. -/
  | inputExhausted
  /-- A channel failed, or delivered what is no character code. -/
  | channelFailure
deriving DecidableEq, Repr

namespace FaultKind

/-- All classes of faults. -/
def all : List FaultKind :=
  [.stackUnderflow, .unknownOpcode, .invalidMemoryAccess, .arithmeticFault,
    .invalidOperand, .inputExhausted, .channelFailure]

/-- The name in capital letters. -/
def name : FaultKind -> String
  | .stackUnderflow => "STACK_UNDERFLOW"
  | .unknownOpcode => "UNKNOWN_OPCODE"
  | .invalidMemoryAccess => "INVALID_MEMORY_ACCESS"
  | .arithmeticFault => "ARITHMETIC_FAULT"
  | .invalidOperand => "INVALID_OPERAND"
  | .inputExhausted => "INPUT_EXHAUSTED"
  | .channelFailure => "PORT_FAILURE"

/-- The name in small letters, which serves as the label of the class. -/
def label (kind : FaultKind) : String :=
  kind.name.toLower

/-- The class with a given label. -/
def ofLabel? (label : Text) : Option FaultKind :=
  all.find? fun kind => Text.ofString kind.label == label

end FaultKind

/-- What an address was wanted for. -/
inductive Access where
  /-- Reading memory. -/
  | read
  /-- Writing memory. -/
  | write
  /-- Jumping. -/
  | jump
  /-- Calling a subroutine. -/
  | call
  /-- Returning from a subroutine. -/
  | ret
deriving DecidableEq, Repr

/-- The word for an access. -/
def Access.name : Access -> String
  | .read => "read"
  | .write => "write"
  | .jump => "jump"
  | .call => "call"
  | .ret => "return"

/-- Why an instruction could not be executed. -/
inductive Cause where
  /-- The word at the program counter is no opcode. -/
  | unknownOpcode (code : Word) (pc : Address)
  /-- There was nothing to pop. -/
  | emptyStack
  /-- A remainder by zero. -/
  | zeroDivisor
  /-- A word was used as an address and is none. -/
  | badAddress (access : Access) (word : Word)
  /-- An operand is neither a literal nor a register. -/
  | badOperand (shown : String)
  /-- The input channel has no more input, and says so in the given words. -/
  | noInput (words : Text)
  /-- The input channel failed. -/
  | inputFailed (failure : Failure)
  /-- The input channel delivered something that is no integer. -/
  | inputNotInteger (shown : String)
  /-- The input channel delivered an integer that is no fifteen-bit word. -/
  | inputOutOfRange (shown : String)
  /-- The output channel failed. -/
  | outputFailed (failure : Failure)
deriving DecidableEq, Repr

namespace Cause

/-- The class a cause belongs to. -/
def kind : Cause -> FaultKind
  | .unknownOpcode .. => .unknownOpcode
  | .emptyStack => .stackUnderflow
  | .zeroDivisor => .arithmeticFault
  | .badAddress .. => .invalidMemoryAccess
  | .badOperand .. => .invalidOperand
  | .noInput .. => .inputExhausted
  | .inputFailed .. | .inputNotInteger .. | .inputOutOfRange .. | .outputFailed .. =>
      .channelFailure

/-- The words for a cause. -/
def message : Cause -> Text
  | .unknownOpcode code pc => s!"unknown opcode {code.toNat} at pc {pc.val}"
  | .emptyStack => "pop from empty stack"
  | .zeroDivisor => "mod by zero"
  | .badAddress access word => s!"{access.name} address {word.toNat} outside 0..32767"
  | .badOperand shown => s!"invalid operand {shown}"
  | .noInput words => "input exhausted: " ++ words
  | .inputFailed failure => s!"input port raised {failure.display}"
  | .inputNotInteger shown => s!"input port produced non-integer value {shown}"
  | .inputOutOfRange shown => s!"input port produced out-of-range value {shown}"
  | .outputFailed failure => s!"output port raised {failure.display}"

end Cause

/-- Why a value cannot be used. -/
inductive Refusal where
  /-- It is a reason for a fault. -/
  | fault (cause : Cause)
  /-- The value disrupts whoever looks at it. -/
  | disruption (disruption : Disruption)
deriving DecidableEq, Repr

/-- The refusal for a cause that tells about something to be shown. -/
def Refusal.showing (cause : String -> Cause) : Except Disruption String -> Refusal
  | .ok shown => .fault (cause shown)
  | .error disrupted => .disruption disrupted

@[simp] theorem shownNumber_word (word : Word) :
    shownNumber word.toNat = .ok (toString word.toNat) :=
  shownNumber_natCast word.toNat_lt

@[simp] theorem shownNumber_address (address : Address) :
    shownNumber address.val = .ok (toString address.val) :=
  shownNumber_natCast (by omega)

/-- What is told about a fault: its class, the words for it, and where it happened. -/
structure FaultReport where
  /-- The class of the fault. -/
  kind : FaultKind
  /-- The words for it. -/
  message : Text
  /-- The program counter. -/
  pc : Int
deriving DecidableEq, Repr

/-- The report in one line. -/
def FaultReport.describe (report : FaultReport) : Text :=
  s!"{report.kind.name} at pc={report.pc} (0x{Text.hex 4 report.pc}): " ++ report.message

/-- The reason why a machine stopped before its program did. -/
structure Fault where
  /-- Why the instruction could not be executed. -/
  cause : Cause
  /-- Where the instruction is. -/
  pc : Address
deriving DecidableEq, Repr

namespace Fault

/-- What is told about the fault. -/
def report (fault : Fault) : FaultReport :=
  { kind := fault.cause.kind, message := fault.cause.message, pc := fault.pc.val }

/-- The fault in one line. -/
def describe (fault : Fault) : Text :=
  fault.report.describe

end Fault
end WordMachine
