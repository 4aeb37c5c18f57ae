/-!
# Opcodes

The twenty-two instruction codes, their mnemonics and their operand counts.
`Opcode.ofCode?` is the inverse of `Opcode.code`.
-/

namespace WordMachine

/-- What an instruction does, as its first word says. -/
inductive Opcode where
  /-- Stop. -/
  | halt
  /-- Set a register to a value. -/
  | set
  /-- Push a value onto the stack. -/
  | push
  /-- Pop the top of the stack into a register. -/
  | pop
  /-- Compare for equality. -/
  | equal
  /-- Compare for being greater. -/
  | greater
  /-- Jump. -/
  | jump
  /-- Jump if a value is not zero. -/
  | jumpIf
  /-- Jump if a value is zero. -/
  | jumpUnless
  /-- Add. -/
  | add
  /-- Multiply. -/
  | multiply
  /-- Take the remainder of a division. -/
  | modulo
  /-- Bitwise and. -/
  | bitAnd
  /-- Bitwise or. -/
  | bitOr
  /-- Fifteen-bit complement. -/
  | bitNot
  /-- Read memory. -/
  | readMemory
  /-- Write memory. -/
  | writeMemory
  /-- Push the address of the next instruction and jump. -/
  | call
  /-- Pop an address and jump to it. -/
  | ret
  /-- Write a character to the output channel. -/
  | output
  /-- Read a character from the input channel. -/
  | input
  /-- Do nothing. -/
  | noop
deriving DecidableEq, Repr

namespace Opcode

/-- All opcodes in the order of their codes. -/
def all : List Opcode :=
  [.halt, .set, .push, .pop, .equal, .greater, .jump, .jumpIf, .jumpUnless, .add,
    .multiply, .modulo, .bitAnd, .bitOr, .bitNot, .readMemory, .writeMemory,
    .call, .ret, .output, .input, .noop]

/-- The word that stands for an opcode in memory. -/
def code : Opcode -> Nat
  | .halt => 0
  | .set => 1
  | .push => 2
  | .pop => 3
  | .equal => 4
  | .greater => 5
  | .jump => 6
  | .jumpIf => 7
  | .jumpUnless => 8
  | .add => 9
  | .multiply => 10
  | .modulo => 11
  | .bitAnd => 12
  | .bitOr => 13
  | .bitNot => 14
  | .readMemory => 15
  | .writeMemory => 16
  | .call => 17
  | .ret => 18
  | .output => 19
  | .input => 20
  | .noop => 21

/-- The opcode that a number stands for, if there is one. -/
def ofCode? : Int -> Option Opcode
  | .ofNat code => all[code]?
  | .negSucc _ => none

/-- The short lower-case name. -/
def mnemonic : Opcode -> String
  | .halt => "halt"
  | .set => "set"
  | .push => "push"
  | .pop => "pop"
  | .equal => "eq"
  | .greater => "gt"
  | .jump => "jmp"
  | .jumpIf => "jt"
  | .jumpUnless => "jf"
  | .add => "add"
  | .multiply => "mult"
  | .modulo => "mod"
  | .bitAnd => "and"
  | .bitOr => "or"
  | .bitNot => "not"
  | .readMemory => "rmem"
  | .writeMemory => "wmem"
  | .call => "call"
  | .ret => "ret"
  | .output => "out"
  | .input => "in"
  | .noop => "noop"

/-- The name in capital letters. -/
def name (opcode : Opcode) : String :=
  opcode.mnemonic.toUpper

/-- How many operand words follow the opcode. -/
def operandCount : Opcode -> Nat
  | .halt | .ret | .noop => 0
  | .push | .pop | .jump | .call | .output | .input => 1
  | .set | .jumpIf | .jumpUnless | .bitNot | .readMemory | .writeMemory => 2
  | .equal | .greater | .add | .multiply | .modulo | .bitAnd | .bitOr => 3

/-- The length of the whole instruction in words. -/
def width (opcode : Opcode) : Nat :=
  1 + opcode.operandCount

@[simp] theorem ofCode?_code (opcode : Opcode) :
    ofCode? opcode.code = some opcode := by
  cases opcode <;> rfl

theorem ofCode?_eq_some_iff
    (code : Int)
    (opcode : Opcode) :
    ofCode? code = some opcode ↔ code = opcode.code := by
  constructor
  · cases code with
    | ofNat code =>
        intro found
        have bound : code < 22 := (List.getElem?_eq_some_iff.mp found).choose
        have check : ∀ candidate < 22, ∀ result,
            all[candidate]? = some result -> candidate = result.code := by
          decide
        exact congrArg Int.ofNat (check code bound opcode found)
    | negSucc code => simp [ofCode?]
  · rintro rfl
    exact ofCode?_code opcode

end Opcode
end WordMachine
