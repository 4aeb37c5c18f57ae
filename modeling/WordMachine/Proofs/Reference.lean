import Mathlib.Data.Int.Bitwise
import Mathlib.Logic.Function.Basic
import WordMachine.Machine.Basic

/-!
# The reference semantics

The instruction table in terms of natural numbers: what each code does to memory,
registers, stack and program counter, if nothing goes wrong.  A value that is read
from the input channel is given in advance.  This module knows nothing about how
a machine makes a step.
-/

namespace WordMachine
namespace Reference

/-- A machine whose parts are numbers and functions on numbers. -/
@[ext] structure State where
  /-- The word in every cell. -/
  memory : Nat -> Nat
  /-- The word in every register. -/
  registers : Nat -> Nat
  /-- The stack, its top first. -/
  stack : List Nat
  /-- The program counter. -/
  pc : Nat
  /-- The status. -/
  status : Status
  /-- How many instructions have been executed. -/
  executed : Nat

/-- What the world sees of an instruction. -/
inductive Event where
  /-- A character code was written. -/
  | sent (code : Nat)
  /-- A character code was read. -/
  | received (code : Nat)
deriving DecidableEq, Repr

namespace State

/-- The operand word at a distance from the program counter. -/
def operand
    (state : State)
    (distance : Nat) : Nat :=
  state.memory ((state.pc + distance) % 32768)

/-- The value of an operand word. -/
def resolve
    (state : State)
    (operand : Nat) : Nat :=
  if operand < 32768 then operand else state.registers (operand - 32768)

/-- The value of the operand at a distance from the program counter. -/
def value
    (state : State)
    (distance : Nat) : Nat :=
  state.resolve (state.operand distance)

/-- Stores a number where the first operand says.  A literal discards it. -/
def assign
    (state : State)
    (number : Nat) : State :=
  if state.operand 1 < 32768 then
    state
  else
    { state with registers := Function.update state.registers (state.operand 1 - 32768) number }

/-- Goes on with the instruction that follows an instruction of the given width. -/
def advance
    (state : State)
    (width : Nat) : State :=
  { state with pc := (state.pc + width) % 32768 }

/-- Goes on at an address. -/
def goTo
    (state : State)
    (address : Nat) : State :=
  { state with pc := address }

/-- Ends the program. -/
def halt (state : State) : State :=
  { state with status := .halted }

theorem pc_assign
    (state : State)
    (number : Nat) : (state.assign number).pc = state.pc := by
  unfold assign
  split <;> rfl

theorem executed_assign
    (state : State)
    (number : Nat) : (state.assign number).executed = state.executed := by
  unfold assign
  split <;> rfl

/-- Does what the instruction with the given code does. -/
def perform
    (state : State)
    (received : Nat) : Nat -> State
  | 0 => state.halt
  | 1 => (state.assign (state.value 2)).advance 3
  | 2 => { state with stack := state.value 1 :: state.stack }.advance 2
  | 3 =>
      match state.stack with
      | [] => state
      | top :: rest => { state.assign top with stack := rest }.advance 2
  | 4 => (state.assign (if state.value 2 = state.value 3 then 1 else 0)).advance 4
  | 5 => (state.assign (if state.value 2 > state.value 3 then 1 else 0)).advance 4
  | 6 => state.goTo (state.value 1)
  | 7 => if state.value 1 ≠ 0 then state.goTo (state.value 2) else state.advance 3
  | 8 => if state.value 1 = 0 then state.goTo (state.value 2) else state.advance 3
  | 9 => (state.assign ((state.value 2 + state.value 3) % 32768)).advance 4
  | 10 => (state.assign (state.value 2 * state.value 3 % 32768)).advance 4
  | 11 => (state.assign (state.value 2 % state.value 3)).advance 4
  | 12 => (state.assign (state.value 2 &&& state.value 3)).advance 4
  | 13 => (state.assign (state.value 2 ||| state.value 3)).advance 4
  | 14 => (state.assign (Int.land (Int.lnot (state.value 2)) 32767).toNat).advance 3
  | 15 => (state.assign (state.memory (state.value 2))).advance 3
  | 16 =>
      { state with
        memory := Function.update state.memory (state.value 1) (state.value 2) }.advance 3
  | 17 => { state with stack := (state.pc + 2) % 32768 :: state.stack }.goTo (state.value 1)
  | 18 =>
      match state.stack with
      | [] => state.halt
      | top :: rest => { state with stack := rest }.goTo top
  | 19 => state.advance 2
  | 20 => (state.assign received).advance 2
  | 21 => state.advance 1
  | _ => state

/-- What the world sees of the instruction with the given code. -/
def events
    (state : State)
    (received : Nat) : Nat -> List Event
  | 19 => [.sent (state.value 1)]
  | 20 => [.received received]
  | _ => []

end State

/-- Executes the instruction at the program counter, if the input channel has the given value. -/
def step
    (received : Nat)
    (state : State) : State × List Event :=
  let code := state.memory state.pc
  ({ state.perform received code with executed := state.executed + 1 },
    state.events received code)

end Reference
end WordMachine
