import WordMachine.Opcode
import WordMachine.Snapshot.Basic
import WordMachine.Text.Blank

/-!
# Changes between snapshots

`Snapshot.diff?` lists how the program counter, the eight registers, the stack
and the status of two snapshots differ.  `StepReport.describe` is the line that
a traced run writes for every instruction.
-/

namespace WordMachine

/-- How one field of a snapshot differs from that of another. -/
inductive Change where
  /-- The program counters differ. -/
  | pc (before after : Int)
  /-- The registers of one number differ. -/
  | register (index : Nat) (before after : Int)
  /-- The stacks differ. -/
  | stack (before after : List Int)
  /-- The statuses differ. -/
  | status (before after : Status)
deriving DecidableEq, Repr

namespace Change

/-- The name of the field. -/
def name : Change -> String
  | .pc .. => "PC"
  | .register index .. => s!"R{index}"
  | .stack .. => "STACK"
  | .status .. => "STATUS"

/-- Numbers between parentheses; a single one is followed by a comma. -/
def parenthesized : List Int -> String
  | [number] => s!"({number},)"
  | numbers => "(" ++ ", ".intercalate (numbers.map toString) ++ ")"

/-- A status with the name of its type. -/
def qualified (status : Status) : String :=
  "ExecutionStatus." ++ status.name

/-- The change as it stands in a trace. -/
def describe (change : Change) : String :=
  match change with
  | .pc before after | .register _ before after =>
      change.name ++ "=" ++ toString before ++ "->" ++ toString after
  | .stack before after =>
      change.name ++ "=" ++ parenthesized before ++ "->" ++ parenthesized after
  | .status before after =>
      change.name ++ "=" ++ qualified before ++ "->" ++ qualified after

end Change

namespace Snapshot

/-- A list of one change, or none where both sides agree. -/
def changeOf {α : Type} [DecidableEq α]
    (change : α -> α -> Change)
    (before after : α) : List Change :=
  if before = after then [] else [change before after]

/-- The changes of the first eight registers. -/
def registerChanges (before after : List Int) : List Change :=
  ((before.zip after).take 8).zipIdx.flatMap fun ((before, after), index) =>
    changeOf (Change.register index) before after

/-- All changes: of the program counter, the registers, the stack and the status. -/
def changes (before after : Snapshot) : List Change :=
  changeOf Change.pc before.pc after.pc ++
    registerChanges before.registers after.registers ++
    changeOf Change.stack before.stack after.stack ++
    changeOf Change.status before.status after.status

/-- All changes, if both snapshots have at least eight registers. -/
def diff? (before after : Snapshot) : Option (List Change) :=
  if 8 ≤ before.registers.length ∧ 8 ≤ after.registers.length then
    some (before.changes after)
  else
    none

theorem diff?_snapshot (before after : Machine) :
    before.snapshot.diff? after.snapshot = some (before.snapshot.changes after.snapshot) := by
  simp [diff?]

end Snapshot

/-- What the execution of one instruction did. -/
structure StepReport where
  /-- Where the instruction was. -/
  pc : Int
  /-- The short name of the instruction. -/
  mnemonic : Text
  /-- The snapshot before it. -/
  before : Snapshot
  /-- The snapshot after it. -/
  after : Snapshot
  /-- What it changed. -/
  changed : List Change
deriving DecidableEq, Repr

namespace StepReport

/-- The report on the instruction with a given name that led from one snapshot to the next. -/
def between
    (mnemonic : Text)
    (before after : Snapshot) : StepReport :=
  { pc := before.pc, mnemonic, before, after, changed := before.changes after }

/-- The status that the instruction left. -/
def status (report : StepReport) : Status :=
  report.after.status

/-- The place, the mnemonic and the changes in one line, without blanks at its end. -/
def describe (report : StepReport) : Text :=
  let mnemonic : Text := ⟨List.rightpad 4 (CodePoint.ofChar ' ') report.mnemonic.points⟩
  let changed := " ".intercalate (report.changed.map Change.describe)
  let line : Text := (Text.hex 4 report.pc ++ " ") ++ mnemonic ++ (" " ++ changed)
  line.trimEnd

end StepReport

namespace Machine

/-- The short name of the instruction at the program counter, or a question mark and the code. -/
def mnemonic (machine : Machine) : String :=
  let code := (machine.memory.get machine.pc).toNat
  match Opcode.ofCode? code with
  | some opcode => opcode.mnemonic
  | none => s!"?{code}"

end Machine
end WordMachine
