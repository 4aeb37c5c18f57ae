import WordMachine.Machine.Basic

/-!
# Snapshots

A snapshot holds everything that is observable about a machine except its
memory.  It can also be made up of arbitrary numbers, and with any number of
registers.  `Snapshot.fields` lists its contents under their labels, and
`Snapshot.dump` is the dump that is printed when a run ends.
-/

namespace WordMachine

/-- What is observable about a machine except its memory. -/
@[ext] structure Snapshot where
  /-- The program counter. -/
  pc : Int
  /-- The registers in the order of their numbers. -/
  registers : List Int
  /-- The stack, its bottom first. -/
  stack : List Int
  /-- The status. -/
  status : Status
  /-- The number of instructions executed so far. -/
  executed : Int
  /-- The line that describes the fault, if there is one. -/
  error : Option Text
deriving DecidableEq, Repr

/-- What stands in one field of a listed snapshot. -/
inductive FieldValue where
  /-- A number. -/
  | number (value : Int)
  /-- Several numbers. -/
  | numbers (values : List Int)
  /-- A text. -/
  | text (content : Text)
deriving DecidableEq, Repr

namespace Snapshot

/-- The contents under their labels.  There is no label for an absent error. -/
def fields (snapshot : Snapshot) : List (String × FieldValue) :=
  [("pc", .number snapshot.pc)] ++
    snapshot.registers.zipIdx.map (fun (value, index) => (s!"r{index}", .number value)) ++
    [("stack", .numbers snapshot.stack), ("status", .text snapshot.status.label),
      ("instruction_count", .number snapshot.executed)] ++
    (snapshot.error.map fun error => ("error", .text error)).toList

/-- The lines of the dump. -/
def dumpLines (snapshot : Snapshot) : List Text :=
  let status : List Text := ["*** VM STATUS ***", snapshot.status.name]
  let registers : List Text :=
    snapshot.registers.zipIdx.map fun (value, index) => s!"R{index}: {Text.hex 4 value}"
  let counters : List Text :=
    [s!"PC : {Text.hex 4 snapshot.pc}", s!"STACK DEPTH: {snapshot.stack.length}",
      s!"INSTRUCTIONS: {snapshot.executed}", "*****************"]
  status ++ snapshot.error.toList ++ registers ++ counters

/-- The dump: the status, the error, the registers and the counters, one to a line. -/
def dump (snapshot : Snapshot) : Text :=
  Text.separated "\n" snapshot.dumpLines

end Snapshot

/-- The snapshot of a machine. -/
def Machine.snapshot (machine : Machine) : Snapshot where
  pc := machine.pc.val
  registers := machine.registers.toList.map fun word => word.toNat
  stack := machine.stackFromBottom.map fun word => word.toNat
  status := machine.status
  executed := machine.executed
  error := machine.fault?.map Fault.describe

@[simp] theorem Machine.length_registers_snapshot (machine : Machine) :
    machine.snapshot.registers.length = 8 := by
  simp [snapshot]

end WordMachine
