import Mathlib.Data.List.Basic
import WordMachine.Proofs.Hexadecimal
import WordMachine.Proofs.Lines
import WordMachine.Snapshot.Basic

/-!
# What a dump tells

The error of a snapshot stands in the dump as it is, and may look like other lines of it.  All
the same, a dump is cut into lines in one way only, the lines after the error are as many as
ever, and each of them can be read back.  So snapshots with eight registers have the same dump
exactly if they show the same, and the same listed fields exactly if also the stacks are the
same: `Snapshot.dump_unambiguous`.
-/

namespace WordMachine

/-! ## Numbers in a line -/

namespace Text

/-- Numbers in hexadecimal hold no newline, so that each takes one line of the dump. -/
theorem isSingleLine_hex
    (width : Nat)
    (number : Int) : IsSingleLine (hex width number) := by
  rw [isSingleLine_ofString]
  intro isThere
  rcases mem_hex isThere with minus | digit
  · exact absurd minus (by decide)
  · exact absurd digit (by decide)

/-- Decimals hold no newline. -/
theorem isSingleLine_natural (number : Nat) : IsSingleLine (toString number) := by
  rw [isSingleLine_ofString, Nat.toString_eq_ofList_toDigits, String.toList_ofList]
  intro isThere
  exact absurd (Nat.isDigit_of_mem_toDigits (by decide) (by decide) isThere) (by decide)

/-- Decimals hold no newline, negative ones included. -/
theorem isSingleLine_integer (number : Int) : IsSingleLine (toString number) := by
  change IsSingleLine number.repr
  rw [Int.repr_eq_if]
  split
  · exact isSingleLine_natural number.toNat
  · exact isSingleLine_append (isSingleLine_ofString.mpr (by decide))
      (isSingleLine_natural (-number).toNat)

/-- Different natural numbers are written differently. -/
theorem natural_inj
    {number other : Nat}
    (same : number.repr = other.repr) : number = other := by
  have digits := congrArg String.toList same
  rw [Nat.toList_repr, Nat.toList_repr] at digits
  rw [← Nat.ofDigitChars_ten_toDigits (n := number), digits, Nat.ofDigitChars_ten_toDigits]

/-- The sign of an integer is no digit. -/
theorem natural_ne_minus
    (number : Nat)
    (rest : String) : number.repr ≠ "-" ++ rest := by
  intro same
  have sign : '-' ∈ Nat.toDigits 10 number := by
    rw [← Nat.toList_repr, same, String.toList_append]
    exact List.mem_cons_self
  exact absurd (Nat.isDigit_of_mem_toDigits (by decide) (by decide) sign) (by decide)

/-- Different integers are written differently. -/
theorem integer_inj
    {number other : Int}
    (same : number.repr = other.repr) : number = other := by
  rw [Int.repr_eq_if, Int.repr_eq_if] at same
  split at same <;> split at same
  · have magnitudes := natural_inj same
    omega
  · exact absurd same (natural_ne_minus _ _)
  · exact absurd same.symm (natural_ne_minus _ _)
  · have magnitudes := natural_inj ((String.append_right_inj "-").mp same)
    omega

end Text

/-! ## Dumps -/

namespace Status

/-- The names of the statuses hold no newline. -/
theorem isSingleLine_name (status : Status) : (Text.ofString status.name).IsSingleLine := by
  rw [Text.isSingleLine_ofString]
  cases status <;> decide

/-- The second line of a dump tells the status. -/
theorem name_injective : Function.Injective name := by
  intro status other same
  cases status <;> cases other <;> first | rfl | exact absurd same (by decide)

/-- The word for a status in the dictionary tells the status. -/
theorem label_injective : Function.Injective label := by
  intro status other same
  cases status <;> cases other <;> first | rfl | exact absurd same (by decide +kernel)

end Status

namespace Snapshot

/-- The lines of the registers in a dump. -/
def registerLines (snapshot : Snapshot) : List Text :=
  snapshot.registers.zipIdx.map fun (value, index) => s!"R{index}: {Text.hex 4 value}"

/-- The lines of a dump after those of the registers. -/
def counterLines (snapshot : Snapshot) : List Text :=
  [s!"PC : {Text.hex 4 snapshot.pc}", s!"STACK DEPTH: {snapshot.stack.length}",
    s!"INSTRUCTIONS: {snapshot.executed}", "*****************"]

/-- The lines of a dump after the error. -/
def closingLines (snapshot : Snapshot) : List Text :=
  snapshot.registerLines ++ snapshot.counterLines

/-- The lines behind the error are as many as the registers and four more, which tells where the
error ends. -/
theorem length_closingLines (snapshot : Snapshot) :
    snapshot.closingLines.length = snapshot.registers.length + 4 := by
  simp [closingLines, registerLines, counterLines]

/-- Only the error can take more than one line of a dump. -/
theorem isSingleLine_closingLines
    {snapshot : Snapshot}
    {line : Text}
    (isLine : line ∈ snapshot.closingLines) : line.IsSingleLine := by
  have words {string : String} : '\n' ∉ string.toList -> Text.IsSingleLine string :=
    Text.isSingleLine_ofString.mpr
  rcases List.mem_append.mp isLine with register | counter
  · obtain ⟨⟨value, index⟩, -, rfl⟩ := List.mem_map.mp register
    have name := Text.isSingleLine_append (words (by decide : '\n' ∉ "R".toList))
      (Text.isSingleLine_natural index)
    have front := Text.isSingleLine_append name (words (by decide : '\n' ∉ ": ".toList))
    exact Text.isSingleLine_append front (Text.isSingleLine_hex 4 value)
  · simp only [counterLines, List.mem_cons, List.not_mem_nil, or_false] at counter
    rcases counter with rfl | rfl | rfl | rfl
    · exact Text.isSingleLine_append (words (by decide)) (Text.isSingleLine_hex 4 snapshot.pc)
    · exact Text.isSingleLine_append (words (by decide)) (Text.isSingleLine_natural _)
    · exact Text.isSingleLine_append (words (by decide)) (Text.isSingleLine_integer _)
    · exact words (by decide)

/-- A dump is its two opening lines, the error if there is one, and the closing lines. -/
theorem dumpLines_eq (snapshot : Snapshot) :
    snapshot.dumpLines =
      Text.ofString "*** VM STATUS ***" :: Text.ofString snapshot.status.name ::
        (snapshot.error.toList ++ snapshot.closingLines) := by
  simp [dumpLines, closingLines, registerLines, counterLines]

/-- The lines of a dump: two of the status, those of the error, and the closing ones. -/
theorem lines_dump (snapshot : Snapshot) :
    snapshot.dump.lines =
      Text.points "*** VM STATUS ***" :: Text.points snapshot.status.name ::
        (snapshot.error.toList.flatMap Text.lines ++ snapshot.closingLines.map Text.points) := by
  have title : Text.IsSingleLine "*** VM STATUS ***" := by
    rw [Text.isSingleLine_ofString]
    decide
  have closing : snapshot.closingLines.flatMap Text.lines =
      snapshot.closingLines.map Text.points := by
    rw [List.map_eq_flatMap]
    exact List.flatMap_congr fun line isLine =>
      Text.lines_of_isSingleLine (isSingleLine_closingLines isLine)
  rw [dump, dumpLines_eq, Text.lines_separated (List.cons_ne_nil _ _)]
  simp [closing, Text.lines_of_isSingleLine title,
    Text.lines_of_isSingleLine snapshot.status.isSingleLine_name]

/-- What a dump tells of a snapshot is the same for two snapshots. -/
structure ShowsAs (first second : Snapshot) : Prop where
  /-- The statuses are the same. -/
  status_eq : first.status = second.status
  /-- The errors are the same, or there are none. -/
  error_eq : first.error = second.error
  /-- The registers are the same. -/
  registers_eq : first.registers = second.registers
  /-- The program counters are the same. -/
  pc_eq : first.pc = second.pc
  /-- The stacks are equally deep. -/
  depth_eq : first.stack.length = second.stack.length
  /-- The numbers of instructions are the same. -/
  executed_eq : first.executed = second.executed

section

variable {first second : Snapshot}

/-- Snapshots that show the same are dumped the same. -/
theorem ShowsAs.dump_eq (shows : first.ShowsAs second) : first.dump = second.dump := by
  simp [dump, dumpLines, shows.status_eq, shows.error_eq, shows.registers_eq, shows.pc_eq,
    shows.depth_eq, shows.executed_eq]

/-- The register lines tell the registers. -/
theorem registers_eq_of_registerLines
    (sameLength : first.registers.length = second.registers.length)
    (same : first.registerLines = second.registerLines) :
    first.registers = second.registers := by
  apply List.ext_getElem sameLength
  intro index bound otherBound
  have line := congrArg (·[index]?) same
  simp only [registerLines, List.getElem?_map, List.getElem?_zipIdx,
    List.getElem?_eq_getElem bound, List.getElem?_eq_getElem otherBound, Option.map_some,
    Option.some.injEq, Text.ofString_injective.eq_iff, String.append_right_inj] at line
  exact Text.hex_inj.mp line

/-- The lines behind the registers tell the program counter, the depth of the stack and the
count of instructions. -/
theorem eq_of_counterLines (same : first.counterLines = second.counterLines) :
    first.pc = second.pc ∧ first.stack.length = second.stack.length ∧
      first.executed = second.executed := by
  simp only [counterLines, List.cons.injEq, Text.ofString_injective.eq_iff,
    String.append_right_inj] at same
  obtain ⟨pc, depth, executed, -⟩ := same
  exact ⟨Text.hex_inj.mp pc, Text.natural_inj depth, Text.integer_inj executed⟩

/-- The lines of an error tell whether there is one, and which. -/
theorem error_eq_of_lines
    {error other : Option Text}
    (same : error.toList.flatMap Text.lines = other.toList.flatMap Text.lines) :
    error = other := by
  cases error with
  | none =>
      cases other with
      | none => rfl
      | some text => exact absurd same.symm (by simp [Text.lines_ne_nil])
  | some text =>
      cases other with
      | none => exact absurd same (by simp [Text.lines_ne_nil])
      | some otherText =>
          exact congrArg some (Text.lines_inj.mp (by simpa using same))

/-- A dump tells what it is the dump of. -/
theorem showsAs_of_dump_eq
    (sameLength : first.registers.length = second.registers.length)
    (same : first.dump = second.dump) : first.ShowsAs second := by
  have points_injective : Function.Injective Text.points := fun _ _ => Text.ext
  have cut := congrArg Text.lines same
  rw [lines_dump, lines_dump, List.cons.injEq, List.cons.injEq] at cut
  obtain ⟨-, status, rest⟩ := cut
  obtain ⟨error, closing⟩ :=
    List.append_inj' rest (by simp [length_closingLines, sameLength])
  obtain ⟨registers, counters⟩ :=
    List.append_inj (List.map_injective_iff.mpr points_injective closing)
      (by simp [registerLines, sameLength])
  obtain ⟨pc_eq, depth_eq, executed_eq⟩ := eq_of_counterLines counters
  exact {
    status_eq := Status.name_injective (Text.ofString_injective (points_injective status))
    error_eq := error_eq_of_lines error
    registers_eq := registers_eq_of_registerLines sameLength registers
    pc_eq
    depth_eq
    executed_eq }

end

/-! ## Listed fields -/

/-- What is listed under the labels. -/
theorem lookup_fields
    {snapshot : Snapshot}
    (eight : snapshot.registers.length = 8) :
    snapshot.fields.lookup "pc" = some (.number snapshot.pc) ∧
      (∀ index : Fin 8, snapshot.fields.lookup s!"r{index}" =
        some (.number (snapshot.registers.getD index 0))) ∧
      snapshot.fields.lookup "stack" = some (.numbers snapshot.stack) ∧
      snapshot.fields.lookup "status" = some (.text snapshot.status.label) ∧
      snapshot.fields.lookup "instruction_count" = some (.number snapshot.executed) ∧
      snapshot.fields.lookup "error" = snapshot.error.map FieldValue.text := by
  obtain ⟨pc, registers, stack, status, executed, error⟩ := snapshot
  match registers, eight with
  | [r0, r1, r2, r3, r4, r5, r6, r7], _ =>
    refine ⟨rfl, fun index => ?_, rfl, rfl, rfl, ?_⟩
    · match index with
      | 0 | 1 | 2 | 3 | 4 | 5 | 6 | 7 => rfl
    · cases error <;> rfl

section

variable
  {first second : Snapshot}
  (eightFirst : first.registers.length = 8)
  (eightSecond : second.registers.length = 8)

include eightFirst eightSecond

/-- What is listed under the labels tells what is shown, and the stack. -/
theorem lookup_fields_eq_iff :
    (∀ label, first.fields.lookup label = second.fields.lookup label) ↔
      first.ShowsAs second ∧ first.stack = second.stack := by
  constructor
  · intro same
    obtain ⟨pc, registers, stack, status, executed, error⟩ := lookup_fields eightFirst
    obtain ⟨otherPc, otherRegisters, otherStack, otherStatus, otherExecuted, otherError⟩ :=
      lookup_fields eightSecond
    simp only [same, otherPc, otherRegisters, otherStack, otherStatus, otherExecuted, otherError,
      Option.some.injEq, FieldValue.number.injEq, FieldValue.numbers.injEq,
      FieldValue.text.injEq] at pc registers stack status executed error
    refine ⟨?_, stack.symm⟩
    exact {
      status_eq := Status.label_injective (Text.ofString_injective status.symm)
      error_eq := Option.map_injective (fun _ _ => FieldValue.text.inj) error.symm
      registers_eq := by
        apply List.ext_getElem (eightFirst.trans eightSecond.symm)
        intro index bound otherBound
        have register := registers ⟨index, eightFirst ▸ bound⟩
        simpa [bound, otherBound] using register.symm
      pc_eq := pc.symm
      depth_eq := congrArg List.length stack.symm
      executed_eq := executed.symm }
  · rintro ⟨shows, stack⟩ label
    simp [fields, shows.status_eq, shows.error_eq, shows.registers_eq, shows.pc_eq,
      shows.executed_eq, stack]

end

/-- Two machines show the same exactly if they have the same register file and control state. -/
theorem showsAs_snapshot_iff {machine other : Machine} :
    machine.snapshot.ShowsAs other.snapshot ↔
      machine.status = other.status ∧
        machine.fault?.map Fault.describe = other.fault?.map Fault.describe ∧
        machine.registers = other.registers ∧ machine.pc = other.pc ∧
        machine.stack.length = other.stack.length ∧ machine.executed = other.executed := by
  have wordNumber_injective : Function.Injective fun word : Word => (word.toNat : Int) :=
    fun _ _ same => UInt16.toNat_inj.mp (Int.ofNat_inj.mp same)
  constructor
  · intro shows
    have registers : machine.registers.toList = other.registers.toList :=
      List.map_injective_iff.mpr wordNumber_injective shows.registers_eq
    have depth := shows.depth_eq
    simp only [Machine.snapshot, Machine.stackFromBottom, List.length_map,
      List.length_reverse] at depth
    exact ⟨shows.status_eq, shows.error_eq, Vector.toList_inj.mp registers,
      Fin.ext (Int.ofNat_inj.mp shows.pc_eq), depth, Int.ofNat_inj.mp shows.executed_eq⟩
  · rintro ⟨status_eq, error_eq, registers_eq, pc_eq, depth_eq, executed_eq⟩
    constructor <;> simp [Machine.snapshot, Machine.stackFromBottom, *]

/-- Snapshots with eight registers have the same dump exactly if they have the same status, error,
registers, program counter, depth of the stack and number of instructions, whatever text the error
is.  The same is listed under every label exactly if also the stacks are the same.  So the dump of a
machine tells its register file and control state. -/
theorem dump_unambiguous :
    (∀ first second : Snapshot,
      first.registers.length = 8 -> second.registers.length = 8 ->
      (first.dump = second.dump ↔ first.ShowsAs second) ∧
        ((∀ label, first.fields.lookup label = second.fields.lookup label) ↔
          first.ShowsAs second ∧ first.stack = second.stack)) ∧
    ∀ machine other : Machine,
      machine.snapshot.dump = other.snapshot.dump ↔
        machine.status = other.status ∧
          machine.fault?.map Fault.describe = other.fault?.map Fault.describe ∧
          machine.registers = other.registers ∧ machine.pc = other.pc ∧
          machine.stack.length = other.stack.length ∧ machine.executed = other.executed := by
  constructor
  · intro first second eightFirst eightSecond
    have sameLength := eightFirst.trans eightSecond.symm
    exact ⟨⟨showsAs_of_dump_eq sameLength, ShowsAs.dump_eq⟩,
      lookup_fields_eq_iff eightFirst eightSecond⟩
  · intro machine other
    rw [← showsAs_snapshot_iff]
    exact ⟨showsAs_of_dump_eq (by simp), ShowsAs.dump_eq⟩

/-- An error that looks like the line of a register is not taken for one. -/
theorem dump_unambiguous_lookalike :
    let first : Snapshot :=
      { pc := 0, registers := List.replicate 8 0, stack := [], status := .faulted, executed := 0,
        error := some "E" }
    let second := { first with error := some "E\nR0: 0000" }
    first.registers.length = 8 ∧ second.registers.length = 8 ∧ first.dump ≠ second.dump := by
  intro first second
  have eight : first.registers.length = 8 := rfl
  refine ⟨eight, eight, fun same => ?_⟩
  have shows := ((dump_unambiguous.1 first second eight eight).1).mp same
  exact absurd shows.error_eq (by decide)

end Snapshot
end WordMachine
