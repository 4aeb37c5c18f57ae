import Mathlib.Data.List.FinRange
import WordMachine.Proofs.Patch

/-!
# Changes field by field

The changes between two snapshots with eight registers are the fields that differ, each with
what it holds on either side, in a fixed order: `Snapshot.changes_eq_filterMap`.  So a change
is found by the name of its field, and changes on two legs make up those on the whole way:
fields that are changed on both are joined, and dropped if they are changed back
(`Snapshot.chain_changes`).
-/

namespace WordMachine

/-! ## Fields -/

/-- A field of a snapshot that is compared with that of another. -/
inductive Field where
  /-- The program counter. -/
  | pc
  /-- A register. -/
  | register (index : Fin 8)
  /-- The stack. -/
  | stack
  /-- The status. -/
  | status
deriving DecidableEq

namespace Field

/-- The fields in the order in which their changes are listed. -/
def inOrder : List Field :=
  [.pc] ++ (List.finRange 8).map .register ++ [.stack] ++ [.status]

/-- The name of a change of the field. -/
def name : Field -> String
  | .pc => "PC"
  | .register index => s!"R{index}"
  | .stack => "STACK"
  | .status => "STATUS"

/-- What the field holds in either snapshot, whether it differs or not. -/
def between (before after : Snapshot) : Field -> Change
  | .pc => .pc before.pc after.pc
  | .register index =>
      .register index (before.registers.getD index 0) (after.registers.getD index 0)
  | .stack => .stack before.stack after.stack
  | .status => .status before.status after.status

/-- The order in which fields are listed leaves none out. -/
theorem mem_inOrder (field : Field) : field ∈ inOrder := by
  cases field <;> simp [inOrder]

/-- A name in a list of changes tells the field. -/
theorem eq_of_name
    {field other : Field}
    (same : field.name = other.name) : field = other := by
  have pairs : ∀ field ∈ inOrder, ∀ other ∈ inOrder, field.name = other.name -> field = other := by
    decide
  exact pairs field field.mem_inOrder other other.mem_inOrder same

@[simp] theorem name_between
    (before after : Snapshot)
    (field : Field) : (field.between before after).name = field.name := by
  cases field <;> rfl

end Field

/-! ## Composing changes -/

namespace Change

instance : DecidablePred Differs
  | .pc before after => inferInstanceAs (Decidable (before ≠ after))
  | .register _ before after => inferInstanceAs (Decidable (before ≠ after))
  | .stack before after => inferInstanceAs (Decidable (before ≠ after))
  | .status before after => inferInstanceAs (Decidable (before ≠ after))

/-- From before the first to after the second of two changes of one field. -/
def followedBy : Change -> Change -> Change
  | .pc before _, .pc _ after => .pc before after
  | .register index before _, .register _ _ after => .register index before after
  | .stack before _, .stack _ after => .stack before after
  | .status before _, .status _ after => .status before after
  -- Only changes found under one name are joined.
  | first, _ => first

/-- The change, if its ends do not coincide. -/
def ifDiffers (change : Change) : Option Change :=
  if change.Differs then some change else none

/-- The change of a field along two legs, on each of which it may be changed or not. -/
def chained : Option Change -> Option Change -> Option Change
  | some first, some second => (first.followedBy second).ifDiffers
  | some first, none => some first
  | none, second => second

/-- The changes along two legs, field by field. -/
def chain (first second : List Change) : List Change :=
  Field.inOrder.filterMap fun field =>
    chained (first.find? (·.name = field.name)) (second.find? (·.name = field.name))

/-- A change is listed, as it is, exactly if its two values differ. -/
theorem ifDiffers_eq_some {change listed : Change} :
    change.ifDiffers = some listed ↔ change = listed ∧ listed.Differs := by
  rw [ifDiffers, Option.ite_none_right_eq_some, Option.some.injEq]
  constructor
  · rintro ⟨differs, rfl⟩
    exact ⟨rfl, differs⟩
  · rintro ⟨rfl, differs⟩
    exact ⟨differs, rfl⟩

end Change

namespace Field

/-- A field that is the same on the first leg changes as it does on the second. -/
theorem between_of_same_first
    {first second third : Snapshot}
    {field : Field}
    (same : ¬(field.between first second).Differs) :
    field.between second third = field.between first third := by
  cases field <;> simp_all [between, Change.Differs]

/-- A field that is the same on the second leg changes as it does on the first. -/
theorem between_of_same_second
    {first second third : Snapshot}
    {field : Field}
    (same : ¬(field.between second third).Differs) :
    field.between first second = field.between first third := by
  cases field <;> simp_all [between, Change.Differs]

/-- The change of a field over two stretches keeps its first and its last value; what it was in
the middle drops out. -/
theorem followedBy_between
    (first second third : Snapshot)
    (field : Field) :
    (field.between first second).followedBy (field.between second third) =
      field.between first third := by
  cases field <;> rfl

/-- The change of one field along two legs. -/
theorem chained_between
    (first second third : Snapshot)
    (field : Field) :
    Change.chained (field.between first second).ifDiffers (field.between second third).ifDiffers =
      (field.between first third).ifDiffers := by
  by_cases differsFirst : (field.between first second).Differs
  · by_cases differsSecond : (field.between second third).Differs
    · rw [Change.ifDiffers, if_pos differsFirst, Change.ifDiffers, if_pos differsSecond,
        Change.chained, followedBy_between]
    · have unchanged : (field.between second third).ifDiffers = none := if_neg differsSecond
      have changed : field.between first second = field.between first third :=
        between_of_same_second differsSecond
      rw [unchanged, ← changed, Change.ifDiffers, if_pos differsFirst, Change.chained]
  · have unchanged : (field.between first second).ifDiffers = none := if_neg differsFirst
    rw [unchanged, between_of_same_first differsFirst, Change.chained]

end Field

namespace Snapshot

/-- Comparing two values lists their change if it is one. -/
theorem changeOf_eq
    {α : Type}
    [DecidableEq α]
    {change : α -> α -> Change}
    (differs : ∀ before after, (change before after).Differs ↔ before ≠ after)
    (before after : α) :
    changeOf change before after = ((change before after).ifDiffers).toList := by
  unfold changeOf Change.ifDiffers
  by_cases same : before = after
  · have unchanged : ¬(change before after).Differs := fun changed =>
      (differs before after).mp changed same
    rw [if_pos same, if_neg unchanged, Option.toList_none]
  · rw [if_neg same, if_pos ((differs before after).mpr same), Option.toList_some]

section

variable
  {before after : Snapshot}
  (eightBefore : before.registers.length = 8)
  (eightAfter : after.registers.length = 8)

include eightBefore eightAfter

/-- The registers on both sides with their numbers. -/
theorem zipIdx_registers :
    (before.registers.zip after.registers).zipIdx =
      (List.finRange 8).map fun index : Fin 8 =>
        ((before.registers.getD index 0, after.registers.getD index 0), index.val) := by
  refine List.ext_getElem ?_ fun index inside _ => ?_
  · simp [eightBefore, eightAfter]
  · have bound : index < 8 := by simpa [eightBefore, eightAfter] using inside
    simp [eightBefore, eightAfter]

/-- The fields that differ are listed in order, and only these. -/
theorem changes_eq_filterMap :
    before.changes after =
      Field.inOrder.filterMap fun field => (field.between before after).ifDiffers := by
  have registers : registerChanges before.registers after.registers =
      ((List.finRange 8).map Field.register).filterMap fun field =>
        (field.between before after).ifDiffers := by
    rw [registerChanges_eq eightBefore, registerChangesFrom,
      zipIdx_registers eightBefore eightAfter, List.flatMap_map, List.filterMap_map,
      List.filterMap_eq_flatMap_toList]
    refine congrArg (List.flatMap · _) (funext fun index => ?_)
    exact changeOf_eq (fun _ _ => Iff.rfl) _ _
  rw [changes, registers, Field.inOrder]
  simp only [List.filterMap_append]
  rw [changeOf_eq fun _ _ => Iff.rfl, changeOf_eq fun _ _ => Iff.rfl,
    changeOf_eq fun _ _ => Iff.rfl]
  simp only [List.filterMap_eq_flatMap_toList, List.flatMap_singleton]
  rfl

/-- A change is listed exactly if it is what a field holds on both sides, and differs. -/
theorem mem_changes (change : Change) :
    change ∈ before.changes after ↔
      ∃ field : Field, field.between before after = change ∧ change.Differs := by
  rw [changes_eq_filterMap eightBefore eightAfter, List.mem_filterMap]
  simp only [Change.ifDiffers_eq_some, Field.mem_inOrder, true_and]

/-- What is found under the name of a field is what the field holds on both sides. -/
theorem eq_between_of_find?
    {change : Change}
    {field : Field}
    (found : (before.changes after).find? (·.name = field.name) = some change) :
    field.between before after = change ∧ change.Differs := by
  have listed := List.mem_of_find?_eq_some found
  have named : change.name = field.name := by simpa using List.find?_some found
  obtain ⟨other, rfl, differs⟩ := (mem_changes eightBefore eightAfter change).mp listed
  rw [Field.name_between] at named
  obtain rfl := Field.eq_of_name named
  exact ⟨rfl, differs⟩

/-- The change of a field is found under the name of the field. -/
theorem find?_changes (field : Field) :
    (before.changes after).find? (·.name = field.name) =
      (field.between before after).ifDiffers := by
  refine Option.ext fun change => ?_
  rw [Change.ifDiffers_eq_some]
  refine ⟨eq_between_of_find? eightBefore eightAfter, ?_⟩
  rintro ⟨rfl, differs⟩
  have listed : field.between before after ∈ before.changes after :=
    (mem_changes eightBefore eightAfter _).mpr ⟨field, rfl, differs⟩
  have present : ((before.changes after).find? (·.name = field.name)).isSome :=
    List.find?_isSome.mpr ⟨_, listed, decide_eq_true (field.name_between before after)⟩
  obtain ⟨change, found⟩ := Option.isSome_iff_exists.mp present
  rw [found, (eq_between_of_find? eightBefore eightAfter found).1]

/-- No field is listed exactly if the snapshots agree. -/
theorem changes_eq_nil : before.changes after = [] ↔ before.Agrees after := by
  constructor
  · intro nothing
    have patched := patch_changes eightBefore eightAfter
    rwa [nothing] at patched
  · rintro ⟨pc_eq, registers_eq, stack_eq, status_eq⟩
    refine List.eq_nil_iff_forall_not_mem.mpr fun change listed => ?_
    obtain ⟨field, rfl, differs⟩ := (mem_changes eightBefore eightAfter change).mp listed
    cases field <;> simp_all [Field.between, Change.Differs]

/-- Snapshots are equal exactly if no field is listed and also the rest is the same. -/
theorem eq_iff_changes :
    before = after ↔
      before.changes after = [] ∧ before.executed = after.executed ∧
        before.error = after.error := by
  rw [changes_eq_nil eightBefore eightAfter]
  constructor
  · rintro rfl
    exact ⟨⟨rfl, rfl, rfl, rfl⟩, rfl, rfl⟩
  · rintro ⟨⟨pc_eq, registers_eq, stack_eq, status_eq⟩, executed_eq, error_eq⟩
    exact Snapshot.ext pc_eq registers_eq stack_eq status_eq executed_eq error_eq

end

/-- The changes are the differences between two snapshots, and a patch from one to the other. -/
structure DiffersBy (before after : Snapshot) (changes : List Change) : Prop where
  /-- A change is listed exactly if it is what a field holds on both sides, and differs. -/
  mem_iff : ∀ change, change ∈ changes ↔
    ∃ field : Field, field.between before after = change ∧ change.Differs
  /-- The fields are listed in a fixed order, and none of them twice. -/
  ordered : (changes.map Change.name).Sublist
    ["PC", "R0", "R1", "R2", "R3", "R4", "R5", "R6", "R7", "STACK", "STATUS"]
  /-- Put into the earlier snapshot, the changes make it agree with the later one. -/
  patches : (before.patch changes).Agrees after
  /-- Nothing is listed exactly if the snapshots agree. -/
  eq_nil_iff : changes = [] ↔ before.Agrees after
  /-- The snapshots are equal exactly if nothing is listed and also the rest is the same. -/
  eq_iff : before = after ↔
    changes = [] ∧ before.executed = after.executed ∧ before.error = after.error

section

variable
  {first second third : Snapshot}
  (eightFirst : first.registers.length = 8)
  (eightSecond : second.registers.length = 8)

include eightFirst eightSecond

theorem diff?_eq : first.diff? second = some (first.changes second) := by
  simp [diff?, eightFirst, eightSecond]

/-- The changes listed between two snapshots are exactly those of the fields in which they
differ. -/
theorem differsBy_changes : first.DiffersBy second (first.changes second) where
  mem_iff := mem_changes eightFirst eightSecond
  ordered := sublist_names_changes eightFirst second
  patches := patch_changes eightFirst eightSecond
  eq_nil_iff := changes_eq_nil eightFirst eightSecond
  eq_iff := eq_iff_changes eightFirst eightSecond

variable (eightThird : third.registers.length = 8)

include eightThird

/-- The changes on two legs, composed field by field, are those on the whole way. -/
theorem chain_changes :
    Change.chain (first.changes second) (second.changes third) = first.changes third := by
  rw [Change.chain, changes_eq_filterMap eightFirst eightThird]
  refine congrArg (List.filterMap · _) (funext fun field => ?_)
  rw [find?_changes eightFirst eightSecond, find?_changes eightSecond eightThird,
    Field.chained_between]

/-- The changes between snapshots are exactly their differences, can be put into one to get
to the other, can be taken back, and compose. -/
theorem diff_composes :
    ∃ forth back onward whole,
      first.diff? second = some forth ∧ second.diff? first = some back ∧
        second.diff? third = some onward ∧ first.diff? third = some whole ∧
        first.DiffersBy second forth ∧ back = forth.map Change.reverse ∧
        whole = Change.chain forth onward :=
  ⟨first.changes second, second.changes first, second.changes third, first.changes third,
    diff?_eq eightFirst eightSecond, diff?_eq eightSecond eightFirst,
    diff?_eq eightSecond eightThird, diff?_eq eightFirst eightThird,
    differsBy_changes eightFirst eightSecond, (map_reverse_changes eightFirst eightSecond).symm,
    (chain_changes eightFirst eightSecond eightThird).symm⟩

end

/-- A number pushed on the first leg and popped on the second leaves only the program counter. -/
theorem diff_composes_push_pop :
    let first : Snapshot :=
      { pc := 0, registers := List.replicate 8 0, stack := [], status := .running, executed := 0,
        error := none }
    let second := { first with pc := 2, stack := [7], executed := 1 }
    let third := { first with pc := 4, executed := 2 }
    first.diff? second = some [.pc 0 2, .stack [] [7]] ∧
      second.diff? third = some [.pc 2 4, .stack [7] []] ∧
      first.diff? third = some [.pc 0 4] ∧
      [.pc 0 4] = Change.chain [.pc 0 2, .stack [] [7]] [.pc 2 4, .stack [7] []] := by
  intro first second third
  have eightFirst : first.registers.length = 8 := rfl
  have eightSecond : second.registers.length = 8 := rfl
  have eightThird : third.registers.length = 8 := rfl
  obtain ⟨forth, back, onward, whole, forth_eq, -, onward_eq, whole_eq, -, -, chain_eq⟩ :=
    diff_composes eightFirst eightSecond eightThird
  have forthListed : first.diff? second = some [.pc 0 2, .stack [] [7]] := by decide
  have onwardListed : second.diff? third = some [.pc 2 4, .stack [7] []] := by decide
  have wholeListed : first.diff? third = some [.pc 0 4] := by decide
  obtain rfl := Option.some.inj (forth_eq.symm.trans forthListed)
  obtain rfl := Option.some.inj (onward_eq.symm.trans onwardListed)
  obtain rfl := Option.some.inj (whole_eq.symm.trans wholeListed)
  exact ⟨forthListed, onwardListed, wholeListed, chain_eq⟩

end Snapshot
end WordMachine
