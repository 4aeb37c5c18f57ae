import Mathlib.Data.List.Zip
import WordMachine.Snapshot.Change

/-!
# Changes as patches

The changes between two snapshots are a patch: put into the first they make it agree with
the second in the program counter, the registers, the stack and the status
(`Snapshot.patch_changes`), and taken backwards they lead from the second to the first
(`Snapshot.unpatch_changes`).  They list no field twice, and only fields that differ.
-/

namespace WordMachine

namespace Change

/-- The same change the other way round. -/
def reverse : Change -> Change
  | .pc before after => .pc after before
  | .register index before after => .register index after before
  | .stack before after => .stack after before
  | .status before after => .status after before

/-- The field really is different before and after. -/
def Differs : Change -> Prop
  | .pc before after => before ≠ after
  | .register _ before after => before ≠ after
  | .stack before after => before ≠ after
  | .status before after => before ≠ after

/-- Puts what the field is after the change in its place. -/
def putInto (snapshot : Snapshot) : Change -> Snapshot
  | .pc _ after => { snapshot with pc := after }
  | .register index _ after => { snapshot with registers := snapshot.registers.set index after }
  | .stack _ after => { snapshot with stack := after }
  | .status _ after => { snapshot with status := after }

end Change

namespace Snapshot

/-- Puts what the fields are after the changes in their place. -/
def patch
    (snapshot : Snapshot)
    (changes : List Change) : Snapshot :=
  changes.foldl Change.putInto snapshot

/-- Puts what the fields were before the changes in their place. -/
def unpatch
    (snapshot : Snapshot)
    (changes : List Change) : Snapshot :=
  snapshot.patch (changes.map Change.reverse)

/-- The snapshots are the same, but for the number of instructions and the error. -/
structure Agrees (left right : Snapshot) : Prop where
  /-- The program counters are the same. -/
  pc_eq : left.pc = right.pc
  /-- The registers are the same. -/
  registers_eq : left.registers = right.registers
  /-- The stacks are the same. -/
  stack_eq : left.stack = right.stack
  /-- The statuses are the same. -/
  status_eq : left.status = right.status

theorem Agrees.trans
    {first second third : Snapshot}
    (agrees : first.Agrees second)
    (agreesOn : second.Agrees third) : first.Agrees third where
  pc_eq := agrees.pc_eq.trans agreesOn.pc_eq
  registers_eq := agrees.registers_eq.trans agreesOn.registers_eq
  stack_eq := agrees.stack_eq.trans agreesOn.stack_eq
  status_eq := agrees.status_eq.trans agreesOn.status_eq

theorem Agrees.putInto
    {left right : Snapshot}
    (agrees : left.Agrees right)
    (change : Change) : (change.putInto left).Agrees (change.putInto right) := by
  obtain ⟨pc_eq, registers_eq, stack_eq, status_eq⟩ := agrees
  cases change with
  | pc before after => exact ⟨rfl, registers_eq, stack_eq, status_eq⟩
  | register index before after =>
      exact ⟨pc_eq, congrArg (List.set · index after) registers_eq, stack_eq, status_eq⟩
  | stack before after => exact ⟨pc_eq, registers_eq, rfl, status_eq⟩
  | status before after => exact ⟨pc_eq, registers_eq, stack_eq, rfl⟩

/-- The same changes make the same of snapshots that agree. -/
theorem Agrees.patch
    {left right : Snapshot}
    (agrees : left.Agrees right)
    (changes : List Change) : (left.patch changes).Agrees (right.patch changes) := by
  induction changes generalizing left right with
  | nil => exact agrees
  | cons change changes inductionHypothesis => exact inductionHypothesis (agrees.putInto change)

theorem patch_append
    (snapshot : Snapshot)
    (changes others : List Change) :
    snapshot.patch (changes ++ others) = (snapshot.patch changes).patch others :=
  List.foldl_append

/-! ## Single fields -/

section

variable
  {α : Type}
  [DecidableEq α]

/-- A field that is not listed is the same before and after. -/
theorem patch_changeOf
    {snapshot : Snapshot}
    {change : α -> α -> Change}
    {before after : α}
    (unchanged : before = after -> (change before after).putInto snapshot = snapshot) :
    snapshot.patch (changeOf change before after) = (change before after).putInto snapshot := by
  unfold changeOf
  split
  · next same => exact (unchanged same).symm
  · rfl

theorem map_reverse_changeOf
    {change : α -> α -> Change}
    (reverses : ∀ before after, (change before after).reverse = change after before)
    (before after : α) :
    (changeOf change before after).map Change.reverse = changeOf change after before := by
  unfold changeOf
  by_cases same : before = after
  · rw [if_pos same, if_pos same.symm]
    rfl
  · rw [if_neg same, if_neg (Ne.symm same), List.map_singleton, reverses]

theorem names_changeOf
    {change : α -> α -> Change}
    {name : String}
    (named : ∀ before after, (change before after).name = name)
    (before after : α) :
    ((changeOf change before after).map Change.name).Sublist [name] := by
  unfold changeOf
  split
  · exact List.nil_sublist _
  · rw [List.map_singleton, named]

theorem differs_of_mem_changeOf
    {change : α -> α -> Change}
    {before after : α}
    (differs : before ≠ after -> (change before after).Differs) :
    ∀ listed ∈ changeOf change before after, listed.Differs := by
  unfold changeOf
  split
  · exact fun listed impossible => nomatch impossible
  · next different => exact List.forall_mem_singleton.mpr (differs different)

end

/-! ## Registers -/

/-- The changes of registers, the first of which has the given number. -/
def registerChangesFrom
    (first : Nat)
    (befores afters : List Int) : List Change :=
  ((befores.zip afters).zipIdx first).flatMap fun ((before, after), index) =>
    changeOf (Change.register index) before after

theorem registerChanges_eq
    {befores : List Int}
    (eight : befores.length = 8)
    (afters : List Int) :
    registerChanges befores afters = registerChangesFrom 0 befores afters := by
  have fits : (befores.zip afters).length ≤ 8 := by
    rw [List.length_zip]
    omega
  rw [registerChanges, List.take_of_length_le fits]
  rfl

/-- The registers from a number on are replaced by what they are after the changes. -/
theorem patch_registers
    {snapshot : Snapshot}
    {done befores afters : List Int}
    (sameLength : befores.length = afters.length)
    (registers : snapshot.registers = done ++ befores) :
    snapshot.patch (registerChangesFrom done.length befores afters) =
      { snapshot with registers := done ++ afters } := by
  induction befores generalizing snapshot done afters with
  | nil =>
      obtain rfl := List.eq_nil_of_length_eq_zero sameLength.symm
      rw [← registers]
      rfl
  | cons before befores inductionHypothesis =>
      cases afters with
      | nil => cases sameLength
      | cons after afters =>
          have first : snapshot.patch (changeOf (Change.register done.length) before after) =
              { snapshot with registers := (done ++ [after]) ++ befores } := by
            have replaced : snapshot.registers.set done.length after =
                (done ++ [after]) ++ befores := by
              simp [registers]
            rw [patch_changeOf, Change.putInto, replaced]
            rintro rfl
            rw [Change.putInto, replaced, List.append_assoc, List.singleton_append, ← registers]
          have rest := inductionHypothesis (Nat.succ.inj sameLength)
            (congrArg Snapshot.registers first)
          rw [registerChangesFrom, List.zip_cons_cons, List.zipIdx_cons, List.flatMap_cons,
            patch_append]
          rw [List.length_append, List.length_singleton, first] at rest
          rw [first]
          refine rest.trans ?_
          simp

theorem map_reverse_registerChangesFrom
    (first : Nat)
    (befores afters : List Int) :
    (registerChangesFrom first befores afters).map Change.reverse =
      registerChangesFrom first afters befores := by
  unfold registerChangesFrom
  rw [← List.zip_swap befores afters, List.zipIdx_map, List.flatMap_map, List.map_flatMap]
  refine congrArg (List.flatMap · _) (funext fun ((before, after), index) => ?_)
  exact map_reverse_changeOf (fun _ _ => rfl) before after

/-- The registers are listed in the order of their numbers. -/
theorem names_registerChangesFrom
    (first : Nat)
    (befores afters : List Int) :
    ((registerChangesFrom first befores afters).map Change.name).Sublist
      ((List.range' first befores.length).map fun index => s!"R{index}") := by
  induction befores generalizing first afters with
  | nil => exact List.nil_sublist _
  | cons before befores inductionHypothesis =>
      cases afters with
      | nil => exact List.nil_sublist _
      | cons after afters =>
          rw [registerChangesFrom, List.zip_cons_cons, List.zipIdx_cons, List.flatMap_cons,
            List.map_append, List.length_cons, List.range'_succ, List.map_cons]
          exact (names_changeOf (fun _ _ => rfl) before after).append
            (inductionHypothesis (first + 1) afters)

/-! ## Snapshots -/

section

variable
  {before after : Snapshot}
  (eightBefore : before.registers.length = 8)
  (eightAfter : after.registers.length = 8)

include eightBefore eightAfter

/-- The changes put into the earlier snapshot make it agree with the later one. -/
theorem patch_changes : (before.patch (before.changes after)).Agrees after := by
  have pc : before.patch (changeOf Change.pc before.pc after.pc) =
      { before with pc := after.pc } := by
    refine patch_changeOf fun same => ?_
    rw [Change.putInto, ← same]
  have registers :
      ({ before with pc := after.pc } : Snapshot).patch
          (registerChanges before.registers after.registers) =
        { before with pc := after.pc, registers := after.registers } := by
    have all : ({ before with pc := after.pc } : Snapshot).registers = [] ++ before.registers :=
      rfl
    rw [registerChanges_eq eightBefore]
    exact patch_registers (eightBefore.trans eightAfter.symm) all
  have stack :
      ({ before with pc := after.pc, registers := after.registers } : Snapshot).patch
          (changeOf Change.stack before.stack after.stack) =
        { before with pc := after.pc, registers := after.registers, stack := after.stack } := by
    refine patch_changeOf fun same => ?_
    rw [Change.putInto, ← same]
  rw [changes, patch_append, patch_append, patch_append, pc, registers, stack, patch_changeOf]
  · exact ⟨rfl, rfl, rfl, rfl⟩
  · intro same
    rw [Change.putInto, ← same]

/-- The changes the other way round are those from the later snapshot to the earlier one. -/
theorem map_reverse_changes :
    (before.changes after).map Change.reverse = after.changes before := by
  rw [changes, changes, registerChanges_eq eightBefore, registerChanges_eq eightAfter]
  simp only [List.map_append, map_reverse_registerChangesFrom]
  rw [map_reverse_changeOf, map_reverse_changeOf, map_reverse_changeOf] <;> intros <;> rfl

/-- The changes taken back from the later snapshot make it agree with the earlier one. -/
theorem unpatch_changes : (after.unpatch (before.changes after)).Agrees before := by
  rw [unpatch, map_reverse_changes eightBefore eightAfter]
  exact patch_changes eightAfter eightBefore

end

/-- The fields are listed in a fixed order, and none of them twice. -/
theorem sublist_names_changes
    {before : Snapshot}
    (eight : before.registers.length = 8)
    (after : Snapshot) :
    ((before.changes after).map Change.name).Sublist
      ["PC", "R0", "R1", "R2", "R3", "R4", "R5", "R6", "R7", "STACK", "STATUS"] := by
  have registers := names_registerChangesFrom 0 before.registers after.registers
  rw [eight] at registers
  have sublist : ((before.changes after).map Change.name).Sublist
      (["PC"] ++ (List.range' 0 8).map (fun index => s!"R{index}") ++ ["STACK"] ++
        ["STATUS"]) := by
    rw [changes, registerChanges_eq eight]
    simp only [List.map_append]
    refine ((List.Sublist.append ?_ registers).append ?_).append ?_
    all_goals exact names_changeOf (fun _ _ => rfl) _ _
  exact sublist

/-- No field is listed twice. -/
theorem nodup_names_changes
    {before : Snapshot}
    (eight : before.registers.length = 8)
    (after : Snapshot) : ((before.changes after).map Change.name).Nodup :=
  (sublist_names_changes eight after).nodup (by decide)

/-- Only what really is different is listed. -/
theorem differs_of_mem_changes (before after : Snapshot) :
    ∀ change ∈ before.changes after, change.Differs := by
  simp only [changes, registerChanges, List.forall_mem_append, List.mem_flatMap]
  refine ⟨⟨⟨?_, ?_⟩, ?_⟩, ?_⟩
  · exact differs_of_mem_changeOf id
  · rintro change ⟨⟨⟨before, after⟩, index⟩, _, listed⟩
    exact differs_of_mem_changeOf id change listed
  · exact differs_of_mem_changeOf id
  · exact differs_of_mem_changeOf id

end Snapshot
end WordMachine
