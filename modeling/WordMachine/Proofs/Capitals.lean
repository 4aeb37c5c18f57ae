import Mathlib.Data.List.Basic
import WordMachine.Text.Capital

/-!
# Capital letters are their own capitals

What upper-casing puts in the place of a character is left as it is by another
upper-casing, even where one character becomes several: `Text.upper_upper`.  For
that the two tables are taken as stretches of codes, and no stretch of capital
forms meets a stretch of codes that have one.
-/

namespace WordMachine

theorem CodePoint.toNat_ofNat
    {number : Nat}
    (small : number < 0x110000) :
    (ofNat number).toNat = number := by
  rw [ofNat, dif_pos small]

/-- Codes at equal distances. -/
structure Stretch where
  /-- The first code. -/
  first : Nat
  /-- A code that the last one does not exceed. -/
  last : Nat
  /-- The distance between neighbours. -/
  step : Nat

namespace Stretch

/-- The stretch of a single code. -/
def single (code : Nat) : Stretch :=
  ⟨code, code, 1⟩

/-- The stretch has a code. -/
def Holds
    (stretch : Stretch)
    (code : Nat) : Prop :=
  stretch.first ≤ code ∧ code ≤ stretch.last ∧ (code - stretch.first) % stretch.step = 0

/-- The codes are all even or all odd. -/
def hasParity (stretch : Stretch) : Bool :=
  Nat.beq stretch.step 2 || Nat.beq stretch.first stretch.last

/-- One stretch ends before the other begins, or one has even codes only and the other has odd
ones.  The numbers are compared by what evaluates fast. -/
def avoids (stretch other : Stretch) : Bool :=
  Nat.blt other.last stretch.first || Nat.blt stretch.last other.first ||
    stretch.hasParity && other.hasParity && Nat.beq ((stretch.first + other.first) % 2) 1

section

variable
  {stretch other : Stretch}
  {code : Nat}

theorem holds_single : (single code).Holds code :=
  ⟨Nat.le_refl code, Nat.le_refl code, Nat.mod_one _⟩

theorem mod_two_of_hasParity
    (parity : stretch.hasParity = true)
    (holds : stretch.Holds code) : code % 2 = stretch.first % 2 := by
  obtain ⟨first, last, aligned⟩ := holds
  simp only [hasParity, Bool.or_eq_true, Nat.beq_eq] at parity
  rcases parity with double | single
  · rw [double] at aligned
    omega
  · omega

theorem not_holds_of_avoids
    (avoids : stretch.avoids other = true)
    (holds : stretch.Holds code) : ¬ other.Holds code := by
  intro holdsToo
  simp only [Stretch.avoids, Bool.or_eq_true, Bool.and_eq_true, Nat.blt_eq, Nat.beq_eq] at avoids
  rcases avoids with (below | above) | ⟨⟨parity, parityToo⟩, odd⟩
  · have := holds.1
    have := holdsToo.2.1
    omega
  · have := holds.2.1
    have := holdsToo.1
    omega
  · have := mod_two_of_hasParity parity holds
    have := mod_two_of_hasParity parityToo holdsToo
    omega

end
end Stretch

namespace Text

/-- The codes that have another capital form. -/
def capitalized : List Stretch :=
  capitalRuns.map (fun run => ⟨run.first, run.last, run.step⟩) ++
    longCapitals.map fun entry => .single entry.1

/-- The codes in those capital forms. -/
def capitalForms : List Stretch :=
  capitalRuns.map (fun run => ⟨run.capital, run.capital + (run.last - run.first), run.step⟩) ++
    (longCapitals.flatMap Prod.snd).map .single

theorem capitalForms_avoid :
    (capitalForms.all fun form => capitalized.all form.avoids) = true := by
  decide +kernel

theorem last_capitalForms_lt : (capitalForms.all fun form => form.last < 0x110000) = true := by
  decide +kernel

section

variable {point capital : CodePoint}

theorem capitals_of_not_holds
    (absent : ∀ stretch ∈ capitalized, ¬ stretch.Holds point.toNat) : capitals point = [point] := by
  have noForm : longCapitals.lookup point.toNat = none := by
    refine List.lookup_eq_none_iff.mpr fun entry listed => bne_iff_ne.mpr fun same => ?_
    refine absent _ (List.mem_append_right _ (List.mem_map_of_mem listed)) ?_
    rw [same]
    exact Stretch.holds_single
  have noRun : (capitalRuns.find? fun run => run.first ≤ point.toNat && point.toNat ≤ run.last &&
      (point.toNat - run.first) % run.step == 0) = none := by
    refine List.find?_eq_none.mpr fun run listed within => ?_
    simp only [Bool.and_eq_true, decide_eq_true_eq, beq_iff_eq] at within
    exact absent _ (List.mem_append_left _ (List.mem_map_of_mem listed))
      ⟨within.1.1, within.1.2, within.2⟩
  unfold capitals
  dsimp only
  rw [noForm]
  dsimp only
  rw [noRun]

theorem holds_ofNat
    {form : Stretch}
    {code : Nat}
    (isForm : form ∈ capitalForms)
    (holds : form.Holds code) : form.Holds (CodePoint.ofNat code).toNat := by
  have bound := List.all_eq_true.mp last_capitalForms_lt form isForm
  have small : code < 0x110000 := Nat.lt_of_le_of_lt holds.2.1 (of_decide_eq_true bound)
  rwa [CodePoint.toNat_ofNat small]

/-- What stands in the place of a code point is that point, or it belongs to a capital form. -/
theorem eq_or_exists_of_mem_capitals (isCapital : capital ∈ capitals point) :
    capitals point = [point] ∨ ∃ form ∈ capitalForms, form.Holds capital.toNat := by
  unfold capitals at isCapital ⊢
  dsimp only at isCapital ⊢
  cases long : longCapitals.lookup point.toNat with
  | some codes =>
      rw [long] at isCapital
      obtain ⟨code, isCode, rfl⟩ := List.mem_map.mp isCapital
      obtain ⟨before, after, split, _⟩ := List.lookup_eq_some_iff.mp long
      -- The table is looked up by the code point, so that its entry is among the forms.
      have listed : (point.toNat, codes) ∈ longCapitals := by
        rw [split]
        exact List.mem_append_right _ List.mem_cons_self
      have isForm : Stretch.single code ∈ capitalForms :=
        List.mem_append_right _
          (List.mem_map_of_mem (List.mem_flatMap.mpr ⟨_, listed, isCode⟩))
      exact .inr ⟨_, isForm, holds_ofNat isForm Stretch.holds_single⟩
  | none =>
      rw [long] at isCapital
      dsimp only at isCapital ⊢
      cases found : capitalRuns.find? fun run => run.first ≤ point.toNat &&
          point.toNat ≤ run.last && (point.toNat - run.first) % run.step == 0 with
      | none => exact .inl rfl
      | some run =>
          rw [found] at isCapital
          obtain rfl := List.mem_singleton.mp isCapital
          have within := List.find?_some found
          simp only [Bool.and_eq_true, decide_eq_true_eq, beq_iff_eq] at within
          have isForm :
              (⟨run.capital, run.capital + (run.last - run.first), run.step⟩ : Stretch) ∈
                capitalForms :=
            List.mem_append_left _ (List.mem_map_of_mem (List.mem_of_find?_eq_some found))
          refine .inr ⟨_, isForm, holds_ofNat isForm ⟨Nat.le_add_right _ _, ?_, ?_⟩⟩
          · change run.capital + (point.toNat - run.first) ≤ run.capital + (run.last - run.first)
            omega
          · change (run.capital + (point.toNat - run.first) - run.capital) % run.step = 0
            rw [Nat.add_sub_cancel_left]
            exact within.2

/-- A capital is its own capital form. -/
theorem capitals_of_mem_capitals (isCapital : capital ∈ capitals point) :
    capitals capital = [capital] := by
  rcases eq_or_exists_of_mem_capitals isCapital with same | ⟨form, isForm, holds⟩
  · rw [same] at isCapital
    rw [List.mem_singleton.mp isCapital, same]
  · refine capitals_of_not_holds fun stretch listed => ?_
    have avoids := List.all_eq_true.mp capitalForms_avoid form isForm
    exact Stretch.not_holds_of_avoids (List.all_eq_true.mp avoids stretch listed) holds

end

/-- Upper-casing once is enough. -/
theorem upper_upper (text : Text) : text.upper.upper = text.upper := by
  unfold upper
  congr 1
  rw [List.flatMap_assoc]
  refine List.flatMap_congr fun point _ => ?_
  calc (capitals point).flatMap capitals
      = (capitals point).flatMap ([·]) :=
        List.flatMap_congr fun _ isCapital => capitals_of_mem_capitals isCapital
    _ = capitals point := List.flatMap_singleton' _

end Text
end WordMachine
