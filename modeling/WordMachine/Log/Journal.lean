import WordMachine.Log.Notice

/-!
# The journal

A journal keeps the notices that its verbosity admits, in the order in which
they are recorded, and drops the others.
-/

namespace WordMachine

/-- Which notices are kept. -/
inductive Verbosity where
  /-- None. -/
  | silent
  /-- Those of at least the given level. -/
  | atLeast (level : Level)
  /-- Those of at least the given level, and all that come from the runner. -/
  | tracing (level : Level)
deriving DecidableEq, Repr

namespace Verbosity

/-- Whether notices of one origin and level are kept. -/
def admits
    (verbosity : Verbosity)
    (origin : Origin)
    (level : Level) : Bool :=
  match verbosity with
  | .silent => false
  | .atLeast least => least.rank ≤ level.rank
  | .tracing least => least.rank ≤ level.rank || origin == .runner

/-- Whether the steps of a traced run are kept. -/
def showsSteps (verbosity : Verbosity) : Bool :=
  verbosity.admits .runner .debug

end Verbosity

/-- The notices kept so far. -/
structure Journal where
  /-- Which notices are kept. -/
  verbosity : Verbosity
  /-- The kept notices, the earliest first. -/
  notices : Array Notice := #[]

namespace Journal

/-- Whether a notice is kept. -/
def keeps
    (journal : Journal)
    (notice : Notice) : Bool :=
  journal.verbosity.admits notice.origin notice.level

/-- Records one notice. -/
def record
    (journal : Journal)
    (notice : Notice) : Journal :=
  if journal.keeps notice then
    { journal with notices := journal.notices.push notice }
  else
    journal

/-- Records several notices in order. -/
def recordAll
    (journal : Journal)
    (notices : List Notice) : Journal :=
  notices.foldl record journal

/-- The kept notices, the earliest first. -/
def toList (journal : Journal) : List Notice :=
  journal.notices.toList

/-- The journal without its notices. -/
def cleared (journal : Journal) : Journal :=
  { journal with notices := #[] }

@[simp] theorem verbosity_record
    (journal : Journal)
    (notice : Notice) :
    (journal.record notice).verbosity = journal.verbosity := by
  unfold record
  split <;> rfl

@[simp] theorem toList_record
    (journal : Journal)
    (notice : Notice) :
    (journal.record notice).toList =
      journal.toList ++ if journal.keeps notice then [notice] else [] := by
  unfold record
  split <;> simp [toList]

@[simp] theorem verbosity_recordAll
    (journal : Journal)
    (notices : List Notice) :
    (journal.recordAll notices).verbosity = journal.verbosity := by
  induction notices generalizing journal with
  | nil => rfl
  | cons notice notices inductionHypothesis =>
      exact (inductionHypothesis (journal.record notice)).trans (verbosity_record journal notice)

/-- Recording keeps the admitted notices and their order. -/
theorem toList_recordAll
    (journal : Journal)
    (notices : List Notice) :
    (journal.recordAll notices).toList = journal.toList ++ notices.filter journal.keeps := by
  induction notices generalizing journal with
  | nil => simp [recordAll]
  | cons notice notices inductionHypothesis =>
      have sameKeeps : (journal.record notice).keeps = journal.keeps := by
        funext other
        simp [keeps]
      have tail := inductionHypothesis (journal.record notice)
      rw [sameKeeps, toList_record] at tail
      rw [recordAll, List.foldl_cons, ← recordAll, tail, List.filter_cons]
      split <;> simp

end Journal
end WordMachine
