import WordMachine.Text.CodePoint

/-!
# Line ends

A text file may end its lines with a line feed, a carriage return, or both;
`foldNewlines` makes every line end one line feed.  `splitLines` cuts a text
after each line feed and nowhere else, and keeps the line feeds.
-/

namespace WordMachine
namespace Text

/-- Replaces every carriage return, with the line feed that may follow it, by one line feed. -/
def foldNewlines : List Char -> List Char
  | '\r' :: '\n' :: rest => '\n' :: foldNewlines rest
  | '\r' :: rest => '\n' :: foldNewlines rest
  | character :: rest => character :: foldNewlines rest
  | [] => []

/-- The lines of a text, each with the line feed that ends it. -/
def splitLines : List CodePoint -> List (List CodePoint)
  | [] => []
  | point :: rest =>
      if point = CodePoint.ofChar '\n' then
        [point] :: splitLines rest
      else
        match splitLines rest with
        | [] => [[point]]
        | line :: lines => (point :: line) :: lines

/-- Nothing is lost or moved when a text is cut into lines. -/
@[simp] theorem flatten_splitLines (points : List CodePoint) :
    (splitLines points).flatten = points := by
  induction points with
  | nil => rfl
  | cons point rest inductionHypothesis =>
      unfold splitLines
      split
      · simp [inductionHypothesis]
      · split
        · next empty => simp_all
        · next line lines nonempty =>
            rw [nonempty] at inductionHypothesis
            simpa using inductionHypothesis

/-- No line of a text is empty. -/
theorem ne_nil_of_mem_splitLines
    {points line : List CodePoint}
    (member : line ∈ splitLines points) :
    line ≠ [] := by
  induction points generalizing line with
  | nil => simp [splitLines] at member
  | cons point rest inductionHypothesis =>
      unfold splitLines at member
      split at member
      · rcases List.mem_cons.mp member with rfl | member
        · simp
        · exact inductionHypothesis member
      · split at member
        · simp_all
        · next head tail nonempty =>
            rcases List.mem_cons.mp member with rfl | member
            · simp
            · exact inductionHypothesis (nonempty ▸ List.mem_cons_of_mem head member)

end Text
end WordMachine
