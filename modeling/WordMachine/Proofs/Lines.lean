import Mathlib.Data.List.Basic
import WordMachine.Text.Basic
import WordMachine.Text.Newline

/-!
# Lines of a text

A text can be cut into lines in two ways.  `Text.lines` takes the line feeds away, so that texts
put together with line feeds between them have the lines of each: `Text.lines_separated`.
`Text.splitLines` leaves the line feeds at the ends of their lines, as `Text.IsCut` describes.
-/

namespace WordMachine
namespace Text

theorem ofString_injective : Function.Injective ofString := by
  intro left right same
  have characters := congrArg characters? same
  rw [ofString, ofString, characters?_ofCharacters, characters?_ofCharacters] at characters
  exact String.toList_inj.mp (Option.some.inj characters)

/-- What ends a line. -/
abbrev lineFeed : CodePoint := CodePoint.ofChar '\n'

/-! ## Lines without line feeds -/

/-- The lines of a text, without the line feeds between them. -/
def lines (text : Text) : List (List CodePoint) :=
  text.points.splitOn lineFeed

/-- Whether a text has no line feed. -/
def IsSingleLine (text : Text) : Prop :=
  lineFeed ∉ text.points

theorem lines_ne_nil (text : Text) : text.lines ≠ [] :=
  List.splitOn_ne_nil _ _

/-- A text can be put together again from its lines. -/
theorem lines_inj {text other : Text} :
    text.lines = other.lines ↔ text = other := by
  refine ⟨fun same => ?_, congrArg lines⟩
  have joined := congrArg [lineFeed].intercalate same
  rw [lines, lines, List.intercalate_splitOn, List.intercalate_splitOn] at joined
  exact Text.ext joined

theorem lines_of_isSingleLine
    {text : Text}
    (single : text.IsSingleLine) : text.lines = [text.points] :=
  List.splitOn_eq_singleton single

/-- The lines of texts with line feeds between them are those of each. -/
theorem lines_separated
    {texts : List Text}
    (nonempty : texts ≠ []) :
    (separated "\n" texts).lines = texts.flatMap lines := by
  induction texts with
  | nil => exact absurd rfl nonempty
  | cons text texts inductionHypothesis =>
      cases texts with
      | nil => simp [separated, lines]
      | cons next texts =>
          have rest := inductionHypothesis (List.cons_ne_nil next texts)
          rw [List.flatMap_cons, ← rest]
          exact List.splitOn_append_cons_self text.points _

theorem isSingleLine_ofString {string : String} :
    IsSingleLine string ↔ '\n' ∉ string.toList := by
  refine not_congr ⟨fun isThere => ?_, List.mem_map_of_mem⟩
  obtain ⟨character, isCharacter, same⟩ := List.mem_map.mp isThere
  rwa [CodePoint.ofChar_injective same] at isCharacter

/-- Texts on one line stay on one line when they are joined. -/
theorem isSingleLine_append
    {front back : String}
    (singleFront : IsSingleLine front)
    (singleBack : IsSingleLine back) : IsSingleLine (ofString (front ++ back)) := by
  rw [isSingleLine_ofString] at *
  simp [singleFront, singleBack]

/-! ## Lines with their line feeds -/

/-- A text is cut after each line feed, and nowhere else. -/
inductive IsCut : List CodePoint -> List (List CodePoint) -> Prop where
  /-- Where there is nothing, there is no line. -/
  | nil : IsCut [] []
  /-- The last line may lack its line feed. -/
  | last {line : List CodePoint}
      (nonempty : line ≠ [])
      (single : lineFeed ∉ line) :
      IsCut line [line]
  /-- A line ends in its only line feed, and the rest is cut in the same way. -/
  | line {line rest : List CodePoint} {pieces : List (List CodePoint)}
      (single : lineFeed ∉ line)
      (isCut : IsCut rest pieces) :
      IsCut (line ++ lineFeed :: rest) ((line ++ [lineFeed]) :: pieces)

theorem isCut_splitLines (points : List CodePoint) : IsCut points (splitLines points) := by
  induction points with
  | nil => exact .nil
  | cons point points inductionHypothesis =>
      unfold splitLines
      split
      · next isEnd => exact isEnd ▸ .line (List.not_mem_nil) inductionHypothesis
      · next goesOn =>
          have different : lineFeed ≠ point := Ne.symm goesOn
          generalize splitLines points = pieces at inductionHypothesis
          cases inductionHypothesis with
          | nil => exact .last (List.cons_ne_nil point []) (by simpa using different)
          | last nonempty single =>
              exact .last (List.cons_ne_nil point _) (by simp [different, single])
          | @line line rest pieces single isCut =>
              have longer : lineFeed ∉ point :: line := by simp [different, single]
              exact .line longer isCut

end Text
end WordMachine
