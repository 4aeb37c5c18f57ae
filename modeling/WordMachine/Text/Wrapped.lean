/-!
# Wrapped text

A paragraph is broken into lines of a given width.  A line may end at a blank,
and after a hyphen with two letters on either side; the blanks at which a line
ends are dropped.  A word that is longer than a line is cut wherever a line is
full.
-/

namespace WordMachine
namespace Text
namespace Wrapped

/-- Whether a text begins with two letters. -/
def beginsWithLetters : List Char -> Bool
  | first :: second :: _ => first.isAlpha && second.isAlpha
  | _ => false

/-- Whether a line may end between the characters before a place, the latest first, and those after
it. -/
def mayEnd : (before after : List Char) -> Bool
  | last :: before, next :: after =>
      last.isWhitespace != next.isWhitespace ||
        (last == '-' && beginsWithLetters before && beginsWithLetters (next :: after))
  | _, _ => false

/-- Cuts a text wherever a line may end, given what precedes it in the same piece, the latest
character first. -/
def piecesAfter (latestFirst : List Char) : List Char -> List (List Char)
  | [] => if latestFirst = [] then [] else [latestFirst.reverse]
  | character :: rest =>
      if mayEnd latestFirst (character :: rest) then
        latestFirst.reverse :: piecesAfter [character] rest
      else
        piecesAfter (character :: latestFirst) rest

/-- Cuts a text wherever a line may end. -/
def pieces (text : List Char) : List (List Char) :=
  piecesAfter [] text

/-- Cuts a word into blocks of a given length, of which the last may be shorter. -/
def blocks
    (length : Nat)
    (word : List Char) : List (List Char) :=
  if word.length ≤ length ∨ length = 0 then
    [word]
  else
    word.take length :: blocks length (word.drop length)
termination_by word.length
decreasing_by
  rw [List.length_drop]
  omega

/-- A paragraph that is being filled. -/
structure Paragraph where
  /-- The lines that are full, the latest first. -/
  lines : List (List Char) := []
  /-- The pieces on the line at hand, the latest first. -/
  current : List (List Char) := []

namespace Paragraph

/-- Ends the line at hand, unless nothing is on it.  Blanks at its end are dropped. -/
def endLine (paragraph : Paragraph) : Paragraph :=
  let kept :=
    match paragraph.current with
    | [] => []
    | last :: earlier => if last.all Char.isWhitespace then earlier else last :: earlier
  if kept = [] then
    { paragraph with current := [] }
  else
    { lines := kept.reverse.flatten :: paragraph.lines }

/-- Puts a piece on the line at hand.  Blanks at its beginning are dropped, unless it is the first
line. -/
def place
    (paragraph : Paragraph)
    (piece : List Char) : Paragraph :=
  if paragraph.current = [] ∧ paragraph.lines ≠ [] ∧ piece.all Char.isWhitespace then
    paragraph
  else
    { paragraph with current := piece :: paragraph.current }

/-- Adds a piece to a paragraph with lines of a given width. -/
def add
    (width : Nat)
    (paragraph : Paragraph)
    (piece : List Char) : Paragraph :=
  let room := width - paragraph.current.flatten.length
  if piece.length ≤ room then
    paragraph.place piece
  else if piece.length ≤ width then
    paragraph.endLine.place piece
  else
    (blocks width (piece.drop room)).foldl
      (fun paragraph block => paragraph.endLine.place block)
      (paragraph.place (piece.take room))

end Paragraph

/-- The lines of a text. -/
def wrap
    (width : Nat)
    (text : List Char) : List (List Char) :=
  ((pieces text).foldl (Paragraph.add width) {}).endLine.lines.reverse

theorem flatten_piecesAfter (latestFirst text : List Char) :
    (piecesAfter latestFirst text).flatten = latestFirst.reverse ++ text := by
  induction text generalizing latestFirst with
  | nil =>
      unfold piecesAfter
      split
      · next empty => simp [empty]
      · simp
  | cons character rest inductionHypothesis =>
      unfold piecesAfter
      split
      · simp [inductionHypothesis]
      · simp [inductionHypothesis]

/-- The pieces of a text make up the text. -/
theorem flatten_pieces (text : List Char) :
    (pieces text).flatten = text :=
  flatten_piecesAfter [] text

/-- The blocks of a word make up the word. -/
theorem flatten_blocks
    (length : Nat)
    (word : List Char) :
    (blocks length word).flatten = word := by
  fun_induction blocks length word with
  | case1 => simp
  | case2 word long inductionHypothesis =>
      rw [List.flatten_cons, inductionHypothesis, List.take_append_drop]

example : pieces "a (well-known) 16-bit".toList =
    ["a", " ", "(well-", "known)", " ", "16-bit"].map String.toList := by decide +kernel

end Wrapped
end Text
end WordMachine
