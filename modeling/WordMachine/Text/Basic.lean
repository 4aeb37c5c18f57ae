import WordMachine.Text.CodePoint

/-!
# Texts

A text is a sequence of code points.  Unlike a string it may hold surrogates,
and every string counts as the text of its characters; `Text.characters?` is the
way back.
-/

namespace WordMachine

/-- A sequence of code points. -/
@[ext] structure Text where
  /-- The code points in order. -/
  points : List CodePoint
deriving DecidableEq, Repr

namespace Text

/-- The text of several characters. -/
def ofCharacters (characters : List Char) : Text :=
  ⟨characters.map CodePoint.ofChar⟩

/-- The text of a string. -/
def ofString (string : String) : Text :=
  ofCharacters string.toList

instance : Coe String Text := ⟨ofString⟩

instance : Append Text := ⟨fun front back => ⟨front.points ++ back.points⟩⟩

/-- Whether a text holds nothing. -/
def isEmpty (text : Text) : Bool :=
  text.points.isEmpty

/-- The characters of a text, if it holds no surrogate. -/
def characters? (text : Text) : Option (List Char) :=
  text.points.mapM CodePoint.char?

/-- The texts one after the other. -/
def join (texts : List Text) : Text :=
  ⟨texts.flatMap points⟩

/-- The texts one after the other, with a separator between neighbours. -/
def separated
    (separator : Text)
    (texts : List Text) : Text :=
  ⟨separator.points.intercalate (texts.map points)⟩

/-- The text of several lines, each ended by a line feed. -/
def ofLines (lines : List Text) : Text :=
  join (lines.map (· ++ "\n"))

/-- Whether a text begins with another. -/
def beginsWith
    (text start : Text) : Bool :=
  start.points.isPrefixOf text.points

/-- What stands before the first occurrence of a mark, and what stands after it if it occurs. -/
def cutAt
    (mark : CodePoint)
    (text : Text) : Text × Option Text :=
  match text.points.dropWhile (· ≠ mark) with
  | [] => (text, none)
  | _ :: after => (⟨text.points.takeWhile (· ≠ mark)⟩, some ⟨after⟩)

@[simp] theorem points_append (front back : Text) :
    (front ++ back).points = front.points ++ back.points :=
  rfl

@[simp] theorem characters?_ofCharacters (characters : List Char) :
    (ofCharacters characters).characters? = some characters := by
  induction characters with
  | nil => rfl
  | cons character characters inductionHypothesis =>
      simp_all [ofCharacters, characters?]

/-- Nothing is lost when a text is cut at a mark that occurs in it. -/
theorem points_cutAt
    {mark : CodePoint}
    {text before after : Text}
    (cut : text.cutAt mark = (before, some after)) :
    text.points = before.points ++ mark :: after.points := by
  have parts := (List.takeWhile_append_dropWhile (p := fun point => decide (point ≠ mark))
    (l := text.points)).symm
  unfold cutAt at cut
  split at cut
  · simp at cut
  · next found rest equation =>
      have stop : found = mark := by
        have head := List.head?_dropWhile_not (fun point => decide (point ≠ mark)) text.points
        rw [equation] at head
        simpa using head
      simp only [Prod.mk.injEq, Option.some.injEq] at cut
      rw [← cut.1, ← cut.2, ← stop]
      rw [equation] at parts
      simpa [stop] using parts

end Text
end WordMachine
