import WordMachine.Text.Basic

/-!
# Paths

A path is a root and the names below it.  Reading one drops empty names and
single dots; a double dot stays, because it depends on what is stored.
-/

namespace WordMachine

/-- The place of a file. -/
structure Path where
  /-- One or two slashes for a place counted from a root, and nothing otherwise. -/
  root : String := ""
  /-- The names on the way. -/
  parts : List Text
deriving DecidableEq, Repr

namespace Path

/-- What stands between the names of a path. -/
def slash : CodePoint :=
  CodePoint.ofChar '/'

/-- Cuts a text at every slash. -/
def names : List CodePoint -> List (List CodePoint)
  | [] => [[]]
  | point :: rest =>
      if point = slash then
        [] :: names rest
      else
        match names rest with
        | name :: others => (point :: name) :: others
        | [] => [[point]]

/-- Three or more slashes in front count as one. -/
def rootOf (text : Text) : String :=
  match (text.points.takeWhile (· = slash)).length with
  | 0 => ""
  | 2 => "//"
  | _ => "/"

/-- Reads a path. -/
def ofText (text : Text) : Path :=
  let parts := (names text.points).filter fun name => name ≠ [] ∧ name ≠ [CodePoint.ofChar '.']
  { root := rootOf text, parts := parts.map Text.mk }

/-- A path as it is shown.  The empty path is a dot. -/
def display (path : Path) : Text :=
  if path.root = "" ∧ path.parts = [] then
    "."
  else
    path.root ++ Text.separated ⟨[slash]⟩ path.parts

/-- Whether a path holds a character that no file name can hold. -/
def hasNull (path : Path) : Bool :=
  path.parts.any fun name => name.points.contains (CodePoint.ofChar '\x00')

example : (ofText ".//a/./b/").display = "a/b" := by decide +kernel

end Path
end WordMachine
