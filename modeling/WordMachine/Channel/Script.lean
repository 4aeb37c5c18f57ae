import WordMachine.Channel.Basic
import WordMachine.Text.Newline
import WordMachine.Text.Utf8

/-!
# Scripted input

A script is a text that is handed out character by character.  More text can be
fed to it at any time; while there is none it is at the end of input.
-/

namespace WordMachine

/-- Input that is known beforehand. -/
structure Script where
  /-- The code points that have not been read. -/
  pending : List CodePoint := []

namespace Script

/-- The script of a text. -/
def ofText (text : Text) : Script :=
  ⟨text.points⟩

/-- The script of the bytes of a text file, with one line feed for every line end. -/
def ofBytes? (bytes : List UInt8) : Option Script :=
  (Text.Utf8.decode? bytes).map fun characters =>
    ofText (Text.ofCharacters (Text.foldNewlines characters))

/-- A line without the line feeds at its end, and then with one. -/
def terminated (line : Text) : List CodePoint :=
  let lineFeed := CodePoint.ofChar '\n'
  (line.points.reverse.dropWhile (· = lineFeed)).reverse ++ [lineFeed]

/-- The script of several lines, each ended by one line feed. -/
def ofLines (lines : List Text) : Script :=
  ⟨lines.flatMap terminated⟩

/-- Adds text after what is pending. -/
def feed
    (script : Script)
    (text : Text) : Script :=
  ⟨script.pending ++ text.points⟩

/-- How many characters have not been read. -/
def remaining (script : Script) : Nat :=
  script.pending.length

/-- What a script without pending characters says. -/
def exhausted : Failure :=
  .endOfInput "scripted input exhausted"

/-- Reads one character. -/
def read (script : Script) : Reply Value × Script :=
  match script.pending with
  | [] => (.failed exhausted, script)
  | point :: rest => (.done (.integer point.toNat), ⟨rest⟩)

end Script
end WordMachine
