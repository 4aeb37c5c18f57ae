import WordMachine.Channel.Basic
import WordMachine.Text.Newline

/-!
# Buffered lines

A line feed is a source of whole lines, given by what its calls come back with.
A line buffer hands out the characters of a line one by one, and asks for the
next line only when none are left.  A line without characters is the end of
input, but only for the read that meets it.
-/

namespace WordMachine

/-- A source of whole lines. -/
structure LineFeed where
  /-- What the next calls come back with.  After that there are only empty lines. -/
  outcomes : List (Reply Text) := []
  /-- How many lines have been asked for. -/
  calls : Nat := 0

namespace LineFeed

/-- The feed of a text, cut after each line feed. -/
def ofText (text : Text) : LineFeed :=
  { outcomes := (Text.splitLines text.points).map fun line => .done ⟨line⟩ }

/-- Asks for the next line. -/
def next (feed : LineFeed) : Reply Text × LineFeed :=
  match feed.outcomes with
  | [] => (.done "", { feed with calls := feed.calls + 1 })
  | outcome :: outcomes => (outcome, { outcomes, calls := feed.calls + 1 })

end LineFeed

/-- Input that arrives in lines. -/
structure LineBuffer where
  /-- Where lines come from. -/
  feed : LineFeed
  /-- The code points of the present line that have not been read. -/
  line : List CodePoint := []

namespace LineBuffer

/-- What a line buffer says when it gets an empty line. -/
def ended : Failure :=
  .endOfInput "end of input stream"

/-- Reads one character. -/
def read (buffer : LineBuffer) : Reply Value × LineBuffer :=
  match buffer.line with
  | point :: line => (.done (.integer point.toNat), { buffer with line })
  | [] =>
      match buffer.feed.next with
      | (.done text, feed) =>
          match text.points with
          | [] => (.failed ended, { feed })
          | point :: line => (.done (.integer point.toNat), { feed, line })
      | (.failed failure, feed) => (.failed failure, { feed })
      | (.interrupted words, feed) => (.interrupted words, { feed })

end LineBuffer
end WordMachine
