import WordMachine.Channel.Failure
import WordMachine.Text.Inexpressible

/-!
# Text streams

A text stream takes code points and can be flushed.  Any of its calls may fail,
in any pattern: what a call comes back with depends on its number alone.  A write
also fails on a code point that the encoding cannot express.  A call that fails is
counted and has no other effect.
-/

namespace WordMachine

/-- Which code points a stream can express. -/
inductive Encoding where
  /-- All. -/
  | unrestricted
  /-- All but surrogates. -/
  | utf8
  /-- Those below 128. -/
  | ascii
deriving DecidableEq, Repr

namespace Encoding

/-- Why a stream refuses a code point, if it does. -/
def refusal?
    (encoding : Encoding)
    (point : CodePoint) : Option Failure :=
  let refuse (words : String) : Failure := { kind := .value, argument := some words }
  match encoding with
  | .unrestricted => none
  | .utf8 =>
      if point.isSurrogate then
        some (refuse (Text.inexpressibleSurrogates 0 [point]))
      else
        none
  | .ascii =>
      if 128 ≤ point.toNat then
        some (refuse (Text.inexpressible "ascii" "ordinal not in range(128)" 0 [point]))
      else
        none

end Encoding

/-- What the calls of one sort come back with before they have any effect, by their numbers,
counted from zero. -/
abbrev CallReplies := Nat -> Reply Unit

namespace CallReplies

/-- Every call succeeds. -/
def succeed : CallReplies := fun _ => .done ()

/-- Every call fails. -/
def fail (failure : Failure) : CallReplies := fun _ => .failed failure

/-- One call comes back in its own way, and all others as before. -/
def setAt
    (replies : CallReplies)
    (call : Nat)
    (reply : Reply Unit) : CallReplies :=
  fun other => if other = call then reply else replies other

end CallReplies

/-- A stream that takes code points. -/
structure TextStream where
  /-- Which code points it can express. -/
  encoding : Encoding := .unrestricted
  /-- What its writes come back with. -/
  writeReplies : CallReplies := .succeed
  /-- What its flushes come back with. -/
  flushReplies : CallReplies := .succeed
  /-- How many writes were called. -/
  writes : Nat := 0
  /-- How many flushes were called. -/
  flushes : Nat := 0
  /-- The code points that were written, the latest first. -/
  latestFirst : List CodePoint := []

namespace TextStream

/-- The text that was written. -/
def written (stream : TextStream) : Text :=
  ⟨stream.latestFirst.reverse⟩

/-- A closed stream in memory: every write fails, but a flush has nothing to do and succeeds. -/
def refuseWrites
    (failure : Failure)
    (stream : TextStream) : TextStream :=
  { stream with writeReplies := .fail failure }

/-- A closed stream of a device: every write and every flush fails. -/
def close
    (failure : Failure)
    (stream : TextStream) : TextStream :=
  { stream.refuseWrites failure with flushReplies := .fail failure }

/-- Writes one code point. -/
def write
    (stream : TextStream)
    (point : CodePoint) : Reply Unit × TextStream :=
  let counted := { stream with writes := stream.writes + 1 }
  match stream.writeReplies stream.writes with
  | .done _ =>
      match stream.encoding.refusal? point with
      | some failure => (.failed failure, counted)
      | none => (.done (), { counted with latestFirst := point :: stream.latestFirst })
  | reply => (reply, counted)

/-- Flushes the stream. -/
def flush (stream : TextStream) : Reply Unit × TextStream :=
  (stream.flushReplies stream.flushes, { stream with flushes := stream.flushes + 1 })

end TextStream
end WordMachine
