import WordMachine.Channel.Basic
import WordMachine.Channel.CodePoint

/-!
# Collected output

A collector keeps the character codes that are written to it.  It may be made to
come back with a reply of its own once it holds enough of them.
-/

namespace WordMachine

/-- Output that is kept in memory. -/
structure Collector where
  /-- The codes that were written, the latest first. -/
  latestFirst : List Int := []
  /-- How many codes are accepted, and what later writes come back with. -/
  limit : Option (Nat × Reply Unit) := none

namespace Collector

/-- The codes that were written, the earliest first. -/
def codes (collector : Collector) : List Int :=
  collector.latestFirst.reverse

/-- The text that was written, if all codes are code points. -/
def text (collector : Collector) : Except Failure Text :=
  Text.mk <$> collector.codes.mapM codePoint

/-- Forgets what was written. -/
def clear (collector : Collector) : Collector :=
  { collector with latestFirst := [] }

/-- Writes one code. -/
def write
    (code : Int)
    (collector : Collector) : Reply Unit × Collector :=
  let accepted := (Reply.done (), { collector with latestFirst := code :: collector.latestFirst })
  match collector.limit with
  | some (capacity, reply) =>
      if collector.latestFirst.length < capacity then accepted else (reply, collector)
  | none => accepted

end Collector
end WordMachine
