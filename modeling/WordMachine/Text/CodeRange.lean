/-!
# Ranges of code points

Character classes are kept as ascending lists of closed ranges of code points.
-/

namespace WordMachine
namespace Text

/-- A closed range of code points. -/
structure CodeRange where
  /-- The least code point. -/
  first : Nat
  /-- The greatest code point. -/
  last : Nat

namespace CodeRange

/-- Whether a code point lies in the range. -/
def contains
    (range : CodeRange)
    (code : Nat) : Bool :=
  range.first ≤ code && code ≤ range.last

/-- Whether a code point lies in one of the ranges. -/
def anyContains
    (ranges : List CodeRange)
    (code : Nat) : Bool :=
  ranges.any fun range => range.contains code

end CodeRange
end Text
end WordMachine
