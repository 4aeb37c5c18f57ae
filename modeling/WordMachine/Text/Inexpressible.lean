import WordMachine.Text.Quoted

/-!
# Code points beyond an encoding

An encoding that cannot express some code points of a text names the encoding,
the place of those code points, and the reason.
-/

namespace WordMachine
namespace Text

/-- Which code points cannot be expressed, the first of them having a given index in the text. -/
def inexpressiblePlace
    (index : Nat) : List CodePoint -> String
  | [point] => s!"character '{String.ofList (escapeCode point.toNat)}' in position {index}"
  | points => s!"characters in position {index}-{index + points.length - 1}"

/-- The words for code points that an encoding cannot express. -/
def inexpressible
    (encoding reason : String)
    (index : Nat)
    (points : List CodePoint) : String :=
  s!"'{encoding}' codec can't encode {inexpressiblePlace index points}: {reason}"

/-- The words for surrogates that UTF-8 cannot express. -/
def inexpressibleSurrogates
    (index : Nat)
    (points : List CodePoint) : String :=
  inexpressible "utf-8" "surrogates not allowed" index points

end Text
end WordMachine
