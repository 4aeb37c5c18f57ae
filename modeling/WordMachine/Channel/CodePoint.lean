import WordMachine.Channel.Failure
import WordMachine.Text.CodePoint
import WordMachine.Word

/-!
# Numbers as code points

Character streams and texts take code points.  A number that is none is a value
that does not fit; one beyond thirty-two bits is too large even to be looked at.
-/

namespace WordMachine

/-- A number as a code point, or the failure that it causes. -/
def codePoint (code : Int) : Except Failure CodePoint :=
  if 0 ≤ code ∧ code ≤ 0x10FFFF then
    .ok (CodePoint.ofNat code.toNat)
  else if -0x80000000 ≤ code ∧ code < 0x80000000 then
    .error { kind := .value, argument := some "chr() arg not in range(0x110000)" }
  else
    .error { kind := .overflow }

theorem codePoint_toNat (point : CodePoint) : codePoint point.toNat = .ok point := by
  have small := point.isSmall
  rw [codePoint, if_pos (by omega)]
  exact congrArg Except.ok (dif_pos small)

theorem codePoint_word (code : Word) :
    codePoint code.toNat = .ok (CodePoint.ofNat code.toNat) := by
  have bound := code.toNat_lt
  rw [codePoint, if_pos (by omega)]
  rfl

end WordMachine
