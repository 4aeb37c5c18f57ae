import WordMachine.Proofs.ImageCoding

/-!
# The limit of decoding

A limit that is not negative bounds how many words of an image are decoded.  A negative one is no
bound: it leaves off as many words at the end, and what is left must come in pairs of bytes.  So the
limit does its work exactly if it is not negative or nothing is left: `Image.decoding_under_limit`.
-/

namespace WordMachine
namespace Image

/-- A limit does its work: words are decoded, no more than the limit allows, and a larger limit adds
words at the end only. -/
def RespectsLimit
    (limit : Int)
    (bytes : Array UInt8) : Prop :=
  ∃ decoded, decode? limit bytes = some decoded ∧
    decoded.length ≤ max limit 0 ∧
    ∀ larger, limit < larger -> ∀ more, decode? larger bytes = some more -> decoded <+: more

/-- A negative limit leaves off words at the end, and decoding fails if a byte without a partner is
among what is left. -/
theorem decode?_negative
    {limit : Int}
    (negative : limit < 0)
    (bytes : Array UInt8) :
    decode? limit bytes =
      if bytes.size % 2 = 0 ∨ bytes.size ≤ 2 * limit.natAbs then
        some ((words bytes).take (bytes.size / 2 - limit.natAbs))
      else
        none := by
  have used : usedBytes limit bytes.size = bytes.size - 2 * limit.natAbs :=
    if_neg (Int.not_le.mpr negative)
  rw [decode?, used]
  by_cases paired : bytes.size % 2 = 0 ∨ bytes.size ≤ 2 * limit.natAbs
  · have whole : bytes.size - 2 * limit.natAbs = 2 * (bytes.size / 2 - limit.natAbs) := by omega
    rw [if_pos paired, whole, if_pos (Nat.mul_mod_right 2 _), words_take_bytes]
  · rw [if_neg paired, if_neg (by omega)]

theorem respectsLimit_natCast
    (limit : Nat)
    (bytes : Array UInt8) : RespectsLimit limit bytes := by
  refine ⟨_, decode?_natCast limit bytes, ?_, fun larger above more decoded => ?_⟩
  · have length := List.length_take_le limit (words bytes)
    omega
  · have nonnegative : 0 ≤ larger := by omega
    obtain ⟨larger, rfl⟩ := Int.eq_ofNat_of_zero_le nonnegative
    rw [decode?_natCast] at decoded
    obtain rfl := Option.some.inj decoded
    exact List.take_prefix_take_left (by omega)

/-- A negative limit does its work only if it leaves off everything. -/
theorem respectsLimit_negative_iff
    {limit : Int}
    (negative : limit < 0)
    (bytes : Array UInt8) :
    RespectsLimit limit bytes ↔ bytes.size ≤ 2 * limit.natAbs := by
  constructor
  · rintro ⟨decoded, decodes, bounded, -⟩
    rw [decode?_negative negative] at decodes
    by_contra remains
    split at decodes
    · have same := Option.some.inj decodes
      have length : decoded.length = min (bytes.size / 2 - limit.natAbs) (bytes.size / 2) := by
        rw [← same, List.length_take, length_words]
      omega
    · cases decodes
  · intro everything
    have nothing : bytes.size / 2 - limit.natAbs = 0 := by omega
    refine ⟨[], ?_, ?_, fun _ _ _ _ => List.nil_prefix⟩
    · rw [decode?_negative negative, if_pos (.inr everything), nothing, List.take_zero]
    · exact Int.le_max_right limit 0

/-- What is decoded under any limit, and when the limit does its work: always if it is not negative,
and otherwise only if no bytes are left once the limit has taken its share from the end. -/
theorem decoding_under_limit
    (limit : Int)
    (bytes : Array UInt8) :
    (RespectsLimit limit bytes ↔ 0 ≤ limit ∨ bytes.size ≤ 2 * limit.natAbs) ∧
    decode? limit bytes =
      if 0 ≤ limit then
        some ((words bytes).take limit.toNat)
      else if bytes.size % 2 = 0 ∨ bytes.size ≤ 2 * limit.natAbs then
        some ((words bytes).take (bytes.size / 2 - limit.natAbs))
      else
        none := by
  by_cases nonnegative : 0 ≤ limit
  · obtain ⟨count, rfl⟩ := Int.eq_ofNat_of_zero_le nonnegative
    rw [if_pos nonnegative]
    exact ⟨iff_of_true (respectsLimit_natCast count bytes) (.inl nonnegative),
      decode?_natCast count bytes⟩
  · have negative : limit < 0 := Int.not_le.mp nonnegative
    rw [if_neg nonnegative, respectsLimit_negative_iff negative, decode?_negative negative]
    simp only [nonnegative, false_or, and_self]

/-- Under the limit −1 two of three words are decoded, and five bytes cannot be decoded at all. -/
theorem decoding_under_negative_limit :
    decode? (-1) #[1, 0, 2, 0, 3, 0] = some [1, 2] ∧
      decode? (-1) #[1, 0, 2, 0, 3] = none ∧
      ¬ RespectsLimit (-1) #[1, 0, 2, 0, 3, 0] ∧
      ¬ RespectsLimit (-1) #[1, 0, 2, 0, 3] := by
  refine ⟨by decide, by decide, ?_, ?_⟩
  · rintro ⟨decoded, decodes, bounded, -⟩
    obtain rfl : [1, 2] = decoded := Option.some.inj decodes
    exact absurd bounded (by decide)
  · rintro ⟨decoded, decodes, -⟩
    cases decodes

end Image
end WordMachine
