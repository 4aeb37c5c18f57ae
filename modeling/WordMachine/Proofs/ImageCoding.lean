import Mathlib.Data.List.Basic
import WordMachine.Image
import WordMachine.Machine.Basic

/-!
# The coding of images

Decoding takes the words of an image from its bytes two by two, and encoding puts them
back: each undoes the other, up to an unpaired last byte and up to the limit.  A memory
forgets zeros at the end of an image, and nothing else: `Image.coding_inverse`.
-/

namespace WordMachine
namespace Image

/-! ## Pairs of bytes -/

/-- The word of two bytes, the low one first. -/
def joined (low high : UInt8) : Word :=
  low.toUInt16 + 256 * high.toUInt16

theorem toNat_joined (low high : UInt8) :
    (joined low high).toNat = low.toNat + 256 * high.toNat := by
  have lowBound := low.toNat_lt
  have highBound := high.toNat_lt
  simp only [joined, UInt16.toNat_add, UInt16.toNat_mul, UInt8.toNat_toUInt16]
  have factor : (256 : UInt16).toNat = 256 := rfl
  rw [factor]
  omega

/-- The bytes of a word stand for the word. -/
theorem joined_bytes (word : Word) :
    joined word.toUInt8 (word >>> 8).toUInt8 = word := by
  have bound := word.toNat_lt
  have shift : (8 : UInt16).toNat % 16 = 8 := rfl
  apply UInt16.toNat_inj.mp
  rw [toNat_joined, UInt16.toNat_toUInt8, UInt16.toNat_toUInt8, UInt16.toNat_shiftRight, shift,
    Nat.shiftRight_eq_div_pow]
  omega

/-- The bytes of the word of two bytes are these bytes. -/
theorem bytes_joined (low high : UInt8) :
    (joined low high).toUInt8 = low ∧ (joined low high >>> 8).toUInt8 = high := by
  have lowBound := low.toNat_lt
  have highBound := high.toNat_lt
  have shift : (8 : UInt16).toNat % 16 = 8 := rfl
  constructor
  · apply UInt8.toNat_inj.mp
    rw [UInt16.toNat_toUInt8, toNat_joined]
    omega
  · apply UInt8.toNat_inj.mp
    rw [UInt16.toNat_toUInt8, UInt16.toNat_shiftRight, shift, toNat_joined,
      Nat.shiftRight_eq_div_pow]
    omega

/-! ## Words of bytes -/

@[simp] theorem words_nil : words [].toArray = [] :=
  rfl

/-- An unpaired byte stands for nothing. -/
@[simp] theorem words_single (byte : UInt8) : words [byte].toArray = [] := by
  simp [words]

/-- The first two bytes stand for the first word. -/
theorem words_cons
    (low high : UInt8)
    (bytes : List UInt8) :
    words (low :: high :: bytes).toArray = joined low high :: words bytes.toArray := by
  have count : (low :: high :: bytes).length / 2 = bytes.length / 2 + 1 := by
    simp only [List.length_cons]
    omega
  have later (index : Nat) :
      wordAt (low :: high :: bytes).toArray (2 * (index + 1)) =
        wordAt bytes.toArray (2 * index) := by
    have place : 2 * (index + 1) = 2 * index + 2 := by omega
    simp [wordAt, place]
  rw [words, words, List.size_toArray, List.size_toArray, count, List.range_succ_eq_map,
    List.map_cons, List.map_map]
  exact congrArg₂ List.cons rfl (List.map_congr_left fun index _ => later index)

theorem encode_cons
    (word : Word)
    (rest : List Word) :
    encode (word :: rest) = word.toUInt8 :: (word >>> 8).toUInt8 :: encode rest :=
  rfl

/-- Words are found again behind which there are other bytes. -/
theorem words_encode_append
    (written : List Word)
    (bytes : List UInt8) :
    words (encode written ++ bytes).toArray = written ++ words bytes.toArray := by
  induction written with
  | nil => rfl
  | cons word written inductionHypothesis =>
      rw [encode_cons, List.cons_append, List.cons_append, words_cons, joined_bytes,
        inductionHypothesis, List.cons_append]

/-- Bytes are found again, all but an unpaired one. -/
theorem encode_words : (bytes : List UInt8) ->
    encode (words bytes.toArray) = bytes.take (2 * (bytes.length / 2))
  | [] => rfl
  | [byte] => by simp [encode]
  | low :: high :: bytes => by
      have count : 2 * ((low :: high :: bytes).length / 2) = 2 * (bytes.length / 2) + 2 := by
        simp only [List.length_cons]
        omega
      obtain ⟨sameLow, sameHigh⟩ := bytes_joined low high
      rw [words_cons, encode_cons, sameLow, sameHigh, encode_words bytes, count]
      rfl

theorem encode_take
    (count : Nat)
    (written : List Word) :
    encode (written.take count) = (encode written).take (2 * count) := by
  induction written generalizing count with
  | nil => simp [encode]
  | cons word written inductionHypothesis =>
      cases count with
      | zero => rfl
      | succ count =>
          rw [List.take_succ_cons, encode_cons, encode_cons, inductionHypothesis, Nat.mul_succ]
          rfl

/-! ## Limits -/

/-- Pairs of bytes at the start stand for words at the start. -/
theorem words_take (count : Nat) : (bytes : List UInt8) ->
    words (bytes.take (2 * count)).toArray = (words bytes.toArray).take count
  | [] => by rw [List.take_nil, words_nil, List.take_nil]
  | [byte] => by cases count <;> simp [Nat.mul_succ]
  | low :: high :: bytes => by
      cases count with
      | zero => simp
      | succ count =>
          rw [Nat.mul_succ, List.take_succ_cons, List.take_succ_cons, words_cons, words_cons,
            List.take_succ_cons, words_take count bytes]

/-- Words are taken by taking the bytes that they stand for. -/
theorem words_take_bytes
    (count : Nat)
    (bytes : Array UInt8) : words (bytes.take (2 * count)) = (words bytes).take count := by
  have decoded := words_take count bytes.toList
  rw [Array.toArray_toList] at decoded
  rw [← decoded]
  exact congrArg words List.take_toArray

theorem length_words (bytes : Array UInt8) :
    (words bytes).length = bytes.size / 2 := by
  rw [words, List.length_map, List.length_range]

/-- Under a limit that is not negative, the words up to the limit are decoded. -/
theorem decode?_natCast
    (limit : Nat)
    (bytes : Array UInt8) : decode? limit bytes = some ((words bytes).take limit) := by
  have used : usedBytes limit bytes.size = 2 * min (bytes.size / 2) limit := by
    simp [usedBytes]
  have even : 2 * min (bytes.size / 2) limit % 2 = 0 := Nat.mul_mod_right 2 _
  have enough : (words bytes).take (min (bytes.size / 2) limit) = (words bytes).take limit := by
    rw [List.take_eq_take_iff, length_words]
    omega
  rw [decode?, used, if_pos even, ← enough, words_take_bytes]

theorem decode_eq (bytes : Array UInt8) :
    decode bytes = (words bytes).take capacity :=
  Option.some.inj ((decode?_capacity bytes).symm.trans (decode?_natCast capacity bytes))

theorem length_decode_le (bytes : Array UInt8) :
    (decode bytes).length ≤ capacity := by
  rw [decode_eq]
  exact List.length_take_le _ _

/-- Bytes that come after all that can be decoded are not seen. -/
theorem decode_append
    {bytes : Array UInt8}
    (long : 2 * capacity ≤ bytes.size)
    (more : Array UInt8) : decode (bytes ++ more) = decode bytes := by
  have front (others : Array UInt8) :
      decode others = words (others.toList.take (2 * capacity)).toArray := by
    rw [words_take, decode_eq, Array.toArray_toList]
  have enough : 2 * capacity ≤ bytes.toList.length := long
  rw [front, front, Array.toList_append, List.take_append_of_le_length enough]

/-! ## What a memory keeps of an image -/

/-- Words are the same but for zeros at the end. -/
def SameUpToZeros (one other : List Word) : Prop :=
  ∃ count more, one ++ List.replicate count 0 = other ++ List.replicate more 0

theorem getD_append_replicate
    (written : List Word)
    (count place : Nat) :
    (written ++ List.replicate count 0)[place]?.getD 0 = written[place]?.getD 0 := by
  by_cases within : place < written.length
  · rw [List.getElem?_append_left within]
  · have beyond : written.length ≤ place := Nat.le_of_not_lt within
    rw [List.getElem?_append_right beyond, List.getElem?_replicate,
      List.getElem?_eq_none beyond]
    split <;> rfl

/-- Zeros at the end cannot be told from what is not there. -/
theorem sameUpToZeros_iff {one other : List Word} :
    SameUpToZeros one other ↔ ∀ place : Nat, one[place]?.getD 0 = other[place]?.getD 0 := by
  constructor
  · rintro ⟨count, more, same⟩ place
    rw [← getD_append_replicate one count, same, getD_append_replicate]
  · intro same
    refine ⟨other.length - one.length, one.length - other.length, ?_⟩
    apply List.ext_getElem
    · simp only [List.length_append, List.length_replicate]
      omega
    · intro place bound otherBound
      have padded := same place
      rw [← getD_append_replicate one (other.length - one.length),
        ← getD_append_replicate other (one.length - other.length),
        List.getElem?_eq_getElem bound, List.getElem?_eq_getElem otherBound] at padded
      exact padded

/-- A fresh machine keeps of an image what is in its cells. -/
theorem loadImage_fresh_eq_iff {bytes others : Array UInt8} :
    Machine.fresh.loadImage bytes = Machine.fresh.loadImage others ↔
      ∀ address : Address,
        (decode bytes)[address.val]?.getD 0 = (decode others)[address.val]?.getD 0 := by
  have cell (image : Array UInt8) (address : Address) :
      (Machine.fresh.loadImage image).memory.get address =
        (decode image)[address.val]?.getD 0 := by
    have held := Memory.get_load Memory.empty (decode image) address
    rwa [Memory.get_empty] at held
  constructor
  · intro same address
    rw [← cell, ← cell, same]
  · intro same
    have memories : Memory.empty.load (decode bytes) = Memory.empty.load (decode others) := by
      apply Memory.ext
      intro address
      exact (cell bytes address).trans ((same address).trans (cell others address).symm)
    exact congrArg (fun memory => { Machine.fresh with memory }) memories

/-- Decoding words that were encoded gives the words up to the limit, whether an unpaired byte
follows them or not, and encoding what was decoded gives the pairs of bytes up to the limit.  Fresh
machines with two images are the same if and only if the decoded words are the same but for zeros
at the end, and bytes beyond those for all cells make no difference to any machine. -/
theorem coding_inverse :
    (∀ (written : List Word) (last : Option UInt8) (limit : Nat),
      decode? limit (encode written ++ last.toList).toArray =
        some (written.take (min written.length limit))) ∧
    (∀ (bytes : Array UInt8) (limit : Nat), ∃ decoded,
      decode? limit bytes = some decoded ∧
        encode decoded = bytes.toList.take (2 * min (bytes.size / 2) limit)) ∧
    (∀ bytes : Array UInt8, decode? 32768 bytes = some (decode bytes)) ∧
    (∀ bytes others : Array UInt8,
      Machine.fresh.loadImage bytes = Machine.fresh.loadImage others ↔
        SameUpToZeros (decode bytes) (decode others)) ∧
    ∀ (machine : Machine) (bytes more : Array UInt8), 65536 ≤ bytes.size ->
      machine.loadImage (bytes ++ more) = machine.loadImage bytes := by
  refine ⟨fun written last limit => ?_, fun bytes limit => ?_, decode?_capacity,
    fun bytes others => ?_, fun machine bytes more long => ?_⟩
  · have unpaired : words last.toList.toArray = [] := by cases last <;> simp
    rw [decode?_natCast, words_encode_append, unpaired, List.append_nil, Nat.min_comm,
      ← List.take_eq_take_min]
  · refine ⟨_, decode?_natCast limit bytes, ?_⟩
    have whole := encode_words bytes.toList
    rw [Array.toArray_toList, Array.length_toList] at whole
    rw [encode_take, whole, List.take_take]
    congr 1
    omega
  · rw [loadImage_fresh_eq_iff, sameUpToZeros_iff]
    refine ⟨fun same place => ?_, fun same address => same address.val⟩
    by_cases inRange : place < capacity
    · exact same ⟨place, inRange⟩
    · have beyond (image : Array UInt8) : (decode image)[place]? = none := by
        apply List.getElem?_eq_none
        exact Nat.le_trans (length_decode_le image) (Nat.le_of_not_lt inRange)
      rw [beyond, beyond]
  · rw [Machine.loadImage, decode_append long more]
    rfl

/-- A byte behind an image that fills the memory makes no difference. -/
theorem coding_inverse_fullImage :
    let full : Array UInt8 := Array.replicate 65536 1
    65536 ≤ full.size ∧
      Machine.fresh.loadImage (full ++ #[7]) = Machine.fresh.loadImage full := by
  intro full
  have long : 65536 ≤ full.size := Nat.le_of_eq Array.size_replicate.symm
  exact ⟨long, coding_inverse.2.2.2.2 Machine.fresh full #[7] long⟩

end Image
end WordMachine
