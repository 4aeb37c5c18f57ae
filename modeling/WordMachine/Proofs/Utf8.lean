import Mathlib.Data.List.Basic
import WordMachine.Text.CodePoint
import WordMachine.Text.Utf8

/-!
# Decoding UTF-8

Decoding reads exactly what encoding writes, and encoding writes a character as the standard
library does: `Utf8.decode?_eq_some_iff`.  Both are compared by the numbers of the bytes, for
which a character has one of four forms, chosen by its code point.
-/

namespace WordMachine
namespace Text
namespace Utf8

/-- The numbers of the bytes for a code point. -/
def units (code : Nat) : List Nat :=
  if code < 0x80 then
    [code]
  else if code < 0x800 then
    [0xC0 + code / 0x40, 0x80 + code % 0x40]
  else if code < 0x10000 then
    [0xE0 + code / 0x1000, 0x80 + code / 0x40 % 0x40, 0x80 + code % 0x40]
  else
    [0xF0 + code / 0x40000, 0x80 + code / 0x1000 % 0x40, 0x80 + code / 0x40 % 0x40,
      0x80 + code % 0x40]

theorem map_toNat_encodeCharacter (character : Char) :
    (encodeCharacter character).map UInt8.toNat = units character.toNat := by
  have bound := CodePoint.toNat_character_lt character
  unfold encodeCharacter units
  dsimp only
  split_ifs <;> simp <;> omega

/-- The standard library writes a character in the same way. -/
theorem encodeCharacter_eq (character : Char) :
    encodeCharacter character = String.utf8EncodeChar character := by
  have bound := CodePoint.toNat_character_lt character
  have number : character.val.toNat = character.toNat := rfl
  apply List.map_injective_iff.mpr fun _ _ => UInt8.toNat_inj.mp
  rw [map_toNat_encodeCharacter]
  unfold units String.utf8EncodeChar
  simp only [number, Nat.le_iff_lt_add_one]
  split_ifs <;> simp <;> omega

/-! ## Reading a character -/

theorem character?_eq_some_iff
    {least code : Nat}
    {character : Char} :
    character? least code = some character ↔ least ≤ code ∧ code = character.toNat := by
  unfold character?
  by_cases valid : least ≤ code ∧ code.isValidChar
  · rw [dif_pos valid]
    constructor
    · intro found
      obtain rfl := Option.some.inj found
      exact ⟨valid.1, rfl⟩
    · rintro ⟨-, rfl⟩
      rfl
  · rw [dif_neg valid]
    constructor
    · intro found
      cases found
    · rintro ⟨enough, rfl⟩
      exact absurd ⟨enough, character.valid⟩ valid

theorem continuation?_eq_some_iff
    {byte : UInt8}
    {bits : Nat} :
    continuation? byte = some bits ↔ byte.toNat = 0x80 + bits ∧ bits < 0x40 := by
  unfold continuation?
  rw [Option.ite_none_right_eq_some, Option.some.injEq]
  omega

/-- A character is read back from its bytes, whatever follows. -/
theorem decode?_encodeCharacter_append
    (character : Char)
    (bytes : List UInt8) :
    decode? (encodeCharacter character ++ bytes) = (decode? bytes).map (character :: ·) := by
  have bound := CodePoint.toNat_character_lt character
  have found {least code : Nat} (enough : least ≤ code) (same : code = character.toNat) :
      character? least code = some character := character?_eq_some_iff.mpr ⟨enough, same⟩
  have continued {byte : UInt8} {number : Nat} (continues : byte.toNat = 0x80 + number % 0x40) :
      continuation? byte = some (number % 0x40) :=
    continuation?_eq_some_iff.mpr ⟨continues, Nat.mod_lt number (by decide)⟩
  have numbers := map_toNat_encodeCharacter character
  generalize encodeCharacter character = written at numbers
  unfold units at numbers
  -- One case for each number of bytes.
  split_ifs at numbers with one two three
  · obtain ⟨first, rfl, lead⟩ := List.map_eq_singleton_iff.mp numbers
    rw [List.singleton_append, decode?.eq_def]
    dsimp only
    rw [if_pos (by omega), found (Nat.zero_le _) lead]
    cases decode? bytes <;> rfl
  · obtain ⟨first, _, rfl, lead, rest⟩ := List.map_eq_cons_iff.mp numbers
    obtain ⟨second, rfl, low⟩ := List.map_eq_singleton_iff.mp rest
    rw [List.cons_append, List.singleton_append, decode?, if_neg (by omega), if_pos (by omega),
      continued low, Option.bind_eq_bind, Option.bind_some, found (by omega) (by omega)]
    cases decode? bytes <;> rfl
  · obtain ⟨first, _, rfl, lead, rest⟩ := List.map_eq_cons_iff.mp numbers
    obtain ⟨second, _, rfl, middle, rest⟩ := List.map_eq_cons_iff.mp rest
    obtain ⟨third, rfl, low⟩ := List.map_eq_singleton_iff.mp rest
    rw [List.cons_append, List.cons_append, List.singleton_append, decode?, if_neg (by omega),
      if_neg (by omega), if_pos (by omega)]
    simp only [continued middle, continued low, Option.bind_eq_bind, Option.bind_some]
    rw [found (by omega) (by omega)]
    cases decode? bytes <;> rfl
  · obtain ⟨first, _, rfl, lead, rest⟩ := List.map_eq_cons_iff.mp numbers
    obtain ⟨second, _, rfl, high, rest⟩ := List.map_eq_cons_iff.mp rest
    obtain ⟨third, _, rfl, middle, rest⟩ := List.map_eq_cons_iff.mp rest
    obtain ⟨fourth, rfl, low⟩ := List.map_eq_singleton_iff.mp rest
    rw [List.cons_append, List.cons_append, List.cons_append, List.singleton_append, decode?,
      if_neg (by omega), if_neg (by omega), if_neg (by omega), if_pos (by omega)]
    simp only [continued high, continued middle, continued low, Option.bind_eq_bind,
      Option.bind_some]
    rw [found (by omega) (by omega)]
    cases decode? bytes <;> rfl

/-! ## Reading a text -/

theorem decode?_encode (text : List Char) : decode? (encode text) = some text := by
  induction text with
  | nil => simp [encode, decode?]
  | cons character text inductionHypothesis =>
      have first : encode (character :: text) = encodeCharacter character ++ encode text :=
        List.flatMap_cons
      rw [first, decode?_encodeCharacter_append, inductionHypothesis, Option.map_some]

/-- Bytes with the right numbers are those of a character. -/
theorem append_eq_encode
    (front : List UInt8)
    {back : List UInt8}
    {character : Char}
    {text : List Char}
    (numbers : front.map UInt8.toNat = units character.toNat)
    (rest : back = encode text) :
    front ++ back = encode (character :: text) := by
  have first : front = encodeCharacter character := by
    apply List.map_injective_iff.mpr fun _ _ => UInt8.toNat_inj.mp
    rw [map_toNat_encodeCharacter, numbers]
  rw [first, rest]
  rfl

/-- What can be read is what encoding writes. -/
theorem eq_encode_of_decode?
    {bytes : List UInt8}
    {text : List Char}
    (decoded : decode? bytes = some text) : bytes = encode text := by
  -- One case for each number of bytes that a character may have; the others are refused.
  fun_induction decode? bytes generalizing text
  case case1 =>
    obtain rfl := Option.some.inj decoded
    rfl
  case case2 first rest lead one inductionHypothesis =>
    simp only [Option.bind_eq_bind, Option.bind_eq_some_iff, character?_eq_some_iff,
      Option.pure_def, Option.some.injEq] at decoded
    obtain ⟨character, ⟨-, number⟩, later, read, rfl⟩ := decoded
    refine append_eq_encode [first] ?_ (inductionHypothesis read)
    rw [units, if_pos (number ▸ one)]
    exact congrArg ([·]) number
  case case3 first lead notOne two second rest inductionHypothesis =>
    simp only [Option.bind_eq_bind, Option.bind_eq_some_iff, character?_eq_some_iff,
      continuation?_eq_some_iff, Option.pure_def, Option.some.injEq] at decoded
    obtain ⟨low, ⟨lowByte, lowBound⟩, character, ⟨least, number⟩, later, read, rfl⟩ := decoded
    refine append_eq_encode [first, second] ?_ (inductionHypothesis read)
    rw [units, if_neg (by omega), if_pos (by omega)]
    simp only [List.map_cons, List.map_nil, List.cons.injEq, and_true]
    omega
  case case5 first lead notOne notTwo three second third rest inductionHypothesis =>
    simp only [Option.bind_eq_bind, Option.bind_eq_some_iff, character?_eq_some_iff,
      continuation?_eq_some_iff, Option.pure_def, Option.some.injEq] at decoded
    obtain ⟨middle, ⟨middleByte, middleBound⟩, low, ⟨lowByte, lowBound⟩, character,
      ⟨least, number⟩, later, read, rfl⟩ := decoded
    refine append_eq_encode [first, second, third] ?_ (inductionHypothesis read)
    rw [units, if_neg (by omega), if_neg (by omega), if_pos (by omega)]
    simp only [List.map_cons, List.map_nil, List.cons.injEq, and_true]
    omega
  case case7 first lead notOne notTwo notThree four second third fourth rest inductionHypothesis =>
    simp only [Option.bind_eq_bind, Option.bind_eq_some_iff, character?_eq_some_iff,
      continuation?_eq_some_iff, Option.pure_def, Option.some.injEq] at decoded
    obtain ⟨high, ⟨highByte, highBound⟩, middle, ⟨middleByte, middleBound⟩, low,
      ⟨lowByte, lowBound⟩, character, ⟨least, number⟩, later, read, rfl⟩ := decoded
    refine append_eq_encode [first, second, third, fourth] ?_ (inductionHypothesis read)
    rw [units, if_neg (by omega), if_neg (by omega), if_neg (by omega)]
    simp only [List.map_cons, List.map_nil, List.cons.injEq, and_true]
    omega
  all_goals simp at decoded

/-- Bytes are read as a text exactly if they are the form of the text in UTF-8. -/
theorem decode?_eq_some_iff
    {bytes : List UInt8}
    {text : List Char} :
    decode? bytes = some text ↔ bytes = text.flatMap String.utf8EncodeChar := by
  have written : encode text = text.flatMap String.utf8EncodeChar :=
    List.flatMap_congr fun character _ => encodeCharacter_eq character
  rw [← written]
  constructor
  · exact eq_encode_of_decode?
  · rintro rfl
    exact decode?_encode text

end Utf8
end Text
end WordMachine
