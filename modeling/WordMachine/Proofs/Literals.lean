import Mathlib.Data.List.TakeWhile
import Mathlib.Data.Nat.Digits.Lemmas
import WordMachine.Proofs.Digits

/-!
# What literals spell

A positive number is spelt by its decimal digits, or by its digits in another radix, zeros
included, behind the mark of the radix.  A plus may come first, and blanks may surround it all.
A text is read as a positive number exactly if it spells the number in this way:
`Text.readInteger?_eq_some_iff`.
-/

namespace WordMachine
namespace Text
namespace Numeral

/-! ## The digits of a number -/

/-- The digits of a number, the most significant first, behind some zeros. -/
def digitsOf (radix zeros number : Nat) : List Nat :=
  List.replicate zeros 0 ++ (Nat.digits radix number).reverse

/-- The value of digits that are written with the highest first, as the library computes it from
the lowest. -/
theorem value_eq_ofDigits
    (radix : Nat)
    (digits : List Nat) :
    value radix digits = Nat.ofDigits radix digits.reverse := by
  rw [Nat.ofDigits_eq_foldr, List.foldr_reverse, value]
  congr 1
  funext total digit
  rw [Nat.add_comm, Nat.mul_comm]
  rfl

/-- The digits of a number denote it. -/
theorem value_digitsOf (radix zeros number : Nat) :
    value radix (digitsOf radix zeros number) = number := by
  rw [value_eq_ofDigits, digitsOf, List.reverse_append, List.reverse_reverse,
    List.reverse_replicate, Nat.ofDigits_append_replicate_zero, Nat.ofDigits_digits]

/-- Digits are those of the number that they denote, unless a zero comes first. -/
theorem eq_digitsOf_value
    {radix : Nat}
    (large : 1 < radix)
    {digits : List Nat}
    (bounds : ∀ digit ∈ digits, digit < radix)
    (noZero : ∀ rest, digits ≠ 0 :: rest) :
    digits = digitsOf radix 0 (value radix digits) := by
  have last (nonempty : digits.reverse ≠ []) : digits.reverse.getLast nonempty ≠ 0 := by
    cases digits with
    | nil => exact absurd rfl nonempty
    | cons digit rest =>
        rw [List.getLast_reverse]
        rintro rfl
        exact noZero rest rfl
  have same := Nat.digits_ofDigits radix large digits.reverse (by simpa using bounds) last
  rw [digitsOf, value_eq_ofDigits, same]
  simp

/-- Digits are those of the number that they denote, behind some zeros. -/
theorem exists_eq_digitsOf
    {radix : Nat}
    (large : 1 < radix)
    {digits : List Nat}
    (bounds : ∀ digit ∈ digits, digit < radix) :
    ∃ zeros, digits = digitsOf radix zeros (value radix digits) := by
  induction digits with
  | nil => exact ⟨0, by simp [digitsOf, value]⟩
  | cons digit rest inductionHypothesis =>
      by_cases isZero : digit = 0
      -- Another zero in front changes nothing but the number of zeros.
      · subst isZero
        obtain ⟨zeros, same⟩ := inductionHypothesis (List.forall_mem_cons.mp bounds).2
        have denoted : value radix (0 :: rest) = value radix rest := by simp [value]
        refine ⟨zeros + 1, ?_⟩
        rw [denoted, digitsOf, List.replicate_succ, List.cons_append]
        exact congrArg (0 :: ·) same
      · exact ⟨0, eq_digitsOf_value large bounds fun _ same => isZero (List.cons.inj same).1⟩

/-- The first digit of a positive number is not zero. -/
theorem digitsOf_ne_zero_cons
    {radix number : Nat}
    (positive : 0 < number)
    (rest : List Nat) : digitsOf radix 0 number ≠ 0 :: rest := by
  intro same
  have digits : Nat.digits radix number = rest.reverse ++ [0] := by
    simpa [digitsOf] using congrArg List.reverse same
  have last := Nat.getLast_digit_ne_zero radix positive.ne'
  simp [digits] at last

/-! ## Literals without sign -/

/-- The letters that mark a radix, with the radix. -/
def radixMarks : List (Char × Nat) :=
  [('x', 16), ('X', 16), ('o', 8), ('O', 8), ('b', 2), ('B', 2)]

/-- Every radix with a mark of its own has its digits among the decimal digits and the Latin
letters from a to f. -/
theorem radixMarks_usual : ∀ entry ∈ radixMarks, 1 < entry.2 ∧ entry.2 ≤ 16 := by
  decide

/-- No other code point is read as the mark of a radix. -/
theorem readAlone_radixMarks : ∀ entry ∈ radixMarks, ReadAlone entry.1 := by
  have plain : ∀ entry ∈ radixMarks,
      entry.1.toNat < 0x7F ∧ entry.1 ≠ ' ' ∧ digitValue? 10 entry.1 = none := by decide
  intro entry isMark
  obtain ⟨ascii, noSpace, noDigit⟩ := plain entry isMark
  exact readAlone_of_plain ascii noSpace noDigit

/-- A literal without sign spells a number. -/
inductive Literal (number : Nat) : List CodePoint -> Prop where
  /-- A decimal literal begins with no zero and is not too long. -/
  | decimal {points : List CodePoint}
      (spelt : Spelt 10 points (digitsOf 10 0 number))
      (short : (digitsOf 10 0 number).length ≤ decimalDigitLimit) :
      Literal number points
  /-- After a mark an underscore and zeros may precede the digits. -/
  | marked {start : CodePoint} {mark : Char} {radix : Nat} {points : List CodePoint}
      (zeros : Nat)
      (gap : List CodePoint)
      (isZero : IsDigit 10 start 0)
      (isMark : (mark, radix) ∈ radixMarks)
      (atMostOne : gap = [] ∨ gap = ['_'])
      (spelt : Spelt radix points (digitsOf radix zeros number)) :
      Literal number (start :: mark :: (gap ++ points))

section

variable
  {radix number : Nat}
  {character mark : Char}
  {characters rest : List Char}
  {digits : List Nat}

/-- After a zero, the mark of a radix decides how the rest is read. -/
theorem unsigned?_marked (isMark : (mark, radix) ∈ radixMarks) :
    unsigned? ('0' :: mark :: rest) = marked? radix rest := by
  simp only [radixMarks, List.mem_cons, Prod.mk.injEq, List.not_mem_nil, or_false] at isMark
  rcases isMark with ⟨rfl, rfl⟩ | ⟨rfl, rfl⟩ | ⟨rfl, rfl⟩ | ⟨rfl, rfl⟩ | ⟨rfl, rfl⟩ | ⟨rfl, rfl⟩ <;>
    rfl

/-- What does not begin with a zero is a decimal. -/
theorem unsigned?_decimal (noZero : ∀ rest, characters ≠ '0' :: rest) :
    unsigned? characters = decimal? characters := by
  unfold unsigned?
  split <;> simp_all

/-- A positive number is read behind a mark or from a literal that begins with no zero. -/
theorem unsigned?_cases
    (positive : 0 < number)
    (read : unsigned? characters = some number) :
    (∃ mark radix rest, characters = '0' :: mark :: rest ∧ (mark, radix) ∈ radixMarks ∧
      marked? radix rest = some number) ∨
      (∀ rest, characters ≠ '0' :: rest) ∧ decimal? characters = some number := by
  unfold unsigned? at read
  split at read
  -- What begins with a zero but has no mark is read as zero at best.
  case h_7 =>
    have isZero := of_decide_eq_true (Option.filter_eq_some_iff.mp read).2
    omega
  case h_8 noZero => exact .inr ⟨fun rest same => noZero rest same, read⟩
  all_goals exact .inl ⟨_, _, _, rfl, by decide, read⟩

/-- One underscore may come before the digits behind a mark. -/
theorem marked?_eq_some_iff :
    marked? radix characters = some number ↔
      ∃ gap rest digits, characters = gap ++ rest ∧ (gap = [] ∨ gap = ['_']) ∧
        digits? radix rest = some digits ∧ value radix digits = number := by
  constructor
  · intro read
    obtain ⟨digits, values, denoted⟩ := Option.map_eq_some_iff.mp read
    split at values
    · exact ⟨['_'], _, digits, rfl, .inr rfl, values, denoted⟩
    · exact ⟨[], _, digits, rfl, .inl rfl, values, denoted⟩
  · rintro ⟨gap, rest, digits, rfl, rfl | rfl, values, rfl⟩
    · unfold marked?
      split
      · next others same =>
          obtain rfl : rest = '_' :: others := same
          cases digits?_underscore.symm.trans values
      · exact congrArg (Option.map (value radix)) values
    · exact congrArg (Option.map (value radix)) values

/-- Decimals are limited in length; grouping underscores do not count. -/
theorem decimal?_eq_some_iff :
    decimal? characters = some number ↔
      ∃ digits, digits? 10 characters = some digits ∧ digits.length ≤ decimalDigitLimit ∧
        value 10 digits = number := by
  simp only [decimal?, Option.bind_eq_bind, Option.bind_eq_some_iff,
    Option.ite_none_right_eq_some, Option.pure_def, Option.some.injEq]

/-- Only a zero is read as the digit zero. -/
theorem digitValue?_eq_zero_iff : digitValue? 10 character = some 0 ↔ character = '0' := by
  rw [← Char.toNat_inj, digitValue?_eq_some_iff]
  have zero : '0'.toNat = 0x30 := rfl
  omega

end

section

variable
  {radix number : Nat}
  {points : List CodePoint}

/-- Decimal digits without a zero in front are read as the number of which they are the digits. -/
theorem decimal_iff (positive : 0 < number) :
    Spelt 10 points (digitsOf 10 0 number) ∧ (digitsOf 10 0 number).length ≤ decimalDigitLimit ↔
      ∃ characters, Reads points characters ∧ (∀ rest, characters ≠ '0' :: rest) ∧
        decimal? characters = some number := by
  constructor
  · rintro ⟨spelt, short⟩
    obtain ⟨characters, reads, values⟩ := (spelt_iff (by decide)).mp spelt
    refine ⟨characters, reads, ?_, ?_⟩
    · rintro rest rfl
      obtain ⟨digit, others, isZero, same⟩ := head_of_digits? values
      obtain rfl := Option.some.inj (isZero.symm.trans (digitValue?_eq_zero_iff.mpr rfl))
      exact digitsOf_ne_zero_cons positive others same
    · exact decimal?_eq_some_iff.mpr ⟨_, values, short, value_digitsOf 10 0 number⟩
  · rintro ⟨characters, reads, noZero, read⟩
    obtain ⟨digits, values, short, rfl⟩ := decimal?_eq_some_iff.mp read
    have spelt := (spelt_iff (by decide)).mpr ⟨characters, reads, values⟩
    have same : digits = digitsOf 10 0 (value 10 digits) := by
      refine eq_digitsOf_value (by decide) spelt.lt ?_
      rintro rest rfl
      cases characters with
      | nil => cases values
      | cons character characters =>
          obtain ⟨_, _, value, same⟩ := head_of_digits? values
          obtain ⟨rfl, -⟩ := List.cons.inj same
          exact noZero characters (digitValue?_eq_zero_iff.mp value ▸ rfl)
    exact ⟨same ▸ spelt, same ▸ short⟩

/-- What stands behind a mark is read as the number of which it holds the digits. -/
theorem marked_iff (usual : 1 < radix ∧ radix ≤ 16) :
    (∃ gap rest zeros, points = gap ++ rest ∧ (gap = [] ∨ gap = [CodePoint.ofChar '_']) ∧
      Spelt radix rest (digitsOf radix zeros number)) ↔
      ∃ characters, Reads points characters ∧ marked? radix characters = some number := by
  constructor
  · rintro ⟨gap, rest, zeros, rfl, atMostOne, spelt⟩
    obtain ⟨underscore, readsGap, atMostOne⟩ := (optional_iff readAlone_underscore).mp atMostOne
    obtain ⟨characters, reads, values⟩ := (spelt_iff usual.2).mp spelt
    exact ⟨underscore ++ characters, reads_append_iff.mpr ⟨gap, rest, rfl, readsGap, reads⟩,
      marked?_eq_some_iff.mpr
        ⟨underscore, characters, _, rfl, atMostOne, values, value_digitsOf radix zeros number⟩⟩
  · rintro ⟨characters, reads, read⟩
    obtain ⟨underscore, others, digits, rfl, atMostOne, values, rfl⟩ := marked?_eq_some_iff.mp read
    obtain ⟨gap, rest, rfl, readsGap, readsRest⟩ := reads_append_iff.mp reads
    have spelt := (spelt_iff usual.2).mpr ⟨others, readsRest, values⟩
    obtain ⟨zeros, same⟩ := exists_eq_digitsOf usual.1 spelt.lt
    exact ⟨gap, rest, zeros, rfl,
      (optional_iff readAlone_underscore).mpr ⟨underscore, readsGap, atMostOne⟩, same ▸ spelt⟩

/-- Code points spell a positive number just if it is read from them. -/
theorem literal_iff (positive : 0 < number) :
    Literal number points ↔
      ∃ characters, Reads points characters ∧ unsigned? characters = some number := by
  constructor
  · rintro (⟨spelt, short⟩ | ⟨zeros, gap, isZero, isMark, atMostOne, spelt⟩)
    · obtain ⟨characters, reads, noZero, read⟩ := (decimal_iff positive).mp ⟨spelt, short⟩
      exact ⟨characters, reads, (unsigned?_decimal noZero).trans read⟩
    · obtain ⟨character, readZero, zero⟩ := (isDigit_iff (by decide)).mp isZero
      obtain rfl := digitValue?_eq_zero_iff.mp zero
      obtain ⟨characters, reads, read⟩ := (marked_iff (radixMarks_usual _ isMark)).mp
        ⟨_, _, _, rfl, atMostOne, spelt⟩
      exact ⟨_, .cons readZero (.cons ((readAlone_radixMarks _ isMark _).mpr rfl) reads),
        (unsigned?_marked isMark).trans read⟩
  · rintro ⟨characters, reads, read⟩
    rcases unsigned?_cases positive read with
      ⟨mark, radix, rest, rfl, isMark, read⟩ | ⟨noZero, read⟩
    · obtain _ | ⟨readZero, _ | ⟨readMark, reads⟩⟩ := reads
      obtain rfl := (readAlone_radixMarks _ isMark _).mp readMark
      obtain ⟨gap, others, zeros, rfl, atMostOne, spelt⟩ :=
        (marked_iff (radixMarks_usual _ isMark)).mpr ⟨rest, reads, read⟩
      have isZero := (isDigit_iff (by decide)).mpr ⟨'0', readZero, digitValue?_eq_zero_iff.mpr rfl⟩
      exact .marked zeros gap isZero isMark atMostOne spelt
    · obtain ⟨spelt, short⟩ := (decimal_iff positive).mpr ⟨characters, reads, noZero, read⟩
      exact .decimal spelt short

/-- No literal holds a character that stripping the margin takes away. -/
theorem Literal.not_isMargin (literal : Literal number points) :
    ∀ point ∈ points, ¬ isMargin point = true := by
  cases literal with
  | decimal spelt _ => exact spelt.not_isMargin (by decide)
  | marked zeros gap isZero isMark atMostOne spelt =>
      have noMark : ∀ entry ∈ radixMarks, ¬ isMargin (CodePoint.ofChar entry.1) = true := by decide
      have noGap : ∀ point ∈ gap, ¬ isMargin point = true := by
        rcases atMostOne with rfl | rfl <;> decide
      refine List.forall_mem_cons.mpr ⟨isZero.not_isMargin (by decide),
        List.forall_mem_cons.mpr ⟨noMark _ isMark, List.forall_mem_append.mpr ⟨noGap, ?_⟩⟩⟩
      exact spelt.not_isMargin (radixMarks_usual _ isMark).2

end

/-! ## Whole texts -/

/-- A text spells a number, where given code points may surround the literal. -/
inductive Spells
    (surrounds : CodePoint -> Bool)
    (number : Nat) : Text -> Prop where
  /-- A plus may stand in front of the literal, with nothing in between. -/
  | intro
      (front sign : List CodePoint)
      {literal : List CodePoint}
      (back : List CodePoint)
      (before : ∀ point ∈ front, surrounds point = true)
      (atMostPlus : sign = [] ∨ sign = ['+'])
      (spelt : Literal number literal)
      (behind : ∀ point ∈ back, surrounds point = true) :
      Spells surrounds number ⟨front ++ (sign ++ literal) ++ back⟩

/-! ## The usual forms -/

/-- The digits that the library prints are those of the number, highest first. -/
theorem toDigits_eq_map_digitsOf
    {radix number : Nat}
    (large : 1 < radix)
    (positive : 0 < number) :
    Nat.toDigits radix number = (digitsOf radix 0 number).map Nat.digitChar := by
  induction number using Nat.strongRecOn with
  | ind number inductionHypothesis =>
      have several : Nat.digits radix number =
          number % radix :: Nat.digits radix (number / radix) := Nat.digits_def' large positive
      rw [Nat.toDigits_eq_if large]
      split
      · next small =>
          rw [digitsOf, several, Nat.mod_eq_of_lt small, Nat.div_eq_of_lt small]
          simp
      · next notSmall =>
          have fewer := inductionHypothesis (number / radix) (Nat.div_lt_self positive large)
            (Nat.div_pos (Nat.not_lt.mp notSmall) (by omega))
          rw [fewer, digitsOf, digitsOf, several]
          simp

/-- Every printed digit is read with the value it was printed for. -/
theorem isDigit_digitChar
    {radix digit : Nat}
    (usual : radix ≤ 16)
    (small : digit < radix) : IsDigit radix (CodePoint.ofChar digit.digitChar) digit := by
  have plain : ∀ digit < 16, toAscii? (Nat.digitChar digit) = some (Nat.digitChar digit) ∧
      digitValue? 16 (Nat.digitChar digit) = some digit := by decide
  obtain ⟨read, value⟩ := plain digit (by omega)
  refine (isDigit_iff usual).mpr ⟨_, read, ?_⟩
  rw [digitValue?_eq_some_iff] at value ⊢
  exact ⟨small, value.2⟩

/-- Printed digits, without underscores, spell the number. -/
theorem spelt_map_digitChar
    {radix : Nat}
    (usual : radix ≤ 16)
    {digits : List Nat}
    (nonempty : digits ≠ [])
    (bounds : ∀ digit ∈ digits, digit < radix) :
    Spelt radix ((digits.map Nat.digitChar).map CodePoint.ofChar) digits := by
  induction digits with
  | nil => exact absurd rfl nonempty
  | cons digit rest inductionHypothesis =>
      obtain ⟨small, bounds⟩ := List.forall_mem_cons.mp bounds
      cases rest with
      | nil => exact .last (isDigit_digitChar usual small)
      | cons next rest =>
          exact .adjacent (isDigit_digitChar usual small)
            (inductionHypothesis (List.cons_ne_nil next rest) bounds)

/-- The digits with which a number is written spell it. -/
theorem spelt_toDigits
    {radix number : Nat}
    (usual : 1 < radix ∧ radix ≤ 16)
    (positive : 0 < number) :
    Spelt radix ((Nat.toDigits radix number).map CodePoint.ofChar) (digitsOf radix 0 number) := by
  rw [toDigits_eq_map_digitsOf usual.1 positive]
  refine spelt_map_digitChar usual.2 ?_ ?_
  · simpa [digitsOf, Nat.digits_eq_nil_iff_eq_zero] using positive.ne'
  · intro digit isDigit
    exact Nat.digits_lt_base usual.1 (by simpa [digitsOf] using isDigit)

/-- A literal alone, without sign and margin, spells its number. -/
theorem Spells.of_literal
    {surrounds : CodePoint -> Bool}
    {number : Nat}
    {points : List CodePoint}
    (literal : Literal number points) : Spells surrounds number ⟨points⟩ := by
  have spells : Spells surrounds number ⟨[] ++ ([] ++ points) ++ []⟩ :=
    .intro [] [] [] (by simp) (.inl rfl) literal (by simp)
  simpa using spells

/-- A number that can be written is spelt by what is written. -/
theorem spells_writeDecimal?
    {number : Nat}
    {form : String}
    (positive : 0 < number)
    (written : writeDecimal? number = some form) : Spells isMargin number form := by
  obtain ⟨short, same⟩ := Option.ite_none_right_eq_some.mp written
  obtain rfl : toString number = form := by
    rw [if_neg (by omega)] at same
    exact Option.some.inj same
  have characters : (toString number).toList = Nat.toDigits 10 number := Nat.toList_repr
  have length : (digitsOf 10 0 number).length = (toString number).length := by
    rw [← String.length_toList, characters, toDigits_eq_map_digitsOf (by decide) positive,
      List.length_map]
  refine .of_literal (.decimal ?_ (length ▸ short))
  rw [characters]
  exact spelt_toDigits (by decide) positive

/-- A number is spelt by its usual digits behind a mark. -/
theorem spells_marked
    {mark : Char}
    {radix number : Nat}
    (positive : 0 < number)
    (isMark : (mark, radix) ∈ radixMarks) :
    Spells isMargin number (ofCharacters ('0' :: mark :: Nat.toDigits radix number)) :=
  .of_literal <| .marked 0 []
    (.decimal 0x30 (by decide) rfl (by decide) (by decide)) isMark (.inl rfl)
    (spelt_toDigits (radixMarks_usual _ isMark) positive)

/-! ## Reading -/

/-- Stripping takes away the padding at both ends and stops at the first other character. -/
theorem stripPadding_append
    {front middle back : List Char}
    (before : ∀ character ∈ front, isPadding character = true)
    (plain : ∀ character ∈ middle, ¬ isPadding character = true)
    (behind : ∀ character ∈ back, isPadding character = true) :
    stripPadding (front ++ middle ++ back) = middle := by
  cases middle with
  | nil =>
      have all : ∀ character ∈ front ++ [] ++ back, isPadding character = true := by
        simpa using fun character => Or.rec (before character) (behind character)
      rw [stripPadding, List.dropWhile_eq_nil_iff.mpr all]
      rfl
  | cons character rest =>
      have first : (front ++ (character :: rest) ++ back).dropWhile isPadding =
          character :: rest ++ back := by
        rw [List.append_assoc, List.dropWhile_append_of_pos before, List.cons_append,
          List.dropWhile_cons_of_neg (plain character List.mem_cons_self)]
      have last : (character :: rest).reverse.dropWhile isPadding = (character :: rest).reverse :=
        List.dropWhile_eq_self_iff.mpr fun _ =>
          plain _ (List.mem_reverse.mp (List.getElem_mem _))
      rw [stripPadding, first, List.reverse_append,
        List.dropWhile_append_of_pos (by simpa using behind), last, List.reverse_reverse]

/-- Only padding is stripped, at either end. -/
theorem exists_eq_stripPadding (characters : List Char) :
    ∃ front back, characters = front ++ stripPadding characters ++ back ∧
      (∀ character ∈ front, isPadding character = true) ∧
        ∀ character ∈ back, isPadding character = true := by
  let dropped := characters.dropWhile isPadding
  refine ⟨characters.takeWhile isPadding, (dropped.reverse.takeWhile isPadding).reverse, ?_,
    fun _ => List.mem_takeWhile_imp, fun _ isThere => ?_⟩
  · rw [stripPadding, List.append_assoc, ← List.reverse_append, List.takeWhile_append_dropWhile,
      List.reverse_reverse, List.takeWhile_append_dropWhile]
  · exact List.mem_takeWhile_imp (List.mem_reverse.mp isThere)

/-- Blanks around a literal are read as padding. -/
theorem margin_iff {points : List CodePoint} :
    (∀ point ∈ points, isMargin point = true) ↔
      ∃ characters, Reads points characters ∧
        ∀ character ∈ characters, isPadding character = true := by
  induction points with
  | nil => simp
  | cons point points inductionHypothesis =>
      rw [List.forall_mem_cons, inductionHypothesis, isMargin_iff]
      constructor
      · rintro ⟨⟨character, read, padding⟩, characters, reads, all⟩
        exact ⟨character :: characters, .cons read reads, List.forall_mem_cons.mpr ⟨padding, all⟩⟩
      · rintro ⟨_, _ | ⟨read, reads⟩, all⟩
        obtain ⟨padding, all⟩ := List.forall_mem_cons.mp all
        exact ⟨⟨_, read, padding⟩, _, reads, all⟩

/-- Transcription makes no padding out of a text without margin characters. -/
theorem Reads.not_isPadding
    {points : List CodePoint}
    {characters : List Char}
    (reads : Reads points characters)
    (noMargin : ∀ point ∈ points, ¬ isMargin point = true) :
    ∀ character ∈ characters, ¬ isPadding character = true := by
  induction reads with
  | nil => simp
  | cons read _ inductionHypothesis =>
      obtain ⟨first, rest⟩ := List.forall_mem_cons.mp noMargin
      refine List.forall_mem_cons.mpr ⟨fun padding => ?_, inductionHypothesis rest⟩
      exact first (isMargin_iff.mpr ⟨_, read, padding⟩)

/-- A literal without sign begins with a digit. -/
theorem isSome_digitValue?_of_unsigned?
    {number : Nat}
    {character : Char}
    {rest : List Char}
    (positive : 0 < number)
    (read : unsigned? (character :: rest) = some number) :
    (digitValue? 10 character).isSome = true := by
  rcases unsigned?_cases positive read with ⟨_, _, _, same, _⟩ | ⟨_, read⟩
  · obtain ⟨rfl, -⟩ := List.cons.inj same
    rfl
  · obtain ⟨digits, values, -⟩ := decimal?_eq_some_iff.mp read
    obtain ⟨_, _, value, -⟩ := head_of_digits? values
    rw [value]
    rfl

/-- A positive number may have a plus sign, once and in front. -/
theorem signed?_eq_some_iff
    {number : Nat}
    {characters : List Char}
    (positive : 0 < number) :
    signed? unsigned? characters = some (number : Int) ↔
      ∃ sign rest, characters = sign ++ rest ∧ (sign = [] ∨ sign = ['+']) ∧
        unsigned? rest = some number := by
  constructor
  · intro read
    unfold signed? at read
    split at read
    · next rest =>
        obtain ⟨magnitude, unsigned, same⟩ := Option.map_eq_some_iff.mp read
        obtain rfl := Int.ofNat.inj same
        exact ⟨['+'], rest, rfl, .inr rfl, unsigned⟩
    · obtain ⟨magnitude, _, same⟩ := Option.map_eq_some_iff.mp read
      have negative : -(magnitude : Int) = number := same
      omega
    · obtain ⟨magnitude, unsigned, same⟩ := Option.map_eq_some_iff.mp read
      obtain rfl := Int.ofNat.inj same
      exact ⟨[], characters, rfl, .inl rfl, unsigned⟩
  · rintro ⟨sign, rest, rfl, rfl | rfl, read⟩
    -- A literal begins with a digit, so its first character is not taken for a sign.
    · rw [List.nil_append]
      unfold signed?
      split
      · cases isSome_digitValue?_of_unsigned? positive read
      · cases isSome_digitValue?_of_unsigned? positive read
      · rw [read]
        rfl
    · exact congrArg (Option.map Int.ofNat) read

theorem readAlone_plus : ReadAlone '+' :=
  readAlone_of_plain (by decide) (by decide) (by decide)

/-- A literal behind an optional plus is read as the number that it spells. -/
theorem signed_iff
    {number : Nat}
    {points : List CodePoint}
    (positive : 0 < number) :
    (∃ sign literal, points = sign ++ literal ∧ (sign = [] ∨ sign = [CodePoint.ofChar '+']) ∧
      Literal number literal) ↔
      ∃ characters, Reads points characters ∧
        signed? unsigned? characters = some (number : Int) := by
  constructor
  · rintro ⟨sign, literal, rfl, atMostPlus, spelt⟩
    obtain ⟨plus, readsSign, atMostPlus⟩ := (optional_iff readAlone_plus).mp atMostPlus
    obtain ⟨rest, readsRest, read⟩ := (literal_iff positive).mp spelt
    exact ⟨plus ++ rest, reads_append_iff.mpr ⟨sign, literal, rfl, readsSign, readsRest⟩,
      (signed?_eq_some_iff positive).mpr ⟨plus, rest, rfl, atMostPlus, read⟩⟩
  · rintro ⟨characters, reads, signed⟩
    obtain ⟨plus, rest, rfl, atMostPlus, read⟩ := (signed?_eq_some_iff positive).mp signed
    obtain ⟨sign, literal, rfl, readsSign, readsRest⟩ := reads_append_iff.mp reads
    exact ⟨sign, literal, rfl, (optional_iff readAlone_plus).mpr ⟨plus, readsSign, atMostPlus⟩,
      (literal_iff positive).mpr ⟨rest, readsRest, read⟩⟩

end Numeral

/-- A positive number is read from exactly those texts that spell it. -/
theorem readInteger?_eq_some_iff
    {text : Text}
    {number : Nat}
    (positive : 0 < number) :
    readInteger? text = some (number : Int) ↔ Numeral.Spells Numeral.isMargin number text := by
  constructor
  · intro read
    obtain ⟨characters, mapped, signed⟩ := Option.bind_eq_some_iff.mp read
    obtain ⟨before, behind, whole, padding, paddingToo⟩ :=
      Numeral.exists_eq_stripPadding characters
    rw [Numeral.mapM_toAscii?_eq_some_iff, whole] at mapped
    obtain ⟨inner, back, outer, readsInner, readsBack⟩ := Numeral.reads_append_iff.mp mapped
    obtain ⟨front, middle, rfl, readsFront, reads⟩ := Numeral.reads_append_iff.mp readsInner
    obtain ⟨sign, literal, rfl, atMostPlus, spelt⟩ :=
      (Numeral.signed_iff positive).mpr ⟨_, reads, signed⟩
    obtain ⟨points⟩ := text
    obtain rfl : points = front ++ (sign ++ literal) ++ back := outer
    exact .intro front sign back (Numeral.margin_iff.mpr ⟨before, readsFront, padding⟩) atMostPlus
      spelt (Numeral.margin_iff.mpr ⟨behind, readsBack, paddingToo⟩)
  · rintro ⟨front, sign, back, margin, atMostPlus, spelt, marginToo⟩
    obtain ⟨before, readsFront, padding⟩ := Numeral.margin_iff.mp margin
    obtain ⟨characters, reads, signed⟩ :=
      (Numeral.signed_iff positive).mp ⟨sign, _, rfl, atMostPlus, spelt⟩
    obtain ⟨behind, readsBack, paddingToo⟩ := Numeral.margin_iff.mp marginToo
    have readsAll := Numeral.reads_append_iff.mpr
      ⟨_, back, rfl, Numeral.reads_append_iff.mpr ⟨front, _, rfl, readsFront, reads⟩, readsBack⟩
    have noSign : ∀ point ∈ sign, ¬ Numeral.isMargin point = true := by
      rcases atMostPlus with rfl | rfl <;> decide
    have plain := reads.not_isPadding (List.forall_mem_append.mpr ⟨noSign, spelt.not_isMargin⟩)
    refine Option.bind_eq_some_iff.mpr ⟨_, Numeral.mapM_toAscii?_eq_some_iff.mpr readsAll, ?_⟩
    rw [Numeral.stripPadding_append padding plain paddingToo]
    exact signed

end Text
end WordMachine
