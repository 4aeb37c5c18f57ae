import Mathlib.Data.List.Forall2
import WordMachine.Text.Numeral

/-!
# Digits in literals

A digit is a decimal digit of any script or, from ten onwards, a letter in either case, and a
single underscore may stand between neighbours.  Digits are read exactly if they are spelt in this
way: `Text.Numeral.spelt_iff`.
-/

namespace WordMachine

namespace CodePoint

/-- A code point is a character exactly if it is the code point of that character. -/
theorem char?_eq_some_iff
    {point : CodePoint}
    {character : Char} :
    point.char? = some character ↔ point = ofChar character := by
  constructor
  · intro found
    by_cases valid : point.toNat.isValidChar
    · have built : point.char? = some (Char.ofNatAux point.toNat valid) := dif_pos valid
      obtain rfl := Option.some.inj (built.symm.trans found)
      exact CodePoint.ext rfl
    · have absent : point.char? = none := dif_neg valid
      exact absurd (absent.symm.trans found) (Option.some_ne_none _).symm
  · rintro rfl
    exact char?_ofChar character

end CodePoint

namespace Text

/-! ## Decimal digits -/

/-- The scripts' runs of ten digits do not overlap, so that a code point has one digit value at
most. -/
theorem zeroDigits_apart :
    ∀ start ∈ zeroDigits, ∀ other ∈ zeroDigits,
      start = other ∨ start + 10 ≤ other ∨ other + 10 ≤ start := by
  decide +kernel

/-- Apart from the ASCII digits, decimal digits lie beyond ASCII. -/
theorem zeroDigits_high : ∀ start ∈ zeroDigits, start = 0x30 ∨ 0x7F ≤ start := by
  decide +kernel

/-- No whitespace is a digit. -/
theorem zeroDigits_avoid_blankRanges :
    ∀ start ∈ zeroDigits, ∀ range ∈ blankRanges, start + 10 ≤ range.first ∨ range.last < start := by
  decide +kernel

/-- The digit value of a code point is its distance from the zero of its script. -/
theorem decimalDigit?_eq_some_iff
    {point : CodePoint}
    {digit : Nat} :
    decimalDigit? point = some digit ↔
      digit < 10 ∧ ∃ start ∈ zeroDigits, point.toNat = start + digit := by
  unfold decimalDigit?
  rw [Option.map_eq_some_iff]
  constructor
  · rintro ⟨start, found, rfl⟩
    have within := List.find?_some found
    simp only [Bool.and_eq_true, decide_eq_true_eq] at within
    exact ⟨by omega, start, List.mem_of_find?_eq_some found, by omega⟩
  -- The runs do not overlap, so the first one that fits is the only one.
  · rintro ⟨isDecimal, start, isStart, within⟩
    cases found : zeroDigits.find? fun first =>
        first ≤ point.toNat && point.toNat < first + 10 with
    | none =>
        have absent := List.find?_eq_none.mp found start isStart
        simp only [Bool.and_eq_true, decide_eq_true_eq] at absent
        omega
    | some other =>
        have withinOther := List.find?_some found
        simp only [Bool.and_eq_true, decide_eq_true_eq] at withinOther
        have apart := zeroDigits_apart start isStart other (List.mem_of_find?_eq_some found)
        exact ⟨other, rfl, by omega⟩

/-- A decimal digit is not blank. -/
theorem isBlank_eq_false_of_decimalDigit?
    {point : CodePoint}
    {digit : Nat}
    (isDigit : decimalDigit? point = some digit) : isBlank point = false := by
  obtain ⟨isDecimal, start, isStart, within⟩ := decimalDigit?_eq_some_iff.mp isDigit
  refine List.any_eq_false.mpr fun range isRange => ?_
  have avoids := zeroDigits_avoid_blankRanges start isStart range isRange
  simp only [CodeRange.contains, Bool.and_eq_true, decide_eq_true_eq]
  omega

namespace Numeral

/-! ## Single code points -/

/-- A code point stands for a digit: a decimal digit of any script, or a letter in either case. -/
inductive IsDigit
    (radix : Nat)
    (point : CodePoint)
    (digit : Nat) : Prop where
  /-- The digits of a script follow its zero. -/
  | decimal
      (start : Nat)
      (isStart : start ∈ zeroDigits)
      (within : point.toNat = start + digit)
      (isDecimal : digit < 10)
      (small : digit < radix)
  /-- The letters stand for the digits from ten onwards. -/
  | letter
      (first : Char)
      (isFirst : first = 'a' ∨ first = 'A')
      (within : point.toNat + 10 = first.toNat + digit)
      (large : 10 ≤ digit)
      (small : digit < radix)

/-- A blank that may surround a literal: any but the information separators. -/
def isMargin (point : CodePoint) : Bool :=
  isBlank point && (point.toNat < 0x1C || 0x1F < point.toNat)

/-- Within ASCII, transcription keeps every character. -/
theorem toAscii?_low
    {point : CodePoint}
    {character : Char}
    (low : point.toNat < 0x7F) :
    toAscii? point = some character ↔ point = .ofChar character := by
  rw [toAscii?, if_pos low, CodePoint.char?_eq_some_iff]

/-- Beyond ASCII there are blanks, which become spaces, and decimal digits. -/
theorem toAscii?_high
    {point : CodePoint}
    {character : Char}
    (high : ¬ point.toNat < 0x7F) :
    toAscii? point = some character ↔
      isBlank point = true ∧ character = ' ' ∨
        ∃ digit, decimalDigit? point = some digit ∧ character = digit.digitChar := by
  rw [toAscii?, if_neg high]
  cases blank : isBlank point with
  | true =>
      rw [if_pos rfl, Option.some.injEq]
      refine ⟨fun same => .inl ⟨rfl, same.symm⟩, ?_⟩
      rintro (⟨_, rfl⟩ | ⟨digit, isDigit, _⟩)
      · rfl
      · cases blank.symm.trans (isBlank_eq_false_of_decimalDigit? isDigit)
  | false =>
      rw [if_neg (by simp), Option.map_eq_some_iff]
      simp [eq_comm]

theorem exists_ofChar_of_low
    {point : CodePoint}
    (low : point.toNat < 0x7F) : ∃ character, point = .ofChar character := by
  cases found : point.char? with
  | some character => exact ⟨character, CodePoint.char?_eq_some_iff.mp found⟩
  | none =>
      have surrogate := (CodePoint.char?_eq_none_iff point).mp found
      simp only [CodePoint.isSurrogate, Bool.and_eq_true, decide_eq_true_eq] at surrogate
      omega

/-- The digits and the letters of either case stand in a row each. -/
theorem digitValue?_eq_some_iff
    {radix digit : Nat}
    {character : Char} :
    digitValue? radix character = some digit ↔
      digit < radix ∧
        (digit < 10 ∧ character.toNat = 0x30 + digit ∨
          (10 ≤ digit ∧ digit < 16) ∧
            (character.toNat + 10 = 0x61 + digit ∨ character.toNat + 10 = 0x41 + digit)) := by
  have digits : '0'.toNat = 0x30 ∧ '9'.toNat = 0x39 := ⟨rfl, rfl⟩
  have letters : 'a'.toNat = 0x61 ∧ 'f'.toNat = 0x66 := ⟨rfl, rfl⟩
  have capitals : 'A'.toNat = 0x41 ∧ 'F'.toNat = 0x46 := ⟨rfl, rfl⟩
  have le (one other : Char) : one ≤ other ↔ one.toNat ≤ other.toNat := Iff.rfl
  simp only [digitValue?, le, Option.filter_eq_some_iff, decide_eq_true_eq]
  split_ifs <;> simp only [Option.some.injEq, false_and, false_iff] <;> omega

/-- The digit characters have the values they are written for, in every radix that has them. -/
theorem digitValue?_digitChar
    {radix digit : Nat}
    (isDecimal : digit < 10)
    (small : digit < radix) : digitValue? radix digit.digitChar = some digit :=
  digitValue?_eq_some_iff.mpr ⟨small, .inl ⟨isDecimal, Nat.toNat_digitChar_of_lt_ten isDecimal⟩⟩

section

variable
  {radix digit : Nat}
  {point : CodePoint}
  {character : Char}

/-- Within ASCII, the digits of a radix up to 16 are the characters that the reader of numerals
takes for digits. -/
theorem isDigit_ofChar_iff
    (usual : radix ≤ 16)
    (low : character.toNat < 0x7F) :
    IsDigit radix (CodePoint.ofChar character) digit ↔
      digitValue? radix character = some digit := by
  rw [digitValue?_eq_some_iff]
  constructor
  · rintro (⟨start, isStart, within, isDecimal, small⟩ | ⟨_, rfl | rfl, within, large, small⟩)
    · have ascii := zeroDigits_high start isStart
      rw [CodePoint.toNat_ofChar] at within
      exact ⟨small, .inl ⟨isDecimal, by omega⟩⟩
    · exact ⟨small, .inr ⟨⟨large, by omega⟩, .inl within⟩⟩
    · exact ⟨small, .inr ⟨⟨large, by omega⟩, .inr within⟩⟩
  · rintro ⟨small, ⟨isDecimal, within⟩ | ⟨⟨large, _⟩, within | within⟩⟩
    · exact .decimal 0x30 (by decide) within isDecimal small
    · exact .letter 'a' (.inl rfl) within large small
    · exact .letter 'A' (.inr rfl) within large small

/-- Beyond ASCII there are decimal digits only. -/
theorem isDigit_high_iff
    (usual : radix ≤ 16)
    (high : ¬ point.toNat < 0x7F) :
    IsDigit radix point digit ↔ decimalDigit? point = some digit ∧ digit < radix := by
  rw [decimalDigit?_eq_some_iff]
  constructor
  · rintro (⟨start, isStart, within, isDecimal, small⟩ | ⟨_, rfl | rfl, within, large, small⟩)
    · exact ⟨⟨isDecimal, start, isStart, within⟩, small⟩
    -- The letters end with the sixth.
    · change point.toNat + 10 = 0x61 + digit at within
      omega
    · change point.toNat + 10 = 0x41 + digit at within
      omega
  · rintro ⟨⟨isDecimal, start, isStart, within⟩, small⟩
    exact .decimal start isStart within isDecimal small

/-- A code point stands for a digit just if it is read as one. -/
theorem isDigit_iff (usual : radix ≤ 16) :
    IsDigit radix point digit ↔
      ∃ character, toAscii? point = some character ∧ digitValue? radix character = some digit := by
  by_cases low : point.toNat < 0x7F
  · obtain ⟨character, rfl⟩ := exists_ofChar_of_low low
    simp only [(toAscii?_low low).mpr rfl, Option.some.injEq, exists_eq_left',
      isDigit_ofChar_iff usual low]
  · simp only [toAscii?_high low, isDigit_high_iff usual low]
    constructor
    · rintro ⟨isDigit, small⟩
      have isDecimal := (decimalDigit?_eq_some_iff.mp isDigit).1
      exact ⟨_, .inr ⟨digit, isDigit, rfl⟩, digitValue?_digitChar isDecimal small⟩
    · rintro ⟨_, ⟨_, rfl⟩ | ⟨value, isDigit, rfl⟩, read⟩
      · have row := digitValue?_eq_some_iff.mp read
        have space : ' '.toNat = 0x20 := rfl
        omega
      · have isDecimal := (decimalDigit?_eq_some_iff.mp isDigit).1
        have row := digitValue?_eq_some_iff.mp read
        rw [Nat.toNat_digitChar_of_lt_ten isDecimal] at row
        obtain rfl : value = digit := by omega
        exact ⟨isDigit, row.1⟩

end

/-- Within ASCII, the margin of a numeral is the space and the controls from tab to carriage
return; the information separators are not part of it. -/
theorem isMargin_low
    {point : CodePoint}
    (low : point.toNat < 0x7F) :
    isMargin point = true ↔ point.toNat = 0x20 ∨ 0x09 ≤ point.toNat ∧ point.toNat ≤ 0x0D := by
  simp only [isMargin, isBlank, CodeRange.anyContains, CodeRange.contains, blankRanges,
    List.any_cons, List.any_nil, Bool.and_eq_true, Bool.or_eq_true, decide_eq_true_eq,
    Bool.false_eq_true, or_false]
  omega

/-- A code point may surround a literal just if it is read as padding. -/
theorem isMargin_iff {point : CodePoint} :
    isMargin point = true ↔
      ∃ character, toAscii? point = some character ∧ isPadding character = true := by
  by_cases low : point.toNat < 0x7F
  · obtain ⟨character, rfl⟩ := exists_ofChar_of_low low
    have space : character = ' ' ↔ character.toNat = 0x20 := Char.toNat_inj.symm
    simp only [(toAscii?_low low).mpr rfl, Option.some.injEq, exists_eq_left', isMargin_low low,
      CodePoint.toNat_ofChar, isPadding, Bool.or_eq_true, Bool.and_eq_true, decide_eq_true_eq,
      space]
  · simp only [toAscii?_high low]
    constructor
    · intro margin
      exact ⟨' ', .inl ⟨(Bool.and_eq_true_iff.mp margin).1, rfl⟩, rfl⟩
    · rintro ⟨character, ⟨blank, rfl⟩ | ⟨digit, isDigit, rfl⟩, padding⟩
      · simp [isMargin, blank]
        omega
      · have isDecimal := (decimalDigit?_eq_some_iff.mp isDigit).1
        have noPadding : ∀ digit < 10, isPadding (Nat.digitChar digit) = false := by decide
        cases (noPadding digit isDecimal).symm.trans padding

/-- A character is read from itself and from nothing else. -/
def ReadAlone (character : Char) : Prop :=
  ∀ point : CodePoint, toAscii? point = some character ↔ point = .ofChar character

/-- Of the characters of ASCII only the space and the digits are read from others, too. -/
theorem readAlone_of_plain
    {character : Char}
    (ascii : character.toNat < 0x7F)
    (noSpace : character ≠ ' ')
    (noDigit : digitValue? 10 character = none) : ReadAlone character := by
  intro point
  by_cases low : point.toNat < 0x7F
  · exact toAscii?_low low
  · rw [toAscii?_high low]
    constructor
    · rintro (⟨_, space⟩ | ⟨digit, isDigit, rfl⟩)
      · exact absurd space noSpace
      · have isDecimal := (decimalDigit?_eq_some_iff.mp isDigit).1
        cases noDigit.symm.trans (digitValue?_digitChar isDecimal isDecimal)
    · rintro rfl
      exact absurd ascii low

/-! ## Code points in a row -/

/-- The code points are read as the characters. -/
abbrev Reads : List CodePoint -> List Char -> Prop :=
  List.Forall₂ fun point character => toAscii? point = some character

/-- Transcribing a text point by point succeeds exactly if every point can be read. -/
theorem mapM_toAscii?_eq_some_iff
    {points : List CodePoint}
    {characters : List Char} :
    points.mapM toAscii? = some characters ↔ Reads points characters := by
  induction points generalizing characters with
  | nil => cases characters <;> simp
  | cons point points inductionHypothesis =>
      rw [List.mapM_cons]
      simp only [Option.bind_eq_bind, Option.bind_eq_some_iff, Option.pure_def, Option.some.injEq,
        inductionHypothesis, List.forall₂_cons_left_iff, exists_and_left, @eq_comm _ characters]

/-- Code points are read one by one. -/
theorem reads_append_iff
    {points : List CodePoint}
    {front back : List Char} :
    Reads points (front ++ back) ↔
      ∃ ahead behind, points = ahead ++ behind ∧ Reads ahead front ∧ Reads behind back := by
  constructor
  · intro reads
    exact ⟨_, _, (List.take_append_drop front.length points).symm,
      List.forall₂_take_append points front back reads,
      List.forall₂_drop_append points front back reads⟩
  · rintro ⟨ahead, behind, rfl, readsAhead, readsBehind⟩
    exact List.rel_append readsAhead readsBehind

/-- What may be left out is read as itself if it is there. -/
theorem optional_iff
    {mark : Char}
    {points : List CodePoint}
    (alone : ReadAlone mark) :
    points = [] ∨ points = [CodePoint.ofChar mark] ↔
      ∃ characters, Reads points characters ∧ (characters = [] ∨ characters = [mark]) := by
  constructor
  · rintro (rfl | rfl)
    · exact ⟨[], .nil, .inl rfl⟩
    · exact ⟨[mark], .cons ((alone _).mpr rfl) .nil, .inr rfl⟩
  · rintro ⟨characters, reads, rfl | rfl⟩
    · obtain _ | _ := reads
      exact .inl rfl
    · obtain _ | ⟨read, _ | _⟩ := reads
      exact .inr (congrArg ([·]) ((alone _).mp read))

/-- Code points spell digits, with at most one underscore between neighbours. -/
inductive Spelt (radix : Nat) : List CodePoint -> List Nat -> Prop where
  /-- The last digit. -/
  | last {point : CodePoint} {digit : Nat}
      (isDigit : IsDigit radix point digit) :
      Spelt radix [point] [digit]
  /-- A digit that the next one follows at once. -/
  | adjacent {point : CodePoint} {digit : Nat} {points : List CodePoint} {digits : List Nat}
      (isDigit : IsDigit radix point digit)
      (rest : Spelt radix points digits) :
      Spelt radix (point :: points) (digit :: digits)
  /-- A digit with an underscore behind it. -/
  | grouped {point : CodePoint} {digit : Nat} {points : List CodePoint} {digits : List Nat}
      (isDigit : IsDigit radix point digit)
      (rest : Spelt radix points digits) :
      Spelt radix (point :: '_' :: points) (digit :: digits)

section

variable
  {radix digit : Nat}
  {character : Char}
  {characters : List Char}
  {digits : List Nat}

theorem digitValue?_underscore : digitValue? radix '_' = none := by
  refine Option.eq_none_iff_forall_ne_some.mpr fun digit read => ?_
  have row := digitValue?_eq_some_iff.mp read
  have code : '_'.toNat = 0x5F := rfl
  omega

/-- No digit of another script is transcribed to an underscore. -/
theorem readAlone_underscore : ReadAlone '_' :=
  readAlone_of_plain (by decide) (by decide) digitValue?_underscore

/-- The first character is the first digit. -/
theorem head_of_digits? (read : digits? radix (character :: characters) = some digits) :
    ∃ digit rest, digitValue? radix character = some digit ∧ digits = digit :: rest := by
  unfold digits? at read
  split at read
  · cases read
  · next same =>
      obtain ⟨rfl, -⟩ := List.cons.inj same
      obtain ⟨digit, value, rfl⟩ := Option.map_eq_some_iff.mp read
      exact ⟨digit, [], value, rfl⟩
  all_goals
    next same =>
      obtain ⟨rfl, -⟩ := List.cons.inj same
      obtain ⟨digit, value, read⟩ := Option.bind_eq_some_iff.mp read
      obtain ⟨rest, -, same⟩ := Option.bind_eq_some_iff.mp read
      exact ⟨digit, rest, value, (Option.some.inj same).symm⟩

/-- An underscore cannot stand first. -/
theorem digits?_underscore : digits? radix ('_' :: characters) = none := by
  cases read : digits? radix ('_' :: characters) with
  | none => rfl
  | some digits =>
      obtain ⟨_, _, value, -⟩ := head_of_digits? read
      cases digitValue?_underscore.symm.trans value

/-- A digit may be put before digits. -/
theorem digits?_adjacent
    (head : digitValue? radix character = some digit)
    (tail : digits? radix characters = some digits) :
    digits? radix (character :: characters) = some (digit :: digits) := by
  cases characters with
  | nil => cases tail
  | cons next rest =>
      -- An underscore would be skipped, but none can come first.
      have noUnderscore : next ≠ '_' := by
        rintro rfl
        cases digits?_underscore.symm.trans tail
      rw [digits?, head, tail]
      · rfl
      · simp
      · rintro rest ⟨⟩
        exact noUnderscore rfl

/-- A digit and one underscore may be put before digits. -/
theorem digits?_grouped
    (head : digitValue? radix character = some digit)
    (tail : digits? radix characters = some digits) :
    digits? radix (character :: '_' :: characters) = some (digit :: digits) := by
  rw [digits?, head, tail]
  rfl

end

/-- Digits are read exactly if they are spelt. -/
theorem spelt_iff
    {radix : Nat}
    {points : List CodePoint}
    {digits : List Nat}
    (usual : radix ≤ 16) :
    Spelt radix points digits ↔
      ∃ characters, Reads points characters ∧ digits? radix characters = some digits := by
  constructor
  · intro spelt
    induction spelt with
    | last isDigit =>
        obtain ⟨character, read, value⟩ := (isDigit_iff usual).mp isDigit
        exact ⟨[character], .cons read .nil, by rw [digits?, value]; rfl⟩
    | adjacent isDigit _ inductionHypothesis =>
        obtain ⟨character, read, value⟩ := (isDigit_iff usual).mp isDigit
        obtain ⟨characters, reads, values⟩ := inductionHypothesis
        exact ⟨character :: characters, .cons read reads, digits?_adjacent value values⟩
    | grouped isDigit _ inductionHypothesis =>
        obtain ⟨character, read, value⟩ := (isDigit_iff usual).mp isDigit
        obtain ⟨characters, reads, values⟩ := inductionHypothesis
        exact ⟨character :: '_' :: characters, .cons read (.cons rfl reads),
          digits?_grouped value values⟩
  · rintro ⟨characters, reads, values⟩
    fun_induction digits? radix characters generalizing points digits with
    | case1 => cases values
    | case2 character =>
        obtain ⟨digit, value, rfl⟩ := Option.map_eq_some_iff.mp values
        obtain _ | ⟨read, _ | _⟩ := reads
        exact .last ((isDigit_iff usual).mpr ⟨_, read, value⟩)
    | case3 character rest inductionHypothesis =>
        obtain ⟨digit, value, values⟩ := Option.bind_eq_some_iff.mp values
        obtain ⟨digits, tail, same⟩ := Option.bind_eq_some_iff.mp values
        obtain rfl := Option.some.inj same
        -- No other code point is transcribed to an underscore.
        obtain _ | ⟨read, _ | ⟨underscore, reads⟩⟩ := reads
        obtain rfl := (readAlone_underscore _).mp underscore
        exact .grouped ((isDigit_iff usual).mpr ⟨_, read, value⟩) (inductionHypothesis reads tail)
    | case4 character rest _ _ inductionHypothesis =>
        obtain ⟨digit, value, values⟩ := Option.bind_eq_some_iff.mp values
        obtain ⟨digits, tail, same⟩ := Option.bind_eq_some_iff.mp values
        obtain rfl := Option.some.inj same
        obtain _ | ⟨read, reads⟩ := reads
        exact .adjacent ((isDigit_iff usual).mpr ⟨_, read, value⟩) (inductionHypothesis reads tail)

section

variable
  {radix digit : Nat}
  {point : CodePoint}
  {points : List CodePoint}
  {digits : List Nat}

theorem IsDigit.lt (isDigit : IsDigit radix point digit) : digit < radix := by
  cases isDigit with
  | decimal _ _ _ _ small => exact small
  | letter _ _ _ _ small => exact small

/-- Stripping the margin takes no digit away. -/
theorem IsDigit.not_isMargin
    (usual : radix ≤ 16)
    (isDigit : IsDigit radix point digit) : ¬ isMargin point = true := by
  intro margin
  obtain ⟨character, read, value⟩ := (isDigit_iff usual).mp isDigit
  obtain ⟨_, again, padding⟩ := isMargin_iff.mp margin
  obtain rfl := Option.some.inj (read.symm.trans again)
  have row := digitValue?_eq_some_iff.mp value
  simp only [isPadding, Bool.or_eq_true, Bool.and_eq_true, decide_eq_true_eq,
    ← Char.toNat_inj] at padding
  have space : ' '.toNat = 0x20 := rfl
  omega

/-- The digits of a numeral are below its radix. -/
theorem Spelt.lt (spelt : Spelt radix points digits) : ∀ digit ∈ digits, digit < radix := by
  induction spelt with
  | last isDigit => simpa using isDigit.lt
  | adjacent isDigit _ inductionHypothesis | grouped isDigit _ inductionHypothesis =>
      exact List.forall_mem_cons.mpr ⟨isDigit.lt, inductionHypothesis⟩

/-- A numeral holds nothing that stripping the margin could take away, so its margin is well
defined. -/
theorem Spelt.not_isMargin
    (usual : radix ≤ 16)
    (spelt : Spelt radix points digits) : ∀ point ∈ points, ¬ isMargin point = true := by
  induction spelt with
  | last isDigit => simpa using isDigit.not_isMargin usual
  | adjacent isDigit _ inductionHypothesis =>
      exact List.forall_mem_cons.mpr ⟨isDigit.not_isMargin usual, inductionHypothesis⟩
  | grouped isDigit _ inductionHypothesis =>
      exact List.forall_mem_cons.mpr ⟨isDigit.not_isMargin usual,
        List.forall_mem_cons.mpr ⟨by decide, inductionHypothesis⟩⟩

end

end Numeral
end Text
end WordMachine
