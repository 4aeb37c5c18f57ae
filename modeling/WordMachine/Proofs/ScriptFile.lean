import WordMachine.Bench.Basic
import WordMachine.Proofs.ScriptReplay
import WordMachine.Proofs.Utf8

/-!
# Scripts from files

The file of a script is read as UTF-8, and each of its line ends becomes one line feed.  What the
script replays is the text in the file but for that, and a file that holds no text makes no
script: `Bench.readScript_faithful`.
-/

namespace WordMachine

/-! ## Line ends -/

namespace Text

/-- What becomes of a character by what stands before it: a carriage return becomes a line feed,
and a line feed behind a carriage return vanishes. -/
def unifyEnd : Char × Option Char -> Option Char
  | (character, before?) =>
      if character = '\r' then
        some '\n'
      else if character = '\n' ∧ before? = some '\r' then
        none
      else
        some character

/-- What becomes of characters if a given one stands before them. -/
def unifyAfter
    (before? : Option Char)
    (characters : List Char) : List Char :=
  (characters.zip (before? :: characters.map some)).filterMap unifyEnd

/-- The characters with one line feed for every line end. -/
def unifyEnds (characters : List Char) : List Char :=
  unifyAfter none characters

theorem unifyAfter_cons
    (before? : Option Char)
    (character : Char)
    (characters : List Char) :
    unifyAfter before? (character :: characters) =
      (unifyEnd (character, before?)).toList ++ unifyAfter (some character) characters := by
  rw [unifyAfter, List.map_cons, List.zip_cons_cons, List.filterMap_cons]
  cases unifyEnd (character, before?) <;> rfl

/-- What stands before matters to a line feed only. -/
theorem unifyAfter_congr
    {characters : List Char}
    (noFeed : ∀ rest, characters ≠ '\n' :: rest)
    (before? other? : Option Char) :
    unifyAfter before? characters = unifyAfter other? characters := by
  cases characters with
  | nil => rfl
  | cons character rest =>
      have different : character ≠ '\n' := fun same => noFeed rest (same ▸ rfl)
      simp [unifyAfter_cons, unifyEnd, different]

/-- Looking at the next character comes to the same as looking at the last. -/
theorem unifyAfter_eq_foldNewlines
    (characters : List Char)
    {before? : Option Char}
    (ended : before? ≠ some '\r') :
    unifyAfter before? characters = foldNewlines characters := by
  fun_induction foldNewlines characters generalizing before? with
  | case1 rest inductionHypothesis =>
      simp [unifyAfter_cons, unifyEnd, inductionHypothesis]
  | case2 rest noFeed inductionHypothesis =>
      have next : unifyAfter (some '\r') rest = foldNewlines rest := by
        rw [unifyAfter_congr noFeed _ none, inductionHypothesis (by simp)]
      simp [unifyAfter_cons, unifyEnd, next]
  | case3 character rest noPair noReturn inductionHypothesis =>
      have next : unifyAfter (some character) rest = foldNewlines rest :=
        inductionHypothesis fun same => noReturn (Option.some.inj same)
      have other : character ≠ '\r' := noReturn
      simp [unifyAfter_cons, unifyEnd, next, other, ended]
  | case4 => rfl

theorem unifyEnds_eq_foldNewlines (characters : List Char) :
    unifyEnds characters = foldNewlines characters :=
  unifyAfter_eq_foldNewlines characters (by simp)

theorem return_notMem_unifyEnds (characters : List Char) :
    '\r' ∉ unifyEnds characters := by
  intro occurs
  obtain ⟨⟨character, before?⟩, -, becomes⟩ := List.mem_filterMap.mp occurs
  simp only [unifyEnd] at becomes
  split_ifs at becomes with isReturn
  · simp at becomes
  · exact isReturn (Option.some.inj becomes)

/-- Characters without a carriage return stay as they are. -/
theorem unifyEnds_eq_self
    {characters : List Char}
    (noReturn : '\r' ∉ characters) : unifyEnds characters = characters := by
  rw [unifyEnds_eq_foldNewlines]
  fun_induction foldNewlines characters with
  | case1 | case2 => simp at noReturn
  | case3 character rest _ _ inductionHypothesis =>
      rw [inductionHypothesis (List.not_mem_of_not_mem_cons noReturn)]
  | case4 => rfl

end Text

/-! ## Reading a script -/

namespace Script

theorem ofBytes?_of_encoded
    {bytes : List UInt8}
    {text : List Char}
    (encoded : bytes = text.flatMap String.utf8EncodeChar) :
    ofBytes? bytes = some ⟨(Text.unifyEnds text).map CodePoint.ofChar⟩ := by
  rw [ofBytes?, Text.Utf8.decode?_eq_some_iff.mpr encoded, Text.unifyEnds_eq_foldNewlines]
  rfl

theorem exists_encoded_of_ofBytes?
    {bytes : List UInt8}
    {script : Script}
    (made : ofBytes? bytes = some script) :
    ∃ text : List Char, bytes = text.flatMap String.utf8EncodeChar := by
  obtain ⟨text, decoded, -⟩ := Option.map_eq_some_iff.mp made
  exact ⟨text, Text.Utf8.decode?_eq_some_iff.mp decoded⟩

/-- A character that does not occur in what a script replays is never delivered. -/
theorem Replays.reply_notMem
    {script : Script}
    {characters : List Char}
    (replays : script.Replays (characters.map CodePoint.ofChar))
    {character : Char}
    (absent : character ∉ characters)
    (count : Nat) :
    Reply.done (.integer character.toNat) ∉
      (callAll (List.replicate count .read) script).1 := by
  intro delivered
  rw [replays count] at delivered
  rcases List.mem_append.mp (List.mem_of_mem_take delivered) with replayed | ended
  · rw [List.map_map] at replayed
    obtain ⟨other, occurs, same⟩ := List.mem_map.mp replayed
    obtain rfl : other = character := by
      injection same with same
      injection same with same
      exact Char.toNat_inj.mp (Int.ofNat.inj same)
    exact absent occurs
  · cases List.eq_of_mem_replicate ended

end Script

namespace Bench

theorem Work.run_bind
    {α β : Type}
    (work : Work α)
    (next : α -> Work β)
    (bench : Bench) :
    (work >>= next).run.run bench =
      match work.run.run bench with
      | (.ok value, after) => (next value).run.run after
      | (.error trouble, after) => (.error trouble, after) := by
  rw [ExceptT.run_bind, StateT.run_bind]
  rcases work.run.run bench with ⟨_ | _, after⟩ <;> rfl

theorem run_readScript
    {bench : Bench}
    {path : Path}
    {bytes : Array UInt8}
    (held : bench.files.read path = .ok bytes) :
    (readScript path).run.run bench =
      match Script.ofBytes? bytes.toList with
      | some script => (.ok script, bench)
      | none => (.error .undecodable, bench) := by
  have looked : (get : Work Bench).run.run bench = (.ok bench, bench) := rfl
  have fetched : (readFile path).run.run bench = (.ok bytes, bench) := by
    rw [readFile, Work.run_bind, looked]
    simp only [held]
    rfl
  rw [readScript, Work.run_bind, fetched]
  cases decoded : Script.ofBytes? bytes.toList <;> simp only [decoded] <;> rfl

/-- The script of a file with the UTF-8 form of a text replays the text with one line feed for each
of its line ends, so the text itself if it has no carriage return, and never delivers a carriage
return.  A script is made from exactly those files that hold the form of a text; from any other
file there is trouble and nothing else. -/
theorem readScript_faithful
    {bench : Bench}
    {path : Path}
    {bytes : Array UInt8}
    (held : bench.files.read path = .ok bytes) :
    (∀ text : List Char, bytes.toList = text.flatMap String.utf8EncodeChar ->
      ∃ script, (readScript path).run.run bench = (.ok script, bench) ∧
        script.Replays ((Text.unifyEnds text).map CodePoint.ofChar) ∧
        ('\r' ∉ text -> script.Replays (text.map CodePoint.ofChar)) ∧
        ∀ count, Reply.done (.integer 13) ∉
          (Script.callAll (List.replicate count .read) script).1) ∧
    ((∃ script, (readScript path).run.run bench = (.ok script, bench)) ↔
      ∃ text : List Char, bytes.toList = text.flatMap String.utf8EncodeChar) ∧
    ((¬ ∃ text : List Char, bytes.toList = text.flatMap String.utf8EncodeChar) ->
      (readScript path).run.run bench = (.error .undecodable, bench)) := by
  rw [run_readScript held]
  refine ⟨fun text encoded => ?_, ⟨?_, ?_⟩, fun noText => ?_⟩
  · let script : Script := ⟨(Text.unifyEnds text).map CodePoint.ofChar⟩
    have replays : script.Replays ((Text.unifyEnds text).map CodePoint.ofChar) :=
      Script.replays_of_pending_eq rfl
    rw [Script.ofBytes?_of_encoded encoded]
    refine ⟨script, rfl, replays, fun noReturn => ?_, ?_⟩
    · rwa [Text.unifyEnds_eq_self noReturn] at replays
    · exact replays.reply_notMem (Text.return_notMem_unifyEnds text)
  · rintro ⟨script, made⟩
    cases decoded : Script.ofBytes? bytes.toList with
    | none =>
        rw [decoded] at made
        cases made
    | some _ => exact Script.exists_encoded_of_ofBytes? decoded
  · rintro ⟨text, encoded⟩
    rw [Script.ofBytes?_of_encoded encoded]
    exact ⟨_, rfl⟩
  · cases decoded : Script.ofBytes? bytes.toList with
    | none => rfl
    | some _ => exact absurd (Script.exists_encoded_of_ofBytes? decoded) noText

/-- A file with a mark at its start, a letter of two bytes, and three line ends of which the
middle one takes two characters. -/
def markedFile : Array UInt8 :=
  #[0xEF, 0xBB, 0xBF, 0xC3, 0xA9, 0x0D, 0x0D, 0x0A, 0x0D]

/-- The mark is kept, and each line end becomes one line feed. -/
theorem readScript_markedFile :
    let path := Path.ofText "s.txt"
    let bench : Bench :=
      { journal := { verbosity := .atLeast .warning },
        files := FileTree.empty.write path markedFile }
    let text := ['\uFEFF', 'é', '\r', '\r', '\n', '\r']
    bench.files.read path = .ok markedFile ∧
      markedFile.toList = text.flatMap String.utf8EncodeChar ∧
      ∃ script, (readScript path).run.run bench = (.ok script, bench) ∧
        script.Replays (['\uFEFF', 'é', '\n', '\n', '\n'].map CodePoint.ofChar) := by
  intro path bench text
  have held : bench.files.read path = .ok markedFile := rfl
  have encoded : markedFile.toList = text.flatMap String.utf8EncodeChar := by decide
  obtain ⟨script, made, replays, -⟩ := (readScript_faithful held).1 text encoded
  exact ⟨held, encoded, script, made, replays⟩

end Bench
end WordMachine
