import Mathlib.Data.List.DropRight
import WordMachine.Proofs.ChainedInput
import WordMachine.Proofs.LineReads
import WordMachine.Proofs.Lines

/-!
# What a script replays

A script hands out what it was made from, and what is fed to it, in order and without loss:
`Script.callAll_conserves`.  A script made from the lines of a text replays that text, with a
line feed at its end: `Script.lines_replay`.  So nothing changes if the text of a script is cut
into lines again.
-/

namespace WordMachine

/-! ## Calls of a script -/

/-- What can be done with a script. -/
inductive ScriptCall where
  /-- A character is read. -/
  | read
  /-- Text is fed to the script. -/
  | feed (text : Text)

/-- What is fed, all in all. -/
def ScriptCall.fed : List ScriptCall -> List CodePoint
  | [] => []
  | .read :: calls => fed calls
  | .feed text :: calls => text.points ++ fed calls

namespace Script

/-- Makes calls one after the other, and gives what the reads come back with. -/
def callAll : List ScriptCall -> Script -> List (Reply Value) × Script
  | [], script => ([], script)
  | .read :: calls, script =>
      let (reply, script) := script.read
      let (replies, script) := callAll calls script
      (reply :: replies, script)
  | .feed text :: calls, script => callAll calls (script.feed text)

theorem callAll_read
    (calls : List ScriptCall)
    (script : Script) :
    callAll (.read :: calls) script =
      (script.read.1 :: (callAll calls script.read.2).1, (callAll calls script.read.2).2) :=
  rfl

theorem callAll_feed
    (text : Text)
    (calls : List ScriptCall)
    (script : Script) :
    callAll (.feed text :: calls) script = callAll calls (script.feed text) :=
  rfl

/-- A read is answered from the tape, which loses what is delivered, or it meets the end. -/
theorem filter_read_append_tape (script : Script) :
    [script.read.1].filter (!·.isEnd) ++ script.read.2.tape = script.tape := by
  obtain ⟨pending⟩ := script
  cases pending <;> rfl

/-- What has been delivered and what is still there is what there was and what was fed. -/
theorem callAll_conserves
    (calls : List ScriptCall)
    (script : Script) :
    (callAll calls script).1.filter (!·.isEnd) ++ (callAll calls script).2.tape =
      script.tape ++ (ScriptCall.fed calls).map CodePoint.reply := by
  induction calls generalizing script with
  | nil => simp [callAll, ScriptCall.fed]
  | cons call calls inductionHypothesis =>
      cases call with
      | read =>
          have later := inductionHypothesis script.read.2
          calc
            _ = [script.read.1].filter (!·.isEnd) ++
                ((callAll calls script.read.2).1.filter (!·.isEnd) ++
                  (callAll calls script.read.2).2.tape) := by
              rw [callAll_read, ← List.append_assoc, ← List.filter_append, List.singleton_append]
            _ = script.tape ++ (ScriptCall.fed calls).map CodePoint.reply := by
              rw [later, ← List.append_assoc, filter_read_append_tape]
      | feed text =>
          rw [callAll_feed, inductionHypothesis]
          simp [tape, feed, ScriptCall.fed]

/-- A read meets the end of input, and leaves the script as it is, exactly if nothing remains. -/
theorem read_eq_iff (script : Script) :
    (script.read.1.isEnd = true ↔ script.remaining = 0) ∧
      (script.read = (.failed exhausted, script) ↔ script.remaining = 0) := by
  obtain ⟨pending⟩ := script
  cases pending <;> simp [read, remaining, Reply.isEnd, exhausted]

/-! ## Replaying -/

/-- Reading delivers certain code points, and then nothing but the end of input. -/
def Replays
    (script : Script)
    (points : List CodePoint) : Prop :=
  ∀ count, (callAll (List.replicate count .read) script).1 =
    (points.map CodePoint.reply ++ List.replicate count (Reply.failed exhausted)).take count

theorem replays_of_pending_eq
    {script : Script}
    {points : List CodePoint}
    (pending : script.pending = points) : script.Replays points := by
  intro count
  induction count generalizing script points with
  | zero => rfl
  | succ count inductionHypothesis =>
      rw [List.replicate_succ, callAll_read, inductionHypothesis rfl, take_succ_append_ending,
        read_eq, ← pending]
      simp [tape]

/-! ## Lines -/

theorem terminated_of_single
    {line : List CodePoint}
    (single : Text.lineFeed ∉ line) : terminated ⟨line⟩ = line ++ [Text.lineFeed] := by
  have whole : line.rdropWhile (· = Text.lineFeed) = line := by
    rw [List.rdropWhile_eq_self_iff]
    intro nonempty last
    exact single (of_decide_eq_true last ▸ List.getLast_mem nonempty)
  exact congrArg (· ++ [Text.lineFeed]) whole

theorem terminated_of_ended
    {line : List CodePoint}
    (single : Text.lineFeed ∉ line) :
    terminated ⟨line ++ [Text.lineFeed]⟩ = line ++ [Text.lineFeed] := by
  have stripped : (line ++ [Text.lineFeed]).rdropWhile (· = Text.lineFeed) =
      line.rdropWhile (· = Text.lineFeed) :=
    List.rdropWhile_concat_pos _ _ _ (decide_eq_true rfl)
  exact (congrArg (· ++ [Text.lineFeed]) stripped).trans (terminated_of_single single)

/-- A text with a line feed at its end, unless it has one or is empty. -/
def completed (points : List CodePoint) : List CodePoint :=
  if points ≠ [] ∧ points.getLast? ≠ some Text.lineFeed then
    points ++ [Text.lineFeed]
  else
    points

/-- The lines of a text come to the text, with a line feed at its end. -/
theorem pending_ofLines_of_isCut
    {points : List CodePoint}
    {pieces : List (List CodePoint)}
    (isCut : Text.IsCut points pieces) :
    (ofLines (pieces.map Text.mk)).pending = completed points := by
  induction isCut with
  | nil => rfl
  | @last line nonempty single =>
      have unended : line.getLast? ≠ some Text.lineFeed := fun last =>
        single (List.mem_of_getLast? last)
      simp [ofLines, completed, terminated_of_single single, nonempty, unended]
  | @line line rest pieces single isCut inductionHypothesis =>
      have later : (ofLines (((line ++ [Text.lineFeed]) :: pieces).map Text.mk)).pending =
          line ++ Text.lineFeed :: completed rest := by
        rw [← inductionHypothesis]
        simp [ofLines, terminated_of_ended single]
      rw [later]
      cases rest with
      | nil => simp [completed]
      | cons point rest =>
          have last : (line ++ Text.lineFeed :: point :: rest).getLast? =
              (point :: rest).getLast? := by
            rw [List.getLast?_append_cons, List.getLast?_cons_cons]
          unfold completed
          rw [last]
          split <;> simp_all

/-- Nothing is to be added to what lines come to. -/
theorem completed_pending_ofLines (lines : List Text) :
    completed (ofLines lines).pending = (ofLines lines).pending := by
  rcases List.eq_nil_or_concat lines with rfl | ⟨front, last, rfl⟩
  · rfl
  · simp [completed, ofLines, terminated]

/-- The lines of a text, made into a script, replay the text with a line feed at its end unless it
has one or is empty.  What any lines replay is replayed again by the lines that it is cut into, and
delivered just as well line by line.  Whatever is read and fed, what has been delivered followed by
what is there is the text followed by what was fed; as many characters remain as are there, and a
read meets the end of input, and changes nothing, exactly if none remain. -/
theorem lines_replay :
    (∀ text : Text,
      let pieces := Text.splitLines text.points
      Text.IsCut text.points pieces ∧
        (ofLines (pieces.map Text.mk)).Replays (completed text.points)) ∧
    (∀ lines : List Text, ∃ delivered : Text,
      (ofLines lines).Replays delivered.points ∧
        (ofLines ((Text.splitLines delivered.points).map Text.mk)).Replays delivered.points ∧
        ∀ count, (LineBuffer.readTimes count { feed := .ofText delivered }).1 =
          (delivered.points.map CodePoint.reply ++
            List.replicate count (Reply.failed LineBuffer.ended)).take count) ∧
    ∀ (text : Text) (calls : List ScriptCall),
      let (replies, script) := callAll calls (ofText text)
      replies.filter (!·.isEnd) ++ script.tape =
          (text.points ++ ScriptCall.fed calls).map CodePoint.reply ∧
        script.remaining = script.tape.length ∧
        (script.read.1.isEnd = true ↔ script.remaining = 0) ∧
        (script.read = (.failed exhausted, script) ↔ script.remaining = 0) := by
  refine ⟨fun text => ?_, fun lines => ?_, fun text calls => ?_⟩
  · have isCut := Text.isCut_splitLines text.points
    exact ⟨isCut, replays_of_pending_eq (pending_ofLines_of_isCut isCut)⟩
  · obtain ⟨delivered, pending⟩ : ∃ delivered : Text, (ofLines lines).pending = delivered.points :=
      ⟨⟨_⟩, rfl⟩
    have again := pending_ofLines_of_isCut (Text.isCut_splitLines delivered.points)
    rw [← pending, completed_pending_ofLines, pending] at again
    have tape : LineBuffer.tape { feed := .ofText delivered } =
        delivered.points.map CodePoint.reply := Supply.tape_source (.lines delivered)
    refine ⟨delivered, replays_of_pending_eq pending, replays_of_pending_eq again, fun count => ?_⟩
    rw [LineBuffer.replies_readTimes, tape]
  · have conserved := callAll_conserves calls (ofText text)
    obtain ⟨ends, unchanged⟩ := read_eq_iff (callAll calls (ofText text)).2
    refine ⟨?_, ?_, ends, unchanged⟩
    · rw [List.map_append]
      exact conserved
    · rw [tape, List.length_map, remaining]

end Script
end WordMachine
