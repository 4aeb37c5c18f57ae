import Mathlib.Order.Bounds.Basic
import WordMachine.Proofs.Tape

/-!
# Lines are asked for late

A line buffer hands out what the calls of its feed come back with, each line by characters.
It asks for a line only if nothing is left of the one before, so that so many reads make
as few calls as they can: `LineBuffer.readTimes_late`.
-/

namespace WordMachine

namespace LineFeed

/-- What the next calls come back with, as many as are wanted.  After the known outcomes there are
only empty lines. -/
def ahead
    (feed : LineFeed)
    (calls : Nat) : List (Reply Text) :=
  (List.range calls).map fun call => feed.outcomes.getD call (.done "")

theorem next_eq (feed : LineFeed) :
    feed.next =
      (feed.outcomes.headD (.done ""),
        { outcomes := feed.outcomes.tail, calls := feed.calls + 1 }) := by
  obtain ⟨outcomes, calls⟩ := feed
  cases outcomes <;> rfl

@[simp] theorem ahead_zero (feed : LineFeed) : feed.ahead 0 = [] :=
  rfl

theorem ahead_succ
    (feed : LineFeed)
    (calls : Nat) :
    feed.ahead (calls + 1) = feed.next.1 :: feed.next.2.ahead calls := by
  obtain ⟨outcomes, made⟩ := feed
  unfold ahead
  rw [List.range_succ_eq_map, List.map_cons, List.map_map, next_eq]
  cases outcomes <;> rfl

end LineFeed

namespace LineBuffer

/-- What a line buffer can hand out by so many calls: what is left of the present line, and what the
calls come back with. -/
def supply
    (buffer : LineBuffer)
    (calls : Nat) : List (Reply Value) :=
  buffer.line.map CodePoint.reply ++ (buffer.feed.ahead calls).flatMap Reply.characters

/-- Reads so many times. -/
def readTimes : Nat -> LineBuffer -> List (Reply Value) × LineBuffer
  | 0, buffer => ([], buffer)
  | count + 1, buffer =>
      let (reply, buffer) := buffer.read
      let (replies, buffer) := readTimes count buffer
      (reply :: replies, buffer)

theorem readTimes_succ
    (count : Nat)
    (buffer : LineBuffer) :
    readTimes (count + 1) buffer =
      (buffer.read.1 :: (readTimes count buffer.read.2).1, (readTimes count buffer.read.2).2) :=
  rfl

/-! ## Single reads -/

/-- What a call comes back with is handed out at once, but for the rest of a line. -/
theorem read_of_empty (feed : LineFeed) :
    ∃ line, feed.next.1.characters = (read { feed }).1 :: line.map CodePoint.reply ∧
      (read { feed }).2 = { feed := feed.next.2, line } := by
  unfold read
  dsimp only
  rcases feed.next with ⟨outcome, feed⟩
  cases outcome with
  | done text =>
      obtain ⟨points⟩ := text
      cases points with
      | nil => exact ⟨[], rfl, rfl⟩
      | cons point line => exact ⟨line, rfl, rfl⟩
  | failed failure => exact ⟨[], rfl, rfl⟩
  | interrupted words => exact ⟨[], rfl, rfl⟩

/-- A line is asked for just if nothing is left of the one before. -/
theorem feed_read (buffer : LineBuffer) :
    buffer.read.2.feed = if buffer.line = [] then buffer.feed.next.2 else buffer.feed := by
  obtain ⟨feed, line⟩ := buffer
  cases line with
  | nil =>
      obtain ⟨line, _, after⟩ := read_of_empty feed
      rw [after, if_pos rfl]
  | cons point line => rw [if_neg (List.cons_ne_nil point line), read]

/-! ## Several reads -/

/-- So many reads ask for so many lines, and they have to. -/
structure ReadsLate
    (buffer : LineBuffer)
    (count asked : Nat)
    (after : LineBuffer) : Prop where
  /-- The lines are the least number that suffices for the reads. -/
  isLeast : IsLeast {calls | count ≤ (buffer.supply calls).length} asked
  /-- All calls are counted. -/
  calls_eq : after.feed.calls = buffer.feed.calls + asked
  /-- The calls take the outcomes in order. -/
  outcomes_eq : after.feed.outcomes = buffer.feed.outcomes.drop asked
  /-- What is not handed out yet is left of the present line. -/
  line_eq : after.line.map CodePoint.reply = (buffer.supply asked).drop count

/-- The replies are those of the tape, and the end of input from its end on. -/
theorem replies_readTimes
    (count : Nat)
    (buffer : LineBuffer) :
    (readTimes count buffer).1 =
      (buffer.tape ++ List.replicate count (Reply.failed ended)).take count := by
  induction count generalizing buffer with
  | zero => rfl
  | succ count inductionHypothesis =>
      obtain ⟨reply, tape⟩ := buffer.read_spec
      rw [readTimes_succ, inductionHypothesis, reply, tape, take_succ_append_ending]

theorem readsLate_zero (buffer : LineBuffer) : buffer.ReadsLate 0 0 buffer where
  isLeast := ⟨Nat.zero_le _, fun _ _ => Nat.zero_le _⟩
  calls_eq := rfl
  outcomes_eq := rfl
  line_eq := by simp [supply]

/-- A read of a character of the present line asks for nothing. -/
theorem ReadsLate.of_line
    {feed : LineFeed}
    {line : List CodePoint}
    {count asked : Nat}
    {after : LineBuffer}
    (reads : ReadsLate { feed, line } count asked after)
    (point : CodePoint) :
    ReadsLate { feed, line := point :: line } (count + 1) asked after where
  isLeast := by
    have supply (calls : Nat) :
        count + 1 ≤ (LineBuffer.supply { feed, line := point :: line } calls).length ↔
          count ≤ (LineBuffer.supply { feed, line } calls).length :=
      Nat.succ_le_succ_iff
    simpa only [supply] using reads.isLeast
  calls_eq := reads.calls_eq
  outcomes_eq := reads.outcomes_eq
  line_eq := reads.line_eq

/-- A read for which nothing is left asks for one line, and there is no way around that. -/
theorem ReadsLate.of_empty
    {feed : LineFeed}
    {count asked : Nat}
    {after : LineBuffer}
    (reads : (read { feed }).2.ReadsLate count asked after) :
    ReadsLate { feed } (count + 1) (asked + 1) after := by
  obtain ⟨line, characters, next⟩ := read_of_empty feed
  rw [next] at reads
  -- With nothing in store the first read has to call the feed, which shifts the supply by one call.
  have supply (calls : Nat) :
      LineBuffer.supply { feed } (calls + 1) =
        (read { feed }).1 :: LineBuffer.supply { feed := feed.next.2, line } calls := by
    rw [LineBuffer.supply, LineFeed.ahead_succ, List.flatMap_cons, characters]
    rfl
  exact {
    isLeast := by
      refine ⟨?_, fun calls enough => ?_⟩
      · change count + 1 ≤ (LineBuffer.supply { feed } (asked + 1)).length
        rw [supply]
        exact Nat.succ_le_succ reads.isLeast.1
      · change count + 1 ≤ (LineBuffer.supply { feed } calls).length at enough
        cases calls with
        | zero => exact absurd enough (Nat.not_succ_le_zero count)
        | succ calls =>
            rw [supply] at enough
            exact Nat.succ_le_succ (reads.isLeast.2 (Nat.le_of_succ_le_succ enough))
    calls_eq := by
      have first : feed.next.2.calls = feed.calls + 1 := by
        rw [LineFeed.next_eq]
      rw [reads.calls_eq, first, Nat.add_assoc, Nat.add_comm 1 asked]
    outcomes_eq := by
      rw [reads.outcomes_eq, LineFeed.next_eq, List.drop_tail]
    line_eq := by
      rw [reads.line_eq, supply]
      rfl }

/-- Reads ask for as few lines as they can. -/
theorem exists_readsLate
    (count : Nat)
    (buffer : LineBuffer) :
    ∃ asked, buffer.ReadsLate count asked (readTimes count buffer).2 := by
  induction count generalizing buffer with
  | zero => exact ⟨0, readsLate_zero buffer⟩
  | succ count inductionHypothesis =>
      obtain ⟨asked, reads⟩ := inductionHypothesis buffer.read.2
      obtain ⟨feed, line⟩ := buffer
      cases line with
      | nil => exact ⟨asked + 1, reads.of_empty⟩
      | cons point line => exact ⟨asked, reads.of_line point⟩

/-- Reads are replied to by the characters of the lines that the feed has, by the end of input for
each line without characters, and by each failure and interruption as it is; after the last of the
known outcomes by the end of input.  The feed is called as few times as this takes: it gives its
outcomes in order, what has not been read of the last of them is still there, and the next read
calls it just if that is nothing. -/
theorem readTimes_late
    (outcomes : List (Reply Text))
    (count : Nat) :
    let feed : LineFeed := { outcomes }
    let (replies, after) := readTimes count { feed }
    replies =
        (outcomes.flatMap Reply.characters ++
          List.replicate count (Reply.failed ended)).take count ∧
      IsLeast {calls | count ≤ ((feed.ahead calls).flatMap Reply.characters).length}
        after.feed.calls ∧
      after.feed.outcomes = outcomes.drop after.feed.calls ∧
      after.line.map CodePoint.reply =
        ((feed.ahead after.feed.calls).flatMap Reply.characters).drop count ∧
      after.read.2.feed = if after.line = [] then after.feed.next.2 else after.feed := by
  intro feed
  obtain ⟨asked, reads⟩ := exists_readsLate count { feed }
  have calls : (readTimes count { feed }).2.feed.calls = asked := by
    rw [reads.calls_eq, Nat.zero_add]
  dsimp only
  rw [calls]
  exact ⟨replies_readTimes count { feed }, reads.isLeast, reads.outcomes_eq, reads.line_eq,
    feed_read _⟩

end LineBuffer
end WordMachine
