import WordMachine.Proofs.TerminalOutput

/-!
# What a terminal leaves on its stream

A terminal writes its characters one by one, and flushes the stream after each line feed.
So the stream keeps the first of them, up to the first one that it refuses, or to the
first line feed after which it cannot be flushed; from there on all are lost:
`Terminal.exists_keeps`.
-/

namespace WordMachine

namespace TextStream

/-- The stream accepts a code point in its next write. -/
def Accepts
    (stream : TextStream)
    (point : CodePoint) : Prop :=
  stream.writeReplies stream.writes = .done () ∧ stream.encoding.refusal? point = none

/-- A stream that has accepted a code point, and was flushed if that is a line feed. -/
def advanced
    (stream : TextStream)
    (point : CodePoint) : TextStream :=
  { stream with
    writes := stream.writes + 1
    flushes := stream.flushes + if point = CodePoint.ofChar '\n' then 1 else 0
    latestFirst := point :: stream.latestFirst }

/-- Of the code points that are written to a terminal on a stream, the stream keeps some, and loses
those after them. -/
inductive Keeps : TextStream -> List CodePoint -> List CodePoint -> Prop where
  /-- Nothing is written any more. -/
  | nothing (stream : TextStream) : Keeps stream [] []
  /-- A code point is accepted, and the others follow. -/
  | accepted {stream : TextStream} {point : CodePoint} {points kept : List CodePoint}
      (accepts : stream.Accepts point)
      (flushed : point = CodePoint.ofChar '\n' -> stream.flushReplies stream.flushes = .done ())
      (keeps : Keeps (stream.advanced point) points kept) :
      Keeps stream (point :: points) (point :: kept)
  /-- A code point is refused.  It is lost, and all that follows. -/
  | refused {stream : TextStream} {point : CodePoint} {points : List CodePoint}
      (refuses : ¬ stream.Accepts point) :
      Keeps stream (point :: points) []
  /-- A line feed is accepted, but the stream cannot be flushed.  All that follows is lost. -/
  | unflushed {stream : TextStream} {point : CodePoint} {points : List CodePoint}
      (accepts : stream.Accepts point)
      (isLineFeed : point = CodePoint.ofChar '\n')
      (fails : stream.flushReplies stream.flushes ≠ .done ()) :
      Keeps stream (point :: points) [point]

variable
  {stream : TextStream}
  {point : CodePoint}

theorem absorbable_advanced
    (absorbable : stream.Absorbable)
    (point : CodePoint) : (stream.advanced point).Absorbable :=
  ⟨absorbable.writes, absorbable.flushes⟩

theorem write_of_accepts (accepts : stream.Accepts point) :
    stream.write point =
      (.done (),
        { stream with
          writes := stream.writes + 1
          latestFirst := point :: stream.latestFirst }) := by
  obtain ⟨replied, expressible⟩ := accepts
  unfold write
  rw [replied, expressible]

/-- A stream that refuses a code point makes trouble, and does not hold it. -/
theorem write_of_refuses
    (absorbable : stream.Absorbable)
    (refuses : ¬ stream.Accepts point) :
    ∃ failure,
      stream.write point = (.failed failure, { stream with writes := stream.writes + 1 }) := by
  have write := absorbable.writes stream.writes
  unfold TextStream.write
  dsimp only
  cases replied : stream.writeReplies stream.writes with
  | done value =>
      cases refused : stream.encoding.refusal? point with
      | none => exact absurd ⟨replied, refused⟩ refuses
      | some failure => exact ⟨failure, rfl⟩
  | failed failure => exact ⟨failure, rfl⟩
  | interrupted words =>
      rw [replied] at write
      exact write.elim

end TextStream

namespace Terminal

/-- The ways in which a terminal in working order is left by a write. -/
inductive WriteEnds
    (stream : TextStream)
    (point : CodePoint) : Terminal -> Prop where
  /-- The code point is accepted. -/
  | accepted
      (accepts : stream.Accepts point)
      (flushed : point = CodePoint.ofChar '\n' -> stream.flushReplies stream.flushes = .done ()) :
      WriteEnds stream point { stream := stream.advanced point }
  /-- The code point is accepted, but the stream cannot be flushed. -/
  | unflushed
      (accepts : stream.Accepts point)
      (isLineFeed : point = CodePoint.ofChar '\n')
      (fails : stream.flushReplies stream.flushes ≠ .done ()) :
      WriteEnds stream point { stream := stream.advanced point, broken := true }
  /-- The code point is refused. -/
  | refused
      (refuses : ¬ stream.Accepts point) :
      WriteEnds stream point
        { stream := { stream with writes := stream.writes + 1 }, broken := true }

/-- A terminal to which several codes were written. -/
def writeAll
    (terminal : Terminal)
    (codes : List Int) : Terminal :=
  codes.foldl (fun terminal code => (terminal.write code).2) terminal

theorem writeAll_append
    (terminal : Terminal)
    (codes others : List Int) :
    terminal.writeAll (codes ++ others) = (terminal.writeAll codes).writeAll others :=
  List.foldl_append

section

variable
  {stream : TextStream}
  {point : CodePoint}

theorem writeThrough_of_accepts (accepts : stream.Accepts point) :
    writeThrough stream point =
      (if point = CodePoint.ofChar '\n' then stream.flushReplies stream.flushes else .done (),
        stream.advanced point) := by
  rw [writeThrough, TextStream.write_of_accepts accepts, TextStream.advanced]
  dsimp only
  by_cases isLineFeed : point = CodePoint.ofChar '\n'
  · rw [if_pos isLineFeed, if_pos isLineFeed, if_pos isLineFeed]
    rfl
  · rw [if_neg isLineFeed, if_neg isLineFeed, if_neg isLineFeed]
    rfl

theorem writeThrough_of_refuses
    (absorbable : stream.Absorbable)
    (refuses : ¬ stream.Accepts point) :
    ∃ failure, writeThrough stream point =
      (.failed failure, { stream with writes := stream.writes + 1 }) := by
  obtain ⟨failure, wrote⟩ := TextStream.write_of_refuses absorbable refuses
  exact ⟨failure, by rw [writeThrough, wrote]⟩

/-- A terminal whose stream makes trouble is broken. -/
theorem absorb_of_trouble
    {result : Reply Unit × TextStream}
    (absorbable : result.1.Absorbable)
    (fails : result.1 ≠ .done ())
    (tell : Failure -> Notice) :
    (absorb tell result).2 = { stream := result.2, broken := true } := by
  obtain ⟨reply, after⟩ := result
  cases reply with
  | done value => exact absurd rfl fails
  | failed failure =>
      have trouble : failure.isStreamTrouble = true := absorbable
      unfold absorb
      dsimp only
      rw [if_pos trouble]
  | interrupted words => exact absorbable.elim

/-- A write ends in one of the ways. -/
theorem ends_write
    (absorbable : stream.Absorbable)
    (code : Word) :
    WriteEnds stream (CodePoint.ofNat code.toNat)
      (({ stream } : Terminal).write code.toNat).2 := by
  have through := (absorbable_writeThrough absorbable (CodePoint.ofNat code.toNat)).1
  unfold write
  rw [if_neg Bool.false_ne_true, codePoint_word]
  dsimp only
  generalize CodePoint.ofNat code.toNat = point at through ⊢
  by_cases accepts : stream.Accepts point
  · rw [writeThrough_of_accepts accepts] at through ⊢
    by_cases isLineFeed : point = CodePoint.ofChar '\n'
    · rw [if_pos isLineFeed] at through ⊢
      by_cases flushed : stream.flushReplies stream.flushes = .done ()
      · rw [flushed]
        exact .accepted accepts fun _ => flushed
      · rw [absorb_of_trouble through flushed]
        exact .unflushed accepts isLineFeed flushed
    · rw [if_neg isLineFeed]
      exact .accepted accepts fun impossible => absurd impossible isLineFeed
  · obtain ⟨failure, wrote⟩ := writeThrough_of_refuses absorbable accepts
    rw [wrote] at through ⊢
    rw [absorb_of_trouble through (fun impossible => nomatch impossible)]
    exact .refused accepts

/-- A terminal that met trouble writes no more. -/
theorem writeAll_broken
    (stream : TextStream)
    (codes : List Int) :
    ({ stream, broken := true } : Terminal).writeAll codes = { stream, broken := true } := by
  induction codes with
  | nil => rfl
  | cons code codes inductionHypothesis => exact inductionHypothesis

/-- The stream of a terminal keeps the first of the characters that are written. -/
theorem exists_keeps
    (absorbable : stream.Absorbable)
    (codes : List Word) :
    ∃ kept,
      stream.Keeps (codes.map fun code => CodePoint.ofNat code.toNat) kept ∧
        (({ stream } : Terminal).writeAll
          (codes.map fun code => (code.toNat : Int))).stream.latestFirst =
            kept.reverse ++ stream.latestFirst := by
  induction codes generalizing stream with
  | nil => exact ⟨[], .nothing stream, rfl⟩
  | cons code codes inductionHypothesis =>
      have ends := ends_write absorbable code
      rw [List.map_cons, List.map_cons, writeAll, List.foldl_cons, ← writeAll]
      generalize (({ stream } : Terminal).write code.toNat).2 = terminal at ends ⊢
      cases ends with
      | accepted accepts flushed =>
          obtain ⟨kept, keeps, latestFirst⟩ :=
            inductionHypothesis (TextStream.absorbable_advanced absorbable _)
          refine ⟨_, .accepted accepts flushed keeps, ?_⟩
          rw [latestFirst, List.reverse_cons, List.append_assoc]
          rfl
      | unflushed accepts isLineFeed fails =>
          refine ⟨_, .unflushed accepts isLineFeed fails, ?_⟩
          rw [writeAll_broken]
          rfl
      | refused refuses =>
          refine ⟨_, .refused refuses, ?_⟩
          rw [writeAll_broken]
          rfl

end

/-- A flush writes nothing. -/
theorem written_flush (terminal : Terminal) :
    terminal.flush.2.stream.written = terminal.stream.written := by
  unfold flush
  split
  · rfl
  · rw [stream_absorb]
    rfl

end Terminal
end WordMachine
