import Mathlib.Data.List.Basic
import WordMachine.Proofs.TerminalText

/-!
# The calls that a terminal makes

A terminal writes each character to its stream and flushes it after a line feed and
whenever it is told to, until one of these calls fails.  That one is told, and it is the
last: `Terminal.callAll_obeys`.  `TextStream.exchange` is what a stream comes to by calls
that are made one after the other until one of them fails.
-/

namespace WordMachine

/-! ## Calls of a stream -/

/-- A call of a text stream. -/
inductive StreamCall where
  /-- A code point is written. -/
  | write (point : CodePoint)
  /-- The stream is flushed. -/
  | flush
deriving DecidableEq, Repr

namespace StreamCall

/-- Makes the call. -/
def make : StreamCall -> TextStream -> Reply Unit × TextStream
  | .write point, stream => stream.write point
  | .flush, stream => stream.flush

/-- The code point that is written. -/
def point? : StreamCall -> Option CodePoint
  | .write point => some point
  | .flush => none

/-- Whether the stream is flushed. -/
def isFlush (call : StreamCall) : Bool :=
  call.point?.isNone

end StreamCall

/-- What comes of calls of a stream that are made one after the other, until one goes wrong. -/
structure Exchange where
  /-- The calls that succeeded, the earliest first. -/
  succeeded : List StreamCall
  /-- The call after them, and how it came back, if that one went wrong. -/
  stopped? : Option (StreamCall × Reply Unit)
  /-- The stream afterwards. -/
  stream : TextStream

namespace Exchange

/-- All calls that were made, the earliest first. -/
def made (exchange : Exchange) : List StreamCall :=
  exchange.succeeded ++ exchange.stopped?.toList.map Prod.fst

/-- How the calls come back as a whole. -/
def reply (exchange : Exchange) : Reply Unit :=
  match exchange.stopped? with
  | none => .done ()
  | some (_, reply) => reply

/-- Why a call went wrong, if one failed. -/
def failure? (exchange : Exchange) : Option Failure :=
  match exchange.reply with
  | .failed failure => some failure
  | .done _ | .interrupted _ => none

end Exchange

namespace TextStream

/-- Makes calls one after the other, until one goes wrong. -/
def exchange : List StreamCall -> TextStream -> Exchange
  | [], stream => { succeeded := [], stopped? := none, stream }
  | call :: calls, stream =>
      match call.make stream with
      | (.done _, stream) =>
          let rest := exchange calls stream
          { rest with succeeded := call :: rest.succeeded }
      | (reply, stream) => { succeeded := [], stopped? := some (call, reply), stream }

variable {stream : TextStream}

/-- A call that succeeds is followed by the others. -/
theorem exchange_cons_of_done
    {call : StreamCall}
    (succeeds : (call.make stream).1 = .done ())
    (calls : List StreamCall) :
    stream.exchange (call :: calls) =
      let rest := (call.make stream).2.exchange calls
      { rest with succeeded := call :: rest.succeeded } := by
  rw [exchange]
  generalize call.make stream = result at succeeds ⊢
  obtain ⟨reply, after⟩ := result
  cases succeeds
  rfl

/-- A call that goes wrong is the last to be made. -/
theorem exchange_cons_of_not_done
    {call : StreamCall}
    (goesWrong : (call.make stream).1 ≠ .done ())
    (calls : List StreamCall) :
    stream.exchange (call :: calls) =
      { succeeded := []
        stopped? := some (call, (call.make stream).1)
        stream := (call.make stream).2 } := by
  rw [exchange]
  generalize call.make stream = result at goesWrong ⊢
  obtain ⟨reply, after⟩ := result
  cases reply with
  | done value => exact absurd rfl goesWrong
  | failed failure => rfl
  | interrupted words => rfl

/-- Calls that all succeed are followed by those after them. -/
theorem exchange_append_of_none
    {calls : List StreamCall}
    (succeed : (stream.exchange calls).stopped? = none)
    (others : List StreamCall) :
    stream.exchange (calls ++ others) =
      let rest := (stream.exchange calls).stream.exchange others
      { rest with succeeded := calls ++ rest.succeeded } := by
  induction calls generalizing stream with
  | nil => rfl
  | cons call calls inductionHypothesis =>
      rw [List.cons_append]
      by_cases succeeds : (call.make stream).1 = .done ()
      · rw [exchange_cons_of_done succeeds] at succeed ⊢
        rw [exchange_cons_of_done succeeds, inductionHypothesis succeed]
        rfl
      · rw [exchange_cons_of_not_done succeeds] at succeed
        cases succeed

/-- After a call that went wrong no other is made. -/
theorem exchange_append_of_some
    {calls : List StreamCall}
    {stopped : StreamCall × Reply Unit}
    (goesWrong : (stream.exchange calls).stopped? = some stopped)
    (others : List StreamCall) :
    stream.exchange (calls ++ others) = stream.exchange calls := by
  induction calls generalizing stream with
  | nil => cases goesWrong
  | cons call calls inductionHypothesis =>
      rw [List.cons_append]
      by_cases succeeds : (call.make stream).1 = .done ()
      · rw [exchange_cons_of_done succeeds] at goesWrong ⊢
        rw [exchange_cons_of_done succeeds, inductionHypothesis goesWrong]
      · rw [exchange_cons_of_not_done succeeds, exchange_cons_of_not_done succeeds]

/-! ## What a stream shows of its calls -/

/-- A stream whose failures can be absorbed stays one, whichever call is made. -/
theorem Absorbable.make
    (absorbable : stream.Absorbable)
    (call : StreamCall) :
    (call.make stream).1.Absorbable ∧ (call.make stream).2.Absorbable := by
  cases call with
  | write point => exact absorbable.write point
  | flush => exact absorbable.flush

/-- A stream that was called has counted the call, and holds what was written. -/
structure Shows
    (stream : TextStream)
    (succeeded made : List StreamCall)
    (after : TextStream) : Prop where
  /-- The writes are counted. -/
  writes_eq : after.writes = stream.writes + made.countP (!·.isFlush)
  /-- The flushes are counted. -/
  flushes_eq : after.flushes = stream.flushes + made.countP (·.isFlush)
  /-- The code points are added whose writes succeeded. -/
  points_eq : after.written.points = stream.written.points ++ succeeded.filterMap StreamCall.point?

/-- One call changes the stream's record by that call, and its text only if it succeeds. -/
theorem shows_make
    (absorbable : stream.Absorbable)
    (call : StreamCall) :
    stream.Shows (if (call.make stream).1 = .done () then [call] else []) [call]
      (call.make stream).2 := by
  cases call with
  | write point =>
      rw [StreamCall.make]
      by_cases accepts : stream.Accepts point
      · rw [write_of_accepts accepts, if_pos rfl]
        exact ⟨rfl, rfl, List.reverse_cons⟩
      · obtain ⟨failure, refused⟩ := write_of_refuses absorbable accepts
        rw [refused, if_neg (fun impossible => nomatch impossible)]
        exact ⟨rfl, rfl, (List.append_nil _).symm⟩
  | flush =>
      refine ⟨rfl, rfl, ?_⟩
      split <;> exact (List.append_nil _).symm

/-- What a stream shows adds up over consecutive calls. -/
theorem Shows.trans
    {middle after : TextStream}
    {succeeded laterSucceeded made laterMade : List StreamCall}
    (shown : stream.Shows succeeded made middle)
    (later : middle.Shows laterSucceeded laterMade after) :
    stream.Shows (succeeded ++ laterSucceeded) (made ++ laterMade) after where
  writes_eq := by
    rw [later.writes_eq, shown.writes_eq, List.countP_append, Nat.add_assoc]
  flushes_eq := by
    rw [later.flushes_eq, shown.flushes_eq, List.countP_append, Nat.add_assoc]
  points_eq := by
    rw [later.points_eq, shown.points_eq, List.filterMap_append, List.append_assoc]

/-- After an exchange the stream shows the calls made and the text of those that succeeded. -/
theorem shows_exchange
    (absorbable : stream.Absorbable)
    (calls : List StreamCall) :
    stream.Shows (stream.exchange calls).succeeded (stream.exchange calls).made
      (stream.exchange calls).stream := by
  induction calls generalizing stream with
  | nil => exact ⟨rfl, rfl, (List.append_nil _).symm⟩
  | cons call calls inductionHypothesis =>
      have first := shows_make absorbable call
      by_cases succeeds : (call.make stream).1 = .done ()
      · rw [if_pos succeeds] at first
        rw [exchange_cons_of_done succeeds]
        exact first.trans (inductionHypothesis (absorbable.make call).2)
      · rw [if_neg succeeds] at first
        rw [exchange_cons_of_not_done succeeds]
        exact first

/-- The calls that are made are the first of those that are wanted: all of them, or those up to the
first one that fails. -/
inductive Stops (calls : List StreamCall) (exchange : Exchange) : Prop where
  /-- All calls are made, and succeed. -/
  | never
      (succeeded_eq : exchange.succeeded = calls)
      (stopped_eq : exchange.stopped? = none)
  /-- A call fails. -/
  | failed {call : StreamCall} {failure : Failure} {others : List StreamCall}
      (calls_eq : calls = exchange.succeeded ++ call :: others)
      (stopped_eq : exchange.stopped? = some (call, .failed failure))
      (trouble : failure.isStreamTrouble = true)

/-- The calls that succeed come first. -/
theorem Stops.isPrefix
    {calls : List StreamCall}
    {exchange : Exchange}
    (stops : Stops calls exchange) : exchange.succeeded <+: calls := by
  cases stops with
  | never succeeded_eq stopped_eq => exact succeeded_eq ▸ List.prefix_refl _
  | failed calls_eq stopped_eq trouble => exact calls_eq ▸ List.prefix_append _ _

/-- An exchange stops at the first failure, and nowhere else. -/
theorem stops_exchange
    (absorbable : stream.Absorbable)
    (calls : List StreamCall) : Stops calls (stream.exchange calls) := by
  induction calls generalizing stream with
  | nil => exact .never rfl rfl
  | cons call calls inductionHypothesis =>
      obtain ⟨reply, stillAbsorbable⟩ := absorbable.make call
      by_cases succeeds : (call.make stream).1 = .done ()
      · rw [exchange_cons_of_done succeeds]
        cases inductionHypothesis stillAbsorbable with
        | never succeeded_eq stopped_eq =>
            exact .never (congrArg (call :: ·) succeeded_eq) stopped_eq
        | failed calls_eq stopped_eq trouble =>
            exact .failed (congrArg (call :: ·) calls_eq) stopped_eq trouble
      · rw [exchange_cons_of_not_done succeeds]
        cases came : (call.make stream).1 with
        | done value => exact absurd came succeeds
        | failed failure =>
            rw [came] at reply
            exact .failed rfl rfl reply
        | interrupted words =>
            rw [came] at reply
            exact reply.elim

/-- No exchange makes a stream fail in a way that could not be absorbed. -/
theorem absorbable_exchange
    (absorbable : stream.Absorbable)
    (calls : List StreamCall) : (stream.exchange calls).stream.Absorbable := by
  induction calls generalizing stream with
  | nil => exact absorbable
  | cons call calls inductionHypothesis =>
      obtain ⟨_, stillAbsorbable⟩ := absorbable.make call
      by_cases succeeds : (call.make stream).1 = .done ()
      · rw [exchange_cons_of_done succeeds]
        exact inductionHypothesis stillAbsorbable
      · rw [exchange_cons_of_not_done succeeds]
        exact stillAbsorbable

end TextStream

/-! ## Calls of a terminal -/

/-- A call of a terminal. -/
inductive TerminalCall where
  /-- A character is written. -/
  | write (point : CodePoint)
  /-- The terminal is flushed. -/
  | flush
deriving DecidableEq, Repr

namespace TerminalCall

/-- The code point that is written. -/
def point? : TerminalCall -> Option CodePoint
  | .write point => some point
  | .flush => none

/-- The calls of the stream that are wanted: a line feed is followed by a flush. -/
def streamCalls : TerminalCall -> List StreamCall
  | .write point =>
      .write point :: if point = CodePoint.ofChar '\n' then [.flush] else []
  | .flush => [.flush]

/-- What a terminal tells about a call that fails. -/
def tell : TerminalCall -> Failure -> Notice
  | .write _ => .outputFailed
  | .flush => .flushFailed

theorem filterMap_streamCalls (calls : List TerminalCall) :
    (calls.flatMap streamCalls).filterMap StreamCall.point? = calls.filterMap point? := by
  rw [List.filterMap_flatMap, List.filterMap_eq_flatMap_toList]
  refine List.flatMap_congr fun call _ => ?_
  cases call with
  | write point =>
      rw [streamCalls]
      split <;> rfl
  | flush => rfl

end TerminalCall

namespace Terminal

/-- Makes a call of the terminal. -/
def call (terminal : Terminal) : TerminalCall -> Receipt × Terminal
  | .write point => terminal.write point.toNat
  | .flush => terminal.flush

/-- Makes several calls of the terminal. -/
def callAll : List TerminalCall -> Terminal -> List Receipt × Terminal
  | [], terminal => ([], terminal)
  | call :: calls, terminal =>
      let (receipt, terminal) := terminal.call call
      let (receipts, terminal) := callAll calls terminal
      (receipt :: receipts, terminal)

theorem callAll_cons
    (call : TerminalCall)
    (calls : List TerminalCall)
    (terminal : Terminal) :
    callAll (call :: calls) terminal =
      ((terminal.call call).1 :: (callAll calls (terminal.call call).2).1,
        (callAll calls (terminal.call call).2).2) :=
  rfl

section

variable {stream : TextStream}

/-- A single call is an exchange of one call. -/
theorem make_eq_exchange
    (stream : TextStream)
    (call : StreamCall) :
    call.make stream = ((stream.exchange [call]).reply, (stream.exchange [call]).stream) := by
  by_cases succeeds : (call.make stream).1 = .done ()
  · rw [TextStream.exchange_cons_of_done succeeds]
    exact Prod.ext succeeds rfl
  · rw [TextStream.exchange_cons_of_not_done succeeds]
    rfl

/-- A terminal writes through by the calls that are wanted. -/
theorem writeThrough_eq_exchange
    (stream : TextStream)
    (point : CodePoint) :
    writeThrough stream point =
      let exchange := stream.exchange (TerminalCall.write point).streamCalls
      (exchange.reply, exchange.stream) := by
  rw [writeThrough, TerminalCall.streamCalls]
  by_cases succeeds : ((StreamCall.write point).make stream).1 = .done ()
  · rw [TextStream.exchange_cons_of_done succeeds]
    rw [StreamCall.make] at succeeds ⊢
    generalize stream.write point = written at succeeds ⊢
    obtain ⟨reply, after⟩ := written
    cases succeeds
    by_cases isLineFeed : point = CodePoint.ofChar '\n'
    · rw [if_pos isLineFeed]
      dsimp only
      rw [if_pos isLineFeed]
      exact make_eq_exchange after .flush
    · rw [if_neg isLineFeed]
      dsimp only
      rw [if_neg isLineFeed]
      rfl
  · rw [TextStream.exchange_cons_of_not_done succeeds]
    rw [StreamCall.make] at succeeds ⊢
    generalize stream.write point = written at succeeds ⊢
    obtain ⟨reply, after⟩ := written
    cases reply with
    | done value => exact absurd rfl succeeds
    | failed failure => rfl
    | interrupted words => rfl

/-- A call of a terminal in working order makes the calls that are wanted, and tells the failure
that it meets. -/
theorem call_eq
    (absorbable : stream.Absorbable)
    (call : TerminalCall) :
    ({ stream } : Terminal).call call =
      let exchange := stream.exchange call.streamCalls
      ({ reply := .done (), notices := (exchange.failure?.map call.tell).toList },
        { stream := exchange.stream, broken := exchange.stopped?.isSome }) := by
  have absorbed : ({ stream } : Terminal).call call =
      absorb call.tell ((stream.exchange call.streamCalls).reply,
        (stream.exchange call.streamCalls).stream) := by
    cases call with
    | write point =>
        rw [Terminal.call, write, if_neg Bool.false_ne_true, codePoint_toNat]
        exact congrArg (absorb Notice.outputFailed) (writeThrough_eq_exchange stream point)
    | flush =>
        rw [Terminal.call, flush, if_neg Bool.false_ne_true]
        exact congrArg (absorb Notice.flushFailed) (make_eq_exchange stream .flush)
  rw [absorbed]
  dsimp only
  rw [Exchange.failure?, Exchange.reply]
  cases TextStream.stops_exchange absorbable call.streamCalls with
  | never succeeded_eq stopped_eq =>
      rw [stopped_eq]
      rfl
  | failed calls_eq stopped_eq trouble =>
      rw [stopped_eq, absorb]
      dsimp only
      rw [if_pos trouble]
      rfl

/-- A terminal that met trouble makes no calls any more. -/
theorem callAll_of_broken
    {terminal : Terminal}
    (broken : terminal.broken = true)
    (calls : List TerminalCall) :
    terminal.callAll calls = (calls.map fun _ => { reply := .done () }, terminal) := by
  induction calls with
  | nil => rfl
  | cons call calls inductionHypothesis =>
      have unheard : terminal.call call = ({ reply := .done () }, terminal) := by
        cases call with
        | write point => exact if_pos broken
        | flush => exact if_pos broken
      rw [callAll_cons, unheard, inductionHypothesis]
      rfl

/-- What a terminal tells about an exchange: one error if a call failed, and nothing else. -/
def Tells
    (exchange : Exchange)
    (notices : List Notice) : Prop :=
  match exchange.failure? with
  | none => notices = []
  | some failure =>
      ∃ notice, notices = [notice] ∧ notice.level = .error ∧ notice.origin = .channel ∧
        (notice = .outputFailed failure ∨ notice = .flushFailed failure)

/-- A terminal tells of one exchange at most once, namely if it fails. -/
theorem tells_single
    (call : TerminalCall)
    (exchange : Exchange) : Tells exchange (exchange.failure?.map call.tell).toList := by
  unfold Tells
  cases exchange.failure? with
  | none => rfl
  | some failure =>
      cases call with
      | write point => exact ⟨.outputFailed failure, rfl, rfl, rfl, Or.inl rfl⟩
      | flush => exact ⟨.flushFailed failure, rfl, rfl, rfl, Or.inr rfl⟩

/-- What calls of a terminal come to, if the stream goes through an exchange. -/
structure Absorbs
    (exchange : Exchange)
    (receipts : List Receipt)
    (after : Terminal) : Prop where
  /-- All calls succeed. -/
  replies_eq : ∀ receipt ∈ receipts, receipt.reply = .done ()
  /-- The stream is the one after the exchange. -/
  stream_eq : after.stream = exchange.stream
  /-- After a failure the terminal is broken. -/
  broken_eq : after.broken = exchange.stopped?.isSome
  /-- A failure is told once. -/
  tells : Tells exchange (receipts.flatMap Receipt.notices)

/-- A terminal whose stream has not failed makes the exchange for all its calls and absorbs its
failure. -/
theorem absorbs_callAll
    (absorbable : stream.Absorbable)
    (calls : List TerminalCall) :
    Absorbs (stream.exchange (calls.flatMap TerminalCall.streamCalls))
      (({ stream } : Terminal).callAll calls).1 (({ stream } : Terminal).callAll calls).2 := by
  induction calls generalizing stream with
  | nil => exact ⟨fun receipt impossible => (nomatch impossible), rfl, rfl, rfl⟩
  | cons call calls inductionHypothesis =>
      have later := inductionHypothesis
        (TextStream.absorbable_exchange absorbable call.streamCalls)
      rw [List.flatMap_cons, callAll_cons, call_eq absorbable]
      dsimp only
      cases TextStream.stops_exchange absorbable call.streamCalls with
      | never succeeded_eq stopped_eq =>
          rw [TextStream.exchange_append_of_none stopped_eq, Exchange.failure?, Exchange.reply,
            stopped_eq]
          exact {
            replies_eq := List.forall_mem_cons.mpr ⟨rfl, later.replies_eq⟩
            stream_eq := later.stream_eq
            broken_eq := later.broken_eq
            tells := later.tells }
      | failed calls_eq stopped_eq trouble =>
          have broken : (stream.exchange call.streamCalls).stopped?.isSome = true := by
            rw [stopped_eq]
            rfl
          have silent : (calls.map fun _ => ({ reply := .done () } : Receipt)).flatMap
              Receipt.notices = [] := by
            rw [List.flatMap_map]
            exact List.flatMap_eq_nil_iff.mpr fun _ _ => rfl
          -- A broken terminal makes no further call and tells nothing more.
          rw [TextStream.exchange_append_of_some stopped_eq, callAll_of_broken broken]
          exact {
            replies_eq := List.forall_mem_cons.mpr
              ⟨rfl, List.forall_mem_map.mpr fun _ _ => rfl⟩
            stream_eq := rfl
            broken_eq := rfl
            tells := by
              rw [List.flatMap_cons, silent, List.append_nil]
              exact tells_single call _ }

end

/-- What calls of a terminal on a stream come to, if they are to reach the stream by an
exchange. -/
structure Obeys
    (stream : TextStream)
    (calls : List TerminalCall)
    (exchange : Exchange)
    (receipts : List Receipt)
    (after : Terminal) : Prop where
  /-- The stream is the one after the exchange, and a failure is absorbed and told. -/
  absorbs : Absorbs exchange receipts after
  /-- The exchange consists of the wanted calls, up to the first one that fails. -/
  stops : TextStream.Stops (calls.flatMap TerminalCall.streamCalls) exchange
  /-- The stream has counted its calls and holds what was written. -/
  shown : stream.Shows exchange.succeeded exchange.made after.stream
  /-- What was written is the first part of what was to be written. -/
  isPrefix :
    exchange.succeeded.filterMap StreamCall.point? <+: calls.filterMap TerminalCall.point?
  /-- After a failure the stream is left alone. -/
  silent : exchange.stopped?.isSome = true -> ∀ later, (after.callAll later).2 = after

/-- A terminal writes every character to its stream, in order, flushes it after each line feed and
whenever it is told to, up to the first of these calls that fails, in whatever pattern they do.
That one is the last, and it is told once, as an error, while all calls of the terminal succeed. -/
theorem callAll_obeys
    (stream : TextStream)
    (absorbable : stream.Absorbable)
    (calls : List TerminalCall) :
    let exchange := stream.exchange (calls.flatMap TerminalCall.streamCalls)
    let (receipts, after) := ({ stream } : Terminal).callAll calls
    Obeys stream calls exchange receipts after := by
  intro exchange
  have absorbs := absorbs_callAll absorbable calls
  have stops := TextStream.stops_exchange absorbable (calls.flatMap TerminalCall.streamCalls)
  have shown := TextStream.shows_exchange absorbable (calls.flatMap TerminalCall.streamCalls)
  exact {
    absorbs
    stops
    shown := absorbs.stream_eq ▸ shown
    isPrefix := TerminalCall.filterMap_streamCalls calls ▸ stops.isPrefix.filterMap _
    silent := by
      intro stopped later
      rw [callAll_of_broken (absorbs.broken_eq.trans stopped)] }

/-- A stream whose first flush fails. -/
def unflushable : TextStream where
  flushReplies := CallReplies.succeed.setAt 0 (.failed { kind := .operatingSystem })

theorem absorbable_unflushable : unflushable.Absorbable where
  writes := fun _ => trivial
  flushes := by
    intro call
    unfold unflushable CallReplies.setAt
    dsimp only
    split
    · rfl
    · trivial

/-- A line feed that is written to the stream is kept, but what follows is lost. -/
theorem callAll_obeys_unflushable :
    unflushable.Absorbable ∧
      let calls : List TerminalCall := [.write 'a', .write '\n', .write 'b', .flush]
      let exchange := unflushable.exchange (calls.flatMap TerminalCall.streamCalls)
      let (receipts, after) := ({ stream := unflushable } : Terminal).callAll calls
      Obeys unflushable calls exchange receipts after ∧
        exchange.made = [.write 'a', .write '\n', .flush] ∧
        after.stream.written = "a\n" ∧
        receipts.flatMap Receipt.notices = [.outputFailed { kind := .operatingSystem }] :=
  ⟨absorbable_unflushable, callAll_obeys unflushable absorbable_unflushable _, by decide,
    by decide, by decide⟩

end Terminal
end WordMachine
