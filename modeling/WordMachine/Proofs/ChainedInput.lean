import Mathlib.Data.List.TakeWhile
import WordMachine.Proofs.Scripted
import WordMachine.Proofs.Tape

/-!
# Chained input

A chain of scripts and of texts that arrive in lines is as good as one script of all
these texts: `Machine.chained_eq_concatenated`.  Only the words differ in which the
end of the input is announced, and they are what `wordless` leaves out.
-/

namespace WordMachine

variable {World : Type}

/-! ## Leaving out words -/

/-- A reply without the words in which it announces the end of the input. -/
def Reply.wordless (reply : Reply Value) : Reply Value :=
  if reply.isEnd then .failed (.endOfInput "") else reply

/-- A call without the words in which it announces the end of the input. -/
def ChannelCall.wordless : ChannelCall -> ChannelCall
  | .read reply => .read reply.wordless
  | .write code reply => .write code reply

/-- A cause without the words in which the end of the input was announced. -/
def Cause.wordless : Cause -> Cause
  | .noInput _ => .noInput ""
  | cause => cause

/-- A condition without the words in which the end of the input was announced. -/
def Condition.wordless : Condition -> Condition
  | .faulted fault => .faulted { fault with cause := fault.cause.wordless }
  | condition => condition

/-- A machine without the words in which the end of the input was announced. -/
def Machine.wordless (machine : Machine) : Machine :=
  { machine with condition := machine.condition.wordless }

/-- A transition without the words in which the end of the input was announced. -/
def Transition.wordless (transition : Transition) : Transition where
  before := transition.before.wordless
  calls := transition.calls.map ChannelCall.wordless
  told := transition.told
  after := transition.after.wordless
  interrupted := transition.interrupted

namespace Machine

/-! ## Ends of tapes -/

/-- A machine that meets the end of the input faults and rests.  But for the words it is always the
same. -/
theorem wordless_end
    {failure : Failure}
    (ends : failure.isEndOfInput = true)
    (channels : Channels World)
    (machine : Machine)
    (target : Operand)
    (count : Nat)
    (world : World) :
    let after := (machine.receive target (.failed failure) ()).machine
    (machine.reading target (.failed failure) :: after.history channels count world).map
          Transition.wordless =
        { before := machine.wordless
          calls := [.read (.failed (.endOfInput ""))]
          told := []
          after := machine.fail (.noInput "")
          interrupted := none } ::
          List.replicate count (machine.fail (.noInput "")).resting ∧
      (after.afterSteps channels count world).2 = world := by
  intro after
  have cause : readCause failure = .noInput failure.text := if_pos ends
  have failed : after = machine.fail (.noInput failure.text) :=
    congrArg machine.fail cause
  have stopped : after.condition ≠ .running := by
    rw [failed]
    exact fun impossible => nomatch impossible
  have call : Reply.wordless (.failed failure) = .failed (.endOfInput "") := if_pos ends
  have first : (machine.reading target (.failed failure)).wordless =
      { before := machine.wordless
        calls := [.read (.failed (.endOfInput ""))]
        told := []
        after := machine.fail (.noInput "")
        interrupted := none } := by
    change Transition.mk machine.wordless [.read (Reply.wordless (.failed failure))] []
      after.wordless none = _
    rw [call, failed]
    rfl
  obtain ⟨rests, state⟩ := history_of_stopped stopped channels count world
  rw [rests, state, List.map_cons, List.map_replicate, first, failed]
  exact ⟨rfl, rfl⟩

/-- The words at the end of a tape make no other difference. -/
theorem wordless_taped
    {first second : Failure}
    (firstEnds : first.isEndOfInput = true)
    (secondEnds : second.isEndOfInput = true)
    (channels : Channels World)
    (count : Nat)
    (machine : Machine)
    (tape : List (Reply Value))
    (world : World) :
    (machine.history (channels.taped first) count (tape, world)).map Transition.wordless =
        (machine.history (channels.taped second) count (tape, world)).map Transition.wordless ∧
      (machine.afterSteps (channels.taped first) count (tape, world)).2 =
        (machine.afterSteps (channels.taped second) count (tape, world)).2 := by
  induction count generalizing machine tape world with
  | zero => exact ⟨rfl, rfl⟩
  | succ count inductionHypothesis =>
      rcases machine.asks_or_idle with ⟨target, asks⟩ | idle
      · obtain ⟨history, state⟩ := taped_of_asks channels first tape world count asks
        obtain ⟨otherHistory, otherState⟩ := taped_of_asks channels second tape world count asks
        rw [history, state, otherHistory, otherState]
        cases tape with
        | nil =>
            obtain ⟨ended, kept⟩ := wordless_end firstEnds (channels.taped first) machine target
              count ([], world)
            obtain ⟨otherEnded, otherKept⟩ := wordless_end secondEnds (channels.taped second)
              machine target count ([], world)
            exact ⟨ended.trans otherEnded.symm, kept.trans otherKept.symm⟩
        | cons reply tape =>
            obtain ⟨later, last⟩ := inductionHypothesis
              (machine.receive target reply ()).machine tape world
            exact ⟨congrArg (List.cons _) later, last⟩
      · obtain ⟨history, state⟩ := taped_of_idle channels first tape world count idle
        obtain ⟨otherHistory, otherState⟩ := taped_of_idle channels second tape world count idle
        rw [history, state, otherHistory, otherState]
        obtain ⟨later, last⟩ := inductionHypothesis (machine.step channels world).machine tape
          (machine.step channels world).world
        exact ⟨congrArg (List.cons _) later, last⟩

end Machine

/-! ## Texts as sources -/

/-- A text that is there to be read. -/
inductive Supply where
  /-- The whole text is known beforehand. -/
  | script (text : Text)
  /-- The text arrives in lines. -/
  | lines (text : Text)

namespace Supply

/-- The text. -/
def text : Supply -> Text
  | .script text | .lines text => text

/-- The text as a source. -/
def source : Supply -> Source
  | .script text => .script (.ofText text)
  | .lines text => .lines { feed := .ofText text }

theorem tape_source (supply : Supply) :
    supply.source.tape = supply.text.points.map CodePoint.reply := by
  cases supply with
  | script text => rfl
  | lines text =>
      have characters : ∀ line ∈ Text.splitLines text.points,
          Reply.characters (.done ⟨line⟩) = line.map CodePoint.reply := by
        intro line isLine
        cases line with
        | nil => exact absurd rfl (Text.ne_nil_of_mem_splitLines isLine)
        | cons point points => rfl
      change ((Text.splitLines text.points).map fun line => Reply.done ⟨line⟩).flatMap
        Reply.characters = _
      rw [List.flatMap_map, List.flatMap_congr characters, List.flatMap_def, ← List.map_flatten,
        Text.flatten_splitLines]
      rfl

theorem isSimple_source (supply : Supply) : supply.source.IsSimple := by
  cases supply <;> trivial

/-- Nothing in a text says that it ends. -/
theorem takeWhile_tape_source (supply : Supply) :
    supply.source.tape.takeWhile (!·.isEnd) = supply.text.points.map CodePoint.reply := by
  rw [tape_source, List.takeWhile_eq_self_iff]
  intro reply delivered
  obtain ⟨point, _, rfl⟩ := List.mem_map.mp delivered
  rfl

end Supply

namespace Desk

/-- A desk with a chain of sources, which comes after them. -/
def chained
    (parts : List Source)
    (sinks : Array Sink) : Desk where
  sources := (parts ++ [Source.chain (List.range parts.length)]).toArray
  sinks

section

variable
  (parts : List Source)
  (sinks : Array Sink)

theorem getElem?_chained
    {member : Nat}
    (bound : member < parts.length) :
    (chained parts sinks).sources[member]? = some parts[member] := by
  change (parts ++ [Source.chain (List.range parts.length)]).toArray[member]? = _
  rw [List.getElem?_toArray, List.getElem?_append_left bound, List.getElem?_eq_getElem bound]

theorem chainTape_chained :
    (chained parts sinks).chainTape (List.range parts.length) =
      parts.flatMap fun part => part.tape.takeWhile (!·.isEnd) := by
  have tapes : (List.range parts.length).map (chained parts sinks).tapeAt =
      parts.map Source.tape := by
    refine List.ext_getElem (by simp) fun member bound _ => ?_
    rw [List.length_map, List.length_range] at bound
    rw [List.getElem_map, List.getElem_map, List.getElem_range, tapeAt,
      getElem?_chained parts sinks bound]
    rfl
  have members := congrArg (List.flatMap (List.takeWhile (!·.isEnd))) tapes
  rwa [List.flatMap_map, List.flatMap_map] at members

variable {parts}

/-- A chain of simple sources delivers what they have in store before they end. -/
theorem delivers_chained (simple : ∀ part ∈ parts, part.IsSimple) :
    (chained parts sinks).Delivers parts.length Chain.exhausted
      (parts.flatMap fun part => part.tape.takeWhile (!·.isEnd)) := by
  rw [← chainTape_chained parts sinks]
  refine .chain ?_ List.nodup_range fun member isMember => ?_
  · change (parts ++ [Source.chain (List.range parts.length)]).toArray[parts.length]? = _
    rw [List.getElem?_toArray, List.getElem?_concat_length]
  · have bound := List.mem_range.mp isMember
    exact ⟨bound, parts[member], getElem?_chained parts sinks bound,
      simple _ (List.getElem_mem bound)⟩

end

theorem delivers_scripted
    (script : Script)
    (sinks : Array Sink) :
    (scripted script sinks).Delivers 0 Script.exhausted script.tape :=
  @Delivers.simple 0 (scripted script sinks) (.script script) rfl trivial

end Desk

namespace Machine

/-- Sources that deliver the same are the same to a machine, but for the words at the end. -/
theorem wordless_of_delivers
    {desk other : Desk}
    {input otherInput : Nat}
    {ending otherEnding : Failure}
    {tape : List (Reply Value)}
    (delivers : desk.Delivers input ending tape)
    (otherDelivers : other.Delivers otherInput otherEnding tape)
    (ends : ending.isEndOfInput = true)
    (otherEnds : otherEnding.isEndOfInput = true)
    (sameSinks : other.sinks = desk.sinks)
    (output : Option Nat)
    (steps : Nat)
    (machine : Machine) :
    let channels := Desk.channels (some input) output
    let others := Desk.channels (some otherInput) output
    (machine.history channels steps desk).map Transition.wordless =
        (machine.history others steps other).map Transition.wordless ∧
      (machine.afterSteps channels steps desk).2.sinks =
        (machine.afterSteps others steps other).2.sinks := by
  intro channels others
  obtain ⟨history, _, sinks⟩ := taped_of_delivers delivers rfl output machine steps
  obtain ⟨otherHistory, _, otherSinks⟩ :=
    taped_of_delivers otherDelivers sameSinks.symm output machine steps
  obtain ⟨transitions, worlds⟩ :=
    wordless_taped ends otherEnds (Desk.channels none output) steps machine tape desk
  rw [history, otherHistory, sinks, otherSinks, worlds]
  exact ⟨transitions, rfl⟩

/-- A machine that reads texts one after the other from a chain goes through what it goes through
when it reads them all from one script, and the same is written. -/
theorem chained_eq_concatenated
    (machine : Machine)
    (supplies : List Supply)
    (sinks : Array Sink)
    (output : Option Nat)
    (steps : Nat) :
    let chain := Desk.channels (some supplies.length) output
    let chained := Desk.chained (supplies.map Supply.source) sinks
    let script := Desk.channels (some 0) output
    let concatenated := Desk.scripted (.ofText (.join (supplies.map Supply.text))) sinks
    (machine.history chain steps chained).map Transition.wordless =
        (machine.history script steps concatenated).map Transition.wordless ∧
      (machine.afterSteps chain steps chained).2.sinks =
        (machine.afterSteps script steps concatenated).2.sinks := by
  have simple : ∀ part ∈ supplies.map Supply.source, part.IsSimple :=
    List.forall_mem_map.mpr fun supply _ => supply.isSimple_source
  have delivers := Desk.delivers_chained sinks simple
  have tape : ((supplies.map Supply.source).flatMap fun part =>
      part.tape.takeWhile (!·.isEnd)) =
        (Script.ofText (.join (supplies.map Supply.text))).tape := by
    rw [List.flatMap_map, List.flatMap_congr fun supply _ => supply.takeWhile_tape_source]
    change _ = ((supplies.map Supply.text).flatMap Text.points).map CodePoint.reply
    rw [List.flatMap_map, List.map_flatMap]
  rw [tape, List.length_map] at delivers
  exact wordless_of_delivers delivers (Desk.delivers_scripted _ sinks) rfl rfl rfl output steps
    machine

end Machine
end WordMachine
