import Mathlib.Data.List.Basic
import WordMachine.Channel.Desk
import WordMachine.Proofs.Lockstep
import WordMachine.Proofs.Reading
import WordMachine.Proofs.TerminalOutput

/-!
# Tapes

The tape of a source lists the replies that the source has in store.  A read takes the
first of them, and once there are none every read meets the end of input.  A chain has
in store what its members have before they end.  To a machine it makes no difference
whether it reads from a source or from the tape of it: `Desk.alike_taped`.
-/

namespace WordMachine

variable {World : Type}

/-! ## Tapes of single sources -/

/-- The reply that delivers a code point. -/
def CodePoint.reply (point : CodePoint) : Reply Value :=
  .done (.integer point.toNat)

/-- Nothing comes out of a code point but itself. -/
theorem CodePoint.disruption?_toNat (point : CodePoint) :
    (Value.integer point.toNat).disruption? = none := by
  have small := point.isSmall
  have enough := Text.Numeral.le_leastUnwritten
  rw [Value.disruption?_integer, if_neg (by omega)]

/-- Whether a reply says that there is no more input. -/
def Reply.isEnd : Reply Value -> Bool
  | .failed failure => failure.isEndOfInput
  | .done _ | .interrupted _ => false

/-- What a line comes to when it is read by characters. -/
def Reply.characters : Reply Text -> List (Reply Value)
  | .done ⟨[]⟩ => [.failed LineBuffer.ended]
  | .done ⟨point :: points⟩ => (point :: points).map CodePoint.reply
  | .failed failure => [.failed failure]
  | .interrupted words => [.interrupted words]

/-- The replies that a script has in store. -/
def Script.tape (script : Script) : List (Reply Value) :=
  script.pending.map CodePoint.reply

/-- The replies that a line buffer has in store. -/
def LineBuffer.tape (buffer : LineBuffer) : List (Reply Value) :=
  buffer.line.map CodePoint.reply ++ buffer.feed.outcomes.flatMap Reply.characters

/-- Whether nothing comes out of the values that a tape delivers. -/
def IsHarmless (tape : List (Reply Value)) : Prop :=
  ∀ value, .done value ∈ tape -> value.disruption? = none

/-- Harmless stretches of tape can be joined. -/
theorem isHarmless_append
    {tape other : List (Reply Value)}
    (harmless : IsHarmless tape)
    (otherHarmless : IsHarmless other) : IsHarmless (tape ++ other) :=
  fun value member => (List.mem_append.mp member).elim (harmless value) (otherHarmless value)

/-- Characters are harmless. -/
theorem isHarmless_map_reply (points : List CodePoint) :
    IsHarmless (points.map CodePoint.reply) := by
  intro value member
  obtain ⟨point, _, same⟩ := List.mem_map.mp member
  cases same
  exact point.disruption?_toNat

/-- Whatever reading a line comes to, the values in it are characters and do no harm. -/
theorem Reply.isHarmless_characters (outcome : Reply Text) : IsHarmless outcome.characters := by
  match outcome with
  | .done ⟨[]⟩ | .failed failure | .interrupted words =>
      intro value member
      cases List.mem_singleton.mp member
  | .done ⟨point :: points⟩ => exact isHarmless_map_reply (point :: points)

/-- A script delivers characters only. -/
theorem Script.isHarmless_tape (script : Script) : IsHarmless script.tape :=
  isHarmless_map_reply script.pending

/-- A line buffer delivers characters only. -/
theorem LineBuffer.isHarmless_tape (buffer : LineBuffer) : IsHarmless buffer.tape := by
  refine isHarmless_append (isHarmless_map_reply buffer.line) ?_
  intro value member
  obtain ⟨outcome, _, isCharacter⟩ := List.mem_flatMap.mp member
  exact outcome.isHarmless_characters value isCharacter

/-- So many replies from a tape: the first reply, and so many less from the rest. -/
theorem take_succ_append_ending
    {Item : Type}
    (ending : Item)
    (tape : List Item)
    (count : Nat) :
    (tape ++ List.replicate (count + 1) ending).take (count + 1) =
      tape.headD ending :: (tape.tail ++ List.replicate count ending).take count := by
  cases tape with
  | nil => simp [List.replicate_succ]
  | cons first rest =>
      have fits : count ≤ (rest ++ List.replicate count ending).length := by simp
      rw [List.replicate_succ', List.cons_append, List.take_succ_cons, ← List.append_assoc,
        List.take_append_of_le_length fits]
      rfl

/-- A read takes the first reply from the tape of a script. -/
theorem Script.read_eq (script : Script) :
    script.read = (script.tape.headD (.failed exhausted), ⟨script.pending.tail⟩) := by
  obtain ⟨pending⟩ := script
  cases pending <;> rfl

/-- A read takes the first reply from the tape of a line buffer. -/
theorem LineBuffer.read_spec (buffer : LineBuffer) :
    buffer.read.1 = buffer.tape.headD (.failed ended) ∧
      buffer.read.2.tape = buffer.tape.tail := by
  obtain ⟨⟨outcomes, calls⟩, line⟩ := buffer
  cases line with
  | cons point line => exact ⟨rfl, rfl⟩
  | nil =>
      cases outcomes with
      | nil => exact ⟨rfl, rfl⟩
      | cons outcome outcomes =>
          cases outcome with
          | done text =>
              obtain ⟨points⟩ := text
              cases points <;> exact ⟨rfl, rfl⟩
          | failed failure => exact ⟨rfl, rfl⟩
          | interrupted words => exact ⟨rfl, rfl⟩

namespace Source

/-- A source that is no chain. -/
def IsSimple : Source -> Prop
  | .chain _ => False
  | .vacant | .script _ | .lines _ | .replies _ => True

/-- The replies that a simple source has in store. -/
def tape : Source -> List (Reply Value)
  | .vacant | .chain _ => []
  | .script held => held.tape
  | .lines buffer => buffer.tape
  | .replies pending => pending

/-- What a source says when it has no replies in store. -/
def ending : Source -> Failure
  | .vacant => .endOfInput "no input port attached"
  | .script _ => Script.exhausted
  | .lines _ => LineBuffer.ended
  | .replies _ => .endOfInput "values exhausted"
  | .chain _ => Chain.exhausted

/-- Every source ends with an end of input. -/
theorem isEnd_ending (source : Source) :
    (Reply.failed source.ending : Reply Value).isEnd = true := by
  cases source <;> rfl

end Source

theorem Chain.read_cons
    {Member World : Type}
    (readMember : Member -> World -> Reply Value × World)
    (member : Member)
    (members : List Member)
    (world : World) :
    Chain.read readMember (member :: members) world =
      if (readMember member world).1.isEnd then
        Chain.read readMember members (readMember member world).2
      else
        ((readMember member world).1, member :: members, (readMember member world).2) := by
  rw [Chain.read]
  rcases readMember member world with ⟨reply, after⟩
  cases reply with
  | failed failure => rfl
  | done value => rfl
  | interrupted words => rfl

namespace Desk

/-! ## Sources on a desk -/

section

variable
  {desk : Desk}
  {number : Nat}
  {source : Source}

theorem putSource_self (placed : desk.sources[number]? = some source) :
    desk.putSource number source = desk := by
  obtain ⟨bound, rfl⟩ := Array.getElem?_eq_some_iff.mp placed
  rw [putSource, Array.setIfInBounds_def, dif_pos bound, Array.set_getElem_self]

theorem getElem?_putSource_self
    (placed : desk.sources[number]? = some source)
    (later : Source) : (desk.putSource number later).sources[number]? = some later := by
  obtain ⟨bound, _⟩ := Array.getElem?_eq_some_iff.mp placed
  exact Array.getElem?_setIfInBounds_self_of_lt bound

theorem getElem?_putSource_of_ne
    {other : Nat}
    (different : other ≠ number)
    (later : Source) :
    (desk.putSource number later).sources[other]? = desk.sources[other]? :=
  Array.getElem?_setIfInBounds_ne different.symm

/-- A read takes the first reply from the tape of a simple source. -/
theorem readWithin_simple
    (placed : desk.sources[number]? = some source)
    (simple : source.IsSimple)
    (depth : Nat) :
    ∃ later : Source,
      later.IsSimple ∧ later.ending = source.ending ∧ later.tape = source.tape.tail ∧
        readWithin (depth + 1) number desk =
          (source.tape.headD (.failed source.ending), desk.putSource number later) := by
  unfold readWithin
  rw [placed]
  cases source with
  | vacant =>
      refine ⟨.vacant, trivial, rfl, rfl, ?_⟩
      rw [putSource_self placed]
      rfl
  | script script =>
      refine ⟨.script ⟨script.pending.tail⟩, trivial, rfl, List.map_tail, ?_⟩
      dsimp only
      rw [Script.read_eq]
      rfl
  | lines buffer =>
      obtain ⟨reply, tape⟩ := buffer.read_spec
      refine ⟨.lines buffer.read.2, trivial, rfl, tape, ?_⟩
      dsimp only
      rw [reply]
      rfl
  | replies pending =>
      refine ⟨.replies pending.tail, trivial, rfl, rfl, ?_⟩
      cases pending with
      | nil =>
          rw [List.tail_nil, putSource_self placed]
          rfl
      | cons reply pending => rfl
  | chain members => exact simple.elim

end

/-! ## Chains on a desk -/

/-- There is a simple source at a place. -/
def HasSimple
    (desk : Desk)
    (number : Nat) : Prop :=
  ∃ source, desk.sources[number]? = some source ∧ source.IsSimple

/-- The replies that a place has in store. -/
def tapeAt
    (desk : Desk)
    (number : Nat) : List (Reply Value) :=
  (desk.sources[number]?.map Source.tape).getD []

/-- The replies that several places have in store, each before it ends. -/
def chainTape
    (desk : Desk)
    (members : List Nat) : List (Reply Value) :=
  members.flatMap fun member => (desk.tapeAt member).takeWhile (!·.isEnd)

/-- A read from simple sources that are chained takes the first reply from their tape. -/
structure ReadsChain
    (desk : Desk)
    (members : List Nat)
    (result : Reply Value × List Nat × Desk) : Prop where
  /-- The reply is the first one. -/
  reply_eq : result.1 = (desk.chainTape members).headD (.failed Chain.exhausted)
  /-- The others are left. -/
  tape_eq : result.2.2.chainTape result.2.1 = (desk.chainTape members).tail
  /-- The members that ended are dropped. -/
  suffix : result.2.1 <:+ members
  /-- All members are still simple. -/
  simple : ∀ member ∈ members, result.2.2.HasSimple member
  /-- Other sources are not touched. -/
  others : ∀ other, other ∉ members -> result.2.2.sources[other]? = desk.sources[other]?

/-- The tape of a chain depends on the sources of its members only. -/
theorem chainTape_congr
    {desk other : Desk}
    {members : List Nat}
    (same : ∀ member ∈ members, other.sources[member]? = desk.sources[member]?) :
    other.chainTape members = desk.chainTape members := by
  refine List.flatMap_congr fun member isMember => ?_
  rw [tapeAt, same member isMember, tapeAt]

/-- What is in store before the end begins with the reply to the next read, unless that is the
end. -/
theorem takeWhile_cases
    {ending : Reply Value}
    (ended : ending.isEnd = true)
    (tape : List (Reply Value)) :
    ((tape.headD ending).isEnd = true ∧ tape.takeWhile (!·.isEnd) = []) ∨
      ((tape.headD ending).isEnd = false ∧
        tape.takeWhile (!·.isEnd) = tape.headD ending :: tape.tail.takeWhile (!·.isEnd)) := by
  cases tape with
  | nil => exact Or.inl ⟨ended, rfl⟩
  | cons reply replies =>
      rw [List.headD_cons, List.tail_cons]
      cases last : reply.isEnd with
      | true => exact Or.inl ⟨rfl, List.takeWhile_cons_of_neg (by simp [last])⟩
      | false => exact Or.inr ⟨rfl, List.takeWhile_cons_of_pos (by simp [last])⟩

/-- A chain plays its first member up to its end, and then the others. -/
theorem chainTape_cons
    {desk : Desk}
    {member : Nat}
    {source : Source}
    (placed : desk.sources[member]? = some source)
    (members : List Nat) :
    desk.chainTape (member :: members) =
      source.tape.takeWhile (!·.isEnd) ++ desk.chainTape members := by
  rw [chainTape, List.flatMap_cons, tapeAt, placed]
  rfl

/-- Chained simple sources are read like their tape. -/
theorem reads_chain
    {depth : Nat}
    {members : List Nat}
    (desk : Desk)
    (distinct : members.Nodup)
    (simple : ∀ member ∈ members, member < depth ∧ desk.HasSimple member) :
    ReadsChain desk members (Chain.read (readWithin depth) members desk) := by
  induction members generalizing desk with
  | nil =>
      exact {
        reply_eq := rfl
        tape_eq := rfl
        suffix := List.suffix_refl []
        simple := fun member impossible => nomatch impossible
        others := fun other _ => rfl }
  | cons member members inductionHypothesis =>
      obtain ⟨fresh, distinct⟩ := List.nodup_cons.mp distinct
      obtain ⟨⟨deep, source, placed, isSimple⟩, simple⟩ := List.forall_mem_cons.mp simple
      obtain ⟨depth, rfl⟩ : ∃ less, depth = less + 1 := ⟨depth - 1, by omega⟩
      obtain ⟨later, laterSimple, _, laterTape, read⟩ := readWithin_simple placed isSimple depth
      have own := getElem?_putSource_self placed later
      -- The members differ, so that reading the first leaves the tapes of the others alone.
      have untouched : ∀ other ∈ members,
          (desk.putSource member later).sources[other]? = desk.sources[other]? :=
        fun other isMember => getElem?_putSource_of_ne (ne_of_mem_of_not_mem isMember fresh) later
      have sameRest := chainTape_congr untouched
      have simpleLater : ∀ other ∈ members,
          other < depth + 1 ∧ (desk.putSource member later).HasSimple other := by
        intro other isMember
        rw [HasSimple, untouched other isMember]
        exact simple other isMember
      rw [Chain.read_cons, read]
      rcases takeWhile_cases source.isEnd_ending source.tape with
        ⟨ended, nothing⟩ | ⟨goesOn, stored⟩
      · have reads := inductionHypothesis (desk.putSource member later) distinct simpleLater
        have tape : desk.chainTape (member :: members) =
            (desk.putSource member later).chainTape members := by
          rw [chainTape_cons placed, nothing, sameRest, List.nil_append]
        rw [if_pos ended]
        exact {
          reply_eq := tape ▸ reads.reply_eq
          tape_eq := tape ▸ reads.tape_eq
          suffix := reads.suffix.trans (List.suffix_cons member members)
          simple := by
            refine List.forall_mem_cons.mpr ⟨?_, reads.simple⟩
            rw [HasSimple, reads.others member fresh]
            exact ⟨later, own, laterSimple⟩
          others := by
            intro other outside
            rw [reads.others other (List.not_mem_of_not_mem_cons outside)]
            exact getElem?_putSource_of_ne (List.ne_of_not_mem_cons outside) later }
      · rw [if_neg (by rw [goesOn]; exact Bool.false_ne_true)]
        exact {
          reply_eq := by
            rw [chainTape_cons placed, stored]
            rfl
          tape_eq := by
            rw [chainTape_cons placed, stored, chainTape_cons own, laterTape, sameRest]
            rfl
          suffix := List.suffix_refl _
          simple := List.forall_mem_cons.mpr
            ⟨⟨later, own, laterSimple⟩, fun other isMember => (simpleLater other isMember).2⟩
          others := fun other outside =>
            getElem?_putSource_of_ne (List.ne_of_not_mem_cons outside) later }

/-! ## Reading from a desk -/

/-- A source delivers the replies of a tape, and then says that it has ended. -/
inductive Delivers
    (input : Nat)
    (desk : Desk) : Failure -> List (Reply Value) -> Prop where
  /-- A simple source delivers its tape. -/
  | simple {source : Source}
      (placed : desk.sources[input]? = some source)
      (isSimple : source.IsSimple) :
      Delivers input desk source.ending source.tape
  /-- A chain of simple sources delivers the tape of its members. -/
  | chain {members : List Nat}
      (placed : desk.sources[input]? = some (.chain members))
      (distinct : members.Nodup)
      (simple : ∀ member ∈ members, member < input ∧ desk.HasSimple member) :
      Delivers input desk Chain.exhausted (desk.chainTape members)

section

variable
  {input : Nat}
  {desk : Desk}
  {ending : Failure}
  {tape : List (Reply Value)}

/-- A read takes the first reply from what a source delivers. -/
theorem Delivers.read (delivers : desk.Delivers input ending tape) :
    (desk.read input).1 = tape.headD (.failed ending) ∧
      (desk.read input).2.Delivers input ending tape.tail := by
  cases delivers with
  | simple placed isSimple =>
      obtain ⟨later, laterSimple, laterEnding, laterTape, read⟩ :=
        readWithin_simple placed isSimple input
      rw [Desk.read, read, ← laterTape, ← laterEnding]
      exact ⟨rfl, .simple (getElem?_putSource_self placed later) laterSimple⟩
  | @chain members placed distinct simple =>
      have reads := reads_chain desk distinct simple
      unfold Desk.read readWithin
      rw [placed]
      dsimp only
      generalize Chain.read (readWithin input) members desk = result at reads ⊢
      obtain ⟨reply, left, after⟩ := result
      -- A chain comes after its members on the desk, so it is none of them.
      have notMember : input ∉ members := fun isMember =>
        Nat.lt_irrefl input (simple input isMember).1
      have stillPlaced := (reads.others input notMember).trans placed
      have untouched : ∀ member ∈ left,
          (after.putSource input (.chain left)).sources[member]? = after.sources[member]? := by
        intro member isLeft
        have below := (simple member (reads.suffix.subset isLeft)).1
        exact getElem?_putSource_of_ne (Nat.ne_of_lt below) _
      refine ⟨reads.reply_eq, ?_⟩
      rw [← reads.tape_eq, ← chainTape_congr untouched]
      have distinctLeft := distinct.sublist reads.suffix.sublist
      refine .chain (getElem?_putSource_self stillPlaced _) distinctLeft fun member isLeft => ?_
      have isMember := reads.suffix.subset isLeft
      rw [HasSimple, untouched member isLeft]
      exact ⟨(simple member isMember).1, reads.simple member isMember⟩

/-- What is delivered depends on the sources alone. -/
theorem Delivers.of_sources_eq
    {other : Desk}
    (delivers : desk.Delivers input ending tape)
    (same : other.sources = desk.sources) : other.Delivers input ending tape := by
  obtain ⟨sources, sinks⟩ := desk
  obtain ⟨_, otherSinks⟩ := other
  cases same
  cases delivers with
  | simple placed isSimple => exact .simple placed isSimple
  | chain placed distinct simple => exact .chain placed distinct simple

end

/-- Writing has nothing to do with the sources. -/
theorem write_of_sinks_eq
    {desk other : Desk}
    (same : other.sinks = desk.sinks)
    (output : Option Nat)
    (code : Int) :
    ((channels none output).write code other).1 = ((channels none output).write code desk).1 ∧
      ((channels none output).write code other).2.sinks =
        ((channels none output).write code desk).2.sinks ∧
      ((channels none output).write code other).2.sources = other.sources := by
  cases output with
  | none => exact ⟨rfl, same, rfl⟩
  | some number =>
      unfold channels Desk.write
      dsimp only
      rw [same]
      cases desk.sinks[number]? with
      | none => exact ⟨rfl, same, rfl⟩
      | some sink =>
          exact ⟨rfl, congrArg (·.setIfInBounds number (sink.write code).2) same, rfl⟩

end Desk

/-! ## Reading from a tape -/

/-- The channels in a world with a tape: reading takes the first reply from the tape, and once there
is none it fails.  Writing does what it did before. -/
def Channels.taped
    (channels : Channels World)
    (ending : Failure) : Channels (List (Reply Value) × World) where
  read := fun (tape, world) => (tape.headD (.failed ending), tape.tail, world)
  write := fun code (tape, world) =>
    let (receipt, world) := channels.write code world
    (receipt, tape, world)

namespace Desk

/-- A desk with a source that delivers a tape, beside the tape and a desk with the same sinks. -/
def PlaysTo
    (input : Nat)
    (ending : Failure)
    (desk : Desk)
    (taped : List (Reply Value) × Desk) : Prop :=
  desk.Delivers input ending taped.1 ∧ taped.2.sinks = desk.sinks

/-- A machine cannot tell a source from its tape. -/
theorem alike_taped
    (input : Nat)
    (output : Option Nat)
    (ending : Failure) :
    (channels (some input) output).Alike ((channels none output).taped ending)
      (PlaysTo input ending) where
  read := by
    rintro desk ⟨tape, other⟩ ⟨delivers, same⟩
    obtain ⟨reply, deliversRest⟩ := delivers.read
    exact ⟨reply, deliversRest, same.trans (sinks_read (some input) output desk).symm⟩
  write := by
    rintro code desk ⟨tape, other⟩ ⟨delivers, same⟩
    obtain ⟨receipt, sinks, _⟩ := write_of_sinks_eq same output code.toNat
    have sources : ((channels none output).write code.toNat desk).2.sources = desk.sources :=
      (write_of_sinks_eq rfl output code.toNat).2.2
    exact ⟨congrArg Receipt.reply receipt.symm, delivers.of_sources_eq sources, sinks⟩

theorem notices_taped
    (input : Nat)
    (output : Option Nat)
    (ending : Failure)
    (code : Word)
    (desk : Desk)
    (taped : List (Reply Value) × Desk)
    (playsTo : PlaysTo input ending desk taped) :
    ((channels (some input) output).write code.toNat desk).1.notices =
      (((channels none output).taped ending).write code.toNat taped).1.notices :=
  congrArg Receipt.notices (write_of_sinks_eq playsTo.2 output code.toNat).1.symm

end Desk

namespace Machine

section

variable
  {machine : Machine}
  {target : Operand}
  (channels : Channels World)
  (ending : Failure)
  (tape : List (Reply Value))
  (world : World)
  (count : Nat)

/-- A machine that does not read leaves the tape as it is. -/
theorem taped_of_idle (idle : ∀ target, ¬ machine.Asks target) :
    let outcome := machine.step channels world
    machine.history (channels.taped ending) (count + 1) (tape, world) =
        machine.transition channels world ::
          outcome.machine.history (channels.taped ending) count (tape, outcome.world) ∧
      machine.afterSteps (channels.taped ending) (count + 1) (tape, world) =
        outcome.machine.afterSteps (channels.taped ending) count (tape, outcome.world) := by
  intro outcome
  obtain ⟨outcomes, transition⟩ :=
    alike_of_idle (channels.taped ending) channels (fun taped world => taped = (tape, world))
      (fun code => ⟨rfl, rfl⟩) (rfl : (tape, world) = (tape, world)) idle
  rw [history, afterSteps, transition, outcomes.machine_eq, outcomes.world]
  exact ⟨rfl, rfl⟩

/-- A machine that reads takes the first reply from the tape. -/
theorem taped_of_asks (asks : machine.Asks target) :
    let reply := tape.headD (.failed ending)
    let after := (machine.receive target reply ()).machine
    machine.history (channels.taped ending) (count + 1) (tape, world) =
        machine.reading target reply ::
          after.history (channels.taped ending) count (tape.tail, world) ∧
      machine.afterSteps (channels.taped ending) (count + 1) (tape, world) =
        after.afterSteps (channels.taped ending) count (tape.tail, world) := by
  intro reply after
  have step := step_of_asks (channels.taped ending) (tape, world) asks
  have transition := transition_of_asks (channels.taped ending) (tape, world) asks
  obtain ⟨sameMachine, _, sameWorld⟩ :=
    receive_eq machine target reply (tape.tail, world) ()
  change _ = machine.receive target reply (tape.tail, world) at step
  rw [history, afterSteps, transition, step, sameMachine, sameWorld]
  exact ⟨rfl, rfl⟩

end

/-- A machine goes through the same with a source and with its tape. -/
theorem taped_of_delivers
    {input : Nat}
    {desk bench : Desk}
    {ending : Failure}
    {tape : List (Reply Value)}
    (delivers : desk.Delivers input ending tape)
    (sameSinks : bench.sinks = desk.sinks)
    (output : Option Nat)
    (machine : Machine)
    (count : Nat) :
    let channels := Desk.channels (some input) output
    let taped := (Desk.channels none output).taped ending
    machine.history channels count desk = machine.history taped count (tape, bench) ∧
      (machine.afterSteps channels count desk).1 =
        (machine.afterSteps taped count (tape, bench)).1 ∧
      (machine.afterSteps channels count desk).2.sinks =
        (machine.afterSteps taped count (tape, bench)).2.2.sinks := by
  intro channels taped
  have plays : Desk.PlaysTo input ending desk (tape, bench) := ⟨delivers, sameSinks⟩
  have alike := Desk.alike_taped input output ending
  obtain ⟨sameMachine, stillPlays⟩ := alike_afterSteps alike plays count machine
  exact ⟨history_eq_of_alike alike plays (Desk.notices_taped input output ending) count machine,
    sameMachine, stillPlays.2.symm⟩

end Machine
end WordMachine
