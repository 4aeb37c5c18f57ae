import WordMachine.Channel.Desk
import WordMachine.Proofs.FaultKinds
import WordMachine.Proofs.Lockstep

/-!
# Output to a terminal

A terminal absorbs the trouble that it has with its stream, and its machine is none
the wiser: `Machine.terminal_unnoticed` compares a machine that writes to a terminal
with the same one when its output is discarded.  The codes that a machine writes are
words, so that each of them is a code point and only the stream can refuse it.
-/

namespace WordMachine

/-! ## Streams -/

/-- A terminal absorbs how the call came back. -/
def Reply.Absorbable : Reply Unit -> Prop
  | .done _ => True
  | .failed failure => failure.isStreamTrouble = true
  | .interrupted _ => False

/-- A terminal absorbs all that the calls of the stream come back with, in whatever pattern they
fail. -/
structure TextStream.Absorbable (stream : TextStream) : Prop where
  /-- Writes succeed or fail as those of a stream do. -/
  writes : ∀ call, (stream.writeReplies call).Absorbable
  /-- Flushes succeed or fail as those of a stream do. -/
  flushes : ∀ call, (stream.flushReplies call).Absorbable

/-- A character that an encoding refuses is trouble of the stream, which the terminal absorbs. -/
theorem Encoding.isStreamTrouble_of_refusal
    {encoding : Encoding}
    {point : CodePoint}
    {failure : Failure}
    (refused : encoding.refusal? point = some failure) : failure.isStreamTrouble = true := by
  cases encoding with
  | unrestricted => cases refused
  | utf8 =>
      obtain ⟨_, rfl⟩ := Option.ite_some_none_eq_some.mp refused
      rfl
  | ascii =>
      obtain ⟨_, rfl⟩ := Option.ite_some_none_eq_some.mp refused
      rfl

namespace TextStream

variable {stream : TextStream}

/-- Writing to a stream whose failures can be absorbed leaves it one. -/
theorem Absorbable.write
    (absorbable : stream.Absorbable)
    (point : CodePoint) :
    (stream.write point).1.Absorbable ∧ (stream.write point).2.Absorbable := by
  have write := absorbable.writes stream.writes
  unfold TextStream.write
  dsimp only
  cases replied : stream.writeReplies stream.writes with
  | done value =>
      dsimp only
      cases refused : stream.encoding.refusal? point with
      | none => exact ⟨trivial, absorbable.writes, absorbable.flushes⟩
      | some failure =>
          exact ⟨Encoding.isStreamTrouble_of_refusal refused, absorbable.writes,
            absorbable.flushes⟩
  | failed failure =>
      rw [replied] at write
      exact ⟨write, absorbable.writes, absorbable.flushes⟩
  | interrupted words =>
      rw [replied] at write
      exact write.elim

/-- Flushing a stream whose failures can be absorbed leaves it one. -/
theorem Absorbable.flush (absorbable : stream.Absorbable) :
    stream.flush.1.Absorbable ∧ stream.flush.2.Absorbable :=
  ⟨absorbable.flushes stream.flushes, absorbable.writes, absorbable.flushes⟩

end TextStream

/-! ## Terminals -/

namespace Terminal

/-- A character that is written and flushed at once fails in no other way than by the stream. -/
theorem absorbable_writeThrough
    {stream : TextStream}
    (absorbable : stream.Absorbable)
    (point : CodePoint) :
    (writeThrough stream point).1.Absorbable ∧ (writeThrough stream point).2.Absorbable := by
  have write := absorbable.write point
  unfold writeThrough
  generalize stream.write point = written at write ⊢
  obtain ⟨reply, after⟩ := written
  cases reply with
  | done value =>
      dsimp only
      split
      · exact write.2.flush
      · exact ⟨trivial, write.2⟩
  | failed failure => exact write
  | interrupted words => exact write

theorem stream_absorb
    (tell : Failure -> Notice)
    (result : Reply Unit × TextStream) : (absorb tell result).2.stream = result.2 := by
  obtain ⟨reply, stream⟩ := result
  cases reply with
  | done value => rfl
  | failed failure =>
      unfold absorb
      dsimp only
      split <;> rfl
  | interrupted words => rfl

/-- After an absorbed failure the call returns as if it had succeeded. -/
theorem reply_absorb
    (tell : Failure -> Notice)
    {result : Reply Unit × TextStream}
    (absorbable : result.1.Absorbable) : (absorb tell result).1.reply = .done () := by
  obtain ⟨reply, stream⟩ := result
  cases reply with
  | done value => rfl
  | failed failure =>
      have trouble : failure.isStreamTrouble = true := absorbable
      unfold absorb
      dsimp only
      rw [if_pos trouble]
  | interrupted words => exact absorbable.elim

/-- A machine's write to a terminal succeeds, whatever trouble the stream makes. -/
theorem write_word
    {terminal : Terminal}
    (absorbable : terminal.stream.Absorbable)
    (code : Word) :
    (terminal.write code.toNat).1.reply = .done () ∧
      (terminal.write code.toNat).2.stream.Absorbable := by
  unfold write
  split
  · exact ⟨rfl, absorbable⟩
  · rw [codePoint_word]
    obtain ⟨reply, after⟩ := absorbable_writeThrough absorbable (CodePoint.ofNat code.toNat)
    refine ⟨reply_absorb .outputFailed reply, ?_⟩
    rwa [stream_absorb]

end Terminal

/-! ## Desks -/

/-- If each member reads the same under another name and in a related world, and leaves related
worlds, so does a chain. -/
theorem Chain.read_related
    {Member Other World OtherWorld : Type}
    {readMember : Member -> World -> Reply Value × World}
    {readOther : Other -> OtherWorld -> Reply Value × OtherWorld}
    {rename : Other -> Member}
    {Related : World -> OtherWorld -> Prop}
    {members : List Other}
    (related : ∀ member ∈ members, ∀ world other, Related world other ->
      (readMember (rename member) world).1 = (readOther member other).1 ∧
        Related (readMember (rename member) world).2 (readOther member other).2)
    {world : World}
    {other : OtherWorld}
    (start : Related world other) :
    (Chain.read readMember (members.map rename) world).1 =
        (Chain.read readOther members other).1 ∧
      (Chain.read readMember (members.map rename) world).2.1 =
          (Chain.read readOther members other).2.1.map rename ∧
        Related (Chain.read readMember (members.map rename) world).2.2
          (Chain.read readOther members other).2.2 := by
  induction members generalizing world other with
  | nil => exact ⟨rfl, rfl, start⟩
  | cons member members inductionHypothesis =>
      obtain ⟨first, others⟩ := List.forall_mem_cons.mp related
      obtain ⟨sameReply, later⟩ := first world other start
      rw [List.map_cons]
      unfold Chain.read
      generalize readMember (rename member) world = result at sameReply later ⊢
      generalize readOther member other = otherResult at sameReply later ⊢
      obtain ⟨reply, after⟩ := result
      obtain ⟨_, otherAfter⟩ := otherResult
      obtain rfl : reply = _ := sameReply
      cases reply with
      | failed failure =>
          dsimp only
          split
          · exact inductionHypothesis others later
          · exact ⟨rfl, rfl, later⟩
      | done value => exact ⟨rfl, rfl, later⟩
      | interrupted words => exact ⟨rfl, rfl, later⟩

/-- If each member reads the same in related worlds, and leaves related worlds, so does a chain. -/
theorem Chain.read_alike
    {Member World OtherWorld : Type}
    {readMember : Member -> World -> Reply Value × World}
    {readOther : Member -> OtherWorld -> Reply Value × OtherWorld}
    {Related : World -> OtherWorld -> Prop}
    {members : List Member}
    (related : ∀ member ∈ members, ∀ world other, Related world other ->
      (readMember member world).1 = (readOther member other).1 ∧
        Related (readMember member world).2 (readOther member other).2)
    {world : World}
    {other : OtherWorld}
    (start : Related world other) :
    (Chain.read readMember members world).1 = (Chain.read readOther members other).1 ∧
      (Chain.read readMember members world).2.1 = (Chain.read readOther members other).2.1 ∧
        Related (Chain.read readMember members world).2.2
          (Chain.read readOther members other).2.2 := by
  have renamed := Chain.read_related related start
  rwa [List.map_id', List.map_id'] at renamed

/-- If each member reads the same and leaves a changed world in the same way, so does a chain. -/
theorem Chain.read_of_commutes
    {Member World : Type}
    {readMember : Member -> World -> Reply Value × World}
    {change : World -> World}
    (commutes : ∀ member world, readMember member (change world) =
      ((readMember member world).1, change (readMember member world).2))
    (members : List Member)
    (world : World) :
    Chain.read readMember members (change world) =
      ((Chain.read readMember members world).1, (Chain.read readMember members world).2.1,
        change (Chain.read readMember members world).2.2) := by
  have related : ∀ member ∈ members, ∀ changed world, changed = change world ->
      (readMember member changed).1 = (readMember member world).1 ∧
        (readMember member changed).2 = change (readMember member world).2 := by
    rintro member _ _ world rfl
    rw [commutes]
    exact ⟨rfl, rfl⟩
  obtain ⟨reply, left, after⟩ := Chain.read_alike related rfl
  exact Prod.ext reply (Prod.ext left after)

namespace Desk

/-- The desk with other sinks. -/
def withSinks
    (sinks : Array Sink)
    (desk : Desk) : Desk :=
  { desk with sinks }

/-- Reading has nothing to do with the sinks. -/
theorem readWithin_withSinks
    (sinks : Array Sink)
    (depth number : Nat)
    (desk : Desk) :
    readWithin depth number (desk.withSinks sinks) =
      ((readWithin depth number desk).1, (readWithin depth number desk).2.withSinks sinks) := by
  induction depth generalizing number desk with
  | zero => rfl
  | succ depth inductionHypothesis =>
      have sources : (desk.withSinks sinks).sources = desk.sources := rfl
      unfold readWithin
      rw [sources]
      cases desk.sources[number]? with
      | none => rfl
      | some source =>
          cases source with
          | vacant | script script | lines buffer => rfl
          | replies pending => cases pending <;> rfl
          | chain members =>
              dsimp only
              rw [Chain.read_of_commutes inductionHypothesis]
              rfl

/-- Reading neither consults nor changes the sinks. -/
theorem read_withSinks
    (sinks : Array Sink)
    (input output : Option Nat)
    (desk : Desk) :
    (channels input output).read (desk.withSinks sinks) =
      (((channels input output).read desk).1,
        ((channels input output).read desk).2.withSinks sinks) := by
  cases input with
  | none => rfl
  | some number => exact readWithin_withSinks sinks (number + 1) number desk

theorem sinks_read
    (input output : Option Nat)
    (desk : Desk) : ((channels input output).read desk).2.sinks = desk.sinks :=
  congrArg (fun result => result.2.sinks) (read_withSinks desk.sinks input output desk)

theorem getElem?_putSink
    {desk : Desk}
    {number : Nat}
    {old : Sink}
    (placed : desk.sinks[number]? = some old)
    (sink : Sink) : (desk.putSink number sink).sinks[number]? = some sink := by
  obtain ⟨bound, _⟩ := Array.getElem?_eq_some_iff.mp placed
  exact Array.getElem?_setIfInBounds_self_of_lt bound

/-- At the place is a terminal that absorbs all trouble of its stream. -/
def HasTerminal
    (number : Nat)
    (desk : Desk) : Prop :=
  ∃ screen, desk.sinks[number]? = some (.terminal screen) ∧ screen.stream.Absorbable

/-- One desk has a terminal where the other discards output, and the sources are the same. -/
structure MutedAs
    (number : Nat)
    (desk muted : Desk) : Prop where
  /-- The sources are the same. -/
  sources_eq : muted.sources = desk.sources
  /-- One has a terminal. -/
  hasTerminal : desk.HasTerminal number
  /-- The other discards output. -/
  discards : muted.sinks[number]? = some .discard

section

variable
  {number : Nat}
  {desk : Desk}

/-- A desk whose terminal is replaced by a sink that discards is the muted form of it. -/
theorem HasTerminal.mutedAs (hasTerminal : desk.HasTerminal number) :
    MutedAs number desk (desk.putSink number .discard) where
  sources_eq := rfl
  hasTerminal := hasTerminal
  discards := by
    obtain ⟨screen, placed, _⟩ := hasTerminal
    exact getElem?_putSink placed .discard

/-- A terminal takes every character without a failure, stays a terminal, and leaves the sources
alone. -/
theorem HasTerminal.write
    (hasTerminal : desk.HasTerminal number)
    (code : Word) :
    (desk.write number code.toNat).1.reply = .done () ∧
      (desk.write number code.toNat).2.sources = desk.sources ∧
      (desk.write number code.toNat).2.HasTerminal number := by
  obtain ⟨screen, placed, absorbable⟩ := hasTerminal
  obtain ⟨done, after⟩ := Terminal.write_word absorbable code
  unfold Desk.write
  rw [placed]
  exact ⟨done, rfl, (screen.write code.toNat).2, getElem?_putSink placed _, after⟩

/-- A sink that discards takes every character and keeps nothing. -/
theorem write_discard
    (discards : desk.sinks[number]? = some .discard)
    (code : Int) :
    desk.write number code = ({ reply := .done () }, desk.putSink number .discard) := by
  unfold Desk.write
  rw [discards]
  rfl

variable (number)

/-- Whether output is discarded makes no difference to a machine. -/
theorem alike_mutedAs (input : Option Nat) :
    (channels input (some number)).Alike (channels input (some number)) (MutedAs number) where
  read := by
    rintro desk ⟨sources, sinks⟩ ⟨rfl, hasTerminal, discards⟩
    have sameSinks := sinks_read input (some number) desk
    change ((channels input (some number)).read desk).1 =
        ((channels input (some number)).read (desk.withSinks sinks)).1 ∧
      MutedAs number ((channels input (some number)).read desk).2
        ((channels input (some number)).read (desk.withSinks sinks)).2
    rw [read_withSinks]
    refine ⟨rfl, rfl, ?_, discards⟩
    rwa [HasTerminal, sameSinks]
  write := by
    intro code desk muted mutedAs
    obtain ⟨done, sources, hasTerminal⟩ := mutedAs.hasTerminal.write code
    have discarded := write_discard mutedAs.discards code.toNat
    change (desk.write number code.toNat).1.reply = (muted.write number code.toNat).1.reply ∧
      MutedAs number (desk.write number code.toNat).2 (muted.write number code.toNat).2
    rw [discarded]
    exact ⟨done, mutedAs.sources_eq.trans sources.symm, hasTerminal,
      getElem?_putSink mutedAs.discards .discard⟩

end
end Desk

namespace Machine

variable
  {machine : Machine}
  {number : Nat}
  {desk : Desk}

/-- No step of a machine sees a write to a terminal fail. -/
theorem reply_of_write_mem
    {input : Option Nat}
    (hasTerminal : desk.HasTerminal number)
    {code : Int}
    {reply : Reply Unit}
    (written : .write code reply ∈ machine.channelCalls (Desk.channels input (some number)) desk) :
    reply = .done () := by
  obtain ⟨opcode, word, _, rfl, rfl⟩ := planned_of_write_mem _ _ written
  exact (hasTerminal.write word).1

/-- An output instruction on a terminal never faults over its channel. -/
theorem output_not_failed
    (input : Option Nat)
    (hasTerminal : desk.HasTerminal number)
    (running : machine.condition = .running)
    (known : machine.opcode? = some .output) :
    ¬ (machine.step (Desk.channels input (some number)) desk).Faults .channelFailure := by
  rw [faults_step_of_known running known, exists_action_output]
  rintro (impossible | ⟨word, _, failure, failed⟩)
  · exact impossible
  · have done := (hasTerminal.write word).1
    cases done.symm.trans failed

/-- A machine that writes to a terminal goes through what it goes through when its output is
discarded, in whatever pattern the calls of the stream fail.  All writes succeed, and no
instruction for output is a failure of the channel. -/
theorem terminal_unnoticed
    (input : Option Nat)
    (number : Nat)
    (desk : Desk)
    (hasTerminal : desk.HasTerminal number)
    (steps : Nat)
    (machine : Machine) :
    let channels := Desk.channels input (some number)
    let history := machine.history channels steps desk
    history.map Transition.unheard =
        (machine.history channels steps (desk.putSink number .discard)).map Transition.unheard ∧
      (∀ transition ∈ history, ∀ code reply, .write code reply ∈ transition.calls ->
        reply = .done ()) ∧
      ∀ transition ∈ history, transition.before.condition = .running ->
        transition.before.opcode? = some .output ->
        ∀ fault, transition.after.fault? = some fault -> fault.cause.kind ≠ .channelFailure := by
  intro channels history
  have alike := Desk.alike_mutedAs number input
  have kept (machine : Machine) (desk : Desk) (hasTerminal : desk.HasTerminal number)
      (_ : True) : (machine.step channels desk).world.HasTerminal number :=
    (alike_step alike hasTerminal.mutedAs machine).1.world.hasTerminal
  have along := (invariant_history kept steps machine desk hasTerminal fun _ _ => trivial).2
  refine ⟨unheard_history alike hasTerminal.mutedAs steps machine, ?_, ?_⟩
  · intro transition member code reply written
    obtain ⟨machine, desk, hasTerminal, rfl⟩ := along transition member
    exact reply_of_write_mem hasTerminal written
  · intro transition member running known fault faulted kind
    obtain ⟨machine, desk, hasTerminal, rfl⟩ := along transition member
    exact output_not_failed input hasTerminal running known
      ⟨fault, fault?_eq_some_iff.mp faulted, kind⟩

/-- A desk whose terminal has a closed stream. -/
def closedDesk : Desk where
  sinks := #[.terminal { stream := TextStream.close { kind := .value } {} }]

theorem hasTerminal_closedDesk : closedDesk.HasTerminal 0 :=
  ⟨_, rfl, fun _ => rfl, fun _ => rfl⟩

/-- A machine that writes a letter and halts. -/
def letterWriter : Machine :=
  { fresh with memory := (Memory.empty.set fresh.pc 19).set (fresh.pc.advance 1) 65 }

/-- Writing the letter to the closed stream goes unnoticed. -/
theorem terminal_unnoticed_closedDesk :
    closedDesk.HasTerminal 0 ∧
      let channels := Desk.channels none (some 0)
      let history := letterWriter.history channels 2 closedDesk
      history.map Transition.unheard =
          (letterWriter.history channels 2 (closedDesk.putSink 0 .discard)).map
            Transition.unheard ∧
        (∀ transition ∈ history, ∀ code reply, .write code reply ∈ transition.calls ->
          reply = .done ()) ∧
        (∀ transition ∈ history, transition.before.condition = .running ->
          transition.before.opcode? = some .output ->
          ∀ fault, transition.after.fault? = some fault ->
            fault.cause.kind ≠ .channelFailure) ∧
        history.map (fun transition => transition.after.status) = [.running, .halted] :=
  have unnoticed :=
    terminal_unnoticed none 0 closedDesk hasTerminal_closedDesk 2 letterWriter
  ⟨hasTerminal_closedDesk, unnoticed.1, unnoticed.2.1, unnoticed.2.2, by decide +kernel⟩

end Machine
end WordMachine
