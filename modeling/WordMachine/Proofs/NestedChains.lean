import Mathlib.Data.List.Sigma
import WordMachine.Proofs.Tape

/-!
# Chains in chains

A chain can be a member of another chain.  To whoever reads it makes no difference whether
the members of the inner chain stand in it or in its place: the replies are the same, and
so are the calls that are made of the members: `Chain.readMany_nested`.  In any chain the
calls keep to the order of the members, and only a member that has ended is dropped:
`Chain.Orderly`.
-/

namespace WordMachine
namespace Chain

variable {Member World : Type}

/-! ## Several reads -/

/-- What comes of several reads from a chain. -/
structure Readings (Member World : Type) where
  /-- The replies, the earliest first. -/
  replies : List (Reply Value)
  /-- The members that are left. -/
  left : List Member
  /-- The world afterwards. -/
  world : World

/-- Reads so many times from a chain. -/
def readMany
    (readMember : Member -> World -> Reply Value × World) :
    Nat -> List Member -> World -> Readings Member World
  | 0, members, world => { replies := [], left := members, world }
  | count + 1, members, world =>
      let (reply, left, world) := Chain.read readMember members world
      let later := readMany readMember count left world
      { later with replies := reply :: later.replies }

/-- A call of a member, with its reply. -/
structure MemberCall (Member : Type) where
  /-- Which member is read. -/
  member : Member
  /-- What the read comes back with. -/
  reply : Reply Value

/-- The member says that there is no more input. -/
def MemberCall.Ends (call : MemberCall Member) : Bool :=
  call.reply.isEnd

/-- Reads a member in a world that lists the calls, the earliest first. -/
def recorded
    (readMember : Member -> World -> Reply Value × World)
    (member : Member)
    (state : World × List (MemberCall Member)) :
    Reply Value × World × List (MemberCall Member) :=
  let (reply, world) := readMember member state.1
  (reply, world, state.2 ++ [{ member, reply }])

section

variable
  (readMember : Member -> World -> Reply Value × World)
  (front back members : List Member)
  (world : World)

/-- A chain says that there is no more input just if it has no members left. -/
theorem isEnd_read :
    (Chain.read readMember members world).1.isEnd =
      (Chain.read readMember members world).2.1.isEmpty := by
  induction members generalizing world with
  | nil => rfl
  | cons member members inductionHypothesis =>
      rw [read_cons]
      cases ended : (readMember member world).1.isEnd with
      | true => exact inductionHypothesis _
      | false => exact ended

variable {readMember front members world}

theorem read_cons_of_ended
    {member : Member}
    (ended : (readMember member world).1.isEnd = true) :
    Chain.read readMember (member :: members) world =
      Chain.read readMember members (readMember member world).2 := by
  rw [read_cons, if_pos ended]

theorem read_cons_of_unended
    {member : Member}
    (unended : (readMember member world).1.isEnd = false) :
    Chain.read readMember (member :: members) world =
      ((readMember member world).1, member :: members, (readMember member world).2) := by
  rw [read_cons, unended]
  rfl

/-- Members that have nothing left make room for those after them. -/
theorem read_append_of_ended
    (ended : (Chain.read readMember front world).1.isEnd = true) :
    Chain.read readMember (front ++ back) world =
      Chain.read readMember back (Chain.read readMember front world).2.2 := by
  induction front generalizing world with
  | nil => rfl
  | cons member front inductionHypothesis =>
      cases first : (readMember member world).1.isEnd with
      | true =>
          rw [read_cons_of_ended first] at ended ⊢
          rw [List.cons_append, read_cons_of_ended first]
          exact inductionHypothesis ended
      | false =>
          rw [read_cons_of_unended first] at ended
          cases first.symm.trans ended

/-- Members that have something left keep those after them from being read. -/
theorem read_append_of_unended
    (unended : (Chain.read readMember front world).1.isEnd = false) :
    Chain.read readMember (front ++ back) world =
      ((Chain.read readMember front world).1, (Chain.read readMember front world).2.1 ++ back,
        (Chain.read readMember front world).2.2) := by
  induction front generalizing world with
  | nil => cases unended
  | cons member front inductionHypothesis =>
      cases first : (readMember member world).1.isEnd with
      | true =>
          rw [read_cons_of_ended first] at unended ⊢
          rw [List.cons_append, read_cons_of_ended first]
          exact inductionHypothesis unended
      | false =>
          rw [List.cons_append, read_cons_of_unended first, read_cons_of_unended first]
          rfl

end

/-! ## A chain as a member -/

/-- A member of a chain in which there is another chain. -/
inductive Part (Member : Type) where
  /-- A member that is no chain. -/
  | single (member : Member)
  /-- The other chain. -/
  | inner

/-- Reads a member of a chain in which there is another chain, of which some members are left. -/
def readPart
    (readMember : Member -> World -> Reply Value × World)
    (part : Part Member)
    (state : World × List Member) : Reply Value × World × List Member :=
  match part with
  | .single member =>
      let (reply, world) := readMember member state.1
      (reply, world, state.2)
  | .inner =>
      let (reply, left, world) := Chain.read readMember state.2 state.1
      (reply, world, left)

/-- The members of a chain in which the members of the inner chain stand in its place.  Once it is
used up nothing is left of it for another place. -/
def unfold : List (Part Member) -> List Member -> List Member
  | [], _ => []
  | .single member :: parts, inner => member :: unfold parts inner
  | .inner :: parts, inner => inner ++ unfold parts []

theorem unfold_map_single (members inner : List Member) :
    unfold (members.map .single) inner = members := by
  induction members with
  | nil => rfl
  | cons member members inductionHypothesis =>
      rw [List.map_cons, unfold, inductionHypothesis]

/-- The members of a chain with another chain between them. -/
def around (front back : List Member) : List (Part Member) :=
  front.map .single ++ .inner :: back.map .single

theorem unfold_around (front inner back : List Member) :
    unfold (around front back) inner = front ++ inner ++ back := by
  induction front with
  | nil =>
      change inner ++ unfold (back.map .single) [] = _
      rw [unfold_map_single, List.nil_append]
  | cons member front inductionHypothesis =>
      change member :: unfold (around front back) inner = _
      rw [inductionHypothesis, List.cons_append, List.cons_append]

/-- A read from a chain in which there is another chain is a read from the unfolded chain. -/
theorem read_parts
    (readMember : Member -> World -> Reply Value × World)
    (parts : List (Part Member))
    (inner : List Member)
    (world : World) :
    let nested := Chain.read (readPart readMember) parts (world, inner)
    Chain.read readMember (unfold parts inner) world =
      (nested.1, unfold nested.2.1 nested.2.2.2, nested.2.2.1) := by
  induction parts generalizing inner world with
  | nil => rfl
  | cons part parts inductionHypothesis =>
      cases part with
      | single member =>
          cases ended : (readMember member world).1.isEnd with
          | true =>
              have partEnded :
                  (readPart readMember (.single member) (world, inner)).1.isEnd = true := ended
              rw [unfold, read_cons_of_ended ended, read_cons_of_ended partEnded]
              exact inductionHypothesis inner _
          | false =>
              have partUnended :
                  (readPart readMember (.single member) (world, inner)).1.isEnd = false := ended
              rw [unfold, read_cons_of_unended ended, read_cons_of_unended partUnended]
              rfl
      | inner =>
          cases ended : (Chain.read readMember inner world).1.isEnd with
          | true =>
              have partEnded : (readPart readMember .inner (world, inner)).1.isEnd = true := ended
              -- The inner chain is used up, so what comes next reads with nothing left of it.
              have used : (Chain.read readMember inner world).2.1 = [] :=
                List.isEmpty_iff.mp ((isEnd_read readMember inner world).symm.trans ended)
              have state : (readPart readMember .inner (world, inner)).2 =
                  ((Chain.read readMember inner world).2.2, []) := by
                rw [← used]
                rfl
              rw [unfold, read_append_of_ended _ ended, read_cons_of_ended partEnded, state]
              exact inductionHypothesis [] _
          | false =>
              have partUnended : (readPart readMember .inner (world, inner)).1.isEnd = false :=
                ended
              rw [unfold, read_append_of_unended _ ended, read_cons_of_unended partUnended]
              rfl

/-- The members of an inner chain may as well stand in its place. -/
theorem readMany_parts
    (readMember : Member -> World -> Reply Value × World)
    (count : Nat)
    (parts : List (Part Member))
    (inner : List Member)
    (world : World) :
    let nested := readMany (readPart readMember) count parts (world, inner)
    readMany readMember count (unfold parts inner) world =
      { replies := nested.replies
        left := unfold nested.left nested.world.2
        world := nested.world.1 } := by
  induction count generalizing parts inner world with
  | zero => rfl
  | succ count inductionHypothesis =>
      dsimp only
      rw [readMany, readMany, read_parts]
      dsimp only
      rw [inductionHypothesis]

/-! ## The order of the calls -/

/-- The calls that a chain makes, with the members that are left: each call goes to the first
member that is left, and a member that has ended is left no longer. -/
inductive Walks : List Member -> List (MemberCall Member) -> List Member -> Prop where
  /-- No call is made. -/
  | rest (members : List Member) : Walks members [] members
  /-- The first member has not ended. -/
  | stays {member : Member} {reply : Reply Value} {members left : List Member}
      {calls : List (MemberCall Member)}
      (unended : reply.isEnd = false)
      (walks : Walks (member :: members) calls left) :
      Walks (member :: members) ({ member, reply } :: calls) left
  /-- The first member has ended. -/
  | passes {member : Member} {reply : Reply Value} {members left : List Member}
      {calls : List (MemberCall Member)}
      (ended : reply.isEnd = true)
      (walks : Walks members calls left) :
      Walks (member :: members) ({ member, reply } :: calls) left

section

variable
  {members middle left : List Member}
  {calls more : List (MemberCall Member)}

/-- Walks along a chain can be continued where they have come to. -/
theorem Walks.trans
    (walks : Walks members calls middle)
    (goesOn : Walks middle more left) : Walks members (calls ++ more) left := by
  induction walks with
  | rest members => exact goesOn
  | stays unended _ inductionHypothesis => exact .stays unended (inductionHypothesis goesOn)
  | passes ended _ inductionHypothesis => exact .passes ended (inductionHypothesis goesOn)

/-- One read makes calls in order. -/
theorem walks_read
    (readMember : Member -> World -> Reply Value × World)
    (members : List Member)
    (world : World)
    (before : List (MemberCall Member)) :
    let result := Chain.read (recorded readMember) members (world, before)
    ∃ calls, result.2.2.2 = before ++ calls ∧ Walks members calls result.2.1 := by
  induction members generalizing world before with
  | nil => exact ⟨[], (List.append_nil _).symm, .rest []⟩
  | cons member members inductionHypothesis =>
      dsimp only
      cases ended : (readMember member world).1.isEnd with
      | true =>
          have recordedEnded : (recorded readMember member (world, before)).1.isEnd = true := ended
          rw [read_cons_of_ended recordedEnded]
          obtain ⟨calls, recorded, walks⟩ := inductionHypothesis (readMember member world).2
            (before ++ [{ member, reply := (readMember member world).1 }])
          refine ⟨_ :: calls, recorded.trans ?_, .passes ended walks⟩
          rw [List.append_assoc, List.singleton_append]
      | false =>
          have recordedUnended : (recorded readMember member (world, before)).1.isEnd = false :=
            ended
          rw [read_cons_of_unended recordedUnended]
          exact ⟨_, rfl, .stays ended (.rest _)⟩

/-- So do several reads. -/
theorem walks_readMany
    (readMember : Member -> World -> Reply Value × World)
    (count : Nat)
    (members : List Member)
    (world : World)
    (before : List (MemberCall Member)) :
    let result := readMany (recorded readMember) count members (world, before)
    ∃ calls, result.world.2 = before ++ calls ∧ Walks members calls result.left := by
  induction count generalizing members world before with
  | zero => exact ⟨[], (List.append_nil _).symm, .rest members⟩
  | succ count inductionHypothesis =>
      obtain ⟨calls, recorded, walks⟩ := walks_read readMember members world before
      rw [readMany]
      generalize Chain.read (Chain.recorded readMember) members (world, before) = result
        at recorded walks ⊢
      obtain ⟨reply, middle, world, after⟩ := result
      obtain rfl : after = before ++ calls := recorded
      obtain ⟨more, recordedMore, goesOn⟩ := inductionHypothesis middle world (before ++ calls)
      refine ⟨calls ++ more, recordedMore.trans ?_, walks.trans goesOn⟩
      rw [List.append_assoc]

/-- Before a call to a member the calls have come to that member. -/
theorem Walks.cut
    {call : MemberCall Member}
    (walks : Walks members (calls ++ call :: more) left) :
    ∃ rest, Walks members calls (call.member :: rest) := by
  induction calls generalizing members with
  | nil =>
      cases walks with
      | stays => exact ⟨_, .rest _⟩
      | passes => exact ⟨_, .rest _⟩
  | cons first calls inductionHypothesis =>
      cases walks with
      | stays unended walks =>
          obtain ⟨rest, walks⟩ := inductionHypothesis walks
          exact ⟨rest, .stays unended walks⟩
      | passes ended walks =>
          obtain ⟨rest, walks⟩ := inductionHypothesis walks
          exact ⟨rest, .passes ended walks⟩

/-- As many members are dropped as have ended. -/
theorem Walks.left_eq (walks : Walks members calls left) :
    left = members.drop (calls.countP MemberCall.Ends) := by
  induction walks with
  | rest members => rfl
  | stays unended _ inductionHypothesis =>
      rw [List.countP_cons_of_neg (by simp [MemberCall.Ends, unended])]
      exact inductionHypothesis
  | passes ended _ inductionHypothesis =>
      rw [List.countP_cons_of_pos (by simp [MemberCall.Ends, ended]), List.drop_succ_cons]
      exact inductionHypothesis

/-- Every member that is dropped has ended. -/
theorem Walks.exists_ends
    (walks : Walks members calls left) :
    ∃ gone, members = gone ++ left ∧
      ∀ member ∈ gone, ∃ call ∈ calls, call.member = member ∧ call.Ends = true := by
  induction walks with
  | rest members => exact ⟨[], rfl, fun member impossible => nomatch impossible⟩
  | stays unended _ inductionHypothesis =>
      obtain ⟨gone, split, ends⟩ := inductionHypothesis
      refine ⟨gone, split, fun member isGone => ?_⟩
      obtain ⟨call, isCall, endsHere⟩ := ends member isGone
      exact ⟨call, List.mem_cons_of_mem _ isCall, endsHere⟩
  | @passes member reply members left calls ended _ inductionHypothesis =>
      obtain ⟨gone, split, ends⟩ := inductionHypothesis
      refine ⟨member :: gone, congrArg (member :: ·) split, List.forall_mem_cons.mpr ⟨?_, ?_⟩⟩
      · exact ⟨_, List.mem_cons_self, rfl, ended⟩
      · intro other isGone
        obtain ⟨call, isCall, endsHere⟩ := ends other isGone
        exact ⟨call, List.mem_cons_of_mem _ isCall, endsHere⟩

/-- Only members are called. -/
theorem Walks.member_mem (walks : Walks members calls left) :
    ∀ call ∈ calls, call.member ∈ members := by
  induction walks with
  | rest members => exact List.forall_mem_nil _
  | stays unended _ inductionHypothesis =>
      exact List.forall_mem_cons.mpr ⟨List.mem_cons_self, inductionHypothesis⟩
  | passes ended _ inductionHypothesis =>
      refine List.forall_mem_cons.mpr ⟨List.mem_cons_self, fun call isCall => ?_⟩
      exact List.mem_cons_of_mem _ (inductionHypothesis call isCall)

/-- If the members are told apart, one that has ended is not called again. -/
theorem Walks.pairwise
    (walks : Walks members calls left)
    (distinct : members.Nodup) :
    calls.Pairwise fun call later => call.Ends = true -> later.member ≠ call.member := by
  induction walks with
  | rest members => exact .nil
  | stays unended walks inductionHypothesis =>
      refine .cons (fun later isLater ends => ?_) (inductionHypothesis distinct)
      cases unended.symm.trans ends
  | passes ended walks inductionHypothesis =>
      obtain ⟨fresh, distinct⟩ := List.nodup_cons.mp distinct
      refine .cons (fun later isLater _ => ?_) (inductionHypothesis distinct)
      exact ne_of_mem_of_not_mem (walks.member_mem later isLater) fresh

/-- The call after one that did not end a member goes to the same member. -/
theorem Walks.isChain (walks : Walks members calls left) :
    calls.IsChain fun call next => call.Ends = false -> next.member = call.member := by
  induction walks with
  | rest members => exact .nil
  | stays unended walks inductionHypothesis =>
      cases walks with
      | rest => exact .singleton _
      | stays => exact .cons_cons (fun _ => rfl) inductionHypothesis
      | passes => exact .cons_cons (fun _ => rfl) inductionHypothesis
  | passes ended walks inductionHypothesis =>
      cases walks with
      | rest => exact .singleton _
      | stays | passes =>
          refine .cons_cons (fun unended => ?_) inductionHypothesis
          cases ended.symm.trans unended

/-- How the calls of a chain keep to the order of its members, which are told apart. -/
structure Orderly
    (members : List Member)
    (calls : List (MemberCall Member))
    (left : List Member) : Prop where
  /-- A member that has ended is not called again. -/
  finished : calls.Pairwise fun call later => call.Ends = true -> later.member ≠ call.member
  /-- A member is called only after all those before it have ended. -/
  turn : ∀ before call after, calls = before ++ call :: after ->
    ∃ earlier rest, members = earlier ++ call.member :: rest ∧
      ∀ member ∈ earlier, ∃ ending ∈ before, ending.member = member ∧ ending.Ends = true
  /-- After a call that did not end a member the same member is called next. -/
  again : calls.IsChain fun call next => call.Ends = false -> next.member = call.member
  /-- Only the members that have ended are dropped. -/
  kept : left = members.drop (calls.countP MemberCall.Ends)

/-- A walk along members that are told apart keeps to their order. -/
theorem Walks.orderly
    (walks : Walks members calls left)
    (distinct : members.Nodup) : Orderly members calls left where
  finished := walks.pairwise distinct
  turn := by
    rintro before call after rfl
    obtain ⟨rest, walks⟩ := walks.cut
    obtain ⟨earlier, split, ends⟩ := walks.exists_ends
    exact ⟨earlier, rest, split, ends⟩
  again := walks.isChain
  kept := walks.left_eq

end

/-! ## Chains and their calls -/

/-- If each member reads the same under another name and in a related world, so does a chain as
often as it is read. -/
theorem readMany_related
    {Other OtherWorld : Type}
    {readMember : Member -> World -> Reply Value × World}
    {readOther : Other -> OtherWorld -> Reply Value × OtherWorld}
    {rename : Other -> Member}
    {Related : World -> OtherWorld -> Prop}
    (related : ∀ member world other, Related world other ->
      (readMember (rename member) world).1 = (readOther member other).1 ∧
        Related (readMember (rename member) world).2 (readOther member other).2)
    (count : Nat)
    (members : List Other)
    {world : World}
    {other : OtherWorld}
    (start : Related world other) :
    let result := readMany readMember count (members.map rename) world
    let others := readMany readOther count members other
    result.replies = others.replies ∧ result.left = others.left.map rename ∧
      Related result.world others.world := by
  induction count generalizing members world other with
  | zero => exact ⟨rfl, rfl, start⟩
  | succ count inductionHypothesis =>
      obtain ⟨reply, left, later⟩ := read_related (fun member _ => related member) start
      obtain ⟨replies, leftLater, last⟩ := inductionHypothesis _ later
      rw [← left] at replies leftLater last
      exact ⟨congrArg₂ List.cons reply replies, leftLater, last⟩

/-- Reads a member that has a place in a chain, in a world that lists the calls. -/
def readPlaced
    (readMember : Member -> World -> Reply Value × World) :
    Member × Nat -> World × List (MemberCall (Member × Nat)) ->
      Reply Value × World × List (MemberCall (Member × Nat)) :=
  recorded fun placed => readMember placed.1

/-- The calls of a chain are the same whether or not they are listed, and they keep to the order
of its members. -/
theorem readMany_placed
    (readMember : Member -> World -> Reply Value × World)
    (count : Nat)
    (members : List Member)
    (world : World) :
    let plain := readMany readMember count members world
    let placed := readMany (readPlaced readMember) count members.zipIdx (world, [])
    plain = { placed with left := placed.left.map Prod.fst, world := placed.world.1 } ∧
      Orderly members.zipIdx placed.world.2 placed.left := by
  constructor
  · have related : ∀ (member : Member × Nat) world (state : World × List _), world = state.1 ->
        (readMember member.1 world).1 = (readPlaced readMember member state).1 ∧
          (readMember member.1 world).2 = (readPlaced readMember member state).2.1 := by
      rintro member _ state rfl
      exact ⟨rfl, rfl⟩
    have renamed := readMany_related related count members.zipIdx
      (show world = Prod.fst (world, []) from rfl)
    rw [List.zipIdx_map_fst] at renamed
    obtain ⟨replies, left, last⟩ := renamed
    rw [← replies, ← left, ← last]
  · obtain ⟨calls, listed, walks⟩ :=
      walks_readMany (fun placed => readMember placed.1) count members.zipIdx world []
    rw [List.nil_append] at listed
    unfold readPlaced
    rw [listed]
    exact walks.orderly (.of_map Prod.snd (List.nodup_zipIdx_map_snd members))

/-- A chain in a chain gives the same replies as its members in its place, and makes the same
calls.  Every chain keeps to the order of its members. -/
theorem readMany_nested
    (readMember : Member -> World -> Reply Value × World)
    (count : Nat)
    (front inner back members : List Member)
    (world : World) :
    (let nested := readMany (readPart readMember) count (around front back) (world, inner)
      let flat := readMany readMember count (front ++ inner ++ back) world
      nested.replies = flat.replies ∧ nested.world.1 = flat.world) ∧
    (let nested := readMany (readPart (recorded readMember)) count (around front back)
        ((world, []), inner)
      let flat := readMany (recorded readMember) count (front ++ inner ++ back) (world, [])
      nested.world.1.2 = flat.world.2) ∧
    (let plain := readMany readMember count members world
      let placed := readMany (readPlaced readMember) count members.zipIdx (world, [])
      plain = { placed with left := placed.left.map Prod.fst, world := placed.world.1 } ∧
        Orderly members.zipIdx placed.world.2 placed.left) := by
  have plain := readMany_parts readMember count (around front back) inner world
  have listed := readMany_parts (recorded readMember) count (around front back) inner (world, [])
  rw [unfold_around] at plain listed
  refine ⟨?_, ?_, readMany_placed readMember count members world⟩
  · rw [plain]
    exact ⟨rfl, rfl⟩
  · rw [listed]

end Chain
end WordMachine
