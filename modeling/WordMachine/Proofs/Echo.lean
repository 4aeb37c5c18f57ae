import WordMachine.Proofs.BoundedRun
import WordMachine.Proofs.Conservation
import WordMachine.Proofs.ImageCoding

/-!
# A program that echoes its input

The program `r0 <- input; output r0; jump 0` writes every character that it reads, three
instructions for each, until there are none left or one does not fit into a word:
`System.echo_run`.
-/

namespace WordMachine

variable {World : Type}

namespace Machine

/-! ## Steps that lead somewhere -/

/-- So many steps are made one after the other, and lead to a machine in a world. -/
structure Arrives
    (channels : Channels World)
    (count : Nat)
    (machine : Machine)
    (world : World)
    (last : Machine × World) : Prop where
  /-- The steps are made one after the other. -/
  proceeds : machine.Proceeds channels count world
  /-- The machine and the world are what the steps make of them. -/
  state_eq : machine.afterSteps channels count world = last

section

variable
  {channels : Channels World}
  {machine : Machine}
  {world : World}

theorem arrives_zero : Arrives channels 0 machine world (machine, world) :=
  ⟨proceeds_zero, rfl⟩

theorem arrives_single
    {outcome : Outcome World}
    (running : machine.condition = .running)
    (step : machine.step channels world = outcome)
    (undisturbed : outcome.interrupted = none) :
    Arrives channels 1 machine world (outcome.machine, outcome.world) := by
  subst step
  exact ⟨proceeds_succ_iff.mpr ⟨⟨running, undisturbed⟩, proceeds_zero⟩, rfl⟩

/-- Arrivals can be chained, and their steps add up. -/
theorem Arrives.trans
    {first second : Nat}
    {between last : Machine × World}
    (arrives : Arrives channels first machine world between)
    (later : Arrives channels second between.1 between.2 last) :
    Arrives channels (first + second) machine world last := by
  obtain ⟨proceeds, rfl⟩ := arrives
  exact ⟨proceeds_add_iff.mpr ⟨proceeds, later.proceeds⟩,
    (afterSteps_add channels first second machine world).trans later.state_eq⟩

end

/-! ## The program -/

/-- The words of the program. -/
def echoWords : List Word :=
  [20, 32768, 19, 32768, 6, 0]

/-- The image of the program. -/
def echoImage : Array UInt8 :=
  (Image.encode echoWords).toArray

/-- A machine with the program in its memory and nothing on its stack. -/
def echoAt
    (pc : Address)
    (registers : Vector Word 8)
    (executed : Nat) : Machine where
  memory := Memory.empty.load echoWords
  registers
  stack := []
  pc
  condition := .running
  executed

theorem loadImage_echoImage :
    fresh.loadImage echoImage = echoAt 0 (Vector.replicate 8 0) 0 := by
  have words : Image.decode echoImage = echoWords := by decide
  rw [loadImage, words]
  rfl

section

variable
  (registers : Vector Word 8)
  (executed : Nat)

theorem get_memory_echoAt
    (pc address : Address) :
    (echoAt pc registers executed).memory.get address =
      echoWords[address.val]?.getD 0 := by
  rw [← Memory.get_empty address]
  exact Memory.get_load _ _ _

theorem operandWord_echoAt
    (pc : Address)
    (distance : Nat) :
    (echoAt pc registers executed).operandWord distance =
      echoWords[(pc.advance distance).val]?.getD 0 :=
  get_memory_echoAt registers executed pc _

theorem plan_echoAt_zero :
    (echoAt 0 registers executed).plan = .ok (.input, .receive (.register 0)) := by
  refine plan_eq_ok_iff.mpr ⟨?_, ?_⟩
  · rw [opcode?, get_memory_echoAt]
    rfl
  · rw [planOpcode, destination, operandWord_echoAt]
    rfl

theorem plan_echoAt_two :
    (echoAt 2 registers executed).plan = .ok (.output, .send registers[0]) := by
  refine plan_eq_ok_iff.mpr ⟨?_, ?_⟩
  · rw [opcode?, get_memory_echoAt]
    rfl
  · rw [planOpcode, source, operandWord_echoAt]
    rfl

theorem plan_echoAt_four :
    (echoAt 4 registers executed).plan = .ok (.jump, .settle (.jump 0)) := by
  refine plan_eq_ok_iff.mpr ⟨?_, ?_⟩
  · rw [opcode?, get_memory_echoAt]
    rfl
  · rw [planOpcode, source, operandWord_echoAt]
    rfl

end

/-! ## One round -/

section

variable
  (registers : Vector Word 8)
  (executed : Nat)
  (script : Script)
  (sinks : Array Sink)

/-- The program reads into the first register. -/
theorem step_echoAt_zero :
    (echoAt 0 registers executed).step (Desk.channels (some 0) (some 0))
        (.scripted script sinks) =
      (echoAt 0 registers executed).receive (.register 0) script.read.1
        (.scripted script.read.2 sinks) :=
  step_of_asks _ _ ⟨rfl, plan_echoAt_zero registers executed⟩

/-- A round reads a character and writes it. -/
theorem arrives_round
    {point : CodePoint}
    (small : point.toNat ≤ 0x7FFF)
    (pending : List CodePoint)
    (latestFirst : List Int) :
    Arrives (Desk.channels (some 0) (some 0)) 3 (echoAt 0 registers executed)
      (.scripted ⟨point :: pending⟩ #[.collector { latestFirst }])
      (echoAt 0 (registers.set 0 (UInt16.ofNat point.toNat)) (executed + 3),
        .scripted ⟨pending⟩ #[.collector { latestFirst := point.code :: latestFirst }]) := by
  let channels := Desk.channels (some 0) (some 0)
  let word := UInt16.ofNat point.toNat
  have fits : point.toNat < UInt16.size := Nat.lt_of_le_of_lt small (by decide)
  have code : ((registers.set 0 word)[0].toNat : Int) = point.code := by
    rw [Vector.getElem_set_self, UInt16.toNat_ofNat_of_lt' fits, CodePoint.code]
  have received : receivedWord (.integer point.code) = .ok word :=
    (receivedWord_code point).trans (if_pos (Nat.lt_succ_of_le small))
  have read : (echoAt 0 registers executed).step channels
        (.scripted ⟨point :: pending⟩ #[.collector { latestFirst }]) =
      { machine := echoAt 2 (registers.set 0 word) (executed + 1)
        world := .scripted ⟨pending⟩ #[.collector { latestFirst }] } := by
    rw [step_echoAt_zero]
    exact receive_of_ok _ _ received _
  have wrote : (echoAt 2 (registers.set 0 word) (executed + 1)).step channels
        (.scripted ⟨pending⟩ #[.collector { latestFirst }]) =
      { machine := echoAt 4 (registers.set 0 word) (executed + 2)
        world :=
          .scripted ⟨pending⟩ #[.collector { latestFirst := point.code :: latestFirst }] } := by
    rw [step_of_send rfl (plan_echoAt_two _ _) rfl, ← code]
    rfl
  have jumped (desk : Desk) : (echoAt 4 (registers.set 0 word) (executed + 2)).step channels desk =
      { machine := echoAt 0 (registers.set 0 word) (executed + 3), world := desk } := by
    rw [step_running rfl, plan_echoAt_four]
    rfl
  exact ((arrives_single rfl read rfl).trans (arrives_single rfl wrote rfl)).trans
    (arrives_single rfl (jumped _) rfl)

/-! ## All rounds -/

/-- So many characters are read and written in as many rounds. -/
theorem exists_arrives_rounds
    {echoed : List CodePoint}
    (small : ∀ point ∈ echoed, point.toNat ≤ 0x7FFF)
    (unread : List CodePoint)
    (latestFirst : List Int) :
    ∃ registersAfter,
      Arrives (Desk.channels (some 0) (some 0)) (3 * echoed.length)
        (echoAt 0 registers executed)
        (.scripted ⟨echoed ++ unread⟩ #[.collector { latestFirst }])
        (echoAt 0 registersAfter (executed + 3 * echoed.length),
          .scripted ⟨unread⟩
            #[.collector
              { latestFirst := (echoed.map CodePoint.code).reverse ++ latestFirst }]) := by
  induction echoed generalizing registers executed latestFirst with
  | nil => exact ⟨registers, arrives_zero⟩
  | cons point echoed inductionHypothesis =>
      obtain ⟨first, others⟩ := List.forall_mem_cons.mp small
      obtain ⟨registersAfter, rest⟩ := inductionHypothesis
        (registers.set 0 (UInt16.ofNat point.toNat)) (executed + 3) others
        (point.code :: latestFirst)
      have round := arrives_round registers executed first (echoed ++ unread) latestFirst
      have total : 3 * (point :: echoed).length = 3 + 3 * echoed.length := by
        rw [List.length_cons, Nat.mul_succ, Nat.add_comm]
      refine ⟨registersAfter, ?_⟩
      rw [total, ← Nat.add_assoc, List.map_cons, List.reverse_cons, List.append_assoc]
      exact round.trans rest

/-- The program stops at the first character that is missing or does not fit into a word. -/
theorem exists_step_echoAt_zero
    {unread : List CodePoint}
    (large : ∀ point ∈ unread.head?, 0x7FFF < point.toNat) :
    ∃ cause : Cause,
      cause.kind = (if unread = [] then .inputExhausted else .channelFailure) ∧
        (echoAt 0 registers executed).step (Desk.channels (some 0) (some 0))
            (.scripted ⟨unread⟩ sinks) =
          (echoAt 0 registers executed).faultOutcome cause (.scripted ⟨unread.tail⟩ sinks) [] := by
  rw [step_echoAt_zero]
  cases unread with
  | nil => exact ⟨.noInput _, rfl, rfl⟩
  | cons point unread =>
      have tooLarge : 0x7FFF < point.toNat := large point rfl
      have refused := (receivedWord_code point).trans (if_neg (Nat.not_lt_of_ge tooLarge))
      exact ⟨.inputOutOfRange (toString point.code), rfl, receive_of_fault _ _ refused _⟩

end

end Machine

namespace System

/-- The system in which the program is to echo a text. -/
def echo
    (text : Text)
    (journal : Journal) : System Desk where
  machine := Machine.fresh.loadImage Machine.echoImage
  world := .scripted (.ofText text) #[.collector {}]
  journal

/-- A run without a budget writes so many characters of the text, and ends at the next. -/
structure Echoes
    (start : System Desk)
    (trace : Bool)
    (text : Text)
    (echoed : Nat)
    (kind : FaultKind)
    (unread : Nat)
    (result : RunResult)
    (after : System Desk) : Prop where
  /-- The run comes back. -/
  run_eq : ∀ extra,
    start.run (Desk.channels (some 0) (some 0)) { trace } (result.steps + extra) 0 =
      (.finished result, after)
  /-- Three steps are made for each character, and one in which the machine faults. -/
  steps_eq : result.steps = 3 * echoed + 1
  /-- The last step does not count as an instruction. -/
  executed_eq : after.machine.executed = 3 * echoed
  /-- The machine has faulted at the first instruction. -/
  faulted : result.status = .faulted ∧ result.limitReached = false ∧
    ∃ fault, result.fault = some fault ∧ fault.cause.kind = kind ∧ fault.pc = 0
  /-- So much was written, and so much is unread. -/
  world_eq : ∃ script collector,
    after.world = .scripted script #[.collector collector] ∧
      collector.text = .ok ⟨text.points.take echoed⟩ ∧ script.remaining = unread

/-- A run without a budget is complete where its machine stops. -/
theorem exists_run_of_arrives
    {channels : Channels World}
    (start : System World)
    {count : Nat}
    {machine : Machine}
    {world : World}
    (arrives : Machine.Arrives channels count start.machine start.world (machine, world))
    (stopped : machine.condition ≠ .running)
    (trace : Bool) :
    ∃ after, after.machine = machine ∧ after.world = world ∧
      ∀ extra, start.run channels { trace } (count + extra) 0 =
        (.finished (.ofMachine count machine), after) := by
  have runs : start.machine.RunsFor channels none count start.world := {
    proceeds := arrives.proceeds
    within := fun limit impossible => nomatch impossible
    isOver := Or.inl (by rwa [arrives.state_eq]) }
  obtain rfl : (start.machine.afterSteps channels count start.world).1 = machine :=
    congrArg Prod.fst arrives.state_eq
  obtain rfl : (start.machine.afterSteps channels count start.world).2 = world :=
    congrArg Prod.snd arrives.state_eq
  exact ⟨_, rfl, rfl, fun extra => run_of_runsFor runs (Nat.le_add_right count extra)⟩

/-- The program echoes what comes before the first character that does not fit into a word. -/
theorem exists_echoes
    {echoed unread : List CodePoint}
    (small : ∀ point ∈ echoed, point.toNat ≤ 0x7FFF)
    (large : ∀ point ∈ unread.head?, 0x7FFF < point.toNat)
    (journal : Journal)
    (trace : Bool) :
    ∃ result after,
      (echo ⟨echoed ++ unread⟩ journal).Echoes trace ⟨echoed ++ unread⟩ echoed.length
        (if unread = [] then .inputExhausted else .channelFailure) unread.tail.length
        result after := by
  let collector : Collector := { latestFirst := (echoed.map CodePoint.code).reverse ++ [] }
  obtain ⟨registers, rounds⟩ :=
    Machine.exists_arrives_rounds (Vector.replicate 8 0) 0 small unread []
  obtain ⟨cause, kind, step⟩ := Machine.exists_step_echoAt_zero registers
    (0 + 3 * echoed.length) #[.collector collector] large
  have arrives := rounds.trans (Machine.arrives_single rfl step rfl)
  rw [← Machine.loadImage_echoImage] at arrives
  obtain ⟨after, machine, world, run_eq⟩ := exists_run_of_arrives
    (echo ⟨echoed ++ unread⟩ journal) arrives (fun impossible => nomatch impossible) trace
  have written : collector.text = .ok ⟨echoed⟩ := by
    have codes_eq : collector.codes = echoed.map CodePoint.code := by
      change ((echoed.map CodePoint.code).reverse ++ []).reverse = _
      rw [List.append_nil, List.reverse_reverse]
    refine Collector.text_eq ?_
    rw [codes_eq, List.map_map]
    exact congrArg (echoed.map ·) (funext codePoint_toNat)
  exact ⟨.ofMachine (3 * echoed.length + 1) (.fail _ cause), after, {
    run_eq
    steps_eq := rfl
    executed_eq := by
      rw [machine]
      exact Nat.zero_add _
    faulted := ⟨rfl, rfl, _, rfl, kind, rfl⟩
    world_eq := by
      rw [List.take_left]
      exact ⟨⟨unread.tail⟩, collector, world, written, rfl⟩ }⟩

/-- A run without a budget of the program that echoes its input stops.  If every character fits
into a word, it writes the text, and the machine faults because there is no more input.  If not, it
writes the characters before the first one that does not fit, and faults at that one, which is the
last that it reads. -/
theorem echo_run
    (text : Text)
    (journal : Journal)
    (trace : Bool) :
    ((∀ point ∈ text.points, point.toNat ≤ 0x7FFF) ->
      ∃ result after,
        (echo text journal).Echoes trace text text.points.length .inputExhausted 0 result after) ∧
    ∀ k, text.points.findIdx? (fun point => 0x7FFF < point.toNat) = some k ->
      ∃ result after,
        (echo text journal).Echoes trace text k .channelFailure (text.points.length - k - 1)
          result after := by
  obtain ⟨points⟩ := text
  constructor
  · intro small
    have nothing : ∀ point ∈ ([] : List CodePoint).head?, 0x7FFF < point.toNat := nofun
    have echoes := exists_echoes small nothing journal trace
    rwa [List.append_nil] at echoes
  · intro k first
    obtain ⟨bound, large, smaller⟩ := List.findIdx?_eq_some_iff_getElem.mp first
    have small : ∀ point ∈ points.take k, point.toNat ≤ 0x7FFF := by
      intro point member
      obtain ⟨index, earlier, rfl⟩ := List.mem_iff_getElem.mp member
      rw [List.length_take, Nat.lt_min] at earlier
      have notLarge := smaller index earlier.1
      rw [decide_eq_true_eq, Nat.not_lt] at notLarge
      rwa [List.getElem_take]
    have next : ∀ point ∈ (points.drop k).head?, 0x7FFF < point.toNat := by
      intro point isHead
      rw [List.head?_drop, List.getElem?_eq_getElem bound, Option.mem_some_iff] at isHead
      exact isHead ▸ of_decide_eq_true large
    have unread : points.drop k ≠ [] := by
      rwa [ne_eq, List.drop_eq_nil_iff, Nat.not_le]
    have echoes := exists_echoes small next journal trace
    rwa [List.take_append_drop, List.length_take_of_le bound.le, if_neg unread, List.tail_drop,
      List.length_drop, ← Nat.sub_sub] at echoes

/-- A text that is echoed whole, and one that is echoed up to its second character. -/
theorem echo_run_pair :
    let journal : Journal := { verbosity := .silent }
    let whole : Text := "hey\n"
    let broken : Text := ⟨[.ofChar 'h', .ofNat 0x8000, .ofChar 'y']⟩
    (∀ point ∈ whole.points, point.toNat ≤ 0x7FFF) ∧
      (∃ result after,
        (echo whole journal).Echoes false whole 4 .inputExhausted 0 result after) ∧
      broken.points.findIdx? (fun point => 0x7FFF < point.toNat) = some 1 ∧
      ∃ result after,
        (echo broken journal).Echoes false broken 1 .channelFailure 1 result after := by
  intro journal whole broken
  have small : ∀ point ∈ whole.points, point.toNat ≤ 0x7FFF := by decide
  have first : broken.points.findIdx? (fun point => 0x7FFF < point.toNat) = some 1 := by decide
  exact ⟨small, (echo_run whole journal false).1 small, first,
    (echo_run broken journal false).2 1 first⟩

end System
end WordMachine
