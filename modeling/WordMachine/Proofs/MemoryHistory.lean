import WordMachine.Proofs.ImageCoding
import WordMachine.Proofs.MemoryWrites

/-!
# Memory as a history

What a cell holds is told by the latest event that put anything into it: an image that
is long enough to reach the cell, or an executed instruction for writing memory.  Nothing
else that happens to a machine changes its memory: `System.memory_eq_latest`.
-/

namespace WordMachine

variable {World : Type}

/-! ## Images -/

/-- The number that an image has for the cell with an address, if it is long enough. -/
def Image.wordFor?
    (bytes : Array UInt8)
    (address : Address) : Option Int :=
  (Image.decode bytes)[address.val]?.map fun word => (word.toNat : Int)

/-- After an image is loaded a cell holds what the image has for it, or else what it held
before. -/
theorem Machine.get_memory_loadImage
    (machine : Machine)
    (bytes : Array UInt8)
    (address : Address) :
    (((machine.loadImage bytes).memory.get address).toNat : Int) =
      (Image.wordFor? bytes address).getD (machine.memory.get address).toNat := by
  unfold loadImage load Image.wordFor?
  rw [Memory.get_load]
  cases (Image.decode bytes)[address.val]? <;> rfl

/-! ## Events -/

namespace Event

/-- The number that an event puts into the cell with an address, if it puts anything there. -/
def wordFor? (address : Address) : Event -> Option Int
  | .loaded _ bytes => Image.wordFor? bytes address
  | .stepped transition => enteredAt address transition.write?

/-- After an event a cell holds what the event puts there, or else what it held before. -/
theorem Happens.get_memory
    {channels : Channels World}
    {event : Event}
    (happens : event.Happens channels)
    (address : Address) :
    ((event.after.memory.get address).toNat : Int) =
      (event.wordFor? address).getD (event.before.memory.get address).toNat := by
  cases event with
  | loaded machine bytes => exact machine.get_memory_loadImage bytes address
  | stepped transition =>
      obtain ⟨machine, world, rfl⟩ := happens
      exact machine.get_memory_step channels world address

/-- In the end a cell holds what the latest of the events that put anything there did put there,
or else what it held at first. -/
theorem Lead.get_memory
    {channels : Channels World}
    {first last : Machine}
    {events : List Event}
    (leads : Lead first events last)
    (happen : ∀ event ∈ events, event.Happens channels)
    (address : Address) :
    ((last.memory.get address).toNat : Int) =
      (events.reverse.findSome? (wordFor? address)).getD (first.memory.get address).toNat := by
  induction leads with
  | none machine => rfl
  | @next event events last _ inductionHypothesis =>
      obtain ⟨firstHappens, laterHappen⟩ := List.forall_mem_cons.mp happen
      rw [inductionHypothesis laterHappen, firstHappens.get_memory address, List.reverse_cons,
        List.findSome?_append, Option.getD_or, List.findSome?_singleton]

end Event

/-! ## Loading -/

namespace System

/-- What a call that loads an image does, whatever the system is like. -/
structure Loads
    (channels : Channels World)
    (system : System World)
    (bytes : Array UInt8) : Prop where
  /-- The answer is the number of words. -/
  answer_eq : (system.perform channels (.load bytes)).1 =
    .ok (.loaded (Image.decode bytes).length)
  /-- There are cells for all words. -/
  fits : (Image.decode bytes).length ≤ 32768
  /-- So many cells hold the words, and the others what they held before. -/
  copied : ∀ address, (system.perform channels (.load bytes)).2.machine.memory.get address =
    if covered : address.val < (Image.decode bytes).length then
      (Image.decode bytes)[address.val]
    else
      system.machine.memory.get address
  /-- Nothing else about the machine changes. -/
  others_eq : (system.perform channels (.load bytes)).2.machine =
    { system.machine with
      memory := (system.perform channels (.load bytes)).2.machine.memory }
  /-- No channel is called. -/
  world_eq : (system.perform channels (.load bytes)).2.world = system.world

theorem loads
    (channels : Channels World)
    (system : System World)
    (bytes : Array UInt8) : Loads channels system bytes where
  answer_eq := rfl
  fits := Image.length_decode_le bytes
  copied := by
    intro address
    have loaded := Memory.get_load system.machine.memory (Image.decode bytes) address
    refine loaded.trans ?_
    split
    · next covered => rw [List.getElem?_eq_getElem covered, Option.getD_some]
    · next uncovered =>
        rw [List.getElem?_eq_none (Nat.le_of_not_lt uncovered), Option.getD_none]
  others_eq := by
    obtain ⟨⟨memory, registers, stack, pc, condition, executed⟩, world, journal⟩ := system
    rfl
  world_eq := by
    obtain ⟨machine, world, journal⟩ := system
    rfl

/-- Whatever is called of a system with a fresh machine, every cell holds what the latest event put
there, or zero if there was none; and loading an image changes nothing but the cells that it
covers. -/
theorem memory_eq_latest
    (channels : Channels World)
    (world : World)
    (journal : Journal)
    (calls : List Call) :
    let start : System World := { machine := .fresh, world, journal }
    let last := (start.performAll channels calls).2
    let events := start.allEvents channels calls
    let bare := (Bare.performAll channels journal.verbosity calls (.fresh, world)).2.1
    (∀ address : Address,
      let latest := (events.reverse.findSome? (Event.wordFor? address)).getD 0
      (last.machine.memory.get address).toNat = latest ∧
        bare.memory[address.val]? = some latest) ∧
    ∀ (system : System World) (bytes : Array UInt8), system.Loads channels bytes := by
  intro start last events bare
  have passes := passes_performAll channels start calls
  have bare_eq : bare = last.machine.bare :=
    Bare.machine_performAll_fresh channels world journal calls
  refine ⟨fun address => ?_, loads channels⟩
  have zero : (start.machine.memory.get address).toNat = 0 :=
    congrArg UInt16.toNat (Memory.get_empty address)
  have held := passes.leads.get_memory passes.happen address
  rw [zero] at held
  refine ⟨held, ?_⟩
  rw [bare_eq]
  exact (Bare.entry?_numbers last.machine.memory.cells address).trans (congrArg some held)

end System
end WordMachine
