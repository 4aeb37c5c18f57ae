import WordMachine.Word

/-!
# Memory

A memory has exactly one cell for every address.  It is seen only through
`Memory.get`: `Memory.set` and `Memory.load` say which cells they replace.
-/

namespace WordMachine

/-- One word for every address. -/
structure Memory where
  /-- The cells in address order. -/
  cells : Vector Word 32768

namespace Memory

/-- The memory whose cells are all zero. -/
def empty : Memory :=
  ⟨Vector.replicate 32768 0⟩

/-- The word at an address. -/
def get
    (memory : Memory)
    (address : Address) : Word :=
  memory.cells[address]

/-- Replaces the word at one address. -/
def set
    (memory : Memory)
    (address : Address)
    (word : Word) : Memory :=
  ⟨memory.cells.set address.val word address.isLt⟩

/-- Copies words to the cells from address zero up; words past the last cell are dropped. -/
def load
    (memory : Memory)
    (words : List Word) : Memory :=
  let image := words.toArray
  ⟨Vector.ofFn fun address => image[address.val]?.getD (memory.get address)⟩

@[ext] theorem ext
    {left right : Memory}
    (agree : ∀ address, left.get address = right.get address) :
    left = right := by
  obtain ⟨left⟩ := left
  obtain ⟨right⟩ := right
  congr 1
  apply Vector.ext
  intro index bound
  exact agree ⟨index, bound⟩

@[simp] theorem get_empty (address : Address) :
    empty.get address = 0 := by
  simp [empty, get]

@[simp] theorem get_set_self
    (memory : Memory)
    (address : Address)
    (word : Word) :
    (memory.set address word).get address = word := by
  simp [set, get]

theorem get_set_of_ne
    (memory : Memory)
    {address other : Address}
    (word : Word)
    (different : other ≠ address) :
    (memory.set address word).get other = memory.get other := by
  have : address.val ≠ other.val := fun equal => different (Fin.ext equal.symm)
  simp [set, get, this]

theorem get_set
    (memory : Memory)
    (address other : Address)
    (word : Word) :
    (memory.set address word).get other =
      if other = address then word else memory.get other := by
  split
  · next equal => rw [equal, get_set_self]
  · next different => exact get_set_of_ne memory word different

@[simp] theorem get_load
    (memory : Memory)
    (words : List Word)
    (address : Address) :
    (memory.load words).get address = words[address.val]?.getD (memory.get address) := by
  simp [load, get]

/-- A place among the cells.  A negative one is counted from the end. -/
def place (position : Int) : Nat :=
  if position < 0 then (position + 32768).toNat else position.toNat

/-- The cells from one place up to, and without, another. -/
def slice
    (memory : Memory)
    (start stop : Int) : List Word :=
  (memory.cells.toList.take (place stop)).drop (place start)

/-- The addresses of all cells that are not zero, with their words, in ascending order. -/
def nonzero (memory : Memory) : List (Nat × Word) :=
  memory.cells.toList.zipIdx.filterMap fun (word, address) =>
    if word = 0 then none else some (address, word)

end Memory
end WordMachine
