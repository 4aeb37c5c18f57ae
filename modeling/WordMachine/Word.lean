/-!
# Words, addresses and register numbers

Every storage location of the machine holds a raw sixteen-bit word.  Results of
arithmetic are reduced to fifteen bits, so a word from 32768 up can only come
from a program image; as an operand such a word names a register or nothing.
-/

namespace WordMachine

/-- A raw sixteen-bit word, as memory cells, registers and stack entries hold it. -/
abbrev Word := UInt16

/-- The place of one memory cell.  The number of cells is also the modulus of arithmetic. -/
abbrev Address := Fin 32768

/-- The number of one register. -/
abbrev RegisterIndex := Fin 8

namespace Word

/-- The fifteen-bit value of one, as comparisons store it, or zero. -/
def ofBool (flag : Bool) : Word :=
  if flag then 1 else 0

/-- The sum modulo 32768. -/
def add (left right : Word) : Word :=
  UInt16.ofNat ((left.toNat + right.toNat) % 32768)

/-- The product modulo 32768. -/
def multiply (left right : Word) : Word :=
  UInt16.ofNat (left.toNat * right.toNat % 32768)

/-- The fifteen low bits, each reversed. -/
def complement (word : Word) : Word :=
  ~~~word &&& 32767

/-- The address a word names, if it is in range. -/
def address? (word : Word) : Option Address :=
  if inRange : word.toNat < 32768 then some ⟨word.toNat, inRange⟩ else none

theorem address?_eq_some_iff
    (word : Word)
    (address : Address) :
    address? word = some address ↔ word.toNat = address.val := by
  unfold address?
  split
  · simp [Fin.ext_iff]
  · have := address.isLt
    simp
    omega

theorem address?_eq_none_iff (word : Word) :
    address? word = none ↔ 32768 ≤ word.toNat := by
  simp [address?]

end Word

namespace Address

/-- The address `distance` cells further on, past the last cell back to the first. -/
def advance
    (address : Address)
    (distance : Nat) : Address :=
  Fin.ofNat 32768 (address.val + distance)

@[simp] theorem advance_val
    (address : Address)
    (distance : Nat) :
    (advance address distance).val = (address.val + distance) % 32768 :=
  rfl

/-- The word that names an address. -/
def toWord (address : Address) : Word :=
  UInt16.ofNat address.val

@[simp] theorem toWord_toNat (address : Address) :
    (toWord address).toNat = address.val := by
  have := address.isLt
  simp [toWord]
  omega

end Address
end WordMachine
