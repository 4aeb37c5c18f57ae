import WordMachine.Log.Notice

/-!
# Program images

An image is a sequence of bytes, two to a word, the low byte first.  Decoding
takes as many words as a limit allows and ignores an unpaired last byte;
encoding writes every word.  A negative limit leaves off bytes at the end.
-/

namespace WordMachine
namespace Image

/-- How many words an image holds. -/
abbrev capacity : Nat := 32768

/-- The word whose low byte has a given index. -/
def wordAt
    (bytes : Array UInt8)
    (index : Nat) : Word :=
  (bytes.getD index 0).toUInt16 + 256 * (bytes.getD (index + 1) 0).toUInt16

/-- The words that pairs of bytes stand for. -/
def words (bytes : Array UInt8) : List Word :=
  (List.range (bytes.size / 2)).map fun index => wordAt bytes (2 * index)

/-- How many of `length` bytes are decoded under a limit on the number of words. -/
def usedBytes
    (limit : Int)
    (length : Nat) : Nat :=
  if 0 ≤ limit then
    2 * min (length / 2) limit.toNat
  else
    length - 2 * limit.natAbs

/-- Decodes at most `limit` words, if the bytes to be decoded come in pairs. -/
def decode?
    (limit : Int)
    (bytes : Array UInt8) : Option (List Word) :=
  let used := usedBytes limit bytes.size
  if used % 2 = 0 then some (words (bytes.take used)) else none

/-- Decodes as many words as a memory has cells. -/
def decode (bytes : Array UInt8) : List Word :=
  words (bytes.take (usedBytes capacity bytes.size))

/-- The bytes of words. -/
def encode (words : List Word) : List UInt8 :=
  words.flatMap fun (word : Word) => [word.toUInt8, (word >>> 8).toUInt8]

theorem decode?_capacity (bytes : Array UInt8) :
    decode? capacity bytes = some (decode bytes) := by
  have even : usedBytes capacity bytes.size % 2 = 0 := by
    simp [usedBytes]
  simp only [decode?, decode, even, if_true]

/-- The notices about the decoding of an image and its way into memory. -/
def loadNotices (bytes : Array UInt8) : List Notice :=
  let count := min (bytes.size / 2) capacity
  let truncated := if 2 * count < bytes.size then [Notice.imageTruncated bytes.size count] else []
  truncated ++ [.imageLoaded count]

end Image

/-- Copies a program image to the start of the memory. -/
def Machine.loadImage
    (machine : Machine)
    (bytes : Array UInt8) : Machine :=
  machine.load (Image.decode bytes)

end WordMachine
