import WordMachine.File.Path

/-!
# Names for the operating system

Names of files are given to the operating system in UTF-8, and it sets limits to
the length of a name and of a path in bytes.  The surrogates from U+DC80 to
U+DCFF stand for single bytes that belong to no character; the others cannot be
given to the operating system at all.
-/

namespace WordMachine

/-- Whether a code point stands for a byte that belongs to no character. -/
def CodePoint.isLoneByte (point : CodePoint) : Bool :=
  0xDC80 ≤ point.toNat && point.toNat ≤ 0xDCFF

namespace SystemName

/-- The greatest number of bytes in a name. -/
def nameLimit : Nat := 255

/-- The greatest number of bytes in a path. -/
def pathLimit : Nat := 4095

/-- How many bytes a code point takes. -/
def width (point : CodePoint) : Nat :=
  if point.isLoneByte then
    1
  else if point.toNat < 0x80 then
    1
  else if point.toNat < 0x800 then
    2
  else if point.toNat < 0x10000 then
    3
  else
    4

/-- How many bytes a text takes. -/
def byteCount (text : Text) : Nat :=
  text.points.foldl (fun total point => total + width point) 0

/-- The first surrogates in a row that cannot be given to the operating system, with their place
after `index` code points. -/
def inexpressible?
    (index : Nat) : List CodePoint -> Option (Nat × List CodePoint)
  | [] => none
  | point :: rest =>
      if point.isSurrogate && !point.isLoneByte then
        some (index, point :: rest.takeWhile CodePoint.isSurrogate)
      else
        inexpressible? (index + 1) rest

end SystemName
end WordMachine
