/-!
# Strict UTF-8

`encode` writes a character in one to four bytes, and `decode?` reads exactly
what `encode` writes: forms longer than needed, surrogates, numbers above
U+10FFFF, stray and missing continuation bytes are refused.
-/

namespace WordMachine
namespace Text
namespace Utf8

/-- The bytes of one character. -/
def encodeCharacter (character : Char) : List UInt8 :=
  let code := character.toNat
  if code < 0x80 then
    [UInt8.ofNat code]
  else if code < 0x800 then
    [UInt8.ofNat (0xC0 + code / 0x40), UInt8.ofNat (0x80 + code % 0x40)]
  else if code < 0x10000 then
    [UInt8.ofNat (0xE0 + code / 0x1000), UInt8.ofNat (0x80 + code / 0x40 % 0x40),
      UInt8.ofNat (0x80 + code % 0x40)]
  else
    [UInt8.ofNat (0xF0 + code / 0x40000), UInt8.ofNat (0x80 + code / 0x1000 % 0x40),
      UInt8.ofNat (0x80 + code / 0x40 % 0x40), UInt8.ofNat (0x80 + code % 0x40)]

/-- The bytes of a text. -/
def encode (characters : List Char) : List UInt8 :=
  characters.flatMap encodeCharacter

/-- The six payload bits of a continuation byte. -/
def continuation? (byte : UInt8) : Option Nat :=
  if 0x80 ≤ byte.toNat ∧ byte.toNat < 0xC0 then some (byte.toNat - 0x80) else none

/-- The character with a code point, if that is at least `least` and no surrogate. -/
def character?
    (least code : Nat) : Option Char :=
  if valid : least ≤ code ∧ code.isValidChar then some (Char.ofNatAux code valid.2) else none

/-- Reads a text. -/
def decode? : List UInt8 -> Option (List Char)
  | [] => some []
  | first :: rest =>
      let lead := first.toNat
      if lead < 0x80 then do
        let character ← character? 0 lead
        return character :: (← decode? rest)
      else if 0xC0 ≤ lead ∧ lead < 0xE0 then
        match rest with
        | second :: rest => do
            let low ← continuation? second
            let character ← character? 0x80 ((lead - 0xC0) * 0x40 + low)
            return character :: (← decode? rest)
        | [] => none
      else if 0xE0 ≤ lead ∧ lead < 0xF0 then
        match rest with
        | second :: third :: rest => do
            let middle ← continuation? second
            let low ← continuation? third
            let character ← character? 0x800
              (((lead - 0xE0) * 0x40 + middle) * 0x40 + low)
            return character :: (← decode? rest)
        | _ => none
      else if 0xF0 ≤ lead ∧ lead < 0xF8 then
        match rest with
        | second :: third :: fourth :: rest => do
            let high ← continuation? second
            let middle ← continuation? third
            let low ← continuation? fourth
            let character ← character? 0x10000
              ((((lead - 0xF0) * 0x40 + high) * 0x40 + middle) * 0x40 + low)
            return character :: (← decode? rest)
        | _ => none
      else
        none

example : decode? [0xC3, 0xA9] = some ['é'] := by decide +kernel
example : decode? [0xED, 0xA0, 0x80] = none := by decide +kernel

end Utf8
end Text
end WordMachine
