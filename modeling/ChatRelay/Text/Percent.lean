/-
# Percent escapes

A percent sign and two hexadecimal digits stand for a byte.  The decoder leaves a percent
sign alone that is not followed by two digits; `firstBad?` finds the first such sign.
-/
import ChatRelay.Text.Hex

namespace ChatRelay.Text.Percent

def sign : UInt8 := 0x25

/-- The byte that a percent sign and two digits stand for. -/
def escape? (b h l : UInt8) : Option UInt8 :=
  if b = sign then Hex.byte? (Char.ofNat h.toNat) (Char.ofNat l.toNat) else none

/-- Decode after the bytes of `before`, which is in reverse. -/
def decodeFrom (before : List UInt8) : List UInt8 → List UInt8
  | b :: h :: l :: rest =>
    match escape? b h l with
    | some c => decodeFrom (c :: before) rest
    | none => decodeFrom (b :: before) (h :: l :: rest)
  | b :: rest => decodeFrom (b :: before) rest
  | [] => before.reverse

/-- The bytes with each escape replaced by the byte that it stands for. -/
def decode (bs : List UInt8) : List UInt8 := decodeFrom [] bs

/-- The position of the first percent sign that is not followed by two digits, where the
bytes start at position `index`. -/
def firstBadFrom (index : Nat) : List UInt8 → Option Nat
  | b :: h :: l :: rest =>
    if b = sign then
      if (escape? b h l).isSome then firstBadFrom (index + 3) rest else some index
    else firstBadFrom (index + 1) (h :: l :: rest)
  | b :: rest => if b = sign then some index else firstBadFrom (index + 1) rest
  | [] => none

/-- The position of the first percent sign that is not followed by two digits. -/
def firstBad? (bs : List UInt8) : Option Nat := firstBadFrom 0 bs

/-- The escape of a byte, with upper-case digits. -/
def encodeByte (b : UInt8) : List Char :=
  ['%', (Hex.digit (b.toNat / 16)).toUpper, (Hex.digit (b.toNat % 16)).toUpper]

/-- A character as the escapes of its bytes. -/
def encodeChar (c : Char) : List Char := (String.utf8EncodeChar c).flatMap encodeByte

end ChatRelay.Text.Percent
