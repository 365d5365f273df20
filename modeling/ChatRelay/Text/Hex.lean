/-
# Hexadecimal text

Bytes are written as two lower-case digits each.  The reader takes digits of either case
and refuses an odd number of them.
-/

namespace ChatRelay.Text.Hex

/-- The lower-case digit of a value below sixteen. -/
def digit (n : Nat) : Char := Nat.digitChar n

/-- The value of a digit of either case. -/
def value? (c : Char) : Option Nat :=
  if '0' ≤ c ∧ c ≤ '9' then some (c.toNat - '0'.toNat)
  else if 'a' ≤ c ∧ c ≤ 'f' then some (c.toNat - 'a'.toNat + 10)
  else if 'A' ≤ c ∧ c ≤ 'F' then some (c.toNat - 'A'.toNat + 10)
  else none

/-- The number that digits stand for. -/
def number? (s : List Char) : Option Nat :=
  s.foldlM (fun n x => (value? x).map (16 * n + ·)) 0

/-- Two digits for each byte. -/
def encode (bs : List UInt8) : List Char :=
  bs.flatMap fun b => [digit (b.toNat / 16), digit (b.toNat % 16)]

/-- The byte that two digits stand for. -/
def byte? (h l : Char) : Option UInt8 :=
  match value? h, value? l with
  | some a, some b => some (UInt8.ofNat (16 * a + b))
  | _, _ => none

/-- Read pairs of digits after the bytes of `before`, which is in reverse. -/
def decodeFrom (before : List UInt8) : List Char → Option (List UInt8)
  | [] => some before.reverse
  | [_] => none
  | h :: l :: rest =>
    match byte? h l with
    | some b => decodeFrom (b :: before) rest
    | none => none

/-- The bytes that a text of digit pairs stands for. -/
def decode (s : List Char) : Option (List UInt8) := decodeFrom [] s

end ChatRelay.Text.Hex
