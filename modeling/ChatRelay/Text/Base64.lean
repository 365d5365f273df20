/-
# Base64

Three bytes are written as four characters of six bits each; a shorter group at the end is
filled up with equals signs.
-/

namespace ChatRelay.Text.Base64

/-- The character of a value below sixty-four. -/
def digit (n : Nat) : Char :=
  if n < 26 then Char.ofNat ('A'.toNat + n)
  else if n < 52 then Char.ofNat ('a'.toNat + (n - 26))
  else if n < 62 then Char.ofNat ('0'.toNat + (n - 52))
  else if n = 62 then '+'
  else '/'

/-- The text of some bytes. -/
def encode : List UInt8 → List Char
  | a :: b :: c :: rest =>
    let n := 65536 * a.toNat + 256 * b.toNat + c.toNat
    digit (n / 262144) :: digit (n / 4096 % 64) :: digit (n / 64 % 64) :: digit (n % 64) ::
      encode rest
  | [a, b] =>
    let n := 1024 * a.toNat + 4 * b.toNat
    [digit (n / 4096), digit (n / 64 % 64), digit (n % 64), '=']
  | [a] =>
    let n := 16 * a.toNat
    [digit (n / 64), digit (n % 64), '=', '=']
  | [] => []

end ChatRelay.Text.Base64
