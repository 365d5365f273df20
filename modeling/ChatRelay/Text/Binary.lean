/-
# Binary numbers in decimal

A number with a fraction is kept with fifty-three binary digits.  A quotient is rounded to the
nearest such number, to the one with an even significand if two are as near.  It is written with
the fewest decimal digits that are rounded back to it, always with a point.
-/
import ChatRelay.Text.Decimal

namespace ChatRelay.Text

/-- A binary number that is not negative: a significand times a power of two. -/
structure Binary where
  significand : Nat
  /-- The exponent of the power of two. -/
  exponent : Int
deriving DecidableEq, Repr

namespace Binary

/-! ## Rounding -/

def minExponent : Int := -1074

/-- The nearest whole number to a quotient, the even one of two. -/
def nearest (num den : Nat) : Nat :=
  let q := num / den
  let r := num % den
  if den < 2 * r ∨ (2 * r = den ∧ q % 2 = 1) then q + 1 else q

/-- A number times a power of two, as a quotient. -/
def scale (num den : Nat) (exponent : Int) : Nat × Nat :=
  (num <<< exponent.toNat, den <<< (-exponent).toNat)

/-- The nearest binary number to a quotient. -/
def ofQuotient (num den : Nat) : Binary :=
  let guess : Int := max minExponent ((num.log2 : Int) - den.log2 - 52)
  let (n, d) := scale num den (-guess)
  let exponent := if n / d < 1 <<< 52 then max minExponent (guess - 1) else guess
  let (n, d) := scale num den (-exponent)
  let q := nearest n d
  if q = 1 <<< 53 then ⟨1 <<< 52, exponent + 1⟩ else ⟨q, exponent⟩

/-- Whether a number is in the range of the format. -/
def isFinite (b : Binary) : Bool := b.significand.log2 + b.exponent < 1024

/-! ## Writing -/

/-- Whether a whole number times a power of ten is rounded to a binary number.  The number
below a power of two is only half as far away as the one above. -/
def isReadBack (b : Binary) (n : Nat) (power : Int) : Bool :=
  let narrow := b.significand == 1 <<< 52 && minExponent < b.exponent
  let low := 4 * b.significand - (if narrow then 1 else 2)
  let high := 4 * b.significand + 2
  let left := (n * Nat.pow 10 power.toNat) <<< (2 - b.exponent).toNat
  let right (m : Nat) : Nat := (m * Nat.pow 10 (-power).toNat) <<< (b.exponent - 2).toNat
  if b.significand % 2 = 0 then right low ≤ left && left ≤ right high
  else right low < left && left < right high

/-- The whole number that is nearest to a binary number over a power of ten among those two
around it that are rounded back to it; of two equally near ones the greater. -/
def candidate? (b : Binary) (power : Int) : Option Nat :=
  let num := (b.significand * Nat.pow 10 (-power).toNat) <<< b.exponent.toNat
  let den := (Nat.pow 10 power.toNat) <<< (-b.exponent).toNat
  let n := num / den
  match b.isReadBack n power, b.isReadBack (n + 1) power with
  | true, true => some (if 2 * (num % den) < den then n else n + 1)
  | true, false => some n
  | false, true => some (n + 1)
  | false, false => none

/-- The greatest power of ten below all numbers of the format. -/
def maxPower : Int := 309

/-- The fewest digits that are rounded back to a number, and the power of ten that belongs to
them. -/
def shortest (b : Binary) : Nat × Int :=
  let hit (i : Nat) : Option (Nat × Int) :=
    (b.candidate? (maxPower - i)).bind fun n => if n = 0 then none else some (n, maxPower - i)
  ((List.range 640).findSome? hit).getD (0, 0)

/-- The decimal text of a number, with a point. -/
def digits (b : Binary) : List Char :=
  if b.significand = 0 then ['0', '.', '0']
  else
    let (n, power) := b.shortest
    let ds := Decimal.digits n
    if 0 ≤ power then ds ++ List.replicate power.toNat '0' ++ ['.', '0']
    else
      let places := (-power).toNat
      let ds := List.replicate (places + 1 - ds.length) '0' ++ ds
      ds.take (ds.length - places) ++ '.' :: ds.drop (ds.length - places)

end Binary

end ChatRelay.Text
