/-
# Number literals of JSON

A number is kept as it is written: sign, whole digits, fraction and exponent.  Readers of
whole numbers take plain digits only.  A number whose value is kept as a float has to be in
range; the range is decided exactly, on the decimal significand and exponent that the
digits give after those beyond sixty-four bits are dropped.
-/
import ChatRelay.Text.Decimal

namespace ChatRelay.Json

open Text (Decimal.digit? Decimal.readDigits)

/-- A number as it is written. -/
structure Number where
  negative : Bool
  /-- The digits before the point, at least one. -/
  whole : List Char
  /-- The digits after the point, empty when there is no point. -/
  fraction : List Char
  /-- Whether the exponent is negative, and its digits. -/
  exponent : Option (Bool × List Char)
deriving DecidableEq, Repr

namespace Number

/-! ## Grammar -/

def isDigit (c : Char) : Bool := (Decimal.digit? c).isSome

/-- The digits at the start of a text, at least one, and the rest. -/
def digits? (s : List Char) : Option (List Char × List Char) :=
  let ds := s.takeWhile isDigit
  if ds.isEmpty then none else some (ds, s.dropWhile isDigit)

/-- The digits before the point: a zero stands there only alone. -/
def whole? (s : List Char) : Option (List Char × List Char) :=
  match digits? s with
  | some ('0' :: _ :: _, _) => none
  | r => r

/-- The fraction, if a point follows. -/
def fraction? : List Char → Option (List Char × List Char)
  | '.' :: s => digits? s
  | s => some ([], s)

/-- The exponent, if a letter for it follows; nothing may stand after it. -/
def exponent? : List Char → Option (Option (Bool × List Char))
  | [] => some none
  | c :: s =>
    if c = 'e' ∨ c = 'E' then
      let (negative, s) :=
        match s with
        | '+' :: s => (false, s)
        | '-' :: s => (true, s)
        | s => (false, s)
      match digits? s with
      | some (ds, []) => some (some (negative, ds))
      | _ => none
    else none

def parse? (s : List Char) : Option Number := do
  let (negative, s) :=
    match s with
    | '-' :: s => (true, s)
    | s => (false, s)
  let (whole, s) ← whole? s
  let (fraction, s) ← fraction? s
  let exponent ← exponent? s
  return ⟨negative, whole, fraction, exponent⟩

/-! ## Whole numbers -/

/-- The value of a number that is written as plain digits and is at most `bound`. -/
def nat? (bound : Nat) (n : Number) : Option Nat :=
  if n.negative || !n.fraction.isEmpty || n.exponent.isSome then none
  else (Decimal.readDigits bound n.whole).toOption

/-- The value of a number that is written as digits after an optional minus sign. -/
def int? (n : Number) : Option Int :=
  if !n.fraction.isEmpty || n.exponent.isSome then none
  else
    let v : Nat := Nat.ofDigitChars 10 n.whole 0
    some (if n.negative then -(v : Int) else v)

/-! ## Range -/

/-- A decimal significand and exponent on the way through the digits, and whether digits
are still taken. -/
structure Scaled where
  significand : Nat
  exponent : Int
  /-- Whether the next digit may still be taken. -/
  taking : Bool
deriving DecidableEq, Repr

def maxSignificand : Nat := 18446744073709551615

/-- One more digit before the point: from the first one that does not fit on, each digit
only raises the exponent. -/
def Scaled.pushWhole (s : Scaled) (c : Char) : Scaled :=
  let next := 10 * s.significand + (Decimal.digit? c).getD 0
  if s.taking && decide (next ≤ maxSignificand) then { s with significand := next }
  else { s with exponent := s.exponent + 1, taking := false }

/-- One more digit after the point: from the first one that does not fit on, digits are
dropped. -/
def Scaled.pushFraction (s : Scaled) (c : Char) : Scaled :=
  let next := 10 * s.significand + (Decimal.digit? c).getD 0
  if s.taking && decide (next ≤ maxSignificand) then
    { s with significand := next, exponent := s.exponent - 1 }
  else { s with taking := false }

def scaled (n : Number) : Scaled :=
  let s := n.whole.foldl Scaled.pushWhole ⟨0, 0, true⟩
  let s := n.fraction.foldl Scaled.pushFraction { s with taking := true }
  match n.exponent with
  | none => s
  | some (negative, ds) =>
    let e : Nat := Nat.ofDigitChars 10 ds 0
    { s with exponent := if negative then s.exponent - e else s.exponent + e }

/-- The nearest number with fifty-three significant bits, the even one of two. -/
def round53 (n : Nat) : Nat :=
  let k := n.log2 + 1 - 53
  let unit := 1 <<< k
  let q := n / unit
  let r := n % unit
  if 2 * r > unit || (2 * r == unit && q % 2 == 1) then (q + 1) * unit else q * unit

/-- The number from which results are infinite: half a unit above the greatest float. -/
def overflow : Nat := (1 <<< 1024) - (1 <<< 970)

/-- Whether the value of a number is in the range of floats: the rounded significand times
the rounded power of ten stays below the overflow. -/
def inRange (n : Number) : Bool :=
  let s := n.scaled
  s.significand == 0 || decide (s.exponent < 0) ||
    (decide (s.exponent ≤ 308) &&
      decide (round53 s.significand * round53 (Nat.pow 10 s.exponent.toNat) < overflow))

end Number

end ChatRelay.Json
