/-
# What plain scalars stand for

A plain scalar stands for a truth value, a number or nothing if it is written like one of
these, and for a text otherwise.  Numbers are decimal without leading zeros, or carry a mark
for their base; with a point or an exponent they have fractions.
-/
import ChatRelay.Text.Binary
import ChatRelay.Text.Hex
import ChatRelay.Text.Quoted

namespace ChatRelay.Yaml

open Text (Binary Decimal.digits Decimal.render Decimal.renderInt Hex.value?)

/-! ## Words -/

def isNullWord (s : List Char) : Bool :=
  String.ofList s ∈ ["null", "Null", "NULL", "~"]

def boolWord? (s : List Char) : Option Bool :=
  if String.ofList s ∈ ["true", "True", "TRUE"] then some true
  else if String.ofList s ∈ ["false", "False", "FALSE"] then some false
  else none

/-! ## Whole numbers -/

/-- The value of at least one digit in a base. -/
def digitsIn? (base : Nat) (s : List Char) : Option Nat :=
  let push (n : Nat) (x : Char) : Option Nat := do
    let d ← Hex.value? x
    if d < base then some (base * n + d) else none
  if s.isEmpty then none else s.foldlM push 0

/-- The value of a number without a sign. -/
def magnitude? (s : List Char) : Option Nat :=
  match s with
  | '0' :: 'x' :: rest => digitsIn? 16 rest
  | '0' :: 'o' :: rest => digitsIn? 8 rest
  | '0' :: 'b' :: rest => digitsIn? 2 rest
  | ['0'] => some 0
  | '0' :: _ => none
  | s => digitsIn? 10 s

def maxWord : Nat := Nat.pow 2 64 - 1

/-- A natural number up to a bound, after an optional plus sign. -/
def natural? (bound : Nat) (s : List Char) : Option Nat :=
  let value :=
    match s with
    | '+' :: rest => magnitude? rest
    | s => magnitude? s
  value.filter (· ≤ bound)

/-- An integer of at most 128 bits and its text. -/
def integerText (i : Int) : String := "integer \x60" ++ Decimal.renderInt i ++ "\x60"

/-- An integer in words, which say if it needs more than 64 bits. -/
def intText? (s : List Char) : Option String :=
  match s with
  | '-' :: rest =>
    (magnitude? rest).bind fun n =>
      if n ≤ Nat.pow 2 63 then some (integerText (-n))
      else if n ≤ Nat.pow 2 127 then some (integerText (-n) ++ " as i128")
      else none
  | s =>
    (natural? (Nat.pow 2 128 - 1) s).map fun n =>
      if n ≤ maxWord then integerText n else integerText n ++ " as u128"

/-! ## Numbers with fractions -/

/-- The digits at the start of a text, and what follows them. -/
def cutDigits (s : List Char) : List Char × List Char := s.span Char.isDigit

/-- The exponent that ends a number, if its letter stands here. -/
def exponent? (s : List Char) : Option Int :=
  match s with
  | [] => some 0
  | e :: rest =>
    if e ≠ 'e' ∧ e ≠ 'E' then none
    else
      match rest with
      | '-' :: ds => (digitsIn? 10 ds).map fun n => -(n : Int)
      | '+' :: ds => (digitsIn? 10 ds).map fun n => (n : Int)
      | ds => (digitsIn? 10 ds).map fun n => (n : Int)

/-- The greatest exponent that makes a difference to a number of some digits. -/
def maxExponent (digits : Nat) : Int := digits + 400

/-- A number without a sign: digits with a point among them or none, and an exponent. -/
def fraction? (s : List Char) : Option Binary := do
  let (whole, rest) := cutDigits s
  let (part, rest) :=
    match rest with
    | '.' :: rest => cutDigits rest
    | rest => ([], rest)
  let n ← digitsIn? 10 (whole ++ part)
  let e ← exponent? rest
  let bound := maxExponent (whole.length + part.length)
  let power := max (-bound) (min bound e) - part.length
  let b := Binary.ofQuotient (n * Nat.pow 10 power.toNat) (Nat.pow 10 (-power).toNat)
  if b.isFinite then some b else none

/-- A number with its sign in words. -/
def fractionText (negative : Bool) (b : Binary) : String :=
  "floating point \x60" ++ String.ofList (if negative then '-' :: b.digits else b.digits) ++ "\x60"

/-- A number that may have a fraction, or is infinite or none, in words. -/
def floatText? (s : List Char) : Option String :=
  let unsigned :=
    match s with
    | '+' :: rest => rest
    | s => s
  if String.ofList unsigned ∈ [".inf", ".Inf", ".INF"] then some "floating point \x60inf\x60"
  else if String.ofList s ∈ ["-.inf", "-.Inf", "-.INF"] then some "floating point \x60-inf\x60"
  else if String.ofList s ∈ [".nan", ".NaN", ".NAN"] then some "floating point \x60NaN\x60"
  else
    match s with
    | '-' :: rest => (fraction? rest).map (fractionText true)
    | _ => (fraction? unsigned).map (fractionText false)

/-! ## Scalars -/

def boolText? (s : List Char) : Option String :=
  (boolWord? s).map fun b => if b then "boolean \x60true\x60" else "boolean \x60false\x60"

def nullText? (s : List Char) : Option String := if isNullWord s then some "unit value" else none

/-- Whether a text is digits after a zero, which stand for no number. -/
def isPadded (s : List Char) : Bool :=
  let digits :=
    match s with
    | '-' :: rest => rest
    | '+' :: rest => rest
    | s => s
  match digits with
  | '0' :: c :: rest => (c :: rest).all Char.isDigit
  | _ => false

/-- What a plain scalar stands for in words, if it is no text. -/
def plainText? (s : List Char) : Option String :=
  if s.isEmpty then some "unit value"
  else
    ((nullText? s).or (boolText? s)).or
      ((intText? s).or (if isPadded s then none else floatText? s))

end ChatRelay.Yaml
