/-
# Decimal numbers

Whole numbers are written in decimal without leading zeros.  Readers differ in what they
take: a sign or none, and a bound.  All of them read digit by digit and stop at the first
character that is no digit or that carries the value over the bound, so that of two faults
the earlier one is reported.
-/

namespace ChatRelay.Text.Decimal

/-! ## Writing -/

def digits (n : Nat) : List Char := Nat.toDigits 10 n

def render (n : Nat) : String := String.ofList (digits n)

def renderInt (i : Int) : String :=
  if i < 0 then "-" ++ render i.natAbs else render i.natAbs

/-! ## Reading -/

/-- Why a text is not a number within a bound. -/
inductive Fault where
  /-- A character is not a digit, or there is no digit at all. -/
  | invalidDigit
  | tooLarge
deriving DecidableEq, Repr

def Fault.message : Fault → String
  | invalidDigit => "invalid digit found in string"
  | tooLarge => "number too large to fit in target type"

def digit? (c : Char) : Option Nat :=
  if '0' ≤ c ∧ c ≤ '9' then some (c.toNat - '0'.toNat) else none

/-- Read one more digit after the value `n`. -/
def push (bound n : Nat) (c : Char) : Except Fault Nat :=
  match digit? c with
  | none => .error .invalidDigit
  | some d => if 10 * n + d ≤ bound then .ok (10 * n + d) else .error .tooLarge

/-- Digits alone, at least one, of a value up to `bound`. -/
def readDigits (bound : Nat) (s : List Char) : Except Fault Nat :=
  if s.isEmpty then .error .invalidDigit else s.foldlM (push bound) 0

/-- Digits after an optional `+`. -/
def readNat (bound : Nat) : List Char → Except Fault Nat
  | '+' :: s => readDigits bound s
  | s => readDigits bound s

def maxInt64 : Nat := 9223372036854775807

/-- Digits after an optional sign, within the range of a signed word of 64 bits. -/
def readInt64 : List Char → Except Fault Int
  | '-' :: s => (readDigits (maxInt64 + 1) s).map fun n : Nat => -(n : Int)
  | '+' :: s => (readDigits maxInt64 s).map fun n : Nat => (n : Int)
  | s => (readDigits maxInt64 s).map fun n : Nat => (n : Int)

end ChatRelay.Text.Decimal
