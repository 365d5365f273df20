/-
# Points in time

A number of seconds since the start of 1970 is written as a date and a time of day in
universal time.  Years are counted from the first of March, so that the day that some years
have more comes last; four centuries have the same number of days.
-/
import ChatRelay.Text.Decimal

namespace ChatRelay.Text.Timestamp

structure Date where
  year : Nat
  /-- The month, from one on. -/
  month : Nat
  /-- The day of the month, from one on. -/
  day : Nat
deriving DecidableEq, Repr

/-- The day that is a number of days after the start of 1970. -/
def dateOf (days : Nat) : Date :=
  let n := days + 719468
  let era := n / 146097
  let dayOfEra := n % 146097
  let yearOfEra := (dayOfEra - dayOfEra / 1460 + dayOfEra / 36524 - dayOfEra / 146096) / 365
  let dayOfYear := dayOfEra - (365 * yearOfEra + yearOfEra / 4 - yearOfEra / 100)
  let shifted := (5 * dayOfYear + 2) / 153
  let month := if shifted < 10 then shifted + 3 else shifted - 9
  ⟨400 * era + yearOfEra + (if month ≤ 2 then 1 else 0), month,
    dayOfYear - (153 * shifted + 2) / 5 + 1⟩

/-- A number with at least `width` digits. -/
def padded (width n : Nat) : String :=
  let ds := Decimal.digits n
  String.ofList (List.replicate (width - ds.length) '0' ++ ds)

/-- The written form of a point in time. -/
def render (seconds : Nat) : String :=
  let date := dateOf (seconds / 86400)
  let time := seconds % 86400
  padded 4 date.year ++ "-" ++ padded 2 date.month ++ "-" ++ padded 2 date.day ++ "T" ++
    padded 2 (time / 3600) ++ ":" ++ padded 2 (time / 60 % 60) ++ ":" ++ padded 2 (time % 60) ++
    "Z"

end ChatRelay.Text.Timestamp
