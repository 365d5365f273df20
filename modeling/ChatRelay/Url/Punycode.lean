/-
# Domain labels in ASCII

A label with other than ASCII characters is written as its ASCII characters, a dash, and
digits of base 36 that say where the other characters go: they are inserted in the order of
their code points, and each is given by its distance from the one before, counted over code
points and places together.  The number of digits adapts to the distances seen so far.
-/

namespace ChatRelay.Url.Punycode

/-! ## Digits -/

def digitChar (d : Nat) : Char :=
  if d < 26 then Char.ofNat ('a'.toNat + d) else Char.ofNat ('0'.toNat + (d - 26))

def digit? (c : Char) : Option Nat :=
  if 'a' ≤ c ∧ c ≤ 'z' then some (c.toNat - 'a'.toNat)
  else if 'A' ≤ c ∧ c ≤ 'Z' then some (c.toNat - 'A'.toNat)
  else if '0' ≤ c ∧ c ≤ '9' then some (c.toNat - '0'.toNat + 26)
  else none

/-- The least digit at a place that is not the last one; places count in steps of 36. -/
def threshold (bias place : Nat) : Nat := min 26 (max 1 (place - bias))

theorem one_le_threshold (bias place : Nat) : 1 ≤ threshold bias place := by
  unfold threshold
  omega

/-- The bias after `k` divisions of a distance that was scaled before. -/
def adaptFrom (k delta : Nat) : Nat :=
  if 455 < delta then adaptFrom (k + 36) (delta / 35) else k + 36 * delta / (delta + 38)
termination_by delta
decreasing_by omega

/-- The bias after a distance with which there are `count` characters. -/
def adapt (first : Bool) (delta count : Nat) : Nat :=
  let delta := if first then delta / 700 else delta / 2
  adaptFrom 0 (delta + delta / count)

/-- The digits of a distance from a place on, the last one below its threshold. -/
def digits (bias place delta : Nat) : List Char :=
  let t := threshold bias place
  if delta < t then [digitChar delta]
  else digitChar (t + (delta - t) % (36 - t)) :: digits bias (place + 36) ((delta - t) / (36 - t))
termination_by delta
decreasing_by
  have := one_le_threshold bias place
  have := Nat.div_le_self (delta - threshold bias place) (36 - threshold bias place)
  omega

/-! ## Writing -/

structure Writing where
  written : List Char
  /-- The distance since the last one. -/
  delta : Nat
  bias : Nat
  count : Nat
deriving DecidableEq, Repr

/-- Pass a character of the label in the search for the code point `n`. -/
def Writing.pass (basic n : Nat) (w : Writing) (c : Char) : Writing :=
  if c.toNat < n then { w with delta := w.delta + 1 }
  else if c.toNat = n then
    ⟨w.written ++ digits w.bias 36 w.delta, 0, adapt (w.count == basic) w.delta (w.count + 1),
      w.count + 1⟩
  else w

/-- Write all characters with some code points, which increase and lie from `n` on. -/
def Writing.run (label : List Char) (basic n : Nat) (w : Writing) : List Nat → Writing
  | [] => w
  | m :: rest =>
    let start := { w with delta := w.delta + (m - n) * (w.count + 1) }
    let after := label.foldl (Writing.pass basic m) start
    Writing.run label basic (m + 1) { after with delta := after.delta + 1 } rest

/-- The code points of a label above ASCII, each once, in order. -/
def extendedPoints (label : List Char) : List Nat :=
  (((label.map Char.toNat).filter (0x80 ≤ ·)).mergeSort (· ≤ ·)).eraseDups

def encode (label : List Char) : List Char :=
  let basic := label.filter fun c => c.toNat < 0x80
  let start : List Char := if basic.isEmpty then [] else basic ++ ['-']
  (Writing.run label basic.length 0x80 ⟨start, 0, 72, basic.length⟩ (extendedPoints label)).written

/-! ## Reading -/

structure Reading where
  label : List Char
  point : Nat := 0x80
  /-- The place after the last character. -/
  index : Nat := 0
  bias : Nat := 72
  /-- The place of the next digit. -/
  place : Nat := 36
  /-- The weight of the next digit. -/
  weight : Nat := 1
  delta : Nat := 0
deriving DecidableEq, Repr

/-- Insert a character, given its complete distance. -/
def Reading.insert (r : Reading) (delta : Nat) : Option Reading :=
  let count := r.label.length + 1
  let index := r.index + delta
  let point := r.point + index / count
  if point.isValidChar then
    some {
      label := r.label.insertIdx (index % count) (Char.ofNat point)
      point
      index := index % count + 1
      bias := adapt (r.index == 0) delta count }
  else none

/-- Read one more digit. -/
def Reading.push (r : Reading) (c : Char) : Option Reading := do
  let d ← digit? c
  let t := threshold r.bias r.place
  let delta := r.delta + d * r.weight
  if d < t then r.insert delta
  else return { r with place := r.place + 36, weight := r.weight * (36 - t), delta }

/-- The label of an ASCII form.  A dash at its start is not the one before the digits. -/
def decode? (s : List Char) : Option (List Char) := do
  let tail := (s.reverse.takeWhile (· != '-')).reverse
  let basic := (s.take (s.length - tail.length)).dropLast
  let digits := if basic.isEmpty then s else tail
  let r ← digits.foldlM Reading.push ⟨basic, 0x80, 0, 72, 36, 1, 0⟩
  if r.place = 36 then some r.label else none

end ChatRelay.Url.Punycode
