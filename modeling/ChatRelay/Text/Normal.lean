/-
# The normal form of a text

Texts that look alike may be written in more than one way: a letter with a mark on it is one
character, or two.  In the normal form every character is taken apart first, then marks on
one letter are put in order, and then all that can be written as one character is.
-/
import ChatRelay.Text.Canonical

namespace ChatRelay.Text.Normal

/-! ## Hangul syllables -/

def firstSyllable : Nat := 0xAC00

def syllableCount : Nat := 11172

/-- The code point before the first final letter. -/
def finalBase : Nat := 0x11A7

/-- The letters of a syllable. -/
def letters? (n : Nat) : Option (List Nat) :=
  if firstSyllable ≤ n ∧ n < firstSyllable + syllableCount then
    let i := n - firstSyllable
    let final := i % 28
    some ([0x1100 + i / 588, 0x1161 + i % 588 / 28] ++
      (if final = 0 then [] else [finalBase + final]))
  else none

/-- The syllable of two letters, or of a syllable and a final letter. -/
def syllable? (a b : Nat) : Option Nat :=
  if 0x1100 ≤ a ∧ a < 0x1113 ∧ 0x1161 ≤ b ∧ b < 0x1176 then
    some (firstSyllable + ((a - 0x1100) * 21 + (b - 0x1161)) * 28)
  else if firstSyllable ≤ a ∧ a < firstSyllable + syllableCount ∧ (a - firstSyllable) % 28 = 0 ∧
      finalBase < b ∧ b < finalBase + 28 then
    some (a + (b - finalBase))
  else none

/-! ## Taking apart -/

/-- What a code point stands for, if it can be taken apart. -/
def parts? (n : Nat) : Option (List Nat) :=
  match letters? n with
  | some ns => some ns
  | none =>
    (decompositions.find? fun d => d.range.has n).map fun d =>
      d.parts.map fun p => p + (n - d.range.first)

/-- The greatest number of times that a character is taken apart. -/
def maxDepth : Nat := 4

/-- What a code point stands for when all is taken apart, as often as the fuel allows. -/
def expand : Nat → Nat → List Nat
  | 0, n => [n]
  | fuel + 1, n =>
    match parts? n with
    | some ns => ns.flatMap (expand fuel)
    | none => [n]

/-- Put a character in its place among the marks at the end of a text in reverse: before
those of a higher class. -/
def insert (c : Char) : List Char → List Char
  | [] => [c]
  | d :: before =>
    if combiningClass c ≠ 0 ∧ combiningClass c < combiningClass d then d :: insert c before
    else c :: d :: before

/-- A text with all its characters taken apart and the marks in order. -/
def decompose (s : List Char) : List Char :=
  ((s.flatMap fun c => (expand maxDepth c.toNat).map Char.ofNat).foldl (fun r c => insert c r)
    []).reverse

/-! ## Putting together -/

/-- The character that a pair is written as. -/
def pair? (a b : Char) : Option Char :=
  match syllable? a.toNat b.toNat with
  | some n => some (Char.ofNat n)
  | none =>
    (decompositions.find? fun d => d.composes && d.parts == [a.toNat, b.toNat]).map fun d =>
      Char.ofNat d.range.first

/-- A text while it is put together: what is done, in reverse, the last letter, and the marks
on it, in reverse. -/
structure Writing where
  /-- The text before the last letter, in reverse. -/
  done : List Char
  /-- The last letter, unless there are only marks so far. -/
  letter : Option Char
  /-- The characters after it, in reverse. -/
  marks : List Char
deriving DecidableEq, Repr

namespace Writing

/-- Whether nothing stands between the last letter and a character that comes next. -/
def reaches (w : Writing) (c : Char) : Bool :=
  w.marks.head?.all fun m => combiningClass m < combiningClass c

/-- The text in reverse. -/
def reversed (w : Writing) : List Char := w.marks ++ w.letter.toList ++ w.done

def push (w : Writing) (c : Char) : Writing :=
  match if w.reaches c then w.letter.bind (pair? · c) else none with
  | some x => { w with letter := some x }
  | none =>
    if combiningClass c = 0 then ⟨w.reversed, some c, []⟩ else { w with marks := c :: w.marks }

end Writing

/-- A text with all written as one character that can be. -/
def compose (s : List Char) : List Char := (s.foldl Writing.push ⟨[], none, []⟩).reversed.reverse

/-- The normal form of a text. -/
def form (s : List Char) : List Char :=
  if s.all fun c => c.toNat < 0x80 then s else compose (decompose s)

end ChatRelay.Text.Normal
