/-
# Sets of code points

Properties of characters beyond ASCII are tables of code points.  A table is written as a
text of closed ranges in hexadecimal, apart by blanks, and read once into a list.
-/
import ChatRelay.Text.Blank
import ChatRelay.Text.Hex

namespace ChatRelay.Text

/-! ## Ranges -/

/-- A closed range of code points. -/
structure CodeRange where
  first : Nat
  last : Nat
deriving DecidableEq, Repr

namespace CodeRange

def has (r : CodeRange) (n : Nat) : Bool := r.first ≤ n && n ≤ r.last

/-- Read a range: two hexadecimal numbers with a dash between them, or one number for both. -/
def ofText? (s : List Char) : Option CodeRange := do
  let first ← Hex.number? (s.takeWhile (· != '-'))
  match s.dropWhile (· != '-') with
  | [] => return ⟨first, first⟩
  | _ :: last => return ⟨first, ← Hex.number? last⟩

end CodeRange

/-! ## Sets -/

/-- A set of code points, as ranges in increasing order. -/
structure CodeSet where
  ranges : List CodeRange
deriving DecidableEq, Repr

namespace CodeSet

/-- The set that a text of ranges stands for. -/
def ofText (s : String) : CodeSet := ⟨(splitWords s.toList).filterMap CodeRange.ofText?⟩

def has (s : CodeSet) (c : Char) : Bool := s.ranges.any fun r => r.has c.toNat

end CodeSet

end ChatRelay.Text
