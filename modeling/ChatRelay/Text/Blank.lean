/-
# Blank characters

Chat text is cut into words at blank characters, and many values are trimmed before they
are read.  What counts as blank is the Unicode property `White_Space`, twenty-five code
points in all: the line and paragraph separators and the no-break space belong to it, the
zero-width space and the byte order mark do not.  The operations are stated on lists of
characters; `trimmed` and `words` are their forms on strings.
-/

namespace ChatRelay.Text

/-! ## The property -/

/-- The code points with the property `White_Space`, as closed ranges in increasing order. -/
def blankRanges : List (Nat × Nat) :=
  [(0x09, 0x0D), (0x20, 0x20), (0x85, 0x85), (0xA0, 0xA0), (0x1680, 0x1680), (0x2000, 0x200A),
   (0x2028, 0x2029), (0x202F, 0x202F), (0x205F, 0x205F), (0x3000, 0x3000)]

def isBlank (c : Char) : Bool :=
  blankRanges.any fun r => r.1 ≤ c.toNat && c.toNat ≤ r.2

/-! ## Trimming and cutting into words -/

/-- The text without the blanks at its start. -/
def trimStart (s : List Char) : List Char := s.dropWhile isBlank

/-- The text without the blanks at its end. -/
def trimEnd (s : List Char) : List Char := (s.reverse.dropWhile isBlank).reverse

/-- The text without the blanks at either end. -/
def trim (s : List Char) : List Char := trimEnd (trimStart s)

/-- The maximal runs of characters that are not blank, in order. -/
def splitWords (s : List Char) : List (List Char) :=
  (s.splitOnP isBlank).filter fun w => !w.isEmpty

/-- `trim` on strings. -/
def trimmed (s : String) : String := String.ofList (trim s.toList)

/-- `splitWords` on strings. -/
def words (s : String) : List String := (splitWords s.toList).map String.ofList

theorem splitWords_nil : splitWords [] = [] := by
  simp [splitWords]

end ChatRelay.Text
