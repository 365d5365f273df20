/-
# Tables in plain text

Cells stand left-aligned in columns with two blanks between them.  A column is as wide as
its longest cell, counted in characters, so that cells with other than ASCII letters stay
in line.  The headers say how many columns there are: further cells of a row are left out,
and a row may have fewer.  There is a limit to the width that cells can be filled up to, and
a table with a wider column cannot be written.
-/
import ChatRelay.Text.Blank

namespace ChatRelay

open Text

/-- Headers with rows of cells. -/
structure Table where
  headers : List String
  rows : List (List String)
deriving DecidableEq, Repr

namespace Table

/-! ## Columns -/

/-- Widen columns so that they take in the cells of one more row. -/
def widen : List Nat → List String → List Nat
  | w :: ws, c :: cs => max w c.length :: widen ws cs
  | ws, _ => ws

def widths (t : Table) : List Nat :=
  t.rows.foldl widen (t.headers.map String.length)

/-! ## Lines -/

/-- The blanks between two columns. -/
def gap : List Char := [' ', ' ']

/-- A cell filled up with blanks to a width; a longer one stays as it is. -/
def pad (width : Nat) (cell : String) : List Char := cell.toList.rightpad width ' '

/-- The cells of one row in their columns, without blanks at the end. -/
def row (widths : List Nat) (cells : List String) : List Char :=
  trimEnd (gap.intercalate (List.zipWith pad widths cells))

/-- The line under the headers. -/
def rule (widths : List Nat) : List Char :=
  gap.intercalate (widths.map fun w => List.replicate w '-')

/-- The lines of a table: the headers, the line under them, and the rows. -/
def lines (t : Table) : List String :=
  (row t.widths t.headers :: rule t.widths :: t.rows.map (row t.widths)).map String.ofList

/-- The greatest width that a cell can be filled up to. -/
def maxWidth : Nat := 65535

/-- The lines of a table that can be written. -/
def lines? (t : Table) : Option (List String) :=
  if t.widths.all fun w => w ≤ maxWidth then some t.lines else none

end Table

end ChatRelay
