/-
# Positions in a YAML text

A cursor is the text that is still to be read together with its position.  Columns decide
the structure of a YAML text, and the distance between two positions in bytes decides
whether a key may still be one, so both are kept.  There are five line breaks, of which the two
separators stay what they are and all others read as a line feed.
-/
import ChatRelay.Yaml.Error

namespace ChatRelay.Yaml

/-! ## Characters -/

def isAllowed (c : Char) : Bool :=
  c == '\t' || c == '\n' || c == '\r' || (' ' ≤ c && c ≤ '~') || c == '\u0085' ||
    ('\u00A0' ≤ c && c ≤ '\uFFFD') || 0x10000 ≤ c.toNat

def isSpace (c : Char) : Bool := c == ' ' || c == '\t'

/-- Whether a character is a line break or starts one. -/
def isBreak (c : Char) : Bool :=
  c == '\n' || c == '\r' || c == '\u0085' || c == '\u2028' || c == '\u2029'

/-- Whether a character may stand in the name of an anchor or a directive. -/
def isName (c : Char) : Bool := c.isAlphanum || c == '_' || c == '-'

/-- Whether a character has a meaning of its own inside brackets and braces. -/
def isFlowMark (c : Char) : Bool :=
  c == ',' || c == '[' || c == ']' || c == '\x7b' || c == '\x7d'

/-! ## Cursors -/

structure Cursor where
  rest : List Char
  /-- The number of bytes before the position. -/
  index : Nat
  line : Nat
  /-- The number of characters before the position on its line. -/
  column : Nat
deriving DecidableEq, Repr

namespace Cursor

def ofText (s : List Char) : Cursor := ⟨s, 0, 0, 0⟩

def mark (c : Cursor) : Mark := ⟨c.index, c.line, c.column⟩

def error (c : Cursor) (problem : String) : Error := .malformed problem c.mark none

/-- Whether a certain character stands `k` places ahead. -/
def has (c : Cursor) (k : Nat) (x : Char) : Bool := c.rest[k]? == some x

/-- Whether a character with a property stands `k` places ahead. -/
def hasSome (c : Cursor) (k : Nat) (p : Char → Bool) : Bool := (c.rest[k]?).any p

/-- Whether the text or the line ends `k` places ahead. -/
def lineEnds (c : Cursor) (k : Nat) : Bool := (c.rest[k]?).all isBreak

/-- Whether a word would end `k` places ahead: at a space, a line break or the end. -/
def wordEnds (c : Cursor) (k : Nat) : Bool := (c.rest[k]?).all fun x => isSpace x || isBreak x

/-- Whether the same character stands at the next three places. -/
def hasThree (c : Cursor) (x : Char) : Bool := c.has 0 x && c.has 1 x && c.has 2 x

/-- Whether three characters `x` stand on their own at the start of a line. -/
def hasMarker (c : Cursor) (x : Char) : Bool := c.column == 0 && c.hasThree x && c.wordEnds 3

/-- Whether a marker for the start or the end of a document stands here. -/
def hasDocumentMarker (c : Cursor) : Bool := c.hasMarker '-' || c.hasMarker '.'

def size (s : List Char) : Nat := s.foldl (fun n x => n + x.utf8Size) 0

/-- The position `n` characters ahead on the same line. -/
def advance (c : Cursor) (n : Nat) : Cursor :=
  ⟨c.rest.drop n, c.index + size (c.rest.take n), c.line, c.column + n⟩

/-- The characters ahead that have a property, none of them a line break, and the position
after them. -/
def span (c : Cursor) (p : Char → Bool) : List Char × Cursor :=
  let run := c.rest.takeWhile p
  (run, c.advance run.length)

/-- The position after the characters ahead that have a property. -/
def skip (c : Cursor) (p : Char → Bool) : Cursor := (c.span p).2

/-- The position after a byte order mark, if one starts the line here.  The mark takes a column. -/
def skipMark (c : Cursor) : Cursor :=
  if c.column == 0 && c.has 0 '\uFEFF' then c.advance 1 else c

/-- The position after the rest of the line. -/
def skipLine (c : Cursor) : Cursor := c.skip fun x => !isBreak x

/-- The position after a comment, if one starts here. -/
def skipComment (c : Cursor) : Cursor := if c.has 0 '#' then c.skipLine else c

/-- The line break that stands here, as it reads, and the position after it. -/
def lineBreak (c : Cursor) : List Char × Cursor :=
  match c.rest with
  | '\r' :: '\n' :: rest => (['\n'], ⟨rest, c.index + 2, c.line + 1, 0⟩)
  | x :: rest =>
    if isBreak x then
      ([if x = '\u2028' ∨ x = '\u2029' then x else '\n'],
        ⟨rest, c.index + x.utf8Size, c.line + 1, 0⟩)
    else ([], c)
  | [] => ([], c)

end Cursor

end ChatRelay.Yaml
