/-
# YAML scalars

A scalar is written plain, between quotes, or as an indented block.  Outside of blocks a
single line break reads as a space and further ones stand for themselves; the characters
between two runs of text are collected as a `Gap` until it is known that text follows.
-/
import ChatRelay.Text.Hex
import ChatRelay.Yaml.Cursor

namespace ChatRelay.Yaml

/-! ## Gaps between runs of text -/

/-- What stands between two runs of text in a scalar. -/
structure Gap where
  /-- The spaces and tabs, when no line break is among them. -/
  spaces : List Char
  /-- The first line break as it reads, empty when it is escaped. -/
  first : Option (List Char)
  further : List Char
deriving DecidableEq, Repr

namespace Gap

def none : Gap := ⟨[], Option.none, []⟩

/-- What a gap reads as once text follows. -/
def text (g : Gap) : List Char :=
  match g.first with
  | Option.none => g.spaces
  | some b =>
    if b = ['\n'] then (if g.further.isEmpty then [' '] else g.further) else b ++ g.further

/-- Read on through spaces and line breaks.  After a line break a tab may not stand at a
column below `indent`.  The fuel is the number of characters left. -/
def read (indent : Int) (g : Gap) (c : Cursor) : Nat → Except Error (Gap × Cursor)
  | 0 => .ok (g, c)
  | fuel + 1 =>
    match c.rest with
    | [] => .ok (g, c)
    | x :: _ =>
      if isSpace x then
        if g.first.isSome then
          if x = '\t' && decide ((c.column : Int) < indent) then
            .error (c.error "found a tab character that violates indentation")
          else read indent g (c.advance 1) fuel
        else read indent { g with spaces := g.spaces ++ [x] } (c.advance 1) fuel
      else if isBreak x then
        let (b, c) := c.lineBreak
        match g.first with
        | Option.none => read indent ⟨[], some b, []⟩ c fuel
        | some _ => read indent { g with further := g.further ++ b } c fuel
      else .ok (g, c)

end Gap

/-! ## Plain scalars -/

/-- The number of characters, after `n` of them, that a plain scalar has before a space, a
line break or a mark that ends it. -/
def plainRun (flow : Bool) (n : Nat) : List Char → Nat
  | [] => n
  | x :: rest =>
    if isSpace x || isBreak x then n
    else if x == ':' && rest.head?.all (fun y => isSpace y || isBreak y) then n
    else if flow && x == ':' && rest.head?.any (fun y => y == '?' || isFlowMark y) then n
    else if flow && isFlowMark x then n
    else plainRun flow (n + 1) rest

/-- Whether a colon before another mark stands here. -/
def hasStrayColon (c : Cursor) : Bool :=
  c.has 0 ':' && c.hasSome 1 fun y => y == '?' || isFlowMark y

/-- A plain scalar as read so far: its text, whether a line break follows, and the position
after it. -/
structure PlainScalar where
  text : List Char
  broken : Bool
  /-- The position after the scalar and the gap behind it. -/
  after : Cursor
deriving DecidableEq, Repr

/-- Read on in a plain scalar, with the text and the gap before the position.  Outside of
brackets and braces its lines have to be indented by `indent`; inside of them a colon before
another mark is an error. -/
def readPlain (flow : Bool) (indent : Int) (text : List Char) (gap : Gap) (c : Cursor) :
    Nat → Except Error PlainScalar
  | 0 => .ok ⟨text, gap.first.isSome, c⟩
  | fuel + 1 =>
    if c.hasDocumentMarker || c.has 0 '#' then .ok ⟨text, gap.first.isSome, c⟩
    else
      let n := plainRun flow 0 c.rest
      let (text, gap) :=
        if n = 0 then (text, gap) else (text ++ gap.text ++ c.rest.take n, Gap.none)
      let c := c.advance n
      if flow && hasStrayColon c then .error (c.error "found unexpected ':'")
      else if c.hasSome 0 (fun x => isSpace x || isBreak x) then do
        let (gap, c) ← Gap.read indent gap c (c.rest.length + 1)
        if !flow && decide ((c.column : Int) < indent) then return ⟨text, gap.first.isSome, c⟩
        else readPlain flow indent text gap c fuel
      else .ok ⟨text, gap.first.isSome, c⟩

def plain (flow : Bool) (indent : Int) (c : Cursor) : Except Error PlainScalar :=
  (readPlain flow indent [] Gap.none c (c.rest.length + 1)).mapError
    (·.during "scanning a plain scalar" c.mark)

/-! ## Quoted scalars -/

/-- The character that an escape of one letter stands for. -/
def simpleEscape? (x : Char) : Option Char :=
  match x with
  | '0' => some '\x00'
  | 'a' => some '\x07'
  | 'b' => some '\x08'
  | 't' => some '\t'
  | '\t' => some '\t'
  | 'n' => some '\n'
  | 'v' => some '\x0B'
  | 'f' => some '\x0C'
  | 'r' => some '\r'
  | 'e' => some '\x1B'
  | ' ' => some ' '
  | '"' => some '"'
  | '/' => some '/'
  | '\\' => some '\\'
  | 'N' => some '\u0085'
  | '_' => some '\u00A0'
  | 'L' => some '\u2028'
  | 'P' => some '\u2029'
  | _ => none

/-- The number of digits of an escape by code point. -/
def escapeLength? (x : Char) : Option Nat :=
  match x with
  | 'x' => some 2
  | 'u' => some 4
  | 'U' => some 8
  | _ => none

/-- The character of the escape that starts with a backslash here, and the number of
characters that it takes. -/
def escape (c : Cursor) : Except Error (Char × Nat) :=
  let unknown : Error := c.error "found unknown escape character"
  match c.rest with
  | _ :: x :: rest =>
    match escapeLength? x, simpleEscape? x with
    | some n, _ =>
      let digits := rest.take n
      match if digits.length < n then none else Text.Hex.number? digits with
      | none => .error ((c.advance 2).error "did not find expected hexdecimal number")
      | some v =>
        if v.isValidChar then .ok (Char.ofNat v, n + 2)
        else .error ((c.advance 2).error "found invalid Unicode character escape code")
    | none, some y => .ok (y, 2)
    | none, none => .error unknown
  | _ => .error unknown

/-- The next run of a quoted scalar: its characters, after those of `run`, which is in
reverse, then the gap that an escaped line break begins, and the position after the run. -/
def quotedRun (single : Bool) (run : List Char) (c : Cursor) :
    Nat → Except Error (List Char × Gap × Cursor)
  | 0 => .ok (run.reverse, Gap.none, c)
  | fuel + 1 =>
    match c.rest with
    | [] => .ok (run.reverse, Gap.none, c)
    | x :: rest =>
      if isSpace x || isBreak x then .ok (run.reverse, Gap.none, c)
      else if single then
        if x = '\x27' then
          if rest.head? = some '\x27' then quotedRun single (x :: run) (c.advance 2) fuel
          else .ok (run.reverse, Gap.none, c)
        else quotedRun single (x :: run) (c.advance 1) fuel
      else if x = '"' then .ok (run.reverse, Gap.none, c)
      else if x = '\\' then
        if rest.head?.any isBreak then
          .ok (run.reverse, ⟨[], some [], []⟩, (c.advance 1).lineBreak.2)
        else do
          let (y, n) ← escape c
          quotedRun single (y :: run) (c.advance n) fuel
      else quotedRun single (x :: run) (c.advance 1) fuel

/-- Read on in a quoted scalar, with the text before the position, to behind the quote.  An
error of an escape has a course of its own. -/
def readQuoted (single : Bool) (start : Mark) (text : List Char) (c : Cursor) :
    Nat → Except Error (List Char × Cursor)
  | 0 => .error (c.error "found unexpected end of stream")
  | fuel + 1 =>
    if c.hasDocumentMarker then .error (c.error "found unexpected document indicator")
    else if c.rest.isEmpty then .error (c.error "found unexpected end of stream")
    else do
      let (run, gap, c) ← (quotedRun single [] c (c.rest.length + 1)).mapError
        (·.during "parsing a quoted scalar" start)
      let text := text ++ run
      if c.has 0 (if single then '\x27' else '"') then return (text, c.advance 1)
      else
        let (gap, c) ← Gap.read 0 gap c (c.rest.length + 1)
        readQuoted single start (text ++ gap.text) c fuel

/-- Read a quoted scalar from its opening quote on. -/
def quoted (single : Bool) (c : Cursor) : Except Error (List Char × Cursor) :=
  (readQuoted single c.mark [] (c.advance 1) (c.rest.length + 1)).mapError
    (·.during "scanning a quoted scalar" c.mark)

/-! ## Block scalars -/

/-- What becomes of the line breaks at the end of a block. -/
inductive Chomping where
  | strip
  /-- The first one stays. -/
  | clip
  | keep
deriving DecidableEq, Repr

/-- The chomping mark that stands here, and the position after it. -/
def chompingMark? (c : Cursor) : Option (Chomping × Cursor) :=
  if c.has 0 '+' then some (.keep, c.advance 1)
  else if c.has 0 '-' then some (.strip, c.advance 1)
  else none

/-- The indentation digit that stands here, zero when there is none, and the position after
it.  The digit zero is an error. -/
def indentMark (c : Cursor) : Except Error (Nat × Cursor) :=
  match c.rest with
  | x :: _ =>
    if x = '0' then .error (c.error "found an indentation indicator equal to 0")
    else if x.isDigit then .ok (x.toNat - '0'.toNat, c.advance 1)
    else .ok (0, c)
  | [] => .ok (0, c)

/-- The two marks behind the bar or the angle of a block, in either order. -/
def blockMarks (c : Cursor) : Except Error (Chomping × Nat × Cursor) :=
  match chompingMark? c with
  | some (chomping, c) => (indentMark c).map fun r => (chomping, r.1, r.2)
  | none => do
    let (n, c) ← indentMark c
    if n = 0 then return (.clip, 0, c)
    else
      let (chomping, c) := (chompingMark? c).getD (.clip, c)
      return (chomping, n, c)

/-- Skip the indentation of the lines ahead and collect the line breaks of the empty ones.
While the indentation of the block is not known (zero), it skips all spaces and returns the
greatest column seen. -/
def blockBreaks (indent greatest : Nat) (breaks : List Char) (c : Cursor) :
    Nat → Except Error (Nat × List Char × Cursor)
  | 0 => .ok (greatest, breaks, c)
  | fuel + 1 =>
    let spaces := (c.rest.takeWhile (· == ' ')).length
    let c := c.advance (if indent = 0 then spaces else min spaces (indent - c.column))
    let greatest := max greatest c.column
    if (indent = 0 || c.column < indent) && c.has 0 '\t' then
      .error (c.error "found a tab character where an indentation space is expected")
    else if c.hasSome 0 isBreak then
      let (b, c) := c.lineBreak
      blockBreaks indent greatest (breaks ++ b) c fuel
    else .ok (greatest, breaks, c)

/-- A block while it is read: its text, the line break behind its last line, the breaks of
the empty lines after that, and whether the last line starts with a space. -/
structure Block where
  text : List Char
  /-- The line break behind the last line. -/
  last : List Char
  /-- The line breaks of the empty lines after the last line. -/
  empty : List Char
  spaced : Bool
deriving DecidableEq, Repr

/-- The text of a block when a further line follows.  In a folded block, a line break
between two lines that start with no space reads as a space, or as nothing before empty
lines. -/
def Block.join (literal spaced : Bool) (b : Block) : List Char :=
  if !literal && b.last.head? == some '\n' && !b.spaced && !spaced then
    b.text ++ (if b.empty.isEmpty then [' '] else []) ++ b.empty
  else b.text ++ b.last ++ b.empty

/-- Read the lines of a block that have the indentation `indent`. -/
def blockLines (literal : Bool) (indent : Nat) (b : Block) (c : Cursor) :
    Nat → Except Error (Block × Cursor)
  | 0 => .ok (b, c)
  | fuel + 1 =>
    if c.column = indent && !c.rest.isEmpty then do
      let spaced := c.hasSome 0 isSpace
      let (line, c) := c.span fun x => !isBreak x
      let (last, c) := c.lineBreak
      let (_, empty, c) ← blockBreaks indent 0 [] c (c.rest.length + 1)
      blockLines literal indent ⟨b.join literal spaced ++ line, last, empty, spaced⟩ c fuel
    else .ok (b, c)

/-- The text of a block after chomping. -/
def Block.chomp (chomping : Chomping) (b : Block) : List Char :=
  match chomping with
  | .strip => b.text
  | .clip => b.text ++ b.last
  | .keep => b.text ++ b.last ++ b.empty

/-- Read a block behind its bar or angle, inside a collection indented by `parent`. -/
def readBlock (literal : Bool) (parent : Int) (c : Cursor) : Except Error (List Char × Cursor) := do
  let (chomping, increment, c) ← blockMarks c
  let c := (c.skip isSpace).skipComment
  if !c.lineEnds 0 then .error (c.error "did not find expected comment or line break")
  else
    let c := c.lineBreak.2
    let given := if increment = 0 then 0 else (max parent 0).toNat + increment
    let (greatest, empty, c) ← blockBreaks given 0 [] c (c.rest.length + 1)
    let indent := if given = 0 then max greatest (max (parent + 1) 1).toNat else given
    let (b, c) ← blockLines literal indent ⟨[], [], empty, false⟩ c (c.rest.length + 1)
    return (b.chomp chomping, c)

/-- Read a block from its bar or angle on. -/
def block (literal : Bool) (parent : Int) (c : Cursor) : Except Error (List Char × Cursor) :=
  (readBlock literal parent (c.advance 1)).mapError (·.during "scanning a block scalar" c.mark)

end ChatRelay.Yaml
