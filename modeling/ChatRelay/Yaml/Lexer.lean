/-
# Reading YAML tokens

The lexer keeps the indentation of the open block collections and, for each level of
brackets and braces, the token that may turn out to be a key: a key is known only when the
colon after it is seen.  Such a token has to be on one line and at most 1024 bytes long,
and where the indentation leaves no other choice it is an error if it is not a key.  The first
error of the text ends the reading; the tokens before it are known, up to one that might
still have been a key.
-/
import ChatRelay.Yaml.Scalar
import ChatRelay.Yaml.Token

namespace ChatRelay.Yaml

/-! ## Directives -/

def maxVersionDigits : Nat := 9

def readVersionNumber (c : Cursor) : Except Error (Nat × Cursor) :=
  let (digits, after) := c.span Char.isDigit
  if maxVersionDigits < digits.length then
    .error ((c.advance maxVersionDigits).error "found extremely long version number")
  else if digits.isEmpty then .error (c.error "did not find expected version number")
  else .ok (Nat.ofDigitChars 10 digits 0, after)

/-- A version: two numbers with a point between them. -/
def readVersion (c : Cursor) : Except Error (Token × Cursor) := do
  let (major, c) ← readVersionNumber c
  if !c.has 0 '.' then .error (c.error "did not find expected digit or '.' character")
  else
    let (minor, c) ← readVersionNumber (c.advance 1)
    return (.versionDirective major minor, c)

/-- A tag handle: an exclamation mark, possibly a name, and a second exclamation mark if
there is one. -/
def readTagHandle (c : Cursor) : Except Error (List Char × Cursor) :=
  if !c.has 0 '!' then .error (c.error "did not find expected '!'")
  else
    let (name, c) := (c.advance 1).span isName
    if c.has 0 '!' then .ok ('!' :: name ++ ['!'], c.advance 1) else .ok ('!' :: name, c)

/-- Whether a tag handle is complete: a name in it stands between exclamation marks. -/
def isCompleteHandle (handle : List Char) : Bool :=
  handle.length == 1 || handle.getLast? == some '!'

/-- Whether a character may stand in a tag; commas and brackets may do so only in complete
tags and in directives. -/
def isTagChar (complete : Bool) (x : Char) : Bool :=
  isName x || x ∈ [';', '/', '?', ':', '@', '&', '=', '+', '$', '.', '%', '!', '~', '*', '\x27',
    '(', ')'] || (complete && (x == ',' || x == '[' || x == ']'))

def tagEscape (c : Cursor) : Except Error UInt8 :=
  let unescaped : Error := c.error "did not find URI escaped octet"
  match c.rest with
  | '%' :: h :: l :: _ =>
    match Text.Hex.byte? h l with
    | some b => .ok b
    | none => .error unescaped
  | _ => .error unescaped

/-- The number of bytes of a character that starts with a byte. -/
def octets? (b : UInt8) : Option Nat :=
  if b < 0x80 then some 1
  else if b < 0xC0 then none
  else if b < 0xE0 then some 2
  else if b < 0xF0 then some 3
  else if b < 0xF8 then some 4
  else none

/-- The escapes of one character: the first byte decides how many have to follow. -/
def tagEscapes (c : Cursor) : Except Error (List UInt8 × Cursor) := do
  let first ← tagEscape c
  match octets? first with
  | none => .error (c.error "found an incorrect leading UTF-8 octet")
  | some n =>
    let more (acc : List UInt8 × Cursor) (_ : Nat) : Except Error (List UInt8 × Cursor) := do
      let b ← tagEscape acc.2
      if b &&& 0xC0 = 0x80 then return (acc.1 ++ [b], acc.2.advance 3)
      else .error (acc.2.error "found an incorrect trailing UTF-8 octet")
    (List.range (n - 1)).foldlM more ([first], c.advance 3)

/-- The characters of a tag after the bytes of `before`. -/
def readTagText (complete : Bool) (before : List UInt8) (c : Cursor) :
    Nat → Except Error (List UInt8 × Cursor)
  | 0 => .ok (before, c)
  | fuel + 1 =>
    match c.rest with
    | [] => .ok (before, c)
    | x :: _ =>
      if !isTagChar complete x then .ok (before, c)
      else if x = '%' then do
        let (bs, c) ← tagEscapes c
        readTagText complete (before ++ bs) c fuel
      else readTagText complete (before ++ [UInt8.ofNat x.toNat]) (c.advance 1) fuel

/-- The text of a tag, at least one character. -/
def readTagUri (complete : Bool) (c : Cursor) : Except Error (List UInt8 × Cursor) := do
  let (bs, c) ← readTagText complete [] c (c.rest.length + 1)
  if bs.isEmpty then .error (c.error "did not find expected tag URI") else return (bs, c)

/-- The bytes of a part of a tag that count: a zero byte ends them. -/
def tagPart (bs : List UInt8) : List UInt8 := bs.takeWhile (· != 0)

/-- The meaning of a tag handle: the handle, blanks, and the start of the tags. -/
def readTagMeaning (start : Mark) (c : Cursor) : Except Error (Token × Cursor) := do
  let (handle, c) ← (readTagHandle c).mapError (·.during "scanning a tag directive" start)
  if !isCompleteHandle handle then
    .error ((c.error "did not find expected '!'").during "parsing a tag directive" start)
  else if !c.hasSome 0 isSpace then .error (c.error "did not find expected whitespace")
  else
    let (meaning, c) ← (readTagUri true (c.skip isSpace)).mapError
      (·.during "parsing a %TAG directive" start)
    if !c.wordEnds 0 then .error (c.error "did not find expected whitespace or line break")
    else return (.tagDirective handle meaning, c)

/-- What follows the percent sign of a directive. -/
def readDirectiveBody (start : Mark) (c : Cursor) : Except Error (Token × Cursor) := do
  let (name, c) := c.span isName
  if name.isEmpty then .error (c.error "could not find expected directive name")
  else if !c.wordEnds 0 then .error (c.error "found unexpected non-alphabetical character")
  else
    let (token, c) ←
      if name = ['Y', 'A', 'M', 'L'] then
        (readVersion (c.skip isSpace)).mapError (·.during "scanning a %YAML directive" start)
      else if name = ['T', 'A', 'G'] then
        (readTagMeaning start (c.skip isSpace)).mapError
          (·.during "scanning a %TAG directive" start)
      else .error (c.error "found unknown directive name")
    let c := (c.skip isSpace).skipComment
    if !c.lineEnds 0 then .error (c.error "did not find expected comment or line break")
    else return (token, c.lineBreak.2)

/-- A directive, from its percent sign on. -/
def readDirective (c : Cursor) : Except Error (Token × Cursor) :=
  (readDirectiveBody c.mark (c.advance 1)).mapError (·.during "scanning a directive" c.mark)

/-! ## Anchors and tags -/

/-- The name of an anchor or of a reference, behind the mark for it. -/
def readAnchorName (c : Cursor) : Except Error (List Char × Cursor) :=
  let (name, c) := c.span isName
  let ends :=
    c.wordEnds 0 || c.hasSome 0 (· ∈ ['?', ':', ',', ']', '\x7d', '%', '@', '\x60'])
  if name.isEmpty || !ends then
    .error (c.error "did not find expected alphabetic or numeric character")
  else .ok (name, c)

/-- An anchor, from the mark before it on. -/
def readAnchor (c : Cursor) : Except Error (Token × Cursor) :=
  match readAnchorName (c.advance 1) with
  | .ok (name, after) => .ok (.anchor name, after)
  | .error e => .error (e.during "scanning an anchor" c.mark)

/-- A reference, from the mark before it on. -/
def readAlias (c : Cursor) : Except Error (Token × Cursor) :=
  match readAnchorName (c.advance 1) with
  | .ok (name, after) => .ok (.alias name, after)
  | .error e => .error (e.during "scanning an alias" c.mark)

/-- The parts of a tag, from its exclamation mark on. -/
def readTagParts (start : Mark) (c : Cursor) : Except Error (Token × Cursor) := do
  let uri (read : Except Error (List UInt8 × Cursor)) : Except Error (List UInt8 × Cursor) :=
    read.mapError (·.during "parsing a tag" start)
  if c.has 1 '<' then
    let (bs, c) ← uri (readTagUri true (c.advance 2))
    if !c.has 0 '>' then .error (c.error "did not find the expected '>'")
    else return (.tag [] bs, c.advance 1)
  else
    let (handle, c) ← readTagHandle c
    if 2 ≤ handle.length && handle.getLast? == some '!' then
      let (suffix, c) ← uri (readTagUri false c)
      return (.tag handle suffix, c)
    else
      let name := (handle.drop 1).map fun x => UInt8.ofNat x.toNat
      let (suffix, c) ← uri (readTagText false name c (c.rest.length + 1))
      return (if (tagPart suffix).isEmpty then .tag [] [0x21] else .tag ['!'] suffix, c)

/-- A tag, from its exclamation mark on. -/
def readTag (flow : Bool) (c : Cursor) : Except Error (Token × Cursor) :=
  let tag : Except Error (Token × Cursor) := do
    let (token, c) ← readTagParts c.mark c
    if (flow && c.has 0 ',') || c.wordEnds 0 then return (token, c)
    else .error (c.error "did not find expected whitespace or line break")
  tag.mapError (·.during "scanning a tag" c.mark)

/-! ## The state of the lexer -/

/-- A token that may turn out to start a key. -/
structure KeyStart where
  required : Bool
  /-- The number of tokens before it. -/
  tokens : Nat
  mark : Mark
deriving DecidableEq, Repr

/-- The error that a candidate has to be a key and is none. -/
def KeyStart.error (k : KeyStart) (c : Cursor) : Error :=
  (c.error "could not find expected ':'").during "scanning a simple key" k.mark

/-- The lexer between two tokens. -/
structure Lexer where
  cursor : Cursor
  tokens : Array PlacedToken
  /-- The column of the innermost open block collection, or minus one. -/
  indent : Int
  indents : List Int
  keyAllowed : Bool
  /-- The token of the current level that may start a key. -/
  candidate : Option KeyStart
  /-- The same for the levels of brackets and braces around the current one. -/
  outer : List (Option KeyStart)
deriving DecidableEq, Repr

namespace Lexer

def ofText (s : List Char) : Lexer := ⟨Cursor.ofText s, #[], -1, [], true, none, []⟩

def inFlow (l : Lexer) : Bool := !l.outer.isEmpty

/-- Add a token that starts here. -/
def push (l : Lexer) (t : Token) : Lexer :=
  { l with tokens := l.tokens.push ⟨t, l.cursor.mark⟩ }

/-- Add a token for the next `n` characters. -/
def take (l : Lexer) (n : Nat) (t : Token) : Lexer :=
  { l.push t with cursor := l.cursor.advance n }

/-! ## Keys -/

/-- The longest distance between the start of a key and the colon after it, in bytes. -/
def maxKeyLength : Nat := 1024

/-- Give up a candidate whose line has ended or which is too long. -/
def freshen (c : Cursor) : Option KeyStart → Except Error (Option KeyStart)
  | none => .ok none
  | some k =>
    if k.mark.line < c.line || k.mark.index + maxKeyLength < c.index then
      if k.required then .error (k.error c) else .ok none
    else .ok (some k)

/-- Give up the candidates of all levels that can no longer be keys. -/
def dropStale (l : Lexer) : Except Error Lexer := do
  let outer ← l.outer.mapM (freshen l.cursor)
  let candidate ← freshen l.cursor l.candidate
  return { l with candidate, outer }

def dropCandidate (l : Lexer) : Except Error Lexer :=
  match l.candidate with
  | none => .ok l
  | some k => if k.required then .error (k.error l.cursor) else .ok { l with candidate := none }

/-- Make the next token a candidate, if a key may start here. -/
def saveCandidate (l : Lexer) : Except Error Lexer :=
  if l.keyAllowed then do
    let l ← l.dropCandidate
    let required := !l.inFlow && decide (l.indent = (l.cursor.column : Int))
    return { l with candidate := some ⟨required, l.tokens.size, l.cursor.mark⟩ }
  else .ok l

/-- The number of tokens that no key can be put before any more. -/
def settled (l : Lexer) : Nat :=
  (l.candidate :: l.outer).foldl (fun n k => k.elim n fun k => min n k.tokens) l.tokens.size

/-! ## Indentation -/

/-- Open a block collection at the column of a mark, unless one is open there, with its token
after the first `position` ones. -/
def openBlock (l : Lexer) (mark : Mark) (position : Nat) (t : Token) : Lexer :=
  if !l.inFlow && decide (l.indent < mark.column) then
    { l with
      indents := l.indent :: l.indents
      indent := mark.column
      tokens := l.tokens.insertIdxIfInBounds position ⟨t, mark⟩ }
  else l

/-- Close the block collections at columns greater than a given one. -/
def closeBlocks (column : Int) (l : Lexer) : List Int → Lexer
  | [] => l
  | i :: rest =>
    if column < l.indent then
      closeBlocks column { l.push .blockEnd with indent := i, indents := rest } rest
    else l

/-- Close the block collections at columns greater than a given one, outside of brackets and
braces. -/
def dedent (l : Lexer) (column : Int) : Lexer :=
  if l.inFlow then l else closeBlocks column l l.indents

/-! ## Tokens -/

/-- Skip spaces, comments and line breaks.  A tab may stand only where no key may start. -/
def skipGap (l : Lexer) : Nat → Lexer
  | 0 => l
  | fuel + 1 =>
    let tabs := l.inFlow || !l.keyAllowed
    let c := (l.cursor.skipMark.skip fun x => x == ' ' || (tabs && x == '\t')).skipComment
    if c.hasSome 0 isBreak then
      skipGap { l with cursor := c.lineBreak.2, keyAllowed := l.keyAllowed || !l.inFlow } fuel
    else { l with cursor := c }

/-- A directive, or a marker for the start or the end of a document. -/
def separator (l : Lexer) : Except Error Lexer :=
  ((l.dedent (-1)).dropCandidate).map fun l => { l with keyAllowed := false }

def openFlow (l : Lexer) (t : Token) : Except Error Lexer := do
  let l ← l.saveCandidate
  return { l.take 1 t with outer := l.candidate :: l.outer, candidate := none, keyAllowed := true }

def closeFlow (l : Lexer) (t : Token) : Except Error Lexer := do
  let l ← l.dropCandidate
  let l := { l.take 1 t with keyAllowed := false }
  match l.outer with
  | [] => return l
  | k :: rest => return { l with candidate := k, outer := rest }

def flowEntry (l : Lexer) : Except Error Lexer :=
  l.dropCandidate.map fun l => { l.take 1 .flowEntry with keyAllowed := true }

def blockEntry (l : Lexer) : Except Error Lexer :=
  if !l.inFlow && !l.keyAllowed then
    .error (l.cursor.error "block sequence entries are not allowed in this context")
  else do
    let l ← (l.openBlock l.cursor.mark l.tokens.size .blockSequenceStart).dropCandidate
    return { l.take 1 .blockEntry with keyAllowed := true }

def explicitKey (l : Lexer) : Except Error Lexer :=
  if !l.inFlow && !l.keyAllowed then
    .error (l.cursor.error "mapping keys are not allowed in this context")
  else do
    let l ← (l.openBlock l.cursor.mark l.tokens.size .blockMappingStart).dropCandidate
    return { l.take 1 .key with keyAllowed := !l.inFlow }

/-- The colon before a value: the candidate turns out to be a key. -/
def value (l : Lexer) : Except Error Lexer :=
  match l.candidate with
  | some k =>
    let l := { l with
      tokens := l.tokens.insertIdxIfInBounds k.tokens ⟨.key, k.mark⟩
      candidate := none
      keyAllowed := false }
    .ok ((l.openBlock k.mark k.tokens .blockMappingStart).take 1 .value)
  | none =>
    if !l.inFlow && !l.keyAllowed then
      .error (l.cursor.error "mapping values are not allowed in this context")
    else
      let l := l.openBlock l.cursor.mark l.tokens.size .blockMappingStart
      .ok { l.take 1 .value with keyAllowed := !l.inFlow }

/-- A token that is a node or part of one, at a place where a key may start. -/
def content (l : Lexer) (read : Cursor → Except Error (Token × Cursor)) : Except Error Lexer := do
  let l ← l.saveCandidate
  let (t, c) ← read l.cursor
  return { l.push t with cursor := c, keyAllowed := false }

def quotedScalar (l : Lexer) (single : Bool) : Except Error Lexer :=
  l.content fun c => (quoted single c).map fun r => (.scalar r.1 .other, r.2)

/-- A plain scalar: a key may start after it if its last line has ended. -/
def plainScalar (l : Lexer) : Except Error Lexer := do
  let l ← l.saveCandidate
  let s ← plain l.inFlow (l.indent + 1) l.cursor
  return { l.push (.scalar s.text .plain) with cursor := s.after, keyAllowed := s.broken }

/-- A scalar written as a block. -/
def blockScalar (l : Lexer) (literal : Bool) : Except Error Lexer := do
  let l ← l.dropCandidate
  let (s, c) ← block literal l.indent l.cursor
  let style := if literal then ScalarStyle.literal else ScalarStyle.other
  return { l.push (.scalar s style) with cursor := c, keyAllowed := true }

/-- Whether a plain scalar may start with a character, which neither ends a word nor is one
of the marks. -/
def startsPlain (l : Lexer) (x : Char) : Bool :=
  let c := l.cursor
  let mark := isFlowMark x || x ∈ ['-', '?', ':', '#', '&', '*', '!', '|', '>', '\x27', '"', '%',
    '@', '\x60']
  !(isSpace x || isBreak x || mark) || (x == '-' && !c.hasSome 1 isSpace) ||
    (!l.inFlow && (x == '?' || x == ':') && !c.wordEnds 1)

/-- Read the token that starts with a character at the position. -/
def token (l : Lexer) (x : Char) : Except Error Lexer :=
  let c := l.cursor
  let spaced := l.inFlow || c.wordEnds 1
  if c.column = 0 && x == '%' then do
    let l ← l.separator
    let (t, c) ← readDirective l.cursor
    return { l.push t with cursor := c }
  else if c.hasMarker '-' then l.separator.map (·.take 3 .documentStart)
  else if c.hasMarker '.' then l.separator.map (·.take 3 .documentEnd)
  else if x = '[' then l.openFlow .flowSequenceStart
  else if x = '\x7b' then l.openFlow .flowMappingStart
  else if x = ']' then l.closeFlow .flowSequenceEnd
  else if x = '\x7d' then l.closeFlow .flowMappingEnd
  else if x = ',' then l.flowEntry
  else if x = '-' && c.wordEnds 1 then l.blockEntry
  else if x = '?' && spaced then l.explicitKey
  else if x = ':' && spaced then l.value
  else if x = '*' then l.content readAlias
  else if x = '&' then l.content readAnchor
  else if x = '!' then l.content (readTag l.inFlow)
  else if x = '|' && !l.inFlow then l.blockScalar true
  else if x = '>' && !l.inFlow then l.blockScalar false
  else if x = '\x27' then l.quotedScalar true
  else if x = '"' then l.quotedScalar false
  else if l.startsPlain x then l.plainScalar
  else
    .error ((c.error "found character that cannot start any token").during
      "scanning for the next token" c.mark)

/-- Go on to the next token, and close the blocks that end before it. -/
def approach (l : Lexer) : Except Error Lexer := do
  let l ← (l.skipGap (l.cursor.rest.length + 1)).dropStale
  return l.dedent l.cursor.column

/-- Go on to the line after the text and close all blocks. -/
def finish (l : Lexer) : Except Error Lexer :=
  let c := l.cursor
  let c := if c.column = 0 then c else { c with line := c.line + 1, column := 0 }
  ({ l with cursor := c }.dedent (-1)).dropCandidate

/-- The tokens when reading ends. -/
def result (l : Lexer) (error : Option Error) : Tokens :=
  let known := if error.isSome then l.tokens.toList.take l.settled else l.tokens.toList
  ⟨known, l.cursor.mark, error⟩

/-- Read the tokens up to the end of the text. -/
def run (l : Lexer) : Nat → Tokens
  | 0 => l.result none
  | fuel + 1 =>
    match l.dropStale with
    | .error e => l.result (some e)
    | .ok l =>
      match l.approach with
      | .error e => l.result (some e)
      | .ok next =>
        match next.cursor.rest with
        | [] =>
          match next.finish with
          | .error e => l.result (some e)
          | .ok next => next.result none
        | x :: _ =>
          match next.token x with
          | .error e => l.result (some e)
          | .ok next => next.run fuel

end Lexer

def Tokens.ofText (s : List Char) : Tokens :=
  match s.dropWhile isAllowed with
  | [] => (Lexer.ofText s).run (s.length + 1)
  | _ => ⟨[], Mark.origin, some (.forbidden (Cursor.size (s.takeWhile isAllowed)))⟩

end ChatRelay.Yaml
