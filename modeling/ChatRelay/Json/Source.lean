/-
# JSON as it is written

A document is read in two passes.  The first cuts its bytes into tokens; string literals
stay as they are written, since a literal that is merely skipped need not stand for a text.
The second is a machine with a stack of the arrays and objects that are open, so that
nesting of any depth is read.  What a `Source` value stands for is asked for later, by the
typed readers, or by `keepable`, which says that all of it could be kept.
-/
import ChatRelay.Json.Number
import ChatRelay.Json.Text

namespace ChatRelay.Json

/-! ## Tokens -/

inductive Token where
  | openBrace
  | closeBrace
  | openBracket
  | closeBracket
  | colon
  | comma
  | null
  | bool (b : Bool)
  | number (n : Number)
  /-- A string literal, as the bytes between its quotes. -/
  | text (bytes : List UInt8)
deriving DecidableEq, Repr

/-- Where in a token the lexer stands. -/
inductive Place where
  | between
  /-- In a word or a number, with its characters in reverse. -/
  | word (chars : List Char)
  /-- In a string literal, with its bytes in reverse. -/
  | literal (bytes : List UInt8)
  | escape (bytes : List UInt8)
  /-- In an escape that still needs some hexadecimal digits. -/
  | digits (needed : Nat) (bytes : List UInt8)
  /-- After a byte that no document has at its place. -/
  | lost
deriving DecidableEq, Repr

/-- The lexer between two bytes: the tokens read, the last one first, and its place. -/
structure Lexer where
  /-- The tokens read so far, the last one first. -/
  tokens : List Token
  place : Place
deriving DecidableEq, Repr

def Token.ofWord? (s : List Char) : Option Token :=
  if s = ['n', 'u', 'l', 'l'] then some .null
  else if s = ['t', 'r', 'u', 'e'] then some (.bool true)
  else if s = ['f', 'a', 'l', 's', 'e'] then some (.bool false)
  else (Number.parse? s).map .number

def Token.ofMark? (c : Char) : Option Token :=
  match c with
  | '\x7b' => some .openBrace
  | '\x7d' => some .closeBrace
  | '[' => some .openBracket
  | ']' => some .closeBracket
  | ':' => some .colon
  | ',' => some .comma
  | _ => none

/-- Whether a character may stand between tokens. -/
def isSpace (c : Char) : Bool := c == ' ' || c == '\t' || c == '\n' || c == '\r'

/-- Whether a character may stand in a word or a number. -/
def isWordChar (c : Char) : Bool := c.isAlphanum || c == '+' || c == '-' || c == '.'

/-- Read a character that stands between two tokens. -/
def Lexer.start (tokens : List Token) (c : Char) : Lexer :=
  if isSpace c then ⟨tokens, .between⟩
  else if c = '"' then ⟨tokens, .literal []⟩
  else if isWordChar c then ⟨tokens, .word [c]⟩
  else
    match Token.ofMark? c with
    | some t => ⟨t :: tokens, .between⟩
    | none => ⟨tokens, .lost⟩

def Lexer.feed (l : Lexer) (b : UInt8) : Lexer :=
  let c := Char.ofNat b.toNat
  match l.place with
  | .between => Lexer.start l.tokens c
  | .word s =>
    if isWordChar c then ⟨l.tokens, .word (c :: s)⟩
    else
      match Token.ofWord? s.reverse with
      | some t => Lexer.start (t :: l.tokens) c
      | none => ⟨l.tokens, .lost⟩
  | .literal bs =>
    if c = '"' then ⟨.text bs.reverse :: l.tokens, .between⟩
    else if c = '\\' then ⟨l.tokens, .escape (b :: bs)⟩
    else if b < 0x20 then ⟨l.tokens, .lost⟩
    else ⟨l.tokens, .literal (b :: bs)⟩
  | .escape bs =>
    if c = 'u' then ⟨l.tokens, .digits 4 (b :: bs)⟩
    else if (simpleEscape? c).isSome then ⟨l.tokens, .literal (b :: bs)⟩
    else ⟨l.tokens, .lost⟩
  | .digits needed bs =>
    if (Text.Hex.value? c).isNone then ⟨l.tokens, .lost⟩
    else if needed ≤ 1 then ⟨l.tokens, .literal (b :: bs)⟩
    else ⟨l.tokens, .digits (needed - 1) (b :: bs)⟩
  | .lost => l

/-- The tokens in order, once the input has ended. -/
def Lexer.finish (l : Lexer) : Option (List Token) :=
  match l.place with
  | .between => some l.tokens.reverse
  | .word s => (Token.ofWord? s.reverse).map fun t => (t :: l.tokens).reverse
  | _ => none

def tokens? (bs : List UInt8) : Option (List Token) := (bs.foldl Lexer.feed ⟨[], .between⟩).finish

/-! ## Documents -/

/-- A document as it is written. -/
inductive Source where
  | null
  | bool (b : Bool)
  | number (n : Number)
  /-- A string literal, as the bytes between its quotes. -/
  | text (bytes : List UInt8)
  | array (items : List Source)
  /-- The members of an object, their names as the bytes between the quotes. -/
  | object (members : List (List UInt8 × Source))
deriving Repr

/-- An array or object that is open, with what it holds so far in reverse. -/
inductive Frame where
  /-- An array, inside one of its items. -/
  | array (done : List Source)
  /-- An object, inside the member of a name. -/
  | object (done : List (List UInt8 × Source)) (name : List UInt8)
deriving Repr

/-- What the reader expects, inside the arrays and objects of a stack. -/
inductive Reading where
  | value (stack : List Frame)
  /-- The first item of an array, or its end. -/
  | firstItem (stack : List Frame)
  /-- The first name of an object, or its end. -/
  | firstName (stack : List Frame)
  | name (done : List (List UInt8 × Source)) (stack : List Frame)
  | colon (done : List (List UInt8 × Source)) (name : List UInt8) (stack : List Frame)
  | after (value : Source) (stack : List Frame)
deriving Repr

def Reading.begin (stack : List Frame) : Token → Option Reading
  | .openBrace => some (.firstName stack)
  | .openBracket => some (.firstItem stack)
  | .null => some (.after .null stack)
  | .bool b => some (.after (.bool b) stack)
  | .number n => some (.after (.number n) stack)
  | .text bs => some (.after (.text bs) stack)
  | _ => none

def Reading.step (r : Reading) (t : Token) : Option Reading :=
  match r, t with
  | .value stack, t => Reading.begin stack t
  | .firstItem stack, .closeBracket => some (.after (.array []) stack)
  | .firstItem stack, t => Reading.begin (.array [] :: stack) t
  | .firstName stack, .closeBrace => some (.after (.object []) stack)
  | .firstName stack, .text k => some (.colon [] k stack)
  | .name done stack, .text k => some (.colon done k stack)
  | .colon done k stack, .colon => some (.value (.object done k :: stack))
  | .after v (.array done :: stack), .comma => some (.value (.array (v :: done) :: stack))
  | .after v (.array done :: stack), .closeBracket =>
    some (.after (.array (v :: done).reverse) stack)
  | .after v (.object done k :: stack), .comma => some (.name ((k, v) :: done) stack)
  | .after v (.object done k :: stack), .closeBrace =>
    some (.after (.object ((k, v) :: done).reverse) stack)
  | _, _ => none

/-- The document that has been read, if it is complete. -/
def Reading.result? : Reading → Option Source
  | .after v [] => some v
  | _ => none

def read? (bs : List UInt8) : Option Source := do
  let ts ← tokens? bs
  let r ← ts.foldlM Reading.step (.value [])
  r.result?

/-! ## Values that could be kept -/

/-- Whether every part of a value has a meaning of its own: literals stand for texts,
numbers are in range, and at most `depth` arrays and objects are nested. -/
def keepable : Nat → Source → Bool
  | _, .null => true
  | _, .bool _ => true
  | _, .number n => n.inRange
  | _, .text bs => (textOf? bs).isSome
  | 0, .array _ => false
  | 0, .object _ => false
  | depth + 1, .array items => items.all (keepable depth)
  | depth + 1, .object members =>
    members.all fun m => (textOf? m.1).isSome && keepable depth m.2

/-- The greatest nesting of a value that is kept. -/
def maxDepth : Nat := 127

/-- Read a document all of which is kept. -/
def readKept? (bs : List UInt8) : Option Source :=
  (read? bs).filter (keepable maxDepth)

end ChatRelay.Json
