/-
# String literals of JSON

The writer escapes what JSON requires and nothing else: the quote, the backslash, and the
characters below the space, of which five have an escape of one letter.  The reader takes
every escape of the format; a surrogate counts only as half of a pair.
-/
import ChatRelay.Text.Hex
import ChatRelay.Text.Utf8

namespace ChatRelay.Json

open Text (Hex.digit Hex.value? Utf8.encode Utf8.decode)

/-! ## Writing -/

/-- How a character is written between quotes. -/
def escape (c : Char) : List Char :=
  if c = '"' then ['\\', '"']
  else if c = '\\' then ['\\', '\\']
  else if c = '\x08' then ['\\', 'b']
  else if c = '\x0C' then ['\\', 'f']
  else if c = '\n' then ['\\', 'n']
  else if c = '\r' then ['\\', 'r']
  else if c = '\t' then ['\\', 't']
  else if c.toNat < 0x20 then
    ['\\', 'u', '0', '0', Hex.digit (c.toNat / 16), Hex.digit (c.toNat % 16)]
  else [c]

def quote (s : List Char) : List Char := '"' :: s.flatMap escape ++ ['"']

/-! ## Reading -/

/-- The character that an escape of one letter stands for. -/
def simpleEscape? (c : Char) : Option Char :=
  match c with
  | '"' => some '"'
  | '\\' => some '\\'
  | '/' => some '/'
  | 'b' => some '\x08'
  | 'f' => some '\x0C'
  | 'n' => some '\n'
  | 'r' => some '\r'
  | 't' => some '\t'
  | _ => none

/-- The value of four hexadecimal digits. -/
def unit? (a b c d : Char) : Option Nat :=
  match Hex.value? a, Hex.value? b, Hex.value? c, Hex.value? d with
  | some a, some b, some c, some d => some (4096 * a + 256 * b + 16 * c + d)
  | _, _, _, _ => none

/-- Whether a value is the first half of a surrogate pair. -/
def isHigh (u : Nat) : Bool := 0xD800 ≤ u && u < 0xDC00

/-- Whether a value is the second half of a surrogate pair. -/
def isLow (u : Nat) : Bool := 0xDC00 ≤ u && u < 0xE000

/-- The character of a surrogate pair. -/
def ofPair (high low : Nat) : Char :=
  Char.ofNat (0x10000 + 0x400 * (high - 0xD800) + (low - 0xDC00))

/-- Read the inside of a literal after the characters of `before`, which is in reverse. -/
def unescapeFrom (before : List Char) : List Char → Option (List Char)
  | [] => some before.reverse
  | '\\' :: 'u' :: a :: b :: c :: d :: rest =>
    match unit? a b c d with
    | none => none
    | some u =>
      if isHigh u then
        match rest with
        | '\\' :: 'u' :: a' :: b' :: c' :: d' :: rest' =>
          match unit? a' b' c' d' with
          | some v => if isLow v then unescapeFrom (ofPair u v :: before) rest' else none
          | none => none
        | _ => none
      else if isLow u then none
      else unescapeFrom (Char.ofNat u :: before) rest
  | '\\' :: c :: rest =>
    match simpleEscape? c with
    | some c => unescapeFrom (c :: before) rest
    | none => none
  | ['\\'] => none
  | c :: rest => unescapeFrom (c :: before) rest

/-- The text that the inside of a literal stands for. -/
def unescape (s : List Char) : Option (List Char) := unescapeFrom [] s

/-- The text that the bytes between two quotes stand for: they are UTF-8 with escapes. -/
def textOf? (bs : List UInt8) : Option String :=
  match Utf8.decode bs with
  | .ok s => (unescape s).map String.ofList
  | .error _ => none

end ChatRelay.Json
