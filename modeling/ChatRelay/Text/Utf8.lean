/-
# UTF-8

Encoding of characters as bytes, and decoding as a reader that takes one byte at a time.
The reader cuts any byte sequence into pieces: whole characters, maximal faulty sequences,
and possibly a character that the input breaks off.  The strict decoder refuses the first
piece that is not a character and says where it starts; the lenient one puts U+FFFD in the
place of each such piece.
-/

namespace ChatRelay.Text.Utf8

/-! ## Encoding -/

def encode (cs : List Char) : List UInt8 := cs.flatMap String.utf8EncodeChar

def bytes (s : String) : List UInt8 := encode s.toList

theorem encode_append (a b : List Char) : encode (a ++ b) = encode a ++ encode b := by
  simp [encode]

/-! ## Reading byte by byte -/

/-- A stretch of bytes as the reader sees it. -/
inductive Piece where
  | char (c : Char)
  /-- A maximal faulty sequence of `size` bytes. -/
  | bad (size : Nat)
  /-- The first `size` bytes of a character that the input breaks off. -/
  | cut (size : Nat)
deriving DecidableEq, Repr

def Piece.size : Piece → Nat
  | char c => (String.utf8EncodeChar c).length
  | bad n => n
  | cut n => n

/-- A character of which some bytes have been read. -/
structure Partial where
  /-- How many bytes are still to come, at least one. -/
  needed : Nat
  /-- The least value allowed for the next byte. -/
  low : UInt8
  high : UInt8
  point : Nat
  seen : Nat
deriving DecidableEq, Repr

/-- The reader between two bytes: the pieces read so far, the last one first, and the
character that is being read. -/
structure Reader where
  /-- The pieces read so far, the last one first. -/
  pieces : List Piece
  pending : Option Partial
deriving DecidableEq, Repr

/-- Read a byte that starts a new piece.  The second byte of a character is confined so
that no character has two encodings, surrogates have none, and U+10FFFF is the last. -/
def Reader.start (pieces : List Piece) (b : UInt8) : Reader :=
  let await (needed : Nat) (low high : UInt8) (point : Nat) : Reader :=
    ⟨pieces, some ⟨needed, low, high, point, 1⟩⟩
  if b < 0x80 then ⟨.char (Char.ofNat b.toNat) :: pieces, none⟩
  else if b < 0xC2 then ⟨.bad 1 :: pieces, none⟩
  else if b < 0xE0 then await 1 0x80 0xBF (b.toNat - 0xC0)
  else if b < 0xF0 then
    await 2 (if b = 0xE0 then 0xA0 else 0x80) (if b = 0xED then 0x9F else 0xBF) (b.toNat - 0xE0)
  else if b < 0xF5 then
    await 3 (if b = 0xF0 then 0x90 else 0x80) (if b = 0xF4 then 0x8F else 0xBF) (b.toNat - 0xF0)
  else ⟨.bad 1 :: pieces, none⟩

/-- Read one byte.  A byte that cannot continue the character being read ends a faulty
piece and starts the next one. -/
def Reader.feed (r : Reader) (b : UInt8) : Reader :=
  match r.pending with
  | none => Reader.start r.pieces b
  | some p =>
    if p.low ≤ b && b ≤ p.high then
      let point := p.point * 64 + b.toNat % 64
      if p.needed = 1 then ⟨.char (Char.ofNat point) :: r.pieces, none⟩
      else ⟨r.pieces, some ⟨p.needed - 1, 0x80, 0xBF, point, p.seen + 1⟩⟩
    else Reader.start (.bad p.seen :: r.pieces) b

/-- All pieces in order, once the input has ended. -/
def Reader.finish (r : Reader) : List Piece :=
  match r.pending with
  | none => r.pieces.reverse
  | some p => (.cut p.seen :: r.pieces).reverse

def pieces (bs : List UInt8) : List Piece := (bs.foldl Reader.feed ⟨[], none⟩).finish

/-! ## Decoding -/

/-- Why bytes are not UTF-8: where the first piece that is no character starts, and its
size, or nothing when the input breaks off inside it. -/
structure Fault where
  /-- The length of the longest valid beginning. -/
  index : Nat
  /-- The size of the faulty sequence, absent when the input merely ends too soon. -/
  size : Option Nat
deriving DecidableEq, Repr

def Fault.message (f : Fault) : String :=
  match f.size with
  | some n => s!"invalid utf-8 sequence of {n} bytes from index {f.index}"
  | none => s!"incomplete utf-8 byte sequence from index {f.index}"

/-- The characters of a list of pieces, given the characters before them in reverse and the
number of bytes that those take. -/
def collect (before : List Char) (index : Nat) : List Piece → Except Fault (List Char)
  | [] => .ok before.reverse
  | .char c :: rest => collect (c :: before) (index + (Piece.char c).size) rest
  | .bad n :: _ => .error ⟨index, some n⟩
  | .cut _ :: _ => .error ⟨index, none⟩

/-- Strict decoding: the characters that the bytes encode, or the first fault. -/
def decode (bs : List UInt8) : Except Fault (List Char) := collect [] 0 (pieces bs)

/-- What the lenient decoder writes for a piece. -/
def Piece.display : Piece → Char
  | char c => c
  | bad _ => '\uFFFD'
  | cut _ => '\uFFFD'

/-- Lenient decoding: each faulty piece becomes U+FFFD. -/
def decodeLossy (bs : List UInt8) : List Char := (pieces bs).map Piece.display

end ChatRelay.Text.Utf8
