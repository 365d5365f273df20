/-
# SHA-256

The digest of a byte sequence.  The message is followed by a one bit, by zeros, and by its
length in bits, so that it fills whole blocks of sixty-four bytes; each block is expanded
into a schedule of sixty-four words, and each word turns the eight working variables once.
Bytes are taken one at a time, so that only the current block is held.
-/

namespace ChatRelay.Digest.Sha256

/-! ## Constants -/

/-- The first thirty-two bits of the fractional parts of the cube roots of the first
sixty-four primes. -/
def roundConstants : List UInt32 :=
   [0x428a2f98, 0x71374491, 0xb5c0fbcf, 0xe9b5dba5, 0x3956c25b, 0x59f111f1,
    0x923f82a4, 0xab1c5ed5, 0xd807aa98, 0x12835b01, 0x243185be, 0x550c7dc3,
    0x72be5d74, 0x80deb1fe, 0x9bdc06a7, 0xc19bf174, 0xe49b69c1, 0xefbe4786,
    0x0fc19dc6, 0x240ca1cc, 0x2de92c6f, 0x4a7484aa, 0x5cb0a9dc, 0x76f988da,
    0x983e5152, 0xa831c66d, 0xb00327c8, 0xbf597fc7, 0xc6e00bf3, 0xd5a79147,
    0x06ca6351, 0x14292967, 0x27b70a85, 0x2e1b2138, 0x4d2c6dfc, 0x53380d13,
    0x650a7354, 0x766a0abb, 0x81c2c92e, 0x92722c85, 0xa2bfe8a1, 0xa81a664b,
    0xc24b8b70, 0xc76c51a3, 0xd192e819, 0xd6990624, 0xf40e3585, 0x106aa070,
    0x19a4c116, 0x1e376c08, 0x2748774c, 0x34b0bcb5, 0x391c0cb3, 0x4ed8aa4a,
    0x5b9cca4f, 0x682e6ff3, 0x748f82ee, 0x78a5636f, 0x84c87814, 0x8cc70208,
    0x90befffa, 0xa4506ceb, 0xbef9a3f7, 0xc67178f2]

/-- The eight working variables. -/
structure Working where
  a : UInt32
  b : UInt32
  c : UInt32
  d : UInt32
  e : UInt32
  f : UInt32
  g : UInt32
  h : UInt32
deriving DecidableEq, Repr

/-- The first thirty-two bits of the fractional parts of the square roots of the first
eight primes. -/
def initial : Working :=
  ⟨0x6a09e667, 0xbb67ae85, 0x3c6ef372, 0xa54ff53a, 0x510e527f,
   0x9b05688c, 0x1f83d9ab, 0x5be0cd19⟩

/-! ## One block -/

/-- Rotation to the right by `n` bits, for `n` from one to thirty-one. -/
def rotate (x n : UInt32) : UInt32 := (x >>> n) ||| (x <<< (32 - n))

/-- The word that follows sixteen words of the schedule, from the ones sixteen, fifteen,
seven and two places before it. -/
def expand (w16 w15 w7 w2 : UInt32) : UInt32 :=
  w16 + (rotate w15 7 ^^^ rotate w15 18 ^^^ (w15 >>> 3)) + w7 +
    (rotate w2 17 ^^^ rotate w2 19 ^^^ (w2 >>> 10))

def extend (w : Array UInt32) : Array UInt32 :=
  let back (k : Nat) : UInt32 := w[w.size - k]?.getD 0
  w.push (expand (back 16) (back 15) (back 7) (back 2))

/-- The schedule of a block of sixteen words. -/
def schedule (block : Array UInt32) : Array UInt32 :=
  (List.range 48).foldl (fun w _ => extend w) block

/-- One round with the constant `k` and the schedule word `w`. -/
def turn (s : Working) (k w : UInt32) : Working :=
  let s1 := rotate s.e 6 ^^^ rotate s.e 11 ^^^ rotate s.e 25
  let choice := (s.e &&& s.f) ^^^ (~~~ s.e &&& s.g)
  let t1 := s.h + s1 + choice + k + w
  let s0 := rotate s.a 2 ^^^ rotate s.a 13 ^^^ rotate s.a 22
  let majority := (s.a &&& s.b) ^^^ (s.a &&& s.c) ^^^ (s.b &&& s.c)
  ⟨t1 + (s0 + majority), s.a, s.b, s.c, s.d + t1, s.e, s.f, s.g⟩

def Working.add (s t : Working) : Working :=
  ⟨s.a + t.a, s.b + t.b, s.c + t.c, s.d + t.d, s.e + t.e, s.f + t.f, s.g + t.g, s.h + t.h⟩

/-- Take in one block. -/
def compress (s : Working) (block : Array UInt32) : Working :=
  s.add ((roundConstants.zip (schedule block).toList).foldl (fun t p => turn t p.1 p.2) s)

/-! ## Whole messages -/

/-- What has been taken in so far: the chaining values, the whole words of the current
block, the bytes of the current word, and the count of all bytes. -/
structure Absorbed where
  /-- The chaining values after the last whole block. -/
  chaining : Working
  block : Array UInt32
  /-- The bytes of the current word, as one number. -/
  word : UInt32
  /-- The number of bytes taken in. -/
  count : Nat
deriving DecidableEq, Repr

def Absorbed.feed (s : Absorbed) (b : UInt8) : Absorbed :=
  let word := (s.word <<< 8) ||| b.toUInt32
  if s.count % 4 = 3 then
    let block := s.block.push word
    if s.count % 64 = 63 then ⟨compress s.chaining block, #[], 0, s.count + 1⟩
    else ⟨s.chaining, block, 0, s.count + 1⟩
  else ⟨s.chaining, s.block, word, s.count + 1⟩

/-- `n` in `k` bytes, the most significant one first. -/
def bigEndian (k n : Nat) : List UInt8 :=
  (List.range k).reverse.map fun i => UInt8.ofNat (n >>> (8 * i))

/-- What follows a message of `count` bytes: a one bit, zeros, and the length in bits. -/
def padding (count : Nat) : List UInt8 :=
  0x80 :: List.replicate ((119 - count % 64) % 64) 0 ++ bigEndian 8 (8 * count)

/-- The bytes of the working variables in order. -/
def Working.bytes (s : Working) : List UInt8 :=
  [s.a, s.b, s.c, s.d, s.e, s.f, s.g, s.h].flatMap fun w => bigEndian 4 w.toNat

/-- The thirty-two bytes of the digest of a message. -/
def hash (message : List UInt8) : List UInt8 :=
  let taken := message.foldl Absorbed.feed ⟨initial, #[], 0, 0⟩
  ((padding taken.count).foldl Absorbed.feed taken).chaining.bytes

end ChatRelay.Digest.Sha256
