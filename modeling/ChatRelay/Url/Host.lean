/-
# Hosts

A host is a domain, an IPv4 address, or an IPv6 address in brackets.  Addresses have many
spellings and one written form; a domain is written in lower case.  Outside of the special
schemes a host is taken as it is, apart from escapes.  All readers return the written form.
-/
import ChatRelay.Text.Decimal
import ChatRelay.Text.Percent
import ChatRelay.Text.Utf8
import ChatRelay.Url.Domain

namespace ChatRelay.Url

open Text

/-! ## Characters -/

/-- Whether a character is a control character or not ASCII; such characters are always
escaped. -/
def isControl (c : Char) : Bool := c.toNat < 0x20 || 0x7F ≤ c.toNat

/-- The characters with those of a set escaped. -/
def encode (set : Char → Bool) (s : List Char) : List Char :=
  s.flatMap fun c => if set c then Percent.encodeChar c else [c]

/-- Whether no domain may hold a character. -/
def isForbiddenInDomain (c : Char) : Bool :=
  c.toNat ≤ 0x20 || c.toNat = 0x7F ||
    c ∈ ['#', '%', '/', ':', '<', '>', '?', '@', '[', '\\', ']', '^', '|']

/-- Whether no host of any scheme may hold a character. -/
def isForbiddenInHost (c : Char) : Bool :=
  c ∈ ['\x00', '\t', '\n', '\r', ' ', '#', '/', ':', '<', '>', '?', '@', '[', '\\', ']', '^', '|']

/-! ## IPv4 addresses -/

/-- The value of digits in a base, if all are digits of that base. -/
def valueIn? (base : Nat) (s : List Char) : Option Nat :=
  s.foldlM (fun n c => (Hex.value? c).bind fun d => if d < base then some (base * n + d) else none)
    0

/-- The value of a part of an IPv4 address, which is hexadecimal after `0x` and octal after
a zero. -/
def ipv4Number? (s : List Char) : Option Nat :=
  match s with
  | [] => none
  | '0' :: 'x' :: rest => valueIn? 16 rest
  | '0' :: 'X' :: rest => valueIn? 16 rest
  | '0' :: c :: rest => valueIn? 8 (c :: rest)
  | s => valueIn? 10 s

/-- The parts of a domain, without an empty one at its end. -/
def domainParts (s : List Char) : List (List Char) :=
  let parts := s.splitOnP (· == '.')
  if parts.getLast? == some [] then parts.dropLast else parts

/-- Whether the last part of a domain is a number, so that the whole has to be an address. -/
def endsInNumber (s : List Char) : Bool :=
  match (domainParts s).getLast? with
  | some last =>
    (!last.isEmpty && last.all fun c => (Decimal.digit? c).isSome) || (ipv4Number? last).isSome
  | none => false

/-- The address that the values of its parts stand for: the last one fills all bytes that
the others leave. -/
def ipv4OfNumbers? (ns : List Nat) : Option Nat :=
  match ns.getLast? with
  | none => none
  | some last =>
    let front := ns.dropLast
    let room := 1 <<< (8 * (4 - front.length))
    if 3 < front.length || front.any (255 < ·) || room ≤ last then none
    else some (front.foldl (fun n d => 256 * n + d) 0 * room + last)

def ipv4Text (n : Nat) : List Char :=
  List.intercalate ['.'] ([3, 2, 1, 0].map fun i => Decimal.digits ((n >>> (8 * i)) % 256))

def ipv4? (s : List Char) : Option (List Char) := do
  let ns ← (domainParts s).mapM ipv4Number?
  (ipv4OfNumbers? ns).map ipv4Text

/-! ## IPv6 addresses -/

/-- The two pieces that the four decimal numbers at the end of an IPv6 address stand for. -/
def ipv4Pieces? (s : List Char) : Option (List Nat) := do
  let number (p : List Char) : Option Nat :=
    if p.length > 1 && p.head? == some '0' then none
    else (Decimal.readDigits 255 p).toOption
  match ← (s.splitOnP (· == '.')).mapM number with
  | [a, b, c, d] => some [256 * a + b, 256 * c + d]
  | _ => none

/-- A piece of an IPv6 address: one to four hexadecimal digits. -/
def ipv6Piece? (s : List Char) : Option Nat :=
  if s.isEmpty || 4 < s.length then none else valueIn? 16 s

/-- The pieces between single colons; the last one may be an IPv4 address. -/
def ipv6Pieces? (s : List Char) : Option (List Nat) :=
  if s.isEmpty then some []
  else
    let parts := s.splitOnP (· == ':')
    let last := parts.getLast?.getD []
    if last.contains '.' then do
      let front ← parts.dropLast.mapM ipv6Piece?
      (ipv4Pieces? last).map (front ++ ·)
    else parts.mapM ipv6Piece?

/-- The text before and after the first double colon. -/
def splitDoubleColon (before : List Char) : List Char → Option (List Char × List Char)
  | ':' :: ':' :: rest => some (before.reverse, rest)
  | c :: rest => splitDoubleColon (c :: before) rest
  | [] => none

/-- The eight pieces of an IPv6 address; a double colon stands for the missing ones, at
least one. -/
def ipv6? (s : List Char) : Option (List Nat) :=
  match splitDoubleColon [] s with
  | none => (ipv6Pieces? s).filter fun ps => ps.length = 8
  | some (before, after) => do
    if before.contains '.' then none
    else
      let front ← ipv6Pieces? before
      let back ← ipv6Pieces? after
      let n := front.length + back.length
      if n ≤ 7 then some (front ++ List.replicate (8 - n) 0 ++ back) else none

/-- The number of zeros at the start of some pieces. -/
def zeroRun (ps : List Nat) : Nat := (ps.takeWhile (· == 0)).length

def pieceText (n : Nat) : List Char := Nat.toDigits 16 n

/-- The written form of the pieces of an IPv6 address: the first of the longest runs of
zeros becomes a double colon, if it is longer than one. -/
def ipv6Text (ps : List Nat) : List Char :=
  let runs := (List.range ps.length).map fun i => zeroRun (ps.drop i)
  let longest := runs.foldl max 0
  let join (qs : List Nat) : List Char := List.intercalate [':'] (qs.map pieceText)
  if longest < 2 then join ps
  else
    let start := runs.findIdx (· == longest)
    join (ps.take start) ++ [':', ':'] ++ join (ps.drop (start + longest))

/-! ## Hosts -/

def bracketed? (s : List Char) : Option (List Char) :=
  if s.getLast? == some ']' then
    (ipv6? (s.drop 1).dropLast).map fun ps => '[' :: ipv6Text ps ++ [']']
  else none

/-- The written form of a domain with escapes. -/
def domain? (s : List Char) : Option (List Char) :=
  match Utf8.decode (Percent.decode (Utf8.encode s)) with
  | .error _ => none
  | .ok s => (domainText? s).filter fun d => !(d.isEmpty || d.any isForbiddenInDomain)

def specialHost? (s : List Char) : Option (List Char) :=
  if s.head? == some '[' then bracketed? s
  else do
    let d ← domain? s
    if endsInNumber d then ipv4? d else some d

def otherHost? (s : List Char) : Option (List Char) :=
  if s.head? == some '[' then bracketed? s
  else if s.any isForbiddenInHost then none
  else some (encode isControl s)

end ChatRelay.Url
