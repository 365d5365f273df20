/-
# Paths of URLs

A path is read segment by segment onto the text that is there before it.  Dot segments are
resolved, also where their dots are escaped, but nothing leads out of a drive, which is a
letter and a colon, or a bar in its place.  The first segment of the path of a file names a
drive with a colon.  Tabs and line breaks are dropped wherever they stand.
-/
import ChatRelay.Url.Host

namespace ChatRelay.Url

/-! ## Characters -/

/-- Whether a character is dropped wherever it stands in a URL. -/
def isIgnored (c : Char) : Bool := c == '\t' || c == '\n' || c == '\r'

/-- A text without the characters that are dropped. -/
def withoutIgnored (s : List Char) : List Char := s.filter fun c => !isIgnored c

def isSlash (special : Bool) (c : Char) : Bool := c == '/' || (special && c == '\\')

def fragmentSet (c : Char) : Bool := isControl c || c ∈ [' ', '"', '<', '>', '\x60']

def pathSet (c : Char) : Bool := fragmentSet c || c ∈ ['#', '?', '\x7b', '\x7d']

/-- The characters escaped in a segment that is appended. -/
def segmentSet (special : Bool) (c : Char) : Bool :=
  pathSet c || c == '/' || c == '%' || (special && c == '\\')

/-! ## Segments -/

def isSingleDot (s : List Char) : Bool :=
  String.ofList (s.map Char.toLower) ∈ [".", "%2e"]

def isDoubleDot (s : List Char) : Bool :=
  String.ofList (s.map Char.toLower) ∈ ["..", "%2e.", ".%2e", "%2e%2e"]

/-- Whether a segment names a drive. -/
def isDrive (s : List Char) : Bool :=
  match s with
  | [l, c] => l.isAlpha && (c == ':' || c == '|')
  | _ => false

/-- Whether a segment names a drive with a colon. -/
def isPlainDrive (s : List Char) : Bool := isDrive s && s.getLast? == some ':'

def startsWithDrive (s : List Char) : Bool :=
  isDrive (s.take 2) && (s[2]?).all fun c => c == '/' || c == '\\' || c == '?' || c == '#'

def lastSegment (p : List Char) : List Char := (p.reverse.takeWhile (· != '/')).reverse

/-- A path without its last segment, of which the slash stays. -/
def directory (p : List Char) : List Char := (p.reverse.dropWhile (· != '/')).reverse

/-- A path that ends with a slash without this slash, unless it is the first one of the path
or the one after a drive. -/
def withoutSlash (p : List Char) : List Char :=
  let q := p.dropLast
  if p.getLast? == some '/' && q.contains '/' && !startsWithDrive (lastSegment q) then q else p

/-- The place above the one that a path with a slash at its end leads to. -/
def parent (file : Bool) (p : List Char) : List Char :=
  let q := withoutSlash p
  if file && isPlainDrive (lastSegment q) then q else directory q

def withSlash (p : List Char) : List Char := if p.getLast? == some '/' then p else p ++ ['/']

/-! ## Reading -/

/-- A path while a segment is read onto it. -/
structure PathReading where
  path : List Char
  /-- The place where the segment starts. -/
  start : Nat
deriving DecidableEq, Repr

/-- Read a piece of a segment.  After a drive alone a segment of its own begins. -/
def PathReading.push (file : Bool) (r : PathReading) (piece : List Char) : PathReading :=
  if file && isPlainDrive (r.path.drop 1) && !piece.isEmpty then
    ⟨r.path ++ '/' :: piece, r.start + 1⟩
  else { r with path := r.path ++ piece }

/-- Resolve the segment that has been read, whether or not a slash comes after it. -/
def PathReading.resolve (file slash : Bool) (r : PathReading) : List Char :=
  let before := r.path.take r.start
  let segment := r.path.drop r.start
  let slashText : List Char := if slash then ['/'] else []
  if isDoubleDot segment then
    if slash then withSlash (parent file before) else parent file before
  else if isSingleDot segment then withSlash before
  else if file && r.start == 1 && isDrive segment then before ++ segment.take 1 ++ ':' :: slashText
  else r.path ++ slashText

/-- Read a segment onto a path. -/
def readSegment (file slash : Bool) (escaped : Char → Bool) (p s : List Char) : List Char :=
  let pieces := (s.splitOnP isIgnored).map (encode escaped)
  (pieces.foldl (PathReading.push file) ⟨p, p.length⟩).resolve file slash

/-- Read segments onto a path, of which the last one ends it. -/
def readSegments (file : Bool) (escaped : Char → Bool) (p : List Char) :
    List (List Char) → List Char
  | [] => p
  | [s] => readSegment file false escaped p s
  | s :: rest => readSegments file escaped (readSegment file true escaped p s) rest

/-- Whether one of some segments names a drive right at the start of the path of a file. -/
def leadsToDrive (p : List Char) : List (List Char) → Bool
  | [] => false
  | s :: rest =>
    (p.length == 1 && isDrive (withoutIgnored s)) ||
      leadsToDrive (readSegment true true pathSet p s) rest

/-- The path of a file has one slash at its start. -/
def trimSlashes (file : Bool) (p : List Char) : List Char :=
  if file then '/' :: p.dropWhile (· == '/') else p

/-- Read a text with its slashes onto a path. -/
def readPath (file special : Bool) (p s : List Char) : List Char :=
  trimSlashes file (readSegments file pathSet p (s.splitOnP (isSlash special)))

/-! ## Appending -/

/-- Append a segment to a path; on a bare slash no other one comes before it. -/
def appendSegment (file special : Bool) (p s : List Char) : List Char :=
  let p := if p = ['/'] then p else p ++ ['/']
  trimSlashes file (readSegment file false (segmentSet special) p s)

/-- Drop a slash at the end of a path, unless it is the only one. -/
def dropTrailingSlash (p : List Char) : List Char :=
  if p.length ≠ 1 && p.getLast? == some '/' then p.dropLast else p

end ChatRelay.Url
