/-
# Reading URLs

Blanks at the ends of a text are dropped, and so are tabs and line breaks anywhere in it.
Special schemes take backslashes for slashes and any number of slashes before the
authority.  A text without a scheme is a URL only in relation to another one.
-/
import ChatRelay.Url.Basic
import ChatRelay.Url.Path

namespace ChatRelay.Url

open Text

/-! ## Escaped characters -/

def userinfoSet (c : Char) : Bool :=
  pathSet c || c ∈ ['/', ':', ';', '=', '@', '[', '\\', ']', '^', '|']

def querySet (special : Bool) (c : Char) : Bool :=
  isControl c || c ∈ [' ', '"', '#', '<', '>'] || (special && c == '\x27')

/-! ## Authorities -/

/-- The user name and password of a text before an at sign; an empty password is none. -/
def userinfo (s : List Char) : List Char × Option (List Char) :=
  let password := (s.dropWhile (· != ':')).drop 1
  (encode userinfoSet (s.takeWhile (· != ':')),
    if password.isEmpty then none else some (encode userinfoSet password))

/-- The text before and after the last at sign. -/
def splitAt (s : List Char) : Option (List Char × List Char) :=
  if s.contains '@' then
    let r := s.reverse
    some (((r.dropWhile (· != '@')).drop 1).reverse, (r.takeWhile (· != '@')).reverse)
  else none

/-- The length of the host at the start of a text: it ends at a colon outside of brackets. -/
def hostLength (inside : Bool) : List Char → Nat
  | [] => 0
  | c :: rest =>
    if c == ':' && !inside then 0
    else hostLength (if c == '[' then true else if c == ']' then false else inside) rest + 1

def port? (scheme s : List Char) : Option (Option Nat) :=
  if s.isEmpty then some none
  else
    match Decimal.readDigits 65535 s with
    | .ok n => some (if defaultPort? scheme = some n then none else some n)
    | .error _ => none

def endsAuthority (special : Bool) (c : Char) : Bool :=
  isSlash special c || c == '?' || c == '#'

/-- Read an authority, between the slashes before it and what comes after it.  A backslash
ends the port in all schemes, and what follows it belongs to the path. -/
def authority? (scheme s : List Char) (more : Bool) : Option (Url × List Char) := do
  let special := isSpecial scheme
  let (before, s') := (splitAt s).getD ([], s)
  let at0 := (splitAt s).isSome && before.isEmpty
  if at0 && s'.isEmpty && more then none
  else
    let (username, password) := userinfo before
    let n := hostLength false s'
    let hostText := s'.take n
    let portText := s'.drop n
    if hostText.isEmpty && (special || !portText.isEmpty || !username.isEmpty || password.isSome)
    then none
    else
      let host ← if special then specialHost? hostText else otherHost? hostText
      let port ← port? scheme ((portText.drop 1).takeWhile (· != '\\'))
      some (⟨scheme, username, password, some host, port, [], none, none⟩,
        portText.dropWhile (· != '\\'))

/-! ## Query and fragment -/

/-- Cut a text before its query and its fragment, and read these. -/
def cutQuery (scheme s : List Char) : List Char × Option (List Char) × Option (List Char) :=
  let beforeFragment := s.takeWhile (· != '#')
  let fragment :=
    match s.dropWhile (· != '#') with
    | _ :: f => some (encode fragmentSet (withoutIgnored f))
    | [] => none
  let query :=
    match beforeFragment.dropWhile (· != '?') with
    | _ :: q => some (encode (querySet (isSpecial scheme)) (withoutIgnored q))
    | [] => none
  (beforeFragment.takeWhile (· != '?'), query, fragment)

/-! ## URLs -/

/-- The text as it is read: without blanks at its ends. -/
def trimmed (s : List Char) : List Char :=
  let blank (c : Char) : Bool := c.toNat ≤ 0x20
  ((s.dropWhile blank).reverse.dropWhile blank).reverse

def isSchemeChar (c : Char) : Bool := c.isAlphanum || c == '+' || c == '-' || c == '.'

/-- The scheme of a text, in lower case, and what follows the colon. -/
def scheme? (s : List Char) : Option (List Char × List Char) :=
  let name := withoutIgnored (s.takeWhile fun c => isSchemeChar c || isIgnored c)
  match s.dropWhile fun c => isSchemeChar c || isIgnored c with
  | ':' :: rest => if name.head?.any Char.isAlpha then some (name.map Char.toLower, rest) else none
  | _ => none

/-- The number of slashes at the start of a text, and what follows them. -/
def cutSlashes (s : List Char) : Nat × List Char :=
  ((s.takeWhile fun c => isSlash true c || isIgnored c).countP (isSlash true),
    s.dropWhile fun c => isSlash true c || isIgnored c)

/-- The number of slashes at the start of a text, two at most, and what follows them. -/
def cutFirstSlashes (s : List Char) : Nat × List Char :=
  match s.dropWhile isIgnored with
  | a :: rest =>
    if isSlash true a then
      match rest.dropWhile isIgnored with
      | b :: more => if isSlash true b then (2, more) else (1, rest)
      | [] => (1, rest)
    else (0, s)
  | [] => (0, s)

/-- A path behind a host.  In a special URL it is never empty, and it always starts with a
slash unless it is empty. -/
def pathBehindHost (scheme s : List Char) : List Char :=
  let special := isSpecial scheme
  match s.dropWhile isIgnored with
  | [] => if special then ['/'] else []
  | c :: rest =>
    readPath (isFile scheme) special ['/'] (if isSlash special c then rest else s)

/-- Read what follows the two slashes before an authority. -/
def withAuthority? (scheme s : List Char) : Option Url := do
  let s := withoutIgnored s
  let ends := endsAuthority (isSpecial scheme)
  let rest := s.dropWhile fun c => !ends c
  let (u, start) ← authority? scheme (s.takeWhile fun c => !ends c) (!rest.isEmpty)
  let (p, query, fragment) := cutQuery scheme (start ++ rest)
  some { u with path := pathBehindHost scheme p, query, fragment }

def fileScheme : List Char := ['f', 'i', 'l', 'e']

/-- Read the path of a file behind the two slashes before its host.  A host that names a
drive belongs to the path, the local host is written as an empty one, and a path to a drive has
no host before it. -/
def fileHostAndPath? (s : List Char) : Option (List Char × List Char) :=
  let hostText := withoutIgnored (s.takeWhile fun c => !isSlash true c)
  let rest := s.dropWhile fun c => !isSlash true c
  if isDrive hostText then some ([], readPath true true ['/'] s)
  else if hostText.isEmpty then some ([], readPath true true ['/'] rest)
  else do
    let host ← specialHost? hostText
    if host = "localhost".toList then some ([], readPath true true ['/'] rest)
    else
      let onDrive := leadsToDrive ['/'] ((rest.drop 1).splitOnP (isSlash true))
      some (if onDrive then [] else host, pathBehindHost fileScheme rest)

/-- Read what follows the scheme of a URL of a file. -/
def file? (s : List Char) : Option Url := do
  let (p, query, fragment) := cutQuery fileScheme s
  let url (host path : List Char) : Url :=
    ⟨fileScheme, [], none, some host, none, path, query, fragment⟩
  let (slashes, rest) := cutFirstSlashes p
  if slashes = 2 then (fileHostAndPath? rest).map fun (host, path) => url host path
  else some (url [] (readPath true true ['/'] rest))

/-- Read what follows a scheme. -/
def afterScheme? (scheme s : List Char) : Option Url :=
  if isFile scheme then file? s
  else if isSpecial scheme then withAuthority? scheme (cutSlashes s).2
  else
    match withoutIgnored s with
    | '/' :: '/' :: rest => withAuthority? scheme rest
    | s =>
      let (p, query, fragment) := cutQuery scheme s
      let path :=
        match p with
        | '/' :: rest => readPath false false ['/'] rest
        | p => encode isControl p
      some ⟨scheme, [], none, none, none, path, query, fragment⟩

def parse? (s : String) : Option Url := do
  let (scheme, rest) ← scheme? (trimmed s.toList)
  afterScheme? scheme rest

/-! ## Relative references -/

/-- Read a reference without a scheme in relation to a URL whose scheme is special.  Two plain
slashes stand before an authority, and so do two or more of any kind. -/
def relative? (base : Url) (s : List Char) : Option Url :=
  let scheme := base.scheme
  match withoutIgnored s with
  | '/' :: '/' :: rest => withAuthority? scheme rest
  | s =>
    let (slashes, rest) := cutSlashes s
    if 2 ≤ slashes then withAuthority? scheme rest
    else
      let (p, query, fragment) := cutQuery scheme s
      match p with
      | [] => some { base with query := if query.isSome then query else base.query, fragment }
      | c :: rest =>
        let path :=
          if isSlash true c then readPath false true ['/'] rest
          else readPath false true (directory base.path) p
        some { base with path, query, fragment }

/-- Read a URL, or a reference in relation to a URL whose scheme is special. -/
def resolve? (base : Url) (s : String) : Option Url :=
  let s := trimmed s.toList
  match scheme? s with
  | some (scheme, rest) =>
    if scheme = base.scheme && (cutSlashes rest).1 < 2 then relative? base rest
    else afterScheme? scheme rest
  | none => relative? base s

/-! ## Appending segments -/

/-- A URL with segments appended to its path, if it has one; names for the place itself and
the place above are passed over.  A dot segment that keeps two slashes apart from an authority
stays when the second of them is dropped. -/
def append (u : Url) (names : List String) : Url :=
  let kept := names.filter fun n => n != "." && n != ".."
  let path := (kept.map String.toList).foldl
    (appendSegment (isFile u.scheme) (isSpecial u.scheme)) (dropTrailingSlash u.path)
  { u with path := if u.host.isNone && u.path = ['/', '/'] then '/' :: '.' :: path else path }

end ChatRelay.Url
