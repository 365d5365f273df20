/-
# URLs

A URL by its parts, all in written form, and its text.  Segments can be appended to its path
if it has a host, or if its path starts with a slash.
-/
import ChatRelay.Text.Decimal

namespace ChatRelay

structure Url where
  scheme : List Char
  username : List Char
  password : Option (List Char)
  /-- The host, possibly empty; a URL without authority has none. -/
  host : Option (List Char)
  /-- The port, unless it is the one of the scheme. -/
  port : Option Nat
  /-- The path, with the slash at its start if there is one. -/
  path : List Char
  /-- The query, without the question mark before it. -/
  query : Option (List Char)
  fragment : Option (List Char)
deriving DecidableEq, Repr

namespace Url

/-! ## Schemes -/

/-- The port of a special scheme; a file has none. -/
def specialPorts : List (String × Option Nat) :=
  [("http", some 80), ("https", some 443), ("ws", some 80), ("wss", some 443),
   ("ftp", some 21), ("file", none)]

/-- Whether a scheme is special: its URLs always have a host and a path. -/
def isSpecial (scheme : List Char) : Bool := (specialPorts.lookup (String.ofList scheme)).isSome

/-- The port of a scheme when none is written. -/
def defaultPort? (scheme : List Char) : Option Nat :=
  (specialPorts.lookup (String.ofList scheme)).join

def isFile (scheme : List Char) : Bool := scheme == ['f', 'i', 'l', 'e']

/-! ## Text -/

/-- The text of the user name and password, with an at sign behind them. -/
def userinfoChars (u : Url) : List Char :=
  match u.password with
  | some p => u.username ++ ':' :: p ++ ['@']
  | none => if u.username.isEmpty then [] else u.username ++ ['@']

/-- The text of the host and port. -/
def hostChars (u : Url) : List Char :=
  u.host.getD [] ++
    match u.port with
    | some p => ':' :: Text.Decimal.digits p
    | none => []

/-- The text between the scheme and the path.  A path that starts with two slashes is kept
apart from an authority by a dot segment. -/
def authorityChars (u : Url) : List Char :=
  match u.host, u.path with
  | some _, _ => '/' :: '/' :: u.userinfoChars ++ u.hostChars
  | none, '/' :: '/' :: _ => ['/', '.']
  | none, _ => []

/-- The text of an optional part behind a mark. -/
def markedChars (mark : Char) : Option (List Char) → List Char
  | some s => mark :: s
  | none => []

def chars (u : Url) : List Char :=
  u.scheme ++ ':' :: u.authorityChars ++ u.path ++ markedChars '?' u.query ++
    markedChars '#' u.fragment

def text (u : Url) : String := String.ofList u.chars

/-- Whether segments can be appended to the path of a URL. -/
def isBase (u : Url) : Bool := u.host.isSome || u.path.head? == some '/'

end Url

end ChatRelay
