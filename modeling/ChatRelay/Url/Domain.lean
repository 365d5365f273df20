/-
# Domains

The labels of a domain stand between dots.  Each character gets the form that it has in
domains, the whole its normal form, and a label that is still not ASCII is written in ASCII
behind the mark `xn--`.  A label that has the mark already must be the written form of a
label that would be left as it is.
-/
import ChatRelay.Text.Normal
import ChatRelay.Url.Domain.Direction
import ChatRelay.Url.Domain.Joiner
import ChatRelay.Url.Domain.Mapping
import ChatRelay.Url.Punycode

namespace ChatRelay.Url

open Text

/-! ## The form of a text in a domain -/

def isAscii (c : Char) : Bool := c.toNat < 0x80

/-- A text with the forms that its characters have in a domain, if all may stand in one. -/
def domainForm? (s : List Char) : Option (List Char) :=
  (s.mapM form?).map fun forms => Normal.form forms.flatten

/-! ## Labels -/

structure Label where
  characters : List Char
  written : List Char
deriving DecidableEq, Repr

namespace Label

/-- The mark of a label that is written in ASCII. -/
def mark : List Char := ['x', 'n', '-', '-']

/-- The greatest number of characters of a label that is not ASCII. -/
def maxLength : Nat := 1000

/-- The greatest number of characters behind the mark. -/
def maxWrittenLength : Nat := 2000

/-- Whether a label that is not ASCII can be used. -/
def isUsable (s : List Char) : Bool :=
  !s.all isAscii && s.length ≤ maxLength && !s.head?.any isMark && joinsRightly [] s

/-- Read what stands behind the mark. -/
def unmark? (s : List Char) : Option (List Char) :=
  if s.all isAscii && s.length ≤ maxWrittenLength then
    (Punycode.decode? s).filter fun u => domainForm? u == some u && isUsable u
  else none

/-- The label that some characters in the form of a domain amount to. -/
def ofChars? (s : List Char) : Option Label :=
  if mark.isPrefixOf s then (unmark? (s.drop mark.length)).map fun u => ⟨u, s⟩
  else if s.all isAscii then some ⟨s, s⟩
  else if isUsable s then some ⟨s, mark ++ Punycode.encode s⟩
  else none

end Label

/-! ## Domains -/

/-- The written form of a domain.  Once one label turns the direction of writing, all labels
have to stay with theirs. -/
def domainText? (s : List Char) : Option (List Char) := do
  let s ← domainForm? s
  let labels ← (s.splitOnP (· == '.')).mapM Label.ofChars?
  if labels.any (fun l => turns l.characters) && !labels.all (fun l => isDirected l.characters)
  then none
  else return List.intercalate ['.'] (labels.map (·.written))

end ChatRelay.Url
