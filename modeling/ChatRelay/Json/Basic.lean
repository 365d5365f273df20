/-
# JSON values and their written forms

The values that the relay writes: there are no fractions among them, and the members of an
object stand in the order in which they are written.  `compact` writes a value without any
blanks, `pretty` on indented lines.
-/
import ChatRelay.Json.Text
import ChatRelay.Text.Decimal

namespace ChatRelay

/-- A JSON value to be written. -/
inductive Json where
  | null
  | bool (b : Bool)
  | nat (n : Nat)
  | text (s : String)
  | array (items : List Json)
  | object (members : List (String × Json))
deriving Repr

namespace Json

/-- A text or null. -/
def ofText? : Option String → Json
  | none => null
  | some s => text s

/-- The members among some that have a value. -/
def present (members : List (String × Option Json)) : Json :=
  object (members.filterMap fun m => m.2.map fun v => (m.1, v))

/-- An object with its members in the order of their names. -/
def sorted (members : List (String × Json)) : Json :=
  object (members.mergeSort fun p q => decide (p.1 ≤ q.1))

def boolChars (b : Bool) : List Char :=
  if b then ['t', 'r', 'u', 'e'] else ['f', 'a', 'l', 's', 'e']

/-! ## Without blanks -/

mutual

/-- The characters of a value, written without blanks. -/
def chars : Json → List Char
  | null => ['n', 'u', 'l', 'l']
  | bool b => boolChars b
  | nat n => Text.Decimal.digits n
  | text s => quote s.toList
  | array items => '[' :: itemChars items ++ [']']
  | object members => '\x7b' :: memberChars members ++ ['\x7d']

/-- The characters of items, with commas between them. -/
def itemChars : List Json → List Char
  | [] => []
  | [v] => chars v
  | v :: rest => chars v ++ ',' :: itemChars rest

/-- The characters of members, with commas between them. -/
def memberChars : List (String × Json) → List Char
  | [] => []
  | [(k, v)] => quote k.toList ++ ':' :: chars v
  | (k, v) :: rest => quote k.toList ++ ':' :: chars v ++ ',' :: memberChars rest

end

/-- A value written without blanks. -/
def compact (v : Json) : String := String.ofList v.chars

def bytes (v : Json) : List UInt8 := Text.Utf8.encode v.chars

/-! ## On indented lines -/

/-- A new line at a level, two blanks for each level. -/
def newLine (level : Nat) : List Char := '\n' :: List.replicate (2 * level) ' '

mutual

/-- The characters of a value at a level, one item or member to a line. -/
def prettyChars (level : Nat) : Json → List Char
  | null => ['n', 'u', 'l', 'l']
  | bool b => boolChars b
  | nat n => Text.Decimal.digits n
  | text s => quote s.toList
  | array [] => ['[', ']']
  | array items =>
    '[' :: newLine (level + 1) ++ prettyItems (level + 1) items ++ newLine level ++ [']']
  | object [] => ['\x7b', '\x7d']
  | object members =>
    '\x7b' :: newLine (level + 1) ++ prettyMembers (level + 1) members ++ newLine level ++ ['\x7d']

/-- The characters of items, each on a line of its own. -/
def prettyItems (level : Nat) : List Json → List Char
  | [] => []
  | [v] => prettyChars level v
  | v :: rest => prettyChars level v ++ ',' :: newLine level ++ prettyItems level rest

/-- The characters of members, each on a line of its own. -/
def prettyMembers (level : Nat) : List (String × Json) → List Char
  | [] => []
  | [(k, v)] => quote k.toList ++ [':', ' '] ++ prettyChars level v
  | (k, v) :: rest =>
    quote k.toList ++ [':', ' '] ++ prettyChars level v ++ ',' :: newLine level ++
      prettyMembers level rest

end

/-- A value written on indented lines. -/
def pretty (v : Json) : String := String.ofList (prettyChars 0 v)

end Json

end ChatRelay
