/-
# The grammar of JSON

A document is a sequence of tokens with blanks between them, and which sequences there are
follows from the value that the document stands for.  The grammar is stated on the values as
they are written, so that it fixes the bytes of a document up to its blanks.  It says nothing
about what literals and numbers mean.
-/
import ChatRelay.Json.Source
import Mathlib.Tactic.Lemma
import Mathlib.Tactic.Common

namespace ChatRelay.Json

open Text (Utf8.bytes Hex.value?)

/-- The character of a byte. -/
def charOf (b : UInt8) : Char := Char.ofNat b.toNat

/-- The characters of some bytes, one for each. -/
def charsOf (bs : List UInt8) : List Char := bs.map charOf

/-! ## Numbers -/

namespace Number

/-- One decimal digit or more. -/
def IsDigits (ds : List Char) : Prop := ds ≠ [] ∧ ∀ c ∈ ds, c.isDigit

/-- The text of a fraction: nothing, or digits behind a point. -/
inductive WritesFraction : List Char → List Char → Prop
  | none : WritesFraction [] []
  | some {ds : List Char} : IsDigits ds → WritesFraction ds ('.' :: ds)

/-- The text of an exponent: nothing, or digits behind a letter and perhaps a sign. -/
inductive WritesExponent : Option (Bool × List Char) → List Char → Prop
  | none : WritesExponent none []
  | plain {e : Char} {ds : List Char} :
      e = 'e' ∨ e = 'E' → IsDigits ds → WritesExponent (some (false, ds)) (e :: ds)
  | plus {e : Char} {ds : List Char} :
      e = 'e' ∨ e = 'E' → IsDigits ds → WritesExponent (some (false, ds)) (e :: '+' :: ds)
  | minus {e : Char} {ds : List Char} :
      e = 'e' ∨ e = 'E' → IsDigits ds → WritesExponent (some (true, ds)) (e :: '-' :: ds)

/-- The text of a number without its sign: digits before a fraction and an exponent.  A zero
stands before other digits nowhere but behind the point. -/
structure PartsWrittenAs (n : Number) (s : List Char) : Prop where
  whole : IsDigits n.whole
  zero : n.whole.head? = some '0' → n.whole = ['0']
  /-- The parts follow one another. -/
  parts : ∃ fraction exponent, WritesFraction n.fraction fraction ∧
    WritesExponent n.exponent exponent ∧ s = n.whole ++ fraction ++ exponent

/-- The text of a number, with a minus sign if it is negative. -/
inductive WrittenAs (n : Number) : List Char → Prop
  | plain {s : List Char} : n.negative = false → n.PartsWrittenAs s → WrittenAs n s
  | minus {s : List Char} : n.negative = true → n.PartsWrittenAs s → WrittenAs n ('-' :: s)

end Number

/-! ## Literals -/

/-- What may stand between two quotes: bytes that are neither quotes nor backslashes nor
control characters, and escapes. -/
inductive IsLiteral : List UInt8 → Prop
  | nil : IsLiteral []
  | plain {b : UInt8} {bs : List UInt8} :
      0x20 ≤ b → b ≠ 0x22 → b ≠ 0x5C → IsLiteral bs → IsLiteral (b :: bs)
  | escape {b : UInt8} {bs : List UInt8} :
      b ∈ Utf8.bytes "\"\\/bfnrt" → IsLiteral bs → IsLiteral (0x5C :: b :: bs)
  | unicode {digits bs : List UInt8} :
      digits.length = 4 → (∀ b ∈ digits, (Hex.value? (charOf b)).isSome) → IsLiteral bs →
      IsLiteral (0x5C :: 0x75 :: digits ++ bs)

/-! ## Tokens -/

/-- The bytes of a token. -/
inductive Token.WrittenAs : Token → List UInt8 → Prop
  | openBrace : WrittenAs openBrace [0x7B]
  | closeBrace : WrittenAs closeBrace [0x7D]
  | openBracket : WrittenAs openBracket [0x5B]
  | closeBracket : WrittenAs closeBracket [0x5D]
  | colon : WrittenAs colon [0x3A]
  | comma : WrittenAs comma [0x2C]
  | null : WrittenAs null (Utf8.bytes "null")
  | true : WrittenAs (bool Bool.true) (Utf8.bytes "true")
  | false : WrittenAs (bool Bool.false) (Utf8.bytes "false")
  | number {n : Number} {bs : List UInt8} :
      n.WrittenAs (charsOf bs) → WrittenAs (number n) bs
  | text {bs : List UInt8} : IsLiteral bs → WrittenAs (text bs) (0x22 :: bs ++ [0x22])

/-- Bytes that may stand between two tokens. -/
def IsBlanks (bs : List UInt8) : Prop := ∀ b ∈ bs, b ∈ Utf8.bytes " \t\n\r"

/-- Tokens are laid out in some bytes, with blanks between them. -/
inductive LaidOut : List Token → List UInt8 → Prop
  | nil {blanks : List UInt8} : IsBlanks blanks → LaidOut [] blanks
  | cons {t : Token} {ts : List Token} {blanks bs rest : List UInt8} :
      IsBlanks blanks → t.WrittenAs bs → LaidOut ts rest → LaidOut (t :: ts) (blanks ++ bs ++ rest)

/-! ## Values -/

namespace Source

/-- A property holds of all values if it passes from the items of an array to the array, and
from the values in an object to the object. -/
@[elab_as_elim]
theorem induction {p : Source → Prop} (null : p null) (bool : ∀ b, p (bool b))
    (number : ∀ n, p (number n)) (text : ∀ bs, p (text bs))
    (array : ∀ items, (∀ v ∈ items, p v) → p (array items))
    (object : ∀ members, (∀ m ∈ members, p m.2) → p (object members)) (v : Source) : p v :=
  match v with
  | .null => null
  | .bool b => bool b
  | .number n => number n
  | .text bs => text bs
  | .array items =>
    array items fun v _ => induction null bool number text array object v
  | .object members =>
    object members fun m _ => induction null bool number text array object m.2
termination_by sizeOf v
decreasing_by
  · rename_i hv
    have hlt := List.sizeOf_lt_of_mem hv
    rw [Source.array.sizeOf_spec]
    omega
  · rename_i hm
    have hlt := List.sizeOf_lt_of_mem hm
    rw [Source.object.sizeOf_spec]
    obtain ⟨k, v⟩ := m
    rw [Prod.mk.sizeOf_spec] at hlt
    show sizeOf v < _
    omega

mutual

/-- The tokens of a value. -/
def tokens : Source → List Token
  | null => [.null]
  | bool b => [.bool b]
  | number n => [.number n]
  | text bs => [.text bs]
  | array items => .openBracket :: itemTokens items ++ [.closeBracket]
  | object members => .openBrace :: memberTokens members ++ [.closeBrace]

/-- The tokens of items, with commas between them. -/
def itemTokens : List Source → List Token
  | [] => []
  | [v] => tokens v
  | v :: rest => tokens v ++ .comma :: itemTokens rest

/-- The tokens of members, with commas between them. -/
def memberTokens : List (List UInt8 × Source) → List Token
  | [] => []
  | [(name, v)] => .text name :: .colon :: tokens v
  | (name, v) :: rest => .text name :: .colon :: tokens v ++ .comma :: memberTokens rest

end

/-- A document is that of a value. -/
def WrittenAs (v : Source) (bs : List UInt8) : Prop := LaidOut v.tokens bs

end Source

end ChatRelay.Json
