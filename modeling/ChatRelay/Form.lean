/-
# Form bodies

The body of a slash command is an `application/x-www-form-urlencoded` form: pieces between
ampersands, each a name and a value with an equals sign between them.  Pieces are separated
before their escapes are decoded, so that an escaped separator is part of a value.  When a
name occurs twice its first value counts.  A body that is not UTF-8, or that holds a broken
escape, is refused as a whole.
-/
import ChatRelay.Text.Percent
import ChatRelay.Text.Utf8
import ChatRelay.Text.Decimal

namespace ChatRelay

open Text

/-- The names and values of a form, in the order of the body. -/
structure Form where
  fields : List (String × String)
deriving DecidableEq, Repr

namespace Form

/-! ## Decoding -/

inductive Fault where
  | notUtf8 (fault : Utf8.Fault)
  /-- The percent sign at a position starts no escape. -/
  | badEscape (index : Nat)
deriving DecidableEq, Repr

def Fault.message : Fault → String
  | notUtf8 fault => s!"form body is not UTF-8: {fault.message}"
  | badEscape index => s!"invalid percent escape at byte {index}"

/-- The text of a name or a value: a plus sign is a space, and escapes are decoded. -/
def decodeText (bs : List UInt8) : String :=
  String.ofList (Utf8.decodeLossy (Percent.decode (bs.map fun b => if b = 0x2B then 0x20 else b)))

/-- The name and value of a piece: what stands before and after its first equals sign. -/
def decodeField (piece : List UInt8) : String × String :=
  (decodeText (piece.takeWhile (· != 0x3D)), decodeText ((piece.dropWhile (· != 0x3D)).drop 1))

/-- The fields of a body; empty pieces are none. -/
def decodeFields (body : List UInt8) : List (String × String) :=
  ((body.splitOnP (· == 0x26)).filter fun p => !p.isEmpty).map decodeField

def decode (body : List UInt8) : Except Fault Form :=
  match Utf8.decode body with
  | .error fault => .error (.notUtf8 fault)
  | .ok _ =>
    match Percent.firstBad? body with
    | some index => .error (.badEscape index)
    | none => .ok ⟨decodeFields body⟩

/-! ## Fields -/

/-- The first value of a name. -/
def get? (f : Form) (name : String) : Option String := f.fields.lookup name

/-- The first value of a name, or the empty text. -/
def value (f : Form) (name : String) : String := (f.get? name).getD ""

end Form

end ChatRelay
