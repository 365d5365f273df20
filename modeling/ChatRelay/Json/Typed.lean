/-
# Reading typed values from JSON

A record is read from an object, whose unknown members are passed over, or from an array,
whose items fill the fields in their order.  A field that is named twice is an error.  A
missing field is an error unless the field has a default; what is passed over is not looked
at.
-/
import ChatRelay.Json.Source

namespace ChatRelay.Json.Source

/-! ## Single values -/

def text? : Source → Option String
  | text bs => textOf? bs
  | _ => none

def bool? : Source → Option Bool
  | bool b => some b
  | _ => none

def nat? (bound : Nat) : Source → Option Nat
  | number n => n.nat? bound
  | _ => none

def maxNat64 : Nat := 18446744073709551615

def optional? {α : Type} (read : Source → Option α) : Source → Option (Option α)
  | null => some none
  | v => (read v).map some

def list? {α : Type} (read : Source → Option α) : Source → Option (List α)
  | array items => items.mapM read
  | _ => none

/-- The members of an object with their names. -/
def members? : Source → Option (List (String × Source))
  | object ms => ms.mapM fun m => (textOf? m.1).map fun k => (k, m.2)
  | _ => none

/-- A name out of a fixed set: a string, or an object whose only member has that name and
the value null. -/
def name? : Source → Option String
  | text bs => textOf? bs
  | object [(k, null)] => textOf? k
  | _ => none

/-! ## Records -/

/-- The values that an array or object gives to the fields of a record. -/
def fields? (names : List String) : Source → Option (List (Option Source))
  | array items =>
    if items.length ≤ names.length then
      some (items.map some ++ List.replicate (names.length - items.length) none)
    else none
  | v => do
    let ms ← v.members?
    if names.all fun k => (ms.countP fun m => m.1 == k) ≤ 1 then
      return names.map fun k => ms.lookup k
    else none

/-- The value of a field that must be there. -/
def required {α : Type} (read : Source → Option α) (field : Option Source) : Option α :=
  field.bind read

/-- The value of a field that has a default. -/
def orElse {α : Type} (read : Source → Option α) (default : α) (field : Option Source) :
    Option α :=
  match field with
  | none => some default
  | some v => read v

end ChatRelay.Json.Source
