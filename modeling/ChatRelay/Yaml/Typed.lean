/-
# Reading typed values from YAML

A record is read from a mapping, or from nothing at all, in the order of the text; unknown
keys are passed over, and a known key that is repeated is an error.  A text is any scalar as
it is written.  Truth values and numbers are read from plain scalars alone, or from a literal
block that is tagged as one.  Optional values are missing where nothing or a null word is
written plain.  A mismatch names what stands in the text and what is wanted.
-/
import ChatRelay.Yaml.Node
import ChatRelay.Yaml.Plain

namespace ChatRelay.Yaml

open Text (Quoted.quote)

/-! ## Mismatches -/

/-- The complete tag of a type of scalar. -/
def typeTag (name : String) : List UInt8 :=
  ("tag:yaml.org,2002:" ++ name).toList.map fun x => UInt8.ofNat x.toNat

/-- The error that something of another type stands in the place of what is wanted. -/
def wrongType (found wanted : String) : Error :=
  .mismatch ("invalid type: " ++ found ++ ", expected " ++ wanted) none

/-- The error that a value of the right type is none of those that are wanted. -/
def wrongValue (found wanted : String) : Error :=
  .mismatch ("invalid value: " ++ found ++ ", expected " ++ wanted) none

/-- The error that a field of a record is repeated. -/
def repeatedField (name : String) : Error :=
  .mismatch ("duplicate field \x60" ++ name ++ "\x60") none

/-- A text as a mismatch names it. -/
def quotedText (s : List Char) : String := "string " ++ Quoted.quote (String.ofList s)

/-- The types that a tag can demand of a scalar: the name of the tag, what reads such a value
and names it, and what the value is called when it is wanted. -/
def demands : List (String × (List Char → Option String) × String) :=
  [("bool", boolText?, "a boolean"),
   ("int", intText?, "an integer"),
   ("float", floatText?, "a float"),
   ("null", nullText?, "null")]

/-- The error that a scalar stands where something else is wanted. -/
def scalarMismatch (tag : Option (List UInt8)) (style : ScalarStyle) (s : List Char)
    (wanted : String) : Error :=
  let found := if style = .plain then (plainText? s).getD (quotedText s) else quotedText s
  match tag with
  | none => wrongType found wanted
  | some t =>
    match demands.find? fun d => typeTag d.1 == t with
    | some (_, read, name) =>
      match read s with
      | some value => wrongType value wanted
      | none => wrongValue (quotedText s) name
    | none => wrongType (if t.head? == some 0x21 then found else quotedText s) wanted

/-! ## Scalars -/

/-- Whether a scalar may be read as a value of the type that a tag names. -/
def isTyped (tag : Option (List UInt8)) (style : ScalarStyle) (type : String) : Bool :=
  match style with
  | .plain => true
  | .literal => tag == some (typeTag type)
  | .other => false

namespace Document

/-- The error that a document breaks off. -/
def breakError (d : Document) : Error := d.error.getD .severalDocuments

def scalar {α : Type} (d : Document) (wanted : String)
    (read : Option (List UInt8) → ScalarStyle → List Char → Except Error α) (path : Path)
    (n : Node) : Except Error α :=
  match d.resolve n with
  | .scalar mark tag style text => (read tag style text).mapError (·.locate path mark)
  | .sequence mark _ => .error ((wrongType "sequence" wanted).locate path mark)
  | .mapping mark _ => .error ((wrongType "map" wanted).locate path mark)
  | _ => .error d.breakError

/-- Read an optional value: what reads a value is asked only where one is written. -/
def optional {α : Type} (d : Document) (read : Path → Node → Except Error α) (path : Path)
    (n : Node) : Except Error (Option α) :=
  match d.resolve n with
  | .scalar _ tag .plain text =>
    if tag = none ∧ (text.isEmpty ∨ isNullWord text) then .ok none
    else if tag = some (typeTag "null") then
      if isNullWord text then .ok none else .error (wrongValue (quotedText text) "null")
    else some <$> read path n
  | _ => some <$> read path n

def text (d : Document) : Path → Node → Except Error (Option String) :=
  d.optional (d.scalar "a string" fun _ _ text => .ok (String.ofList text))

def bool (d : Document) : Path → Node → Except Error (Option Bool) :=
  d.optional (d.scalar "a boolean" fun tag style text =>
    match if isTyped tag style "bool" then boolWord? text else none with
    | some b => .ok b
    | none => .error (scalarMismatch tag style text "a boolean"))

/-- A natural number up to a bound, which has a name. -/
def nat (d : Document) (bound : Nat) (wanted : String) : Path → Node → Except Error (Option Nat) :=
  d.optional (d.scalar wanted fun tag style text =>
    match if isTyped tag style "int" then natural? maxWord text else none with
    | some n => if n ≤ bound then .ok n else .error (wrongValue (integerText n) wanted)
    | none => .error (scalarMismatch tag style text wanted))

/-! ## Records -/

/-- A field of a record: its name, and how its value is read and put into the record. -/
structure Field (α : Type) where
  name : String
  read : Path → Node → α → Except Error α

/-- The text of a key of the record at a path. -/
def key (d : Document) : Path → Node → Except Error String :=
  d.scalar "field identifier" fun _ _ text => .ok (String.ofList text)

/-- The step of a path that a key makes; a reference has no name of its own. -/
def step (n : Node) : String :=
  match n with
  | .scalar _ _ _ text => String.ofList text
  | _ => "?"

/-- Read entries into a record after those with the names `seen`. -/
def readEntries {α : Type} (d : Document) (fields : List (Field α)) (path : Path)
    (seen : List String) (a : α) : List (Node × Node) → Except Error α
  | [] => .ok a
  | (k, v) :: rest => do
    let name ← d.key path k
    match fields.find? fun f => f.name == name with
    | none => if v.isWhole then d.readEntries fields path seen a rest else .error d.breakError
    | some f =>
      if seen.contains name then .error (repeatedField name)
      else
        let a ← f.read (path ++ [step k]) v a
        d.readEntries fields path (name :: seen) a rest

/-- Read a record of some fields, given the one without any values. -/
def record {α : Type} (d : Document) (wanted : String) (fields : List (Field α)) (default : α)
    (path : Path) (n : Node) : Except Error α :=
  match d.resolve n with
  | .mapping mark entries =>
    (d.readEntries fields path [] default entries).mapError (·.locate path mark)
  | .scalar _ _ .plain [] => .ok default
  | .scalar mark tag style text =>
    .error ((scalarMismatch tag style text wanted).locate path mark)
  | .sequence mark _ => .error ((wrongType "sequence" wanted).locate path mark)
  | _ => .error d.breakError

/-- Read the value of a document.  What is wrong behind it is an error, too. -/
def value {α : Type} (d : Document) (read : Path → Node → Except Error α) : Except Error α := do
  let a ← read [] (d.root.getD .empty)
  match d.error with
  | some e => .error e
  | none => return a

end Document

end ChatRelay.Yaml
