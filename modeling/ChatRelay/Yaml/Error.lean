/-
# What is wrong with a YAML text

An error says what was found, where that was, and in the course of what it was found.  There
are errors of the text itself, and mismatches between a value and what is wanted in its
place.  Lines and columns are counted from one in the wording; the very start of a text is
not mentioned.
-/
import ChatRelay.Text.Decimal

namespace ChatRelay.Yaml

open Text (Decimal.render)

/-! ## Marks -/

/-- A position that can be pointed at. -/
structure Mark where
  index : Nat
  line : Nat
  column : Nat
deriving DecidableEq, Repr

namespace Mark

def origin : Mark := ⟨0, 0, 0⟩

/-- Whether two marks are at the same place of the same line. -/
def coincides (a b : Mark) : Bool := a.line == b.line && a.column == b.column

def text (m : Mark) : String :=
  if m.coincides origin then ""
  else " at line " ++ Decimal.render (m.line + 1) ++ " column " ++ Decimal.render (m.column + 1)

end Mark

/-! ## Errors -/

/-- The keys that lead to a value, the outermost first. -/
abbrev Path : Type := List String

inductive Error where
  /-- A character may not stand in a text; the number is that of the bytes before it. -/
  | forbidden (index : Nat)
  /-- The text breaks a rule of the format, possibly in the course of something that began
  elsewhere. -/
  | malformed (problem : String) (mark : Mark) (course : Option (String × Mark))
  | unknownAnchor (mark : Mark)
  | severalDocuments
  /-- A value is not what is wanted; it may not be known yet where. -/
  | mismatch (problem : String) (place : Option (Path × Mark))
deriving DecidableEq, Repr

namespace Error

/-- An error in the course of something, unless it is known to be in the course of something
else. -/
def during (course : String) (mark : Mark) : Error → Error
  | malformed problem place none => malformed problem place (some (course, mark))
  | e => e

/-- An error at a place, unless its place is known. -/
def locate (path : Path) (mark : Mark) : Error → Error
  | mismatch problem none => mismatch problem (some (path, mark))
  | e => e

/-- The wording of what something was in the course of. -/
def courseText (mark : Mark) : Option (String × Mark) → String
  | none => ""
  | some (course, start) =>
    ", while " ++ course ++ (if start.coincides mark then "" else start.text)

def message : Error → String
  | forbidden index =>
    "control characters are not allowed" ++
      (if index = 0 then "" else " at position " ++ Decimal.render index)
  | malformed problem mark course => problem ++ mark.text ++ courseText mark course
  | unknownAnchor mark => "unknown anchor" ++ mark.text
  | severalDocuments =>
    "deserializing from YAML containing more than one document is not supported"
  | mismatch problem none => problem
  | mismatch problem (some (path, mark)) =>
    (if path.isEmpty then "" else ".".intercalate path ++ ": ") ++ problem ++ mark.text

end Error

end ChatRelay.Yaml
