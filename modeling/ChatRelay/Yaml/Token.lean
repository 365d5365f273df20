/-
# YAML tokens

The tokens of a YAML text.  Block structure is visible only from columns; the lexer turns
it into tokens for the start and the end of each block collection.  A tag is a handle,
empty when the tag is complete, and the bytes after it.
-/
import ChatRelay.Yaml.Error

namespace ChatRelay.Yaml

/-- How a scalar is written, as far as it matters for its meaning. -/
inductive ScalarStyle where
  | plain
  /-- As a block whose line breaks stand for themselves. -/
  | literal
  | other
deriving DecidableEq, Repr

inductive Token where
  | versionDirective (major minor : Nat)
  /-- The directive that gives a tag handle a meaning. -/
  | tagDirective (handle : List Char) (start : List UInt8)
  | documentStart
  | documentEnd
  | blockSequenceStart
  | blockMappingStart
  | blockEnd
  | flowSequenceStart
  | flowSequenceEnd
  | flowMappingStart
  | flowMappingEnd
  | blockEntry
  | flowEntry
  /-- The start of a key, written as a question mark or seen from the colon after it. -/
  | key
  | value
  | alias (name : List Char)
  | anchor (name : List Char)
  | tag (handle : List Char) (suffix : List UInt8)
  | scalar (text : List Char) (style : ScalarStyle)
deriving DecidableEq, Repr

structure PlacedToken where
  token : Token
  mark : Mark
deriving DecidableEq, Repr

/-- The tokens of a text up to its end or to the first error. -/
structure Tokens where
  list : List PlacedToken
  last : Mark
  error : Option Error
deriving DecidableEq, Repr

end ChatRelay.Yaml
