/-
# The log

A line of the log has a level and comes from a part of the program.  Rules say up to which
level the lines of which parts are shown; of all rules for a line the most specific one
counts, which is the one with the longest name of a part.  A rule is written as the name of
a part, a field that the lines have, in brackets, and a level behind an equals sign; each of
these may be left out.
-/
import ChatRelay.Text.Decimal
import ChatRelay.Text.Hex
import ChatRelay.Text.Word

namespace ChatRelay.CommandLine

open Text

/-! ## Lines -/

/-- How serious a line of the log is. -/
inductive LogLevel where
  | error
  | warning
  | info
  | debug
  | trace
deriving DecidableEq, Repr

namespace LogLevel

def name : LogLevel → String
  | error => "ERROR"
  | warning => "WARN"
  | info => "INFO"
  | debug => "DEBUG"
  | trace => "TRACE"

/-- The place of a level in the order from serious to slight. -/
def rank : LogLevel → Nat
  | error => 1
  | warning => 2
  | info => 3
  | debug => 4
  | trace => 5

end LogLevel

structure LogLine where
  level : LogLevel
  source : String
  message : String
deriving DecidableEq, Repr

namespace LogLine

/-- A character as it is written in the log: those that a terminal obeys are spelled out. -/
def escapeControl (c : Char) : List Char :=
  if c = '\x1b' then ['\\', 'x', '1', 'b']
  else if c = '\x07' then ['\\', 'x', '0', '7']
  else if c = '\x08' then ['\\', 'x', '0', '8']
  else if c = '\x0c' then ['\\', 'x', '0', 'c']
  else if c = '\x7f' then ['\\', 'x', '7', 'f']
  else if 0x80 ≤ c.toNat ∧ c.toNat ≤ 0x9f then
    ['\\', 'u', '\x7b', Hex.digit (c.toNat / 16), Hex.digit (c.toNat % 16), '\x7d']
  else [c]

def render (l : LogLine) : String :=
  l.level.name ++ " " ++ String.ofList (l.message.toList.flatMap escapeControl)

/-- The name of the only field of a line. -/
def fieldName : String := "message"

end LogLine

/-! ## Rules -/

/-- The slightest level that is shown; without one nothing is. -/
abbrev LogLimit : Type := Option LogLevel

/-- The limits with the words for them; their places in the list stand for them, too. -/
def logLimits : List (String × LogLimit) :=
  [("off", none), ("error", some .error), ("warn", some .warning), ("info", some .info),
   ("debug", some .debug), ("trace", some .trace)]

/-- The greatest number that a limit can be written as before it is looked up. -/
def maxLimitNumber : Nat := 18446744073709551615

/-- The limit that a text stands for: a word in capital or small letters, or a number. -/
def logLimit? (s : List Char) : Option LogLimit :=
  match Decimal.readNat maxLimitNumber s with
  | .ok n => logLimits[n]?.map (·.2)
  | .error _ => logLimits.lookup (String.ofList (s.map Char.toLower))

/-- A rule about what is shown. -/
structure LogRule where
  /-- How the names of the parts begin that the rule is for; without one it is for all. -/
  source : Option (List Char)
  /-- The fields that a line must have. -/
  fields : List (List Char)
  limit : LogLimit
deriving DecidableEq, Repr

namespace LogRule

def covers (r : LogRule) (l : LogLine) : Bool :=
  (r.source.getD []).isPrefixOf l.source.toList &&
    r.fields.all fun f => String.ofList f == LogLine.fieldName

/-- How specific a rule is about the part of the program. -/
def sourceWeight (r : LogRule) : Nat :=
  match r.source with
  | none => 0
  | some s => s.length + 1

/-- Whether a rule is at most as specific as another one. -/
def isAtMost (a b : LogRule) : Bool :=
  a.sourceWeight < b.sourceWeight ||
    (a.sourceWeight == b.sourceWeight && a.fields.length ≤ b.fields.length)

end LogRule

/-! ## Reading rules -/

/-- Why a text is not a rule. -/
inductive LogRuleFault where
  | malformed
  | unknownLimit
deriving DecidableEq, Repr

def LogRuleFault.message : LogRuleFault → String
  | malformed => "invalid filter directive"
  | unknownLimit =>
    "error parsing level filter: expected one of \"off\", \"error\", \"warn\", \"info\", " ++
      "\"debug\", \"trace\", or a number 0-5"

namespace LogRule

/-- Whether a rule can start with a character. -/
def canStart (c : Char) : Bool := c ∈ ['-', ':', '_', '['] || isWord c

/-- The rule of a text that is nothing but a level or the name of a part. -/
def ofName (s : List Char) : LogRule :=
  match logLimit? s with
  | some limit => ⟨none, [], limit⟩
  | none => ⟨some s, [], some .trace⟩

/-- Read the limit that ends a rule, if there is one, from a place on in the trimmed text `t`
of the rule; what the limit says is taken from the same place of the text `s`. -/
def readLimit (s t : List Char) (place : Nat) : Except LogRuleFault LogLimit :=
  match t.drop place with
  | [] => .ok (some .trace)
  | '=' :: _ =>
    let word := s.drop (place + 1)
    if word.isEmpty then .ok (some .trace)
    else
      match logLimit? word with
      | some limit => .ok limit
      | none => .error .unknownLimit
  | _ => .error .malformed

/-- Read a rule.  It is looked at without the blanks around it, but what it says is taken from
the whole text at the same places.  There is no rule if it is about the lines of a span, or
about fields with some value, since no line has these. -/
def read (s : List Char) : Except LogRuleFault (Option LogRule) :=
  let t := trim s
  let nameEnd := (t.takeWhile fun c => c != '=' && c != '[').length
  let source := if nameEnd = 0 then none else some (s.take nameEnd)
  if !(t.head?.any canStart) then .error .malformed
  else if nameEnd = t.length then .ok (some (ofName s))
  else if t[nameEnd]? = some '=' then
    (readLimit s t nameEnd).map fun limit => some ⟨source, [], limit⟩
  else
    let spanEnd := nameEnd + 1 +
      ((t.drop (nameEnd + 1)).takeWhile fun c => c != ']' && c != '\x7b').length
    match t.drop spanEnd with
    | ']' :: _ => (readLimit s t (spanEnd + 1)).map fun _ => none
    | '\x7b' :: rest =>
      let field := rest.takeWhile (· != '\x7d')
      let fieldEnd := spanEnd + 1 + field.length
      match field, t.drop fieldEnd with
      | _ :: _, '\x7d' :: ']' :: _ =>
        let name := (s.drop (spanEnd + 1)).take field.length
        (readLimit s t (fieldEnd + 2)).map fun limit =>
          if spanEnd = nameEnd + 1 && !name.contains '=' then some ⟨source, [name], limit⟩
          else none
      | _, _ => .error .malformed
    | _ => .error .malformed

end LogRule

/-! ## Filters -/

/-- What is shown of the log. -/
structure LogFilter where
  remarks : List String
  /-- The rules; of two that are equally specific the later one counts. -/
  rules : List LogRule
deriving DecidableEq, Repr

namespace LogFilter

/-- Read the rules of a text, with commas between them.  The last word on lines that no name
is for has the given limit. -/
def ofText (s : String) (limit : LogLimit) : LogFilter :=
  let texts := (s.toList.splitOnP (· == ',')).filter fun t => !t.isEmpty
  let remark? (t : List Char) : Option String :=
    match LogRule.read t with
    | .ok _ => none
    | .error e => some ("ignoring \x60" ++ String.ofList t ++ "\x60: " ++ e.message)
  let rule? (t : List Char) : Option LogRule := (LogRule.read t).toOption.join
  ⟨texts.filterMap remark?, texts.filterMap rule? ++ [⟨none, [], limit⟩]⟩

/-- The rule that counts for a line. -/
def rule? (f : LogFilter) (l : LogLine) : Option LogRule :=
  (f.rules.filter (·.covers l)).foldl
    (fun best r => if best.all (·.isAtMost r) then some r else best) none

def shows (f : LogFilter) (l : LogLine) : Bool :=
  (f.rule? l).any fun r => r.limit.any fun limit => l.level.rank ≤ limit.rank

end LogFilter

end ChatRelay.CommandLine
