/-
# Faults

What can go wrong in the relay itself, by kind.  The kinds matter to callers: faults of an
inbound request are the sender's, all others are the relay's own.
-/

namespace ChatRelay

/-- What went wrong. -/
inductive Fault where
  | missingSettings (names : List String)
  | invalidSetting (name reason : String)
  /-- A request does not show that it comes from the chat service. -/
  | verification (reason : String)
  | malformed (reason : String)
  | unreadable (reason : String)
  | invalidYaml (reason : String)
  | invalidJson
deriving DecidableEq, Repr

namespace Fault

def message : Fault → String
  | missingSettings names =>
    "required environment variables are missing: " ++ ", ".intercalate names
  | invalidSetting name reason => s!"invalid value for {name}: {reason}"
  | verification reason => s!"request verification failed: {reason}"
  | malformed reason => s!"malformed request: {reason}"
  | unreadable reason => reason
  | invalidYaml reason => reason
  | invalidJson => "invalid JSON"

end Fault

end ChatRelay
