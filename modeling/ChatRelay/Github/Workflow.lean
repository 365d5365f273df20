/-
# Answers of the workflow service

The list of the workflows of a repository, and the explanation that comes with a refusal.
Members that are not known are passed over.
-/
import ChatRelay.Json.Basic
import ChatRelay.Json.Typed

namespace ChatRelay.Github

open Json (Source)

/-! ## Workflows -/

structure Workflow where
  id : Nat
  name : String
  path : String
  state : String
  /-- The address of its badge, possibly empty. -/
  badgeUrl : String
deriving DecidableEq, Repr

namespace Workflow

def fieldNames : List String := ["id", "name", "path", "state", "badge_url"]

def toJson (w : Workflow) : Json :=
  .object (fieldNames.zip
    [.nat w.id, .text w.name, .text w.path, .text w.state, .text w.badgeUrl])

/-- Read a workflow; the badge may be missing. -/
def ofJson? (v : Source) : Option Workflow := do
  match ← v.fields? fieldNames with
  | [id, name, path, state, badgeUrl] =>
    return ⟨← Source.required (Source.nat? Source.maxNat64) id,
      ← Source.required Source.text? name,
      ← Source.required Source.text? path,
      ← Source.required Source.text? state,
      ← Source.orElse Source.text? "" badgeUrl⟩
  | _ => none

end Workflow

structure WorkflowList where
  totalCount : Nat
  /-- The ones that were sent. -/
  workflows : List Workflow
deriving DecidableEq, Repr

namespace WorkflowList

def fieldNames : List String := ["total_count", "workflows"]

def toJson (l : WorkflowList) : Json :=
  .object (fieldNames.zip [.nat l.totalCount, .array (l.workflows.map Workflow.toJson)])

def ofJson? (v : Source) : Option WorkflowList := do
  match ← v.fields? fieldNames with
  | [totalCount, workflows] =>
    return ⟨← Source.required (Source.nat? Source.maxNat64) totalCount,
      ← Source.required (Source.list? Workflow.ofJson?) workflows⟩
  | _ => none

end WorkflowList

/-! ## Refusals -/

/-- The explanation that comes with a refusal. -/
structure Explanation where
  message : String
  documentationUrl : Option String
deriving DecidableEq, Repr

namespace Explanation

def fieldNames : List String := ["message", "documentation_url"]

def toJson (e : Explanation) : Json :=
  .object (fieldNames.zip [.text e.message, Json.ofText? e.documentationUrl])

/-- Read an explanation; both fields may be missing. -/
def ofJson? (v : Source) : Option Explanation := do
  match ← v.fields? fieldNames with
  | [message, documentationUrl] =>
    return ⟨← Source.orElse Source.text? "" message,
      ← Source.orElse (Source.optional? Source.text?) none documentationUrl⟩
  | _ => none

end Explanation

end ChatRelay.Github
