/-
# Dispatch requests

What a chat command comes down to: run one workflow of one repository on one ref, with some
inputs.  The hosting service expects the ref and the inputs as the body of the call; the
rest of the request is in the address.
-/
import ChatRelay.Command.Inputs
import ChatRelay.Json.Basic
import ChatRelay.Json.Typed

namespace ChatRelay

open Json (Source)

/-- The object of some inputs. -/
def Inputs.toJson (i : Inputs) : Json := .object (i.entries.map fun p => (p.1, .text p.2))

/-- Inputs from an object of texts; the last member of a name counts. -/
def Inputs.ofJson? (v : Source) : Option Inputs := do
  let ms ← v.members?
  let pairs ← ms.mapM fun m => m.2.text?.map fun s => (m.1, s)
  return Inputs.ofList pairs

/-- One run of one workflow. -/
structure DispatchRequest where
  organization : String
  repository : String
  workflow : String
  gitRef : String
  inputs : Inputs
deriving DecidableEq, Repr

namespace DispatchRequest

/-- The body of the call that starts the run. -/
def payload (r : DispatchRequest) : Json :=
  .object [("inputs", r.inputs.toJson), ("ref", .text r.gitRef)]

def fieldNames : List String :=
  ["organization", "repository", "workflow_id", "git_ref", "inputs"]

/-- The fields of a request with their values, in order. -/
def members (r : DispatchRequest) : List (String × Json) :=
  fieldNames.zip
    [.text r.organization, .text r.repository, .text r.workflow, .text r.gitRef,
     r.inputs.toJson]

def toJson (r : DispatchRequest) : Json := .object r.members

def ofJson? (v : Source) : Option DispatchRequest := do
  match ← v.fields? fieldNames with
  | [organization, repository, workflow, gitRef, inputs] =>
    return ⟨← Source.required Source.text? organization,
      ← Source.required Source.text? repository,
      ← Source.required Source.text? workflow,
      ← Source.required Source.text? gitRef,
      ← Source.required Inputs.ofJson? inputs⟩
  | _ => none

end DispatchRequest

end ChatRelay
