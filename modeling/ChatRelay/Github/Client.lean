/-
# The client of the workflow service

Two calls: one starts a workflow, the other lists the workflows of a repository.  The names
in a call are appended to the address of the service as segments of its path, so that none
of them can lead out of its place.  A workflow has been started only if the answer has
status 204, and a list counts only with status 200.
-/
import ChatRelay.Command.Dispatch
import ChatRelay.Github.Workflow
import ChatRelay.Router
import ChatRelay.Text.Quoted
import ChatRelay.Web.Exchange

namespace ChatRelay.Github

/-! ## Errors -/

inductive Error where
  /-- The address of the service is not one that paths can be appended to. -/
  | invalidUrl (url : String)
  | transport (error : Web.Error)
  | refused (status : Nat) (explanation : Explanation)
  | dispatchStatus (status : Nat)
  | listStatus (status : Nat)
  | undecodable (error : Web.Error)
deriving DecidableEq, Repr

namespace Error

def message : Error → String
  | invalidUrl url => s!"invalid API URL '{url}'"
  | transport error => s!"failed to send request: {error.message}"
  | refused _ explanation => s!"workflow dispatch failed: {explanation.message}"
  | dispatchStatus status => s!"workflow dispatch failed with status {status}"
  | listStatus status => s!"failed to list workflows: status {status}"
  | undecodable error => s!"failed to decode response: {error.message}"

/-- The status of the answer, if there is one. -/
def status? : Error → Option Nat
  | refused status _ => some status
  | dispatchStatus status => some status
  | listStatus status => some status
  | _ => none

/-- The causes behind an error, from the outer to the inner ones. -/
def causes : Error → List String
  | transport error => error.message :: error.causes
  | _ => []

end Error

/-! ## The client -/

/-- A token and the root of the service. -/
structure Client where
  token : String
  base : Url
deriving DecidableEq, Repr

namespace Client

def create (token url : String) : Except Error Client :=
  match Url.parse? url with
  | none => .error (.invalidUrl url)
  | some base => if base.isBase then .ok ⟨token, base⟩ else .error (.invalidUrl base.text)

/-- A description for logs, which does not show the token. -/
def description (c : Client) : String :=
  "GithubClient \x7b base_url: " ++ Text.Quoted.quote c.base.text ++ ", .. \x7d"

def acceptedType : String := "application/vnd.github.v3+json"

def userAgent : String := "chatops-relay/0.1.0"

def dispatchUrl (c : Client) (r : DispatchRequest) : Url :=
  c.base.append
    ["repos", r.organization, r.repository, "actions", "workflows", r.workflow, "dispatches"]

def listUrl (c : Client) (organization repository : String) : Url :=
  c.base.append ["repos", organization, repository, "actions", "workflows"]

def draft (c : Client) (method : Web.Method) (url : Url) (body : Option Json) : Web.Draft :=
  ⟨method, url, c.token, acceptedType, some userAgent, body⟩

def explanation? (r : Web.Response) : Option Explanation := do
  let bytes ← r.body
  let v ← Json.read? bytes
  Explanation.ofJson? v

/-- What the answer to a call to start a workflow means. -/
def dispatchResult (r : Web.Response) : Except Error Unit :=
  if r.status = 204 then .ok ()
  else
    match explanation? r with
    | some e => .error (.refused r.status e)
    | none => .error (.dispatchStatus r.status)

def list? (r : Web.Response) : Option WorkflowList := do
  let bytes ← r.body
  let v ← Json.read? bytes
  WorkflowList.ofJson? v

/-- What the answer to a call to list workflows means. -/
def listResult (r : Web.Response) : Except Error WorkflowList :=
  if r.status ≠ 200 then .error (.listStatus r.status)
  else
    match list? r with
    | some l => .ok l
    | none => .error (.undecodable .undecodable)

variable {m : Type → Type} [Monad m]

def startWorkflow (exchange : Web.Request → m Web.Delivery) (c : Client) (r : DispatchRequest) :
    m (Except Error Unit) := do
  match ← Web.send exchange (c.draft .post (c.dispatchUrl r) (some r.payload)) with
  | .error e => return .error (.transport e)
  | .ok response => return dispatchResult response

def listWorkflows (exchange : Web.Request → m Web.Delivery) (c : Client)
    (organization repository : String) : m (Except Error WorkflowList) := do
  match ← Web.send exchange (c.draft .get (c.listUrl organization repository) none) with
  | .error e => return .error (.transport e)
  | .ok response => return listResult response

/-- Start a workflow for the router. -/
def dispatch (exchange : Web.Request → m Web.Delivery) (c : Client) (r : DispatchRequest) :
    m Outcome := do
  match ← c.startWorkflow exchange r with
  | .ok _ => return .accepted
  | .error e => return .failed e.message

end Client

end ChatRelay.Github
