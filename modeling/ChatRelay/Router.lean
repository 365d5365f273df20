/-
# Routing

A router turns a command into at most one dispatch and a reply.  Who carries out the
dispatch, and what state that takes, is left open: the router works in any monad, given a
dispatcher that answers each request.  `Recorder` is the dispatcher that answers from a
list of outcomes and keeps the requests.
-/
import ChatRelay.Command.Inbound
import ChatRelay.Reply

namespace ChatRelay

/-! ## The router -/

/-- What became of a dispatch: it was accepted, or it failed for a reason. -/
inductive Outcome where
  | accepted
  | failed (reason : String)
deriving DecidableEq, Repr

/-- The organization and ref that all dispatches of a relay are for. -/
structure Router where
  organization : String
  gitRef : String
deriving DecidableEq, Repr

namespace Router

variable {m : Type → Type} [Monad m]

def handleMention (r : Router) (dispatch : DispatchRequest → m Outcome) (inbound : Inbound) :
    m Reply := do
  match MentionCommand.parse inbound.text with
  | .error rejection => return .ofRejection rejection
  | .ok command =>
    match command.toDispatch? r.organization r.gitRef with
    | none => return .help
    | some request =>
      match ← dispatch request with
      | .accepted => return .dispatched command
      | .failed reason => return .dispatchFailed command reason

def handleSlash (r : Router) (dispatch : DispatchRequest → m Outcome) (name : String)
    (inbound : Inbound) : m SlashReply := do
  if name ≠ slashCommand then return .unknownCommand
  match ActionCommand.parse? inbound.text with
  | none => return .usage
  | some command =>
    match ← dispatch (command.toDispatch r.organization r.gitRef) with
    | .accepted => return .dispatched command
    | .failed reason => return .dispatchFailed command reason

end Router

/-! ## Recorded runs -/

/-- A dispatcher with the outcomes of its next dispatches and the requests made so far. -/
structure Recorder where
  /-- The outcomes still to come; a dispatch after the last one is accepted. -/
  outcomes : List Outcome
  sent : List DispatchRequest
deriving DecidableEq, Repr

/-- Answer a request from the list of outcomes, and keep it. -/
def Recorder.dispatch (request : DispatchRequest) : StateM Recorder Outcome :=
  modifyGet fun s => (s.outcomes.headD .accepted, ⟨s.outcomes.tail, s.sent ++ [request]⟩)

/-- A step of a run: the text of a mention, or a slash command with its name. -/
inductive RouterStep where
  | mention (inbound : Inbound)
  | slash (name : String) (inbound : Inbound)
deriving DecidableEq, Repr

inductive StepReply where
  | mention (reply : Reply)
  | slash (reply : SlashReply)
deriving DecidableEq, Repr

/-- Handle one step with the recording dispatcher. -/
def Router.step (r : Router) : RouterStep → StateM Recorder StepReply
  | .mention inbound => .mention <$> r.handleMention Recorder.dispatch inbound
  | .slash name inbound => .slash <$> r.handleSlash Recorder.dispatch name inbound

def Router.run (r : Router) (steps : List RouterStep) : StateM Recorder (List StepReply) :=
  steps.mapM r.step

end ChatRelay
