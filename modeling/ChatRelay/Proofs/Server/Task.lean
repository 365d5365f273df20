/-
# What a server makes of a request

Before a server talks to any service it has decided what to do with a request: its answer is
known, or there is a mention or a slash command to be handled.  The decision has no effect and
depends on the request alone.  This file states it as a function, and shows that handling a
request is to decide and then to do what was decided, in whatever monad the services are.
-/
import ChatRelay.Server.Basic
import Mathlib.Tactic.Lemma
import Mathlib.Tactic.Common

namespace ChatRelay

/-! ## Decisions -/

/-- What is left to do for a request. -/
inductive Task where
  | answer (response : Response)
  | mention (callback : Slack.Callback)
  | command (form : Form)

namespace Server

/-- What is left to do for a posted request, given what its content asks for. -/
def received (s : Server) (now : Int) (r : InboundRequest) (format : BodyFormat)
    (content : List UInt8 → Task) : Task :=
  match r.body with
  | none => .answer (.empty 408)
  | some body =>
    if maxBodySize < body.length then
      .answer (.ofText 413 "Failed to buffer the request body: length limit exceeded")
    else
      match s.verifier.verify (signedRequest r body format) now with
      | .error refusal => .answer (Failure.ofFault refusal.fault).response
      | .ok _ => content body

/-- What is left to do for an event that has been read. -/
def heardTask (redelivered : Bool) : Slack.Event → Task
  | .challenge text => .answer (.ofText 200 text)
  | .callback c =>
    if c.kind = "app_mention" && !redelivered then .mention c else .answer (.empty 200)
  | .other => .answer (.empty 200)

/-- What is left to do for an event. -/
def eventTask (redelivered : Bool) (body : List UInt8) : Task :=
  match Slack.Event.decode? body with
  | none => .answer (Failure.ofFault (.malformed "invalid event payload")).response
  | some event => heardTask redelivered event

/-- What is left to do for a slash command. -/
def commandTask (body : List UInt8) : Task :=
  match Form.decode body with
  | .error fault => .answer (Failure.ofFault (.malformed fault.message)).response
  | .ok form => .command form

/-- What is left to do for a request at a time. -/
def task (s : Server) (now : Int) (r : InboundRequest) : Task :=
  match r.path with
  | "/health" =>
    if r.method = "GET" ∨ r.method = "HEAD" then .answer (health now r)
    else .answer (notAllowed "GET,HEAD")
  | "/slack/events" =>
    if r.method = "POST" then
      s.received now r .json (eventTask (r.hasHeader retryHeader))
    else .answer (notAllowed "POST")
  | "/slack/commands" =>
    if r.method = "POST" then s.received now r .form commandTask
    else .answer (notAllowed "POST")
  | _ => .answer (.empty 404)

/-- The slash command of a form. -/
def slashInbound (form : Form) : Inbound :=
  ⟨.slashCommand, form.value "text", form.value "user_id", form.value "channel_id"⟩

@[simp] lemma slashInbound_text (form : Form) : (slashInbound form).text = form.value "text" :=
  rfl

/-- The answer that shows a reply to the user of the slash command. -/
def slashAnswer (reply : SlashReply) : Response :=
  .ofJson 200 (.object [("text", .text reply.render)])

variable {m : Type → Type} [Monad m]

/-- Do what is left to do, and answer. -/
def perform (s : Server) (x : Exchanges m) : Task → m Response
  | .answer response => pure response
  | .mention c => do
    s.handleMention x c
    return .empty 200
  | .command form =>
    slashAnswer <$>
      s.router.handleSlash (s.github.dispatch x.toGithub) (form.value "command")
        (slashInbound form)

/-! ## Handling is deciding and doing -/

variable {s : Server} {x : Exchanges m} {now : Int} {r : InboundRequest}

lemma receive_eq {format : BodyFormat} {content : List UInt8 → Task}
    {answer : List UInt8 → m Response} (h : ∀ body, answer body = s.perform x (content body)) :
    s.receive now r format answer = s.perform x (s.received now r format content) := by
  rw [receive, received]
  cases r.body with
  | none => rfl
  | some body =>
    by_cases hsize : maxBodySize < body.length
    · simp [hsize, perform]
    · simp only [hsize, if_false]
      cases s.verifier.verify (signedRequest r body format) now with
      | error refusal => rfl
      | ok _ => exact h body

variable [LawfulMonad m]

lemma handleEvent_eq (redelivered : Bool) (body : List UInt8) :
    s.handleEvent x redelivered body = s.perform x (eventTask redelivered body) := by
  rw [handleEvent, eventTask]
  cases Slack.Event.decode? body with
  | none => rfl
  | some event =>
    cases event with
    | challenge text => rfl
    | other => rfl
    | callback c =>
      by_cases h : c.kind = "app_mention" && !redelivered
      · simp [h, heardTask, perform]
      · simp [h, heardTask, perform]

lemma handleCommand_eq (body : List UInt8) :
    s.handleCommand x body = s.perform x (commandTask body) := by
  rw [handleCommand, commandTask]
  cases Form.decode body with
  | error fault => rfl
  | ok form =>
    rw [perform, map_eq_pure_bind]
    rfl

/-- A server handles a request by doing what it has decided. -/
theorem handle_eq : s.handle x now r = s.perform x (s.task now r) := by
  rw [handle, task]
  generalize r.path = path
  by_cases hhealth : path = "/health"
  · subst hhealth
    show (if _ then _ else _) = s.perform x (if _ then _ else _)
    split <;> rfl
  · by_cases hevents : path = "/slack/events"
    · subst hevents
      show (if _ then _ else _) = s.perform x (if _ then _ else _)
      split
      · exact receive_eq fun body => handleEvent_eq _ body
      · rfl
    · by_cases hcommands : path = "/slack/commands"
      · subst hcommands
        show (if _ then _ else _) = s.perform x (if _ then _ else _)
        split
        · exact receive_eq fun body => handleCommand_eq body
        · rfl
      · simp only [perform]

end Server

end ChatRelay
