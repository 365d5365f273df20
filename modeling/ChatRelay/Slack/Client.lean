/-
# The client of the chat service

Replies are posted to a channel.  The chat service answers with status 200 even when it does
not post, so the content of the answer is looked at too.
-/
import ChatRelay.Json.Typed
import ChatRelay.Text.Quoted
import ChatRelay.Web.Exchange

namespace ChatRelay.Slack

open Json (Source)

/-! ## Answers and errors -/

structure Answer where
  ok : Bool
  error : Option String
deriving DecidableEq, Repr

def Answer.ofJson? (v : Source) : Option Answer := do
  match ← v.fields? ["ok", "error"] with
  | [ok, error] =>
    return ⟨← Source.required Source.bool? ok,
      ← Source.orElse (Source.optional? Source.text?) none error⟩
  | _ => none

inductive Error where
  /-- There is no answer, or none that can be read. -/
  | transport (error : Web.Error)
  /-- The answer has another status than 200. -/
  | status (code : Nat)
  | refused (reason : String)
deriving DecidableEq, Repr

def Error.message : Error → String
  | transport error => s!"failed to reach Slack: {error.message}"
  | status code => s!"Slack returned HTTP {code}"
  | refused reason => s!"chat.postMessage failed: {reason}"

/-! ## The client -/

/-- A token and the root of the service. -/
structure Client where
  /-- The root of the service, as text without slashes at its end. -/
  apiUrl : String
  botToken : String
deriving DecidableEq, Repr

namespace Client

def create (url botToken : String) : Client :=
  ⟨String.ofList (url.toList.reverse.dropWhile (· == '/')).reverse, botToken⟩

/-- A description for logs, which does not show the token. -/
def description (c : Client) : String :=
  "SlackClient \x7b api_url: " ++ Text.Quoted.quote c.apiUrl ++ ", .. \x7d"

def postUrl (c : Client) : String := c.apiUrl ++ "/chat.postMessage"

def content (channel text : String) : Json :=
  .object [("channel", .text channel), ("text", .text text)]

/-- What the answer to a post means. -/
def postResult (r : Web.Response) : Except Error Unit :=
  if r.status ≠ 200 then .error (.status r.status)
  else
    match (r.body.bind Json.read?).bind Answer.ofJson? with
    | none => .error (.transport .undecodable)
    | some a => if a.ok then .ok () else .error (.refused (a.error.getD "unknown_error"))

variable {m : Type → Type} [Monad m]

def post (exchange : Web.Request → m Web.Delivery) (c : Client) (channel text : String) :
    m (Except Error Unit) := do
  match Url.parse? c.postUrl with
  | none => return .error (.transport (.unwritable none "relative URL without a base"))
  | some url =>
    match ← Web.send exchange
      ⟨.post, url, c.botToken, "*/*", none, some (content channel text)⟩ with
    | .error e => return .error (.transport e)
    | .ok response => return postResult response

end Client

end ChatRelay.Slack
