/-
# The server

Three routes: one says that the relay runs, one receives events, and one receives the slash
command.  A request to one of the latter two is verified on its raw bytes before anything is
read from them.  An event that is not meant for the bot, and one that is delivered again, is
acknowledged and nothing else.
-/
import ChatRelay.Github.Client
import ChatRelay.Router
import ChatRelay.Server.Response
import ChatRelay.Settings.Relay
import ChatRelay.Slack.Client
import ChatRelay.Slack.Event
import ChatRelay.Text.Timestamp

namespace ChatRelay

open Text

/-! ## Inbound requests -/

structure InboundRequest where
  method : String
  /-- The address: a path, perhaps with a scheme and a host before it. -/
  target : String
  /-- The headers with their values, in order, the names in lower case. -/
  headers : List (String × List UInt8)
  /-- The content; one that never ends is absent. -/
  body : Option (List UInt8)
deriving DecidableEq, Repr

namespace InboundRequest

/-- The path of the address, which is a slash if it is left out behind a host.  An address that
is a host alone has none. -/
def path (r : InboundRequest) : String :=
  let s := r.target.toList
  let ends (c : Char) : Bool := c == '?' || c == '#'
  match s, s.dropWhile Url.isSchemeChar with
  | '/' :: _, _ => String.ofList (s.takeWhile fun c => !ends c)
  | _, ':' :: '/' :: '/' :: rest =>
    let p := (rest.dropWhile fun c => c != '/' && !ends c).takeWhile fun c => !ends c
    if p.isEmpty then "/" else String.ofList p
  | _, _ => ""

def hasHeader (r : InboundRequest) (name : String) : Bool := (r.headers.lookup name).isSome

/-- The first value of a header, if it is visible ASCII. -/
def header? (r : InboundRequest) (name : String) : Option String := do
  let value ← r.headers.lookup name
  if value.all fun b => b == 0x09 || (0x20 ≤ b && b ≤ 0x7E) then
    some (String.ofList (value.map fun b => Char.ofNat b.toNat))
  else none

end InboundRequest

def signatureHeader : String := "x-slack-signature"

def timestampHeader : String := "x-slack-request-timestamp"

/-- The header of a request that is delivered again. -/
def retryHeader : String := "x-slack-retry-num"

/-! ## The server -/

/-- A server that is ready to answer. -/
structure Server where
  relay : Relay
  github : Github.Client
deriving DecidableEq, Repr

/-- The two services that a server talks to, in some monad. -/
structure Exchanges (m : Type → Type) where
  toGithub : Web.Request → m Web.Delivery
  toSlack : Web.Request → m Web.Delivery

namespace Server

def create (relay : Relay) : Except Github.Error Server :=
  (Github.Client.create relay.github.token relay.github.apiUrl).map fun github => ⟨relay, github⟩

/-- What requests are verified with. -/
def verifier (s : Server) : Verifier := s.relay.slack.verifier

def router (s : Server) : Router := ⟨s.relay.github.org, s.relay.github.defaultRef⟩

def slack (s : Server) : Slack.Client := .create s.relay.slack.apiUrl s.relay.slack.botToken

/-- The largest content that is read, in bytes. -/
def maxBodySize : Nat := 1048576

/-- The parts of a request that verification looks at. -/
def signedRequest (r : InboundRequest) (body : List UInt8) (format : BodyFormat) : SignedRequest :=
  ⟨r.header? timestampHeader, r.header? signatureHeader, body, format⟩

variable {m : Type → Type} [Monad m]

/-- Handle the bot being mentioned: route the command and post the reply. -/
def handleMention (s : Server) (x : Exchanges m) (c : Slack.Callback) : m Unit := do
  let inbound : Inbound := ⟨.mention, stripMention c.text, c.user, c.channel⟩
  let reply ← s.router.handleMention (s.github.dispatch x.toGithub) inbound
  let _ ← s.slack.post x.toSlack c.channel reply.render

/-- Answer an event that has been verified. -/
def handleEvent (s : Server) (x : Exchanges m) (redelivered : Bool) (body : List UInt8) :
    m Response := do
  match Slack.Event.decode? body with
  | none => return (Failure.ofFault (.malformed "invalid event payload")).response
  | some (.challenge text) => return .ofText 200 text
  | some (.callback c) =>
    if c.kind = "app_mention" && !redelivered then s.handleMention x c
    return .empty 200
  | some .other => return .empty 200

/-- Answer a slash command that has been verified. -/
def handleCommand (s : Server) (x : Exchanges m) (body : List UInt8) : m Response := do
  match Form.decode body with
  | .error fault => return (Failure.ofFault (.malformed fault.message)).response
  | .ok form =>
    let inbound : Inbound :=
      ⟨.slashCommand, form.value "text", form.value "user_id", form.value "channel_id"⟩
    let reply ←
      s.router.handleSlash (s.github.dispatch x.toGithub) (form.value "command") inbound
    return .ofJson 200 (.object [("text", .text reply.render)])

/-- Receive the content of a request, verify it, and answer it.  Content that never ends is
given up, and content that is too large is refused before it is verified. -/
def receive (s : Server) (now : Int) (r : InboundRequest) (format : BodyFormat)
    (answer : List UInt8 → m Response) : m Response :=
  match r.body with
  | none => return .empty 408
  | some body =>
    if maxBodySize < body.length then
      return .ofText 413 "Failed to buffer the request body: length limit exceeded"
    else
      match s.verifier.verify (signedRequest r body format) now with
      | .error refusal => return (Failure.ofFault refusal.fault).response
      | .ok _ => answer body

/-- The answer that the server runs, at a time in seconds. -/
def health (now : Int) (r : InboundRequest) : Response :=
  let time := Timestamp.render now.toNat
  let response := Response.ofJson 200 (.object [("status", .text "healthy"), ("time", .text time)])
  if r.method = "HEAD" then { response with body := "" } else response

/-- The answer to a request whose method is not allowed. -/
def notAllowed (methods : String) : Response := { status := 405, allow := some methods }

/-- Answer a request at a time in seconds. -/
def handle (s : Server) (x : Exchanges m) (now : Int) (r : InboundRequest) : m Response :=
  match r.path with
  | "/health" =>
    if r.method = "GET" ∨ r.method = "HEAD" then return health now r
    else return notAllowed "GET,HEAD"
  | "/slack/events" =>
    if r.method = "POST" then
      s.receive now r .json (s.handleEvent x (r.hasHeader retryHeader))
    else return notAllowed "POST"
  | "/slack/commands" =>
    if r.method = "POST" then s.receive now r .form (s.handleCommand x)
    else return notAllowed "POST"
  | _ => return .empty 404

end Server

/-! ## Shutting down -/

/-- How long requests that are being answered may take once the server is to stop. -/
def shutdownGrace : Nat := 30

/-- What becomes of stopping the server, given whether some request is not answered in
time. -/
def Server.stop (unanswered : Bool) : Except String Unit :=
  if unanswered then
    .error ("in-flight requests did not finish within " ++ Decimal.render shutdownGrace ++
      "s; forcing shutdown")
  else .ok ()

end ChatRelay
