/-
# Web requests and what comes of them

A request as it leaves the relay, the answer to it, and the ways in which there may be no
answer.  A request can fail before it is sent, because its address or its token cannot be
written in it, or while it is sent.
-/
import ChatRelay.Json.Basic
import ChatRelay.Text.Base64
import ChatRelay.Url.Parse

namespace ChatRelay.Web

open Text

/-! ## Requests and answers -/

inductive Method where
  | get
  | post
deriving DecidableEq, Repr

def Method.name : Method → String
  | get => "GET"
  | post => "POST"

structure Request where
  method : Method
  url : Url
  /-- The values of the authorization header, in order. -/
  authorization : List String
  accept : String
  userAgent : Option String
  body : Option Json
deriving Repr

namespace Request

/-- The path and query of the address. -/
def target (r : Request) : String :=
  String.ofList (r.url.path ++ Url.markedChars '?' r.url.query)

def contentType (r : Request) : Option String := r.body.map fun _ => "application/json"

end Request

structure Response where
  status : Nat
  /-- The headers, their names in lower case. -/
  headers : List (String × List UInt8)
  /-- The content, unless it breaks off. -/
  body : Option (List UInt8)
deriving DecidableEq, Repr

/-- What comes of sending a request. -/
inductive Delivery where
  | answered (response : Response)
  /-- It is received, but not answered; the causes go from the outer to the inner ones. -/
  | dropped (causes : List String)
  | unreachable (causes : List String)
deriving DecidableEq, Repr

def Delivery.received : Delivery → Bool
  | answered _ => true
  | dropped _ => true
  | unreachable _ => false

/-! ## Errors -/

/-- Why there is no answer, or none that can be used. -/
inductive Error where
  | unwritable (url : Option String) (cause : String)
  | unanswered (url : String) (causes : List String)
  /-- The request is sent on too often. -/
  | redirected (url : String)
  | undecodable
deriving DecidableEq, Repr

namespace Error

def message : Error → String
  | unwritable none _ => "builder error"
  | unwritable (some url) _ => s!"builder error for url ({url})"
  | unanswered url _ => s!"error sending request for url ({url})"
  | redirected url => s!"error following redirect for url ({url})"
  | undecodable => "error decoding response body"

/-- The causes behind an error, from the outer to the inner ones. -/
def causes : Error → List String
  | unwritable _ cause => [cause]
  | unanswered _ causes => causes
  | redirected _ => ["too many redirects"]
  | undecodable => []

end Error

/-! ## Writing requests -/

def isHeaderText (s : String) : Bool :=
  s.toList.all fun c => c == '\t' || (0x20 ≤ c.toNat && c.toNat ≠ 0x7F)

def maxUrlLength : Nat := 65534

/-- Whether an address can be written in a request. -/
def isWritable (u : Url) : Bool :=
  u.chars.length ≤ maxUrlLength &&
    !(u.host.getD []).any fun c => c ∈ ['"', '\x7b', '\x7d', '\x60']

def namesHost (u : Url) : Bool := u.host.any fun h => !h.isEmpty

/-- The text of an escaped part of an address, if it is UTF-8. -/
def partText? (s : List Char) : Option (List Char) :=
  (Utf8.decode (Percent.decode (Utf8.encode s))).toOption

/-- An address without its user name and password, and the authorization that these amount
to. -/
def takeCredentials (u : Url) : Url × List String :=
  match partText? u.username with
  | none => (u, [])
  | some name =>
    let password := u.password.bind partText?
    if name.isEmpty && password.isNone then (u, [])
    else
      let text := Base64.encode (Utf8.encode (name ++ ':' :: password.getD []))
      ({ u with username := [], password := none }, ["Basic " ++ String.ofList text])

/-- A request with a token, before anything else is known about it. -/
structure Draft where
  method : Method
  url : Url
  token : String
  accept : String
  userAgent : Option String
  body : Option Json
deriving Repr

/-- Write a request.  It needs a host, a token that can be in a header, and an address of
the web. -/
def Draft.write (d : Draft) : Except Error Request :=
  if !namesHost d.url then .error (.unwritable (some d.url.text) "URL scheme is not allowed")
  else if !isHeaderText d.token then .error (.unwritable none "failed to parse header value")
  else
    let (url, credentials) := takeCredentials d.url
    if url.scheme ≠ "http".toList ∧ url.scheme ≠ "https".toList then
      .error (.unwritable (some url.text) "URL scheme is not allowed")
    else if !isWritable url then
      .error (.unwritable (some url.text) "Parsed Url is not a valid Uri")
    else
      .ok ⟨d.method, url, credentials ++ ["Bearer " ++ d.token], d.accept, d.userAgent, d.body⟩

/-! ## Sending requests on -/

/-- The address that an answer points to, in relation to the one of its request. -/
def location? (url : Url) (r : Response) : Option Url := do
  let bytes ← r.headers.lookup "location"
  let text ← (Utf8.decode bytes).toOption
  let next ← url.resolve? (String.ofList text)
  if namesHost next && isWritable next then some next else none

/-- Whether two addresses are on one host and port. -/
def sameOrigin (a b : Url) : Bool :=
  a.host == b.host && a.port.or (Url.defaultPort? a.scheme) == b.port.or (Url.defaultPort? b.scheme)

/-- The request that an answer asks for in place of its own.  A request to do something
becomes one to be shown something, unless the answer says otherwise, and the authorization
stays behind when the host changes. -/
def Request.next? (q : Request) (r : Response) : Option Request := do
  let url ← location? q.url r
  let authorization := if sameOrigin q.url url then q.authorization else []
  if r.status = 301 ∨ r.status = 302 ∨ r.status = 303 then
    some { q with method := .get, url, authorization, body := none }
  else if r.status = 307 ∨ r.status = 308 then some { q with url, authorization }
  else none

/-- What follows from the delivery of a request. -/
inductive Turn where
  | done (result : Except Error Response)
  /-- Another request to be sent in place of the first one. -/
  | again (next : Request)

/-- What follows from a delivery: an answer is the result unless it asks for another request. -/
def Request.turn (q : Request) : Delivery → Turn
  | .dropped causes => .done (.error (.unanswered q.url.text causes))
  | .unreachable causes => .done (.error (.unanswered q.url.text causes))
  | .answered r =>
    match q.next? r with
    | none => .done (.ok r)
    | some q' => .again q'

/-- The greatest number of times that a request is sent on. -/
def maxRedirects : Nat := 10

variable {m : Type → Type} [Monad m]

/-- Send a request, and send it on as often as is left, but only to addresses of the web. -/
def sendUpTo (exchange : Request → m Delivery) : Nat → Request → m (Except Error Response)
  | 0, q => do
    match q.turn (← exchange q) with
    | .done result => return result
    | .again _ => return .error (.redirected q.url.text)
  | left + 1, q => do
    match q.turn (← exchange q) with
    | .done result => return result
    | .again q' =>
      if q'.url.scheme ≠ "http".toList ∧ q'.url.scheme ≠ "https".toList then
        return .error (.unwritable (some q'.url.text) "URL scheme is not allowed")
      else sendUpTo exchange left q'

/-- Send a draft, if it can be written. -/
def send (exchange : Request → m Delivery) (d : Draft) : m (Except Error Response) :=
  match d.write with
  | .error e => return .error e
  | .ok q => sendUpTo exchange maxRedirects q

end ChatRelay.Web
