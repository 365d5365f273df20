/-
# Answers of the relay

The answers to inbound requests, and the way from a failure to an answer: the sender's
faults are told from the relay's own by their status, whatever context has been added to
them, while the text is the one of the outermost context.
-/
import ChatRelay.Failure
import ChatRelay.Json.Basic

namespace ChatRelay

/-- An answer to an inbound request. -/
structure Response where
  status : Nat
  contentType : Option String := none
  /-- The methods that are allowed, where the one of the request is not. -/
  allow : Option String := none
  body : String := ""
deriving DecidableEq, Repr

namespace Response

def empty (status : Nat) : Response := { status }

def ofJson (status : Nat) (v : Json) : Response :=
  { status, contentType := some "application/json", body := v.compact }

def ofText (status : Nat) (s : String) : Response :=
  { status, contentType := some "text/plain; charset=utf-8", body := s }

end Response

/-! ## Answers to requests that fail -/

namespace Failure

def status (f : Failure) : Nat :=
  match f.cause with
  | .fault (.malformed _) => 400
  | .fault (.verification _) => 401
  | _ => 500

def response (f : Failure) : Response :=
  .ofJson f.status (.object [("error", .text f.message)])

end Failure

end ChatRelay
