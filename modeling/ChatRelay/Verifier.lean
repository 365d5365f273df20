/-
# Verification of requests

A request has to show that it comes from the chat service.  With a signing secret it
carries a signature: the keyed digest of the version, the timestamp and the body, joined by
colons.  The timestamp has to be near the present, so that an old request cannot be sent
again.  The legacy way is a shared token inside the body.  Verification looks at the raw
bytes of the body, and the checks run in a fixed order, so that of several faults the first
one is reported.
-/
import ChatRelay.Digest.Hmac
import ChatRelay.Fault
import ChatRelay.Form
import ChatRelay.Json.Typed
import ChatRelay.Text.Blank

namespace ChatRelay

open Text

/-! ## Signatures -/

def signatureVersion : String := "v0"

def signedMessage (timestamp : String) (body : List UInt8) : List UInt8 :=
  Utf8.bytes signatureVersion ++ 0x3A :: Utf8.bytes timestamp ++ 0x3A :: body

/-- The keyed digest of a timestamp and a body. -/
def signatureBytes (secret timestamp : String) (body : List UInt8) : List UInt8 :=
  Digest.Hmac.mac (Utf8.bytes secret) (signedMessage timestamp body)

def sign (secret timestamp : String) (body : List UInt8) : String :=
  signatureVersion ++ "=" ++ String.ofList (Hex.encode (signatureBytes secret timestamp body))

/-! ## Requests -/

/-- The form of a body, which decides where its token stands. -/
inductive BodyFormat where
  /-- The token is a field of a form. -/
  | form
  /-- The token is a member of a JSON object. -/
  | json
deriving DecidableEq, Repr

/-- The parts of a request that verification looks at. -/
structure SignedRequest where
  timestamp : Option String
  signature : Option String
  body : List UInt8
  format : BodyFormat
deriving DecidableEq, Repr

inductive Refusal where
  | missingTimestamp
  | missingSignature
  | invalidTimestamp (text : String)
  /-- The timestamp is too far from the present. -/
  | staleTimestamp
  | unsupportedVersion
  | invalidHex
  | signatureMismatch
  | invalidForm (fault : Form.Fault)
  | invalidJson
  | tokenMismatch
  | noSecret
deriving DecidableEq, Repr

/-- The fault of a refused request: malformed when it could not be checked, and a failed
verification when it could. -/
def Refusal.fault : Refusal → Fault
  | missingTimestamp => .malformed "missing X-Slack-Request-Timestamp header"
  | missingSignature => .malformed "missing X-Slack-Signature header"
  | invalidTimestamp text => .malformed s!"invalid request timestamp '{text}'"
  | staleTimestamp => .malformed "request timestamp is too old"
  | unsupportedVersion => .verification "unsupported signature version"
  | invalidHex => .verification "signature is not valid hex"
  | signatureMismatch => .verification "signature mismatch"
  | invalidForm fault => .malformed fault.message
  | invalidJson => .malformed "invalid JSON body"
  | tokenMismatch => .verification "verification token mismatch"
  | noSecret => .verification "no verification secret configured"

/-! ## The verifier -/

inductive VerificationMode where
  | disabled
  | signingSecret
  | legacyToken
deriving DecidableEq, Repr

def VerificationMode.name : VerificationMode → String
  | disabled => "Disabled"
  | signingSecret => "SigningSecret"
  | legacyToken => "LegacyToken"

/-- What requests are verified with. -/
structure Verifier where
  signingSecret : Option String
  legacyToken : Option String
  /-- Whether every request is accepted. -/
  skip : Bool
deriving DecidableEq, Repr

namespace Verifier

/-- How the verifier works: the secret is preferred to the token. -/
def mode (v : Verifier) : VerificationMode :=
  if v.skip then .disabled
  else if v.signingSecret.isSome then .signingSecret
  else .legacyToken

/-- A description for logs, which shows neither the secret nor the token. -/
def description (v : Verifier) : String := "Verifier \x7b mode: " ++ v.mode.name ++ " \x7d"

/-- The greatest distance in seconds between a timestamp and the present. -/
def maxSkew : Nat := 300

/-- What follows the version and an equals sign at the start of a signature. -/
def signatureDigits? (signature : String) : Option (List Char) :=
  match signature.toList with
  | 'v' :: '0' :: '=' :: rest => some rest
  | _ => none

/-- Check the signature of a request at a time. -/
def checkSignature (secret : String) (r : SignedRequest) (now : Int) : Except Refusal Unit := do
  let some timestamp := r.timestamp | throw .missingTimestamp
  let some signature := r.signature | throw .missingSignature
  let .ok sentAt := Decimal.readInt64 (trim timestamp.toList) | throw (.invalidTimestamp timestamp)
  if (now - sentAt).natAbs > maxSkew then throw .staleTimestamp
  let some digits := signatureDigits? signature | throw .unsupportedVersion
  let some provided := Hex.decode digits | throw .invalidHex
  if provided ≠ signatureBytes secret timestamp r.body then throw .signatureMismatch

/-- The token of a JSON body: the last member of that name, if it is a text. -/
def jsonToken (v : Json.Source) : String :=
  match v with
  | .object _ =>
    ((v.members?.getD []).reverse.lookup "token").elim "" fun t => t.text?.getD ""
  | _ => ""

/-- The token of a body; one without a token reads as the empty text. -/
def bodyToken (r : SignedRequest) : Except Refusal String :=
  match r.format with
  | .form =>
    match Form.decode r.body with
    | .ok form => .ok (form.value "token")
    | .error fault => .error (.invalidForm fault)
  | .json =>
    match Json.readKept? r.body with
    | some v => .ok (jsonToken v)
    | none => .error .invalidJson

def checkToken (expected : String) (r : SignedRequest) : Except Refusal Unit := do
  if (← bodyToken r) ≠ expected then throw .tokenMismatch

/-- Check a request at a time in seconds. -/
def verify (v : Verifier) (r : SignedRequest) (now : Int) : Except Refusal Unit :=
  if v.skip then .ok ()
  else
    match v.signingSecret, v.legacyToken with
    | some secret, _ => checkSignature secret r now
    | none, some token => checkToken token r
    | none, none => .error .noSecret

end Verifier

end ChatRelay
