/-
# The relay's configuration

Settings become a configuration once everything that is required has a value; all missing
values are reported together, in a fixed order.  A configuration can be summarised without
showing its secrets, and there are warnings about ones that are accepted but unwise.
-/
import ChatRelay.Settings.Basic
import ChatRelay.Text.Blank
import ChatRelay.Verifier

namespace ChatRelay

open Json (Source)

/-! ## Configurations -/

/-- What the chat service is reached and believed with. -/
structure SlackAccess where
  botToken : String
  signingSecret : Option String
  verificationToken : Option String
  skipVerification : Bool
  apiUrl : String
deriving DecidableEq, Repr

/-- What the workflow service is reached with. -/
structure GithubAccess where
  token : String
  org : String
  apiUrl : String
  defaultRef : String
deriving DecidableEq, Repr

/-- A complete configuration. -/
structure Relay where
  port : UInt16
  slack : SlackAccess
  github : GithubAccess
deriving DecidableEq, Repr

def defaultPort : UInt16 := 8080

def defaultGithubUrl : String := "https://api.github.com"

def defaultSlackUrl : String := "https://slack.com/api"

def defaultRef : String := "main"

namespace GithubAccess

/-- The names of the required settings that have no value. -/
def missing (s : GithubSettings) : List String :=
  (if s.token.isNone then ["GITHUB_TOKEN"] else []) ++
    (if s.org.isNone then ["GITHUB_ORG"] else [])

/-- The workflow side, if its required settings have values. -/
def ofSettings? (s : GithubSettings) : Option GithubAccess := do
  return ⟨← s.token, ← s.org, s.apiUrl.getD defaultGithubUrl,
    s.defaultRef.getD ChatRelay.defaultRef⟩

/-- The workflow side, or what it lacks. -/
def ofSettings (s : Settings) : Except Fault GithubAccess :=
  match ofSettings? s.github with
  | some access => .ok access
  | none => .error (.missingSettings (missing s.github))

end GithubAccess

namespace SlackAccess

/-- The names of the required settings that have no value. -/
def missing (s : SlackSettings) : List String :=
  (if s.botToken.isNone then ["SLACK_BOT_TOKEN"] else []) ++
    (if s.signingSecret.isNone && s.verificationToken.isNone then
      ["SLACK_SIGNING_SECRET or SLACK_VERIFICATION_TOKEN"] else [])

/-- The chat side, if its required settings have values. -/
def ofSettings? (s : SlackSettings) : Option SlackAccess := do
  let botToken ← s.botToken
  if s.signingSecret.isNone && s.verificationToken.isNone then none
  else
    return ⟨botToken, s.signingSecret, s.verificationToken, s.skipVerification.getD false,
      s.apiUrl.getD defaultSlackUrl⟩

/-- What requests are verified with. -/
def verifier (s : SlackAccess) : Verifier :=
  ⟨s.signingSecret, s.verificationToken, s.skipVerification⟩

end SlackAccess

namespace Relay

/-- The configuration of some settings, or everything that they lack. -/
def ofSettings (s : Settings) : Except Fault Relay :=
  match SlackAccess.ofSettings? s.slack, GithubAccess.ofSettings? s.github with
  | some slack, some github => .ok ⟨s.port.getD defaultPort, slack, github⟩
  | _, _ => .error (.missingSettings (SlackAccess.missing s.slack ++ GithubAccess.missing s.github))

end Relay

/-! ## Summaries -/

/-- A secret with only its first and last four characters shown; a short one is hidden. -/
def maskSecret (secret : String) : String :=
  let cs := secret.toList
  if cs.length ≤ 8 then "****"
  else String.ofList (cs.take 4 ++ '…' :: cs.drop (cs.length - 4))

/-- How requests are verified, for people. -/
def SlackAccess.verification (s : SlackAccess) : String :=
  if s.skipVerification then "disabled (development only)"
  else if s.signingSecret.isSome then "signing secret"
  else "verification token (legacy)"

/-- The configuration by keys and values, with the secrets masked. -/
def Relay.summary (r : Relay) : List (String × String) :=
  [("port", Text.Decimal.render r.port.toNat),
   ("github org", r.github.org),
   ("github api", r.github.apiUrl),
   ("dispatch ref", r.github.defaultRef),
   ("github token", maskSecret r.github.token),
   ("slack bot token", maskSecret r.slack.botToken),
   ("request verification", r.slack.verification)]

/-! ## Warnings -/

inductive WarningLevel where
  | warning
  | error
deriving DecidableEq, Repr

namespace WarningLevel

def all : List WarningLevel := [warning, error]

def name : WarningLevel → String
  | warning => "warning"
  | error => "error"

def ofName? (s : String) : Option WarningLevel := all.find? fun l => l.name == s

end WarningLevel

structure Warning where
  level : WarningLevel
  message : String
deriving DecidableEq, Repr

namespace Warning

def fieldNames : List String := ["level", "message"]

def toJson (w : Warning) : Json :=
  .object (fieldNames.zip [.text w.level.name, .text w.message])

def ofJson? (v : Source) : Option Warning := do
  match ← v.fields? fieldNames with
  | [level, message] =>
    let name ← Source.required Source.name? level
    return ⟨← WarningLevel.ofName? name, ← Source.required Source.text? message⟩
  | _ => none

end Warning

def Relay.warnings (r : Relay) : List Warning :=
  (if r.slack.skipVerification then
    [⟨.warning, "SKIP_SLACK_VERIFICATION is enabled: inbound requests are not " ++
      "authenticated; never use this outside local development"⟩] else []) ++
  (match r.slack.signingSecret, r.slack.verificationToken with
    | none, some _ =>
      [⟨.warning, "using the legacy Slack verification token; configure " ++
        "SLACK_SIGNING_SECRET instead"⟩]
    | some _, some _ =>
      [⟨.warning, "both SLACK_SIGNING_SECRET and SLACK_VERIFICATION_TOKEN are set; " ++
        "the verification token is ignored"⟩]
    | _, none => []) ++
  (if r.github.defaultRef.toList.all Text.isBlank then [⟨.error, "GITHUB_REF is empty"⟩] else [])

/-- Whether something keeps a relay of a configuration from running. -/
def Relay.isBlocked (r : Relay) : Bool := r.warnings.any fun w => w.level == .error

end ChatRelay
