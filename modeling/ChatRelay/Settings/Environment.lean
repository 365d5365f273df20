/-
# Settings from the environment

Environment variables are laid over the settings of a file: a variable that is set takes
the place of the value that the file gives, and an empty variable counts as not set.
-/
import ChatRelay.Settings.Basic

namespace ChatRelay

open Text

/-- The values of environment variables. -/
abbrev Environment : Type := String → Option String

namespace Environment

def empty : Environment := fun _ => none

def ofList (values : List (String × String)) : Environment := fun name =>
  values.lookup name

/-- The value of a variable that is set and not empty. -/
def value? (env : Environment) (name : String) : Option String :=
  (env name).filter fun v => !v.isEmpty

def port? (env : Environment) (name : String) : Except Fault (Option UInt16) :=
  match env.value? name with
  | none => .ok none
  | some v =>
    match Decimal.readNat maxPort v.toList with
    | .ok n => .ok (some (UInt16.ofNat n))
    | .error e => .error (.invalidSetting name s!"'{v}' is not a valid port: {e.message}")

end Environment

/-- Lay the environment over the settings. -/
def Settings.overlay (s : Settings) (env : Environment) : Except Fault Settings := do
  let port ← env.port? "PORT"
  return {
    port := port.or s.port
    slack := {
      botToken := (env.value? "SLACK_BOT_TOKEN").or s.slack.botToken
      signingSecret := (env.value? "SLACK_SIGNING_SECRET").or s.slack.signingSecret
      verificationToken := (env.value? "SLACK_VERIFICATION_TOKEN").or s.slack.verificationToken
      skipVerification :=
        ((env.value? "SKIP_SLACK_VERIFICATION").map (· == "true")).or s.slack.skipVerification
      apiUrl := (env.value? "SLACK_API_URL").or s.slack.apiUrl }
    github := {
      token := (env.value? "GITHUB_TOKEN").or s.github.token
      org := (env.value? "GITHUB_ORG").or s.github.org
      apiUrl := (env.value? "GITHUB_API_URL").or s.github.apiUrl
      defaultRef := (env.value? "GITHUB_REF").or s.github.defaultRef } }

end ChatRelay
