/-
# Settings

The settings as they are written in a file or given by the environment: any of them may be
missing.  The same settings can be read from YAML and from JSON, and are written as JSON
without the ones that have no value.
-/
import ChatRelay.Fault
import ChatRelay.Json.Basic
import ChatRelay.Json.Typed
import ChatRelay.Yaml.Typed

namespace ChatRelay

open Json (Source)

/-! ## The settings -/

structure SlackSettings where
  botToken : Option String := none
  signingSecret : Option String := none
  verificationToken : Option String := none
  skipVerification : Option Bool := none
  apiUrl : Option String := none
deriving DecidableEq, Repr

structure GithubSettings where
  token : Option String := none
  org : Option String := none
  apiUrl : Option String := none
  defaultRef : Option String := none
deriving DecidableEq, Repr

structure Settings where
  port : Option UInt16 := none
  slack : SlackSettings := {}
  github : GithubSettings := {}
deriving DecidableEq, Repr

def maxPort : Nat := 65535

/-! ## As JSON -/

namespace SlackSettings

def fieldNames : List String :=
  ["bot_token", "signing_secret", "verification_token", "skip_verification", "api_url"]

def toJson (s : SlackSettings) : Json :=
  Json.present (fieldNames.zip
    [s.botToken.map .text, s.signingSecret.map .text, s.verificationToken.map .text,
     s.skipVerification.map .bool, s.apiUrl.map .text])

def ofJson? (v : Source) : Option SlackSettings := do
  let text := Source.orElse (Source.optional? Source.text?) none
  match ← v.fields? fieldNames with
  | [botToken, signingSecret, verificationToken, skipVerification, apiUrl] =>
    return {
      botToken := ← text botToken
      signingSecret := ← text signingSecret
      verificationToken := ← text verificationToken
      skipVerification := ← Source.orElse (Source.optional? Source.bool?) none skipVerification
      apiUrl := ← text apiUrl }
  | _ => none

end SlackSettings

namespace GithubSettings

def fieldNames : List String := ["token", "org", "api_url", "default_ref"]

def toJson (s : GithubSettings) : Json :=
  Json.present (fieldNames.zip
    [s.token.map .text, s.org.map .text, s.apiUrl.map .text, s.defaultRef.map .text])

def ofJson? (v : Source) : Option GithubSettings := do
  let text := Source.orElse (Source.optional? Source.text?) none
  match ← v.fields? fieldNames with
  | [token, org, apiUrl, defaultRef] =>
    return {
      token := ← text token
      org := ← text org
      apiUrl := ← text apiUrl
      defaultRef := ← text defaultRef }
  | _ => none

end GithubSettings

namespace Settings

def fieldNames : List String := ["port", "slack", "github"]

/-- The settings that have a value; the two sections always stand there. -/
def toJson (s : Settings) : Json :=
  Json.present (fieldNames.zip
    [s.port.map fun p => .nat p.toNat, some s.slack.toJson, some s.github.toJson])

def ofJson? (v : Source) : Option Settings := do
  match ← v.fields? fieldNames with
  | [port, slack, github] =>
    let port ← Source.orElse (Source.optional? (Source.nat? maxPort)) none port
    return {
      port := port.map UInt16.ofNat
      slack := ← Source.orElse SlackSettings.ofJson? {} slack
      github := ← Source.orElse GithubSettings.ofJson? {} github }
  | _ => none

end Settings

/-! ## From YAML -/

open Yaml.Document (Field)

def SlackSettings.ofYaml (d : Yaml.Document) :
    Yaml.Path → Yaml.Node → Except Yaml.Error SlackSettings :=
  d.record "struct SlackSection"
    [⟨"bot_token", fun p n s => (d.text p n).map ({ s with botToken := · })⟩,
     ⟨"signing_secret", fun p n s => (d.text p n).map ({ s with signingSecret := · })⟩,
     ⟨"verification_token", fun p n s => (d.text p n).map ({ s with verificationToken := · })⟩,
     ⟨"skip_verification", fun p n s => (d.bool p n).map ({ s with skipVerification := · })⟩,
     ⟨"api_url", fun p n s => (d.text p n).map ({ s with apiUrl := · })⟩]
    {}

def GithubSettings.ofYaml (d : Yaml.Document) :
    Yaml.Path → Yaml.Node → Except Yaml.Error GithubSettings :=
  d.record "struct GithubSection"
    [⟨"token", fun p n s => (d.text p n).map ({ s with token := · })⟩,
     ⟨"org", fun p n s => (d.text p n).map ({ s with org := · })⟩,
     ⟨"api_url", fun p n s => (d.text p n).map ({ s with apiUrl := · })⟩,
     ⟨"default_ref", fun p n s => (d.text p n).map ({ s with defaultRef := · })⟩]
    {}

namespace Settings

def ofYaml (d : Yaml.Document) : Except Yaml.Error Settings :=
  let port (p : Yaml.Path) (n : Yaml.Node) : Except Yaml.Error (Option UInt16) :=
    (d.nat maxPort "u16" p n).map (·.map UInt16.ofNat)
  d.value (d.record "struct ConfigFile"
    [⟨"port", fun p n s => (port p n).map ({ s with port := · })⟩,
     ⟨"slack", fun p n s => (SlackSettings.ofYaml d p n).map ({ s with slack := · })⟩,
     ⟨"github", fun p n s => (GithubSettings.ofYaml d p n).map ({ s with github := · })⟩]
    {})

def ofFile (bs : List UInt8) : Except Fault Settings :=
  match Text.Utf8.decode bs with
  | .error _ => .error (.unreadable "stream did not contain valid UTF-8")
  | .ok s => (ofYaml (Yaml.Document.ofText s)).mapError fun e => .invalidYaml e.message

end Settings

end ChatRelay
