/-
# What the secrets do not change

A configuration is shown in many places: in its summary, in the warnings about it, in the
descriptions of what is built from it, and by the program when it checks the configuration.
Nothing that is shown depends on the secrets, but for what their masks let through: whether
there is a secret at all, and of a token of more than eight characters the first and the last
four.  Not even the length of a secret can be seen.
-/
import ChatRelay.CommandLine.Run
import Mathlib.Tactic.Lemma
import Mathlib.Tactic.Common

namespace ChatRelay

/-! ## Configurations that differ in their secrets -/

/-- Two secrets have the same mask: both have at most eight characters, or both have more, of
which the first four are the same and the last four. -/
inductive MaskedAlike (secret secret' : String) : Prop
  /-- Both are short. -/
  | short : secret.length ≤ 8 → secret'.length ≤ 8 → MaskedAlike secret secret'
  /-- Both are long, and something in the middle is hidden. -/
  | long {first last hidden hidden' : List Char} :
      first.length = 4 → last.length = 4 → hidden ≠ [] → hidden' ≠ [] →
      secret.toList = first ++ hidden ++ last → secret'.toList = first ++ hidden' ++ last →
      MaskedAlike secret secret'

/-- Two configurations are the same, but for the values of their secrets. -/
structure Relay.SameButSecrets (r r' : Relay) : Prop where
  port : r.port = r'.port
  org : r.github.org = r'.github.org
  githubUrl : r.github.apiUrl = r'.github.apiUrl
  gitRef : r.github.defaultRef = r'.github.defaultRef
  slackUrl : r.slack.apiUrl = r'.slack.apiUrl
  skip : r.slack.skipVerification = r'.slack.skipVerification
  /-- Their tokens for the workflow service have the same mask. -/
  githubToken : MaskedAlike r.github.token r'.github.token
  /-- Their tokens for the chat service have the same mask. -/
  botToken : MaskedAlike r.slack.botToken r'.slack.botToken
  /-- Both have a secret for signatures, or none has. -/
  signingSecret : r.slack.signingSecret.isSome = r'.slack.signingSecret.isSome
  /-- Both have a legacy token, or none has. -/
  verificationToken : r.slack.verificationToken.isSome = r'.slack.verificationToken.isSome

/-! ## What a configuration shows -/

/-- Two configurations cannot be told apart by what is said about them, and about what is built
from them. -/
structure Relay.LooksLike (r r' : Relay) : Prop where
  summary : r.summary = r'.summary
  warnings : r.warnings = r'.warnings
  verifier : r.slack.verifier.description = r'.slack.verifier.description
  /-- Their clients of the workflow service have the same description, or there is none for the
  same reason. -/
  github : (Github.Client.create r.github.token r.github.apiUrl).map Github.Client.description =
    (Github.Client.create r'.github.token r'.github.apiUrl).map Github.Client.description
  slack : (Slack.Client.create r.slack.apiUrl r.slack.botToken).description =
    (Slack.Client.create r'.slack.apiUrl r'.slack.botToken).description

/-- Secrets with the same mask are masked alike. -/
lemma MaskedAlike.maskSecret_eq {secret secret' : String} (h : MaskedAlike secret secret') :
    maskSecret secret = maskSecret secret' := by
  cases h with
  | short hshort hshort' =>
    rw [← String.length_toList] at hshort hshort'
    rw [maskSecret, maskSecret, if_pos hshort, if_pos hshort']
  | @long first last hidden hidden' hfirst hlast hhidden hhidden' hsecret hsecret' =>
    have hmask {s : String} {middle : List Char} (hmiddle : middle ≠ [])
        (hs : s.toList = first ++ middle ++ last) :
        maskSecret s = String.ofList (first ++ '…' :: last) := by
      have hpos := List.length_pos_iff.2 hmiddle
      have hlong : ¬ s.toList.length ≤ 8 := by
        simp [hs]
        omega
      have htake : s.toList.take 4 = first := by
        rw [hs, List.append_assoc, ← hfirst, List.take_left]
      have hdrop : s.toList.drop (s.toList.length - 4) = last := by
        rw [hs, ← hlast, List.length_append, Nat.add_sub_cancel, List.drop_left]
      rw [maskSecret, if_neg hlong, htake, hdrop]
    rw [hmask hhidden hsecret, hmask hhidden' hsecret']

/-- Clients of the workflow service at the same place have the same description. -/
lemma Github.Client.description_eq {c c' : Github.Client} (h : c.base = c'.base) :
    c.description = c'.description := by
  unfold description
  rw [h]

/-- Clients of the chat service at the same place have the same description. -/
lemma Slack.Client.description_eq {c c' : Slack.Client} (h : c.apiUrl = c'.apiUrl) :
    c.description = c'.description := by
  unfold description
  rw [h]

/-- Verifiers that work alike have the same description. -/
lemma Verifier.description_eq {v v' : Verifier} (h : v.mode = v'.mode) :
    v.description = v'.description := by
  unfold description
  rw [h]

/-- The token has no influence on whether there is a client, and on its description. -/
lemma Github.Client.description_create_eq (token token' url : String) :
    (create token url).map description = (create token' url).map description := by
  unfold create
  cases Url.parse? url with
  | none => rfl
  | some base =>
    by_cases hbase : base.isBase = true
    · simp only [if_pos hbase, Except.map]
      exact congrArg Except.ok (description_eq rfl)
    · simp only [if_neg hbase, Except.map]

namespace Relay.SameButSecrets

variable {r r' : Relay} (h : r.SameButSecrets r')

include h

lemma verification_eq : r.slack.verification = r'.slack.verification := by
  rw [SlackAccess.verification, SlackAccess.verification, h.skip, h.signingSecret]

lemma summary_eq : r.summary = r'.summary := by
  rw [Relay.summary, Relay.summary, h.port, h.org, h.githubUrl, h.gitRef,
    h.githubToken.maskSecret_eq, h.botToken.maskSecret_eq, h.verification_eq]

lemma warnings_eq : r.warnings = r'.warnings := by
  rw [Relay.warnings, Relay.warnings, h.skip, h.gitRef]
  have hsecret := h.signingSecret
  have htoken := h.verificationToken
  generalize r.slack.signingSecret = secret, r'.slack.signingSecret = secret' at hsecret ⊢
  generalize r.slack.verificationToken = token, r'.slack.verificationToken = token' at htoken ⊢
  -- only whether the two credentials are there decides which warning there is
  cases secret <;> cases secret' <;> cases hsecret <;>
    cases token <;> cases token' <;> cases htoken <;> rfl

lemma mode_eq : r.slack.verifier.mode = r'.slack.verifier.mode := by
  rw [Verifier.mode, Verifier.mode, SlackAccess.verifier, SlackAccess.verifier]
  simp only [h.skip, h.signingSecret]

lemma looksLike : r.LooksLike r' where
  summary := h.summary_eq
  warnings := h.warnings_eq
  verifier := Verifier.description_eq h.mode_eq
  github := by
    rw [h.githubUrl]
    exact Github.Client.description_create_eq _ _ _
  slack := by
    rw [h.slackUrl]
    exact Slack.Client.description_eq rfl

end Relay.SameButSecrets

/-! ## Checking a configuration -/

namespace CommandLine

/-- What a run shows besides its log: the output, the lines about how it ends, and the exit
status. -/
def Report.visible (r : Report) : String × List String × Nat :=
  (r.outputText, r.endingLines, r.exitCode)

/-- The program is asked to check the configuration that some settings make up: those of the
environment alone, or those of a file under them. -/
inductive ChecksSettings {m : Type → Type} [Monad m] (w : Surroundings m) (args : List String)
    (json : Bool) (s : Settings) : Prop
  | environment :
      Invocation.ofArguments w.environment args = .ok ⟨none, json, .checkConfig⟩ →
      readSettings w.environment none = .ok s → ChecksSettings w args json s
  | file {path : String} {content : Except Fault (List UInt8)} :
      Invocation.ofArguments w.environment args = .ok ⟨some path, json, .checkConfig⟩ →
      w.contentOf path = pure content →
      readSettings w.environment (some content) = .ok s → ChecksSettings w args json s

/-- However a check of some settings is asked for, as lines or as JSON, this is what it shows. -/
def CheckShows (s : Settings) (json : Bool) (shown : String × List String × Nat) : Prop :=
  ∀ (m : Type → Type) [Monad m] [LawfulMonad m] (w : Surroundings m) (args : List String),
    ChecksSettings w args json s → Report.visible <$> run w args = pure shown

@[simp] lemma Report.visible_filtered (r : Report) (f : LogFilter) :
    (r.filtered f).visible = r.visible := rfl

lemma checkShows {s : Settings} {r : Relay} (hr : Relay.ofSettings s = .ok r) (json : Bool) :
    CheckShows s json (checkReport json r).visible := by
  intro m _ _ w args hchecks
  have hrelay : relayOf s = .ok r := by rw [relayOf, hr]; rfl
  cases hchecks with
  | environment hargs hsettings =>
    simp [run, hargs, Invocation.perform, hsettings, Job.perform, hrelay]
  | file hargs hcontent hsettings =>
    simp [run, hargs, Invocation.perform, hcontent, hsettings, Job.perform, hrelay]

/-- The report of a check depends on what is said about the configuration. -/
lemma checkReport_eq {r r' : Relay} (h : r.LooksLike r') (json : Bool) :
    checkReport json r = checkReport json r' := by
  have hjson : checkJson r = checkJson r' := by
    rw [checkJson, checkJson, h.summary, h.warnings]
  have htable : checkTable r = checkTable r' := by
    rw [checkTable, checkTable, h.summary]
  have hlines : warningLines r = warningLines r' := by
    rw [warningLines, warningLines, h.warnings]
  have hending : checkEnding r = checkEnding r' := by
    rw [checkEnding, checkEnding, Relay.isBlocked, Relay.isBlocked, h.warnings]
  rw [checkReport, checkReport, hjson, htable, hlines, hending]

end CommandLine

open CommandLine

/-- Complete settings with some secrets. -/
def settingsWith (githubToken botToken signingSecret : String) : Settings where
  slack := { botToken := some botToken, signingSecret := some signingSecret }
  github := { token := some githubToken, org := some "o" }

/-- The configuration of these settings. -/
def relayWith (githubToken botToken signingSecret : String) : Relay where
  port := defaultPort
  slack := ⟨botToken, some signingSecret, none, false, defaultSlackUrl⟩
  github := ⟨githubToken, "o", defaultGithubUrl, defaultRef⟩

/-- The surroundings of a program with these settings in its environment. -/
def surroundingsWith (githubToken botToken signingSecret : String) : Surroundings Id where
  environment :=
    .ofList
      [("GITHUB_TOKEN", githubToken), ("GITHUB_ORG", "o"), ("SLACK_BOT_TOKEN", botToken),
       ("SLACK_SIGNING_SECRET", signingSecret)]
  contentOf _ := .error (.unreadable "")
  toGithub _ := .unreachable []
  listen _ := .refused ""

end ChatRelay
