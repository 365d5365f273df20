/-
# Requests without a credential

A relay that verifies requests asks each for one credential: with a signing secret for a
signature, and otherwise for a token in the body.  A body without a token reads as one with an
empty token.  So a request without a credential is refused, unless the relay expects an empty
token; and such a token can come from nowhere but the file with the settings, since an empty
variable of the environment counts as not set.
-/
import ChatRelay.Proofs.Json.Member
import ChatRelay.Proofs.Json.Reading
import ChatRelay.Proofs.Settings.Overlay
import ChatRelay.Settings.Relay

namespace ChatRelay

/-! ## Credentials -/

/-- The body of a request can be read in its format. -/
def SignedRequest.IsReadable (r : SignedRequest) : Prop :=
  match r.format with
  | .form => ∃ form, Form.decode r.body = .ok form
  | .json => ∃ v : Json.Source, v.WrittenAs r.body ∧ Json.keepable Json.maxDepth v = true

namespace Verifier

/-- A request has no token: its form has no field of this name, or its object no string. -/
def LacksToken (r : SignedRequest) : Prop :=
  match r.format with
  | .form => ∀ form, Form.decode r.body = .ok form → form.get? "token" = none
  | .json => ∀ v : Json.Source, v.WrittenAs r.body → Json.keepable Json.maxDepth v = true →
    ¬ v.HasText "token"

/-- A request has no credential of the kind that a verifier asks for. -/
def LacksCredential (v : Verifier) (r : SignedRequest) : Prop :=
  match v.signingSecret with
  | some _ => r.signature = none
  | none => LacksToken r

variable {v : Verifier} {r : SignedRequest} {now : Int}

/-! ## Tokens -/

/-- An object without a string for the token reads as one with an empty token. -/
lemma jsonToken_of_not_hasText {v : Json.Source} (hv : ¬ v.HasText "token") :
    jsonToken v = "" := by
  cases v with
  | object ms =>
    rw [jsonToken]
    cases hmembers : (Json.Source.object ms).members? with
    | none => rfl
    | some named =>
      rw [Option.getD_some]
      cases hlookup : named.reverse.lookup "token" with
      | none => rfl
      | some t =>
        -- the token that counts is a member of the name, so it is no string
        obtain ⟨before, after, hsplit, -⟩ := List.lookup_eq_some_iff.1 hlookup
        have hmem : ("token", t) ∈ named := by
          rw [← List.mem_reverse, hsplit]
          simp
        obtain ⟨m, hm, hname, hvalue⟩ := Json.Source.mem_of_members? hmembers hmem
        cases htext : t.text? with
        | none => simp [htext]
        | some text =>
          refine absurd ⟨ms, rfl, m, hm, hname, ?_⟩ hv
          rw [hvalue, htext]
          rfl
  | _ => rfl

/-- A body without a token reads as one with an empty token, if it can be read at all. -/
lemma bodyToken_of_lacksToken (hr : LacksToken r) (text : String) :
    bodyToken r = .ok text ↔ text = "" ∧ r.IsReadable := by
  rw [LacksToken] at hr
  rw [bodyToken, SignedRequest.IsReadable]
  cases hformat : r.format with
  | form =>
    rw [hformat] at hr
    cases hform : Form.decode r.body with
    | error fault => simp
    | ok form =>
      have hvalue : form.value "token" = "" := by
        rw [Form.value, hr form hform]
        rfl
      simp [hvalue, eq_comm]
  | json =>
    rw [hformat] at hr
    simp only [← Json.readKept?_eq_some_iff]
    cases hread : Json.readKept? r.body with
    | none => simp
    | some v =>
      obtain ⟨hbody, hkept⟩ := Json.readKept?_eq_some_iff.1 hread
      simp [jsonToken_of_not_hasText (hr v hbody hkept), eq_comm]

lemma checkToken_eq_ok_iff {expected : String} :
    checkToken expected r = .ok () ↔ bodyToken r = .ok expected := by
  rw [checkToken]
  cases bodyToken r with
  | error refusal => exact ⟨nofun, nofun⟩
  | ok text =>
    by_cases htext : text = expected
    · simp [htext, bind, Except.bind, pure, Except.pure]
    · simp [htext, bind, Except.bind, throw, throwThe, MonadExceptOf.throw]

lemma checkSignature_of_signature_eq_none {secret : String} (hr : r.signature = none) :
    checkSignature secret r now ≠ .ok () := by
  rw [checkSignature, hr]
  cases r.timestamp <;> exact fun h => by cases h

/-! ## Verdicts -/

/-- A verifier that has something to verify with accepts a request without a credential exactly
if it expects an empty token, and nothing but a token, in a body that can be read. -/
lemma verify_of_lacksCredential (hskip : v.skip = false)
    (hsome : v.signingSecret = none → v.legacyToken.isSome) (hr : v.LacksCredential r) :
    v.verify r now = .ok () ↔
      v.signingSecret = none ∧ v.legacyToken = some "" ∧ r.IsReadable := by
  rw [LacksCredential] at hr
  simp only [verify, hskip, Bool.false_eq_true, if_false]
  cases hsecret : v.signingSecret with
  | some secret =>
    rw [hsecret] at hr
    simp [checkSignature_of_signature_eq_none hr]
  | none =>
    rw [hsecret] at hr
    obtain ⟨token, htoken⟩ := Option.isSome_iff_exists.1 (hsome hsecret)
    simp only [htoken]
    rw [checkToken_eq_ok_iff, bodyToken_of_lacksToken hr]
    simp

end Verifier

/-! ## Configurations -/

namespace Relay

variable {file s : Settings} {envs : List Environment} {relay : Relay}

/-- What requests are verified with is taken from the settings, and it is not nothing. -/
lemma verifier_of_ofSettings (hrelay : ofSettings s = .ok relay) :
    relay.slack.verifier.signingSecret = s.slack.signingSecret ∧
      relay.slack.verifier.legacyToken = s.slack.verificationToken ∧
      relay.slack.verifier.skip = s.slack.skipVerification.getD false ∧
      (s.slack.signingSecret = none → s.slack.verificationToken.isSome) := by
  rw [ofSettings] at hrelay
  cases hslack : SlackAccess.ofSettings? s.slack with
  | none =>
    rw [hslack] at hrelay
    cases hrelay
  | some slack =>
    cases hgithub : GithubAccess.ofSettings? s.github with
    | none =>
      rw [hslack, hgithub] at hrelay
      cases hrelay
    | some github =>
      rw [hslack, hgithub] at hrelay
      cases hrelay
      rw [SlackAccess.ofSettings?] at hslack
      obtain ⟨botToken, -, hslack⟩ := Option.bind_eq_some_iff.1 hslack
      split at hslack
      · cases hslack
      · rename_i hmissing
        cases hslack
        refine ⟨rfl, rfl, rfl, fun hsecret => Option.isSome_iff_ne_none.2 ?_⟩
        simpa [hsecret] using hmissing

/-- Whatever the settings of a file and the environments laid over them, a relay that verifies
requests accepts one without a credential only if the file gives an empty token, and neither
the file nor an environment gives anything better; then it accepts every such request whose
body can be read. -/
theorem accepts_without_credential_iff (hs : file.overlays envs = .ok s)
    (hrelay : ofSettings s = .ok relay) (hskip : s.slack.skipVerification ≠ some true)
    (r : SignedRequest) (hr : relay.slack.verifier.LacksCredential r) (now : Int) :
    relay.slack.verifier.verify r now = .ok () ↔
      (file.slack.signingSecret = none ∧
        ∀ env ∈ envs, env.LeavesOut "SLACK_SIGNING_SECRET") ∧
      (file.slack.verificationToken = some "" ∧
        ∀ env ∈ envs, env.LeavesOut "SLACK_VERIFICATION_TOKEN") ∧
      r.IsReadable := by
  obtain ⟨hsecret, htoken, hverify, hsome⟩ := verifier_of_ofSettings hrelay
  have hskip' : relay.slack.verifier.skip = false := by
    rw [hverify]
    cases hvalue : s.slack.skipVerification with
    | none => rfl
    | some b =>
      rw [hvalue] at hskip
      simpa using hskip
  rw [Verifier.verify_of_lacksCredential hskip' (by rwa [hsecret, htoken]) hr, hsecret, htoken,
    ← Settings.overlays_eq_iff Settings.isLaidOver_signingSecret (.inl rfl) hs,
    ← Settings.overlays_eq_iff Settings.isLaidOver_verificationToken (.inr rfl) hs]

/-! ## A file with an empty token -/

/-- A file in which the token is an empty text. -/
def emptyTokenFile : List UInt8 :=
  Text.Utf8.bytes ("slack:\n  bot_token: b\n  verification_token: \"\"\n" ++
    "github:\n  token: t\n  org: o\n")

/-- The settings of this file. -/
def emptyTokenSettings : Settings where
  slack := { botToken := some "b", verificationToken := some "" }
  github := { token := some "t", org := some "o" }

/-- The configuration of these settings. -/
def emptyTokenRelay : Relay :=
  ⟨defaultPort, ⟨"b", none, some "", false, defaultSlackUrl⟩,
    ⟨"t", "o", defaultGithubUrl, defaultRef⟩⟩

/-- A request with nothing in it. -/
def blankRequest : SignedRequest := ⟨none, none, [], .form⟩

lemma blankRequest_lacksCredential :
    emptyTokenRelay.slack.verifier.LacksCredential blankRequest := by
  intro form hform
  cases hform
  rfl

/-- With this file and an environment in which nothing is set, a request with nothing in it is
accepted because of the empty token. -/
theorem accepts_without_credential_iff_emptyToken :
    emptyTokenSettings.overlays [.empty] = .ok emptyTokenSettings ∧
    ofSettings emptyTokenSettings = .ok emptyTokenRelay ∧
    emptyTokenSettings.slack.skipVerification ≠ some true ∧
    emptyTokenRelay.slack.verifier.LacksCredential blankRequest ∧
    (emptyTokenRelay.slack.verifier.verify blankRequest 0 = .ok () ↔
      (emptyTokenSettings.slack.signingSecret = none ∧
        ∀ env ∈ [Environment.empty], env.LeavesOut "SLACK_SIGNING_SECRET") ∧
      (emptyTokenSettings.slack.verificationToken = some "" ∧
        ∀ env ∈ [Environment.empty], env.LeavesOut "SLACK_VERIFICATION_TOKEN") ∧
      blankRequest.IsReadable) := by
  have hs : emptyTokenSettings.overlays [.empty] = .ok emptyTokenSettings := rfl
  have hrelay : ofSettings emptyTokenSettings = .ok emptyTokenRelay := rfl
  have hskip : emptyTokenSettings.slack.skipVerification ≠ some true := by decide
  have hr := blankRequest_lacksCredential
  exact ⟨hs, hrelay, hskip, hr,
    accepts_without_credential_iff hs hrelay hskip blankRequest hr 0⟩

/-- A file with an empty token is accepted, and so is then every request with nothing in it. -/
theorem empty_token_accepts_blank :
    Settings.ofFile emptyTokenFile = .ok emptyTokenSettings ∧
    ofSettings emptyTokenSettings = .ok emptyTokenRelay ∧
    emptyTokenSettings.slack.skipVerification ≠ some true ∧
    emptyTokenRelay.slack.verifier.LacksCredential blankRequest ∧
    ∀ now, emptyTokenRelay.slack.verifier.verify blankRequest now = .ok () := by
  refine ⟨by decide +kernel, rfl, by decide, blankRequest_lacksCredential, fun now => rfl⟩

end Relay

end ChatRelay
