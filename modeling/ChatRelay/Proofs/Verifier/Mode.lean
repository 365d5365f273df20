/-
# The mode that is configured, reported and enforced

How requests are verified is said twice and done once: the verifier names its mode, the summary
of a configuration describes it, and the verifier acts on it.  All three put nothing before the
secret and the secret before the token, each in its own way.  They agree for every configuration,
because one without anything to verify requests with is never made; and so a credential that
comes after the one in use makes no difference to any request.
-/
import ChatRelay.Proofs.Verifier.Credential

namespace ChatRelay

/-- How the summary of a configuration describes a mode. -/
def VerificationMode.title : VerificationMode → String
  | disabled => "disabled (development only)"
  | signingSecret => "signing secret"
  | legacyToken => "verification token (legacy)"

/-! ## What is enforced -/

namespace Verifier

/-- A verifier does with every request, at any time, what a mode stands for: it accepts them all,
it checks their signature with its secret, or it checks their token against its own. -/
def Enforces (v : Verifier) : VerificationMode → Prop
  | .disabled => ∀ r now, v.verify r now = .ok ()
  | .signingSecret => ∃ secret, v.signingSecret = some secret ∧
      ∀ r now, v.verify r now = checkSignature secret r now
  | .legacyToken => ∃ token, v.legacyToken = some token ∧
      ∀ r now, v.verify r now = checkToken token r

variable {v : Verifier} {mode mode' : VerificationMode} {r : SignedRequest} {now : Int}

/-- With something to verify requests with, a verifier enforces the mode that it names. -/
lemma enforces_mode (hsome : v.signingSecret = none → v.legacyToken.isSome) :
    v.Enforces v.mode := by
  obtain ⟨secret?, token?, skip⟩ := v
  cases skip with
  | true => exact fun _ _ => rfl
  | false =>
    cases secret? with
    | some secret => exact ⟨secret, rfl, fun _ _ => rfl⟩
    | none =>
      obtain ⟨token, htoken⟩ := Option.isSome_iff_exists.1 (hsome rfl)
      cases htoken
      exact ⟨token, rfl, fun _ _ => rfl⟩

/-- A request without headers whose body is no text. -/
def unreadableRequest : SignedRequest := ⟨none, none, [0xFF], .form⟩

/-- What a verifier that enforces a mode makes of a request without headers and with an unreadable
body: the modes differ in it. -/
def responseTo : VerificationMode → Except Refusal Unit
  | .disabled => .ok ()
  | .signingSecret => .error .missingTimestamp
  | .legacyToken => .error (.invalidForm (.notUtf8 ⟨0, some 1⟩))

lemma verify_of_enforces (h : v.Enforces mode) :
    v.verify unreadableRequest 0 = responseTo mode := by
  cases mode with
  | disabled => exact h _ _
  | signingSecret =>
    obtain ⟨secret, -, hverify⟩ := h
    rw [hverify]
    rfl
  | legacyToken =>
    obtain ⟨token, -, hverify⟩ := h
    rw [hverify]
    rfl

lemma Enforces.unique (h : v.Enforces mode) (h' : v.Enforces mode') : mode = mode' := by
  have hsame := (verify_of_enforces h).symm.trans (verify_of_enforces h')
  cases mode <;> cases mode' <;> first | rfl | exact absurd hsame nofun

/-! ## What is never said -/

lemma checkSignature_ne_noSecret (secret : String) (r : SignedRequest) (now : Int) :
    checkSignature secret r now ≠ .error .noSecret := by
  intro h
  rw [checkSignature] at h
  -- every check on the way has a cause of its own to refuse with
  repeat' split at h
  all_goals cases h

lemma checkToken_ne_noSecret (token : String) (r : SignedRequest) :
    checkToken token r ≠ .error .noSecret := by
  have hbody : bodyToken r ≠ .error .noSecret := by
    intro h
    rw [bodyToken] at h
    repeat' split at h
    all_goals cases h
  intro h
  rw [checkToken] at h
  cases hread : bodyToken r with
  | error refusal =>
    rw [hread] at h
    cases h
    exact hbody hread
  | ok text =>
    rw [hread] at h
    simp only [bind, Except.bind] at h
    split at h <;> cases h

/-- A verifier that enforces a mode never says that it has nothing to verify requests with. -/
lemma Enforces.ne_noSecret (h : v.Enforces mode) (r : SignedRequest) (now : Int) :
    v.verify r now ≠ .error .noSecret := by
  cases mode with
  | disabled =>
    rw [h r now]
    nofun
  | signingSecret =>
    obtain ⟨secret, -, hverify⟩ := h
    rw [hverify]
    exact checkSignature_ne_noSecret secret r now
  | legacyToken =>
    obtain ⟨token, -, hverify⟩ := h
    rw [hverify]
    exact checkToken_ne_noSecret token r

/-- Only one refusal reads like that. -/
lemma eq_noSecret_of_fault {refusal : Refusal}
    (h : refusal.fault = .verification "no verification secret configured") :
    refusal = .noSecret := by
  cases refusal with
  | noSecret => rfl
  | unsupportedVersion | invalidHex | signatureMismatch | tokenMismatch =>
    exact absurd (Fault.verification.inj h) (by decide)
  | _ => exact absurd h nofun

end Verifier

/-! ## Credentials that are not used -/

/-- Settings differ from others in nothing but credentials that are not used: in the token, where
there is a secret, or in both, where requests are accepted without verification. -/
inductive Settings.UsesSame (s : Settings) : Settings → Prop
  /-- The token is another one, or none. -/
  | token {secret : String} (token? : Option String) : s.slack.signingSecret = some secret →
      UsesSame s { s with slack := { s.slack with verificationToken := token? } }
  /-- The secret and the token are other ones, or none. -/
  | secrets (secret? token? : Option String) : s.slack.skipVerification = some true →
      UsesSame s { s with slack := { s.slack with
        signingSecret := secret?, verificationToken := token? } }

namespace Relay

variable {s s' : Settings} {relay relay' : Relay}

lemma verifier_eq (h : ofSettings s = .ok relay) :
    relay.slack.verifier = ⟨s.slack.signingSecret, s.slack.verificationToken,
      s.slack.skipVerification.getD false⟩ := by
  obtain ⟨hsecret, htoken, hskip, -⟩ := verifier_of_ofSettings h
  rw [← hsecret, ← htoken, ← hskip]

lemma enforces_mode_of_ofSettings (h : ofSettings s = .ok relay) :
    relay.slack.verifier.Enforces relay.slack.verifier.mode := by
  obtain ⟨hsecret, htoken, -, hsome⟩ := verifier_of_ofSettings h
  exact Verifier.enforces_mode (by rwa [hsecret, htoken])

/-- The description of a configuration is that of its mode. -/
lemma verification_eq_title (slack : SlackAccess) :
    slack.verification = slack.verifier.mode.title := by
  rw [SlackAccess.verification, Verifier.mode, SlackAccess.verifier]
  cases slack.skipVerification with
  | true => rfl
  | false => cases slack.signingSecret <;> rfl

lemma mem_summary_iff (relay : Relay) (text : String) :
    ("request verification", text) ∈ relay.summary ↔ text = relay.slack.verification := by
  simp [summary]

lemma verify_eq_of_usesSame (h : ofSettings s = .ok relay) (h' : ofSettings s' = .ok relay')
    (hsame : s.UsesSame s') (r : SignedRequest) (now : Int) :
    relay'.slack.verifier.verify r now = relay.slack.verifier.verify r now := by
  rw [verifier_eq h, verifier_eq h']
  cases hsame with
  | token token? hsecret =>
    rw [hsecret]
    rfl
  | secrets secret? token? hskip =>
    rw [hskip]
    rfl

/-- A configuration enforces one mode, which is the one that its verifier names and its summary
describes.  It never says that it has nothing to verify requests with.  And a configuration that
differs in credentials alone which are not used does the same with every request. -/
theorem verification_agrees (h : ofSettings s = .ok relay) :
    (∀ mode, relay.slack.verifier.Enforces mode ↔ relay.slack.verifier.mode = mode) ∧
    (∀ text, ("request verification", text) ∈ relay.summary ↔
      text = relay.slack.verifier.mode.title) ∧
    (∀ r now refusal, relay.slack.verifier.verify r now = .error refusal →
      refusal.fault ≠ .verification "no verification secret configured") ∧
    (∀ s' relay', ofSettings s' = .ok relay' → s.UsesSame s' → ∀ r now,
      relay'.slack.verifier.verify r now = relay.slack.verifier.verify r now) := by
  have henforces := enforces_mode_of_ofSettings h
  refine ⟨fun mode => ⟨henforces.unique, ?_⟩, fun text => ?_,
    fun r now refusal hrefused hfault => ?_,
    fun s' relay' h' hsame r now => verify_eq_of_usesSame h h' hsame r now⟩
  · rintro rfl
    exact henforces
  · rw [mem_summary_iff, verification_eq_title]
  · cases Verifier.eq_noSecret_of_fault hfault
    exact henforces.ne_noSecret r now hrefused

/-! ## A secret with a token next to it -/

/-- Settings with a secret, and perhaps with a token. -/
def secretSettings (token? : Option String) : Settings where
  slack := { botToken := some "b", signingSecret := some "k", verificationToken := token? }
  github := { token := some "t", org := some "o" }

/-- The configuration of these settings. -/
def secretRelay (token? : Option String) : Relay :=
  ⟨defaultPort, ⟨"b", some "k", token?, false, defaultSlackUrl⟩,
    ⟨"t", "o", defaultGithubUrl, defaultRef⟩⟩

/-- With a secret the signatures are checked, whether there is a token or not. -/
theorem verification_agrees_secret :
    ofSettings (secretSettings (some "t")) = .ok (secretRelay (some "t")) ∧
    ofSettings (secretSettings none) = .ok (secretRelay none) ∧
    (secretSettings (some "t")).UsesSame (secretSettings none) ∧
    (secretRelay (some "t")).slack.verifier.Enforces .signingSecret ∧
    ("request verification", "signing secret") ∈ (secretRelay (some "t")).summary ∧
    ∀ r now, (secretRelay none).slack.verifier.verify r now =
      (secretRelay (some "t")).slack.verifier.verify r now := by
  have h : ofSettings (secretSettings (some "t")) = .ok (secretRelay (some "t")) := rfl
  have h' : ofSettings (secretSettings none) = .ok (secretRelay none) := rfl
  have hsame : (secretSettings (some "t")).UsesSame (secretSettings none) :=
    .token none rfl
  obtain ⟨henforces, hsummary, -, hunused⟩ := verification_agrees h
  exact ⟨h, h', hsame, (henforces .signingSecret).2 rfl, (hsummary "signing secret").2 rfl,
    hunused _ _ h' hsame⟩

end Relay

end ChatRelay
