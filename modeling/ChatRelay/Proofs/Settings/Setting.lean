/-
# Settings by name

There are ten settings, and each belongs to one variable of the environment.  To lay an
environment over the settings is to settle each of them by its own variable: a variable with a
value that is not empty decides what the setting is, and any other one leaves it as it was.
The only thing that can go wrong is a port that is no port.
-/
import ChatRelay.Proofs.Text.Decimal
import ChatRelay.Settings.Environment

namespace ChatRelay

open Text

/-! ## The settings and their variables -/

/-- A setting that an environment can give. -/
inductive Setting where
  | port
  | botToken
  | signingSecret
  | verificationToken
  | skipVerification
  | slackUrl
  | githubToken
  | org
  | githubUrl
  | defaultRef
deriving DecidableEq, Repr

/-- A value of a setting. -/
inductive Setting.Value where
  | text (text : String)
  | switch (on : Bool)
  | port (port : UInt16)
deriving DecidableEq, Repr

namespace Setting

/-- The variable that a setting belongs to. -/
def variableName : Setting → String
  | port => "PORT"
  | botToken => "SLACK_BOT_TOKEN"
  | signingSecret => "SLACK_SIGNING_SECRET"
  | verificationToken => "SLACK_VERIFICATION_TOKEN"
  | skipVerification => "SKIP_SLACK_VERIFICATION"
  | slackUrl => "SLACK_API_URL"
  | githubToken => "GITHUB_TOKEN"
  | org => "GITHUB_ORG"
  | githubUrl => "GITHUB_API_URL"
  | defaultRef => "GITHUB_REF"

/-- The value of a setting, if it has one. -/
def get (s : Settings) : Setting → Option Value
  | port => s.port.map .port
  | botToken => s.slack.botToken.map .text
  | signingSecret => s.slack.signingSecret.map .text
  | verificationToken => s.slack.verificationToken.map .text
  | skipVerification => s.slack.skipVerification.map .switch
  | slackUrl => s.slack.apiUrl.map .text
  | githubToken => s.github.token.map .text
  | org => s.github.org.map .text
  | githubUrl => s.github.apiUrl.map .text
  | defaultRef => s.github.defaultRef.map .text

/-- What the text of a variable says about its setting: it stands for itself, but that a port is
the number of a decimal numeral, perhaps after a plus sign, and that the switch is on for the
text `true` alone. -/
def Denotes (text : String) : Setting → Value → Prop
  | port, v => ∃ p, v = .port p ∧ Decimal.Unsigned text.toList p.toNat
  | skipVerification, v => v = .switch (text == "true")
  | _, v => v = .text text

/-- What becomes of a setting when its variable has a text that is not empty, or none. -/
inductive Follows (s s' : Settings) (x : Setting) : Option String → Prop
  | given {text : String} {v : Value} :
      x.Denotes text v → x.get s' = some v → Follows s s' x (some text)
  | kept : x.get s' = x.get s → Follows s s' x none

variable {x : Setting} {s s' s₁ s₂ : Settings} {env : Environment} {text : String}
  {t t' : Option String} {v v' : Value}

/-! ## Settings are determined by their names -/

lemma ext (h : ∀ x : Setting, x.get s = x.get s') : s = s' := by
  have hport := Option.map_injective (fun _ _ => Value.port.inj) (h port)
  have hskip := Option.map_injective (fun _ _ => Value.switch.inj) (h skipVerification)
  have htext : ∀ {a b : Option String}, a.map Value.text = b.map Value.text → a = b :=
    fun h => Option.map_injective (fun _ _ => Value.text.inj) h
  -- a setting for each field, so no field is left to differ
  obtain ⟨_, ⟨_, _, _, _, _⟩, ⟨_, _, _, _⟩⟩ := s
  obtain ⟨_, ⟨_, _, _, _, _⟩, ⟨_, _, _, _⟩⟩ := s'
  cases hport
  cases hskip
  cases htext (h botToken)
  cases htext (h signingSecret)
  cases htext (h verificationToken)
  cases htext (h slackUrl)
  cases htext (h githubToken)
  cases htext (h org)
  cases htext (h githubUrl)
  cases htext (h defaultRef)
  rfl

lemma Denotes.unique (h : x.Denotes text v) (h' : x.Denotes text v') : v = v' := by
  cases x with
  | port =>
    obtain ⟨p, rfl, hp⟩ := h
    obtain ⟨p', rfl, hp'⟩ := h'
    rw [UInt16.toNat_inj.1 (hp.unique hp')]
  | _ => exact Eq.trans h (Eq.symm h')

lemma Follows.unique (h₁ : x.Follows s s₁ t) (h₂ : x.Follows s s₂ t) : x.get s₁ = x.get s₂ := by
  cases h₁ with
  | given hdenotes hget =>
    cases h₂ with
    | given hdenotes' hget' => rw [hget, hget', hdenotes.unique hdenotes']
  | kept hget =>
    cases h₂ with
    | kept hget' => rw [hget, hget']

/-- Of two texts one after the other the later one decides, if there is one. -/
lemma Follows.trans (h : x.Follows s s₁ t) (h' : x.Follows s₁ s₂ t') :
    x.Follows s s₂ (t'.or t) := by
  cases h' with
  | given hdenotes hget => exact .given hdenotes hget
  | kept hget =>
    cases h with
    | given hdenotes hget' => exact .given hdenotes (hget.trans hget')
    | kept hget' => exact .kept (hget.trans hget')

/-- What has been settled by a text is not changed by it again. -/
lemma Follows.again (h : x.Follows s s' t) : x.Follows s' s' t := by
  cases h with
  | given hdenotes hget => exact .given hdenotes hget
  | kept hget => exact .kept rfl

/-! ## One environment -/

/-- A port is read from a variable that has no text, or whose text stands for it. -/
lemma port?_eq_ok_iff {p? : Option UInt16} :
    env.port? "PORT" = .ok p? ↔ (env.value? "PORT" = none ∧ p? = none) ∨
      ∃ text p, env.value? "PORT" = some text ∧ port.Denotes text (.port p) ∧ p? = some p := by
  have hdenotes : ∀ text p, port.Denotes text (.port p) ↔
      Decimal.readNat maxPort text.toList = .ok p.toNat := by
    intro text p
    have hle : p.toNat ≤ maxPort := Nat.le_of_lt_succ p.toNat_lt
    rw [Decimal.readNat_eq_ok_iff, and_iff_left hle]
    simp [Denotes]
  simp only [hdenotes]
  rw [Environment.port?]
  cases env.value? "PORT" with
  | none => simp [eq_comm]
  | some text =>
    simp only [reduceCtorEq, false_and, false_or, Option.some.injEq, exists_and_left,
      exists_eq_left']
    cases hread : Decimal.readNat maxPort text.toList with
    | error e => simp
    | ok n =>
      have hn : n ≤ maxPort := (Decimal.readNat_eq_ok_iff.1 hread).2
      have hport : (UInt16.ofNat n).toNat = n := UInt16.toNat_ofNat_of_lt' (Nat.lt_succ_of_le hn)
      simp only [Except.ok.injEq]
      constructor
      · rintro rfl
        exact ⟨_, hport.symm, rfl⟩
      · rintro ⟨p, rfl, rfl⟩
        rw [UInt16.ofNat_toNat]

lemma follows_of_get_eq_or (hx : ∀ text, x.Denotes text (.text text))
    (h : x.get s' = (t.map .text).or (x.get s)) : x.Follows s s' t := by
  cases t with
  | none => exact .kept h
  | some text => exact .given (hx text) h

/-- An environment settles each setting by its own variable. -/
lemma follows_of_overlay (h : s.overlay env = .ok s') (x : Setting) :
    x.Follows s s' (env.value? x.variableName) := by
  rw [Settings.overlay] at h
  cases hport : env.port? "PORT" with
  | error fault =>
    rw [hport] at h
    cases h
  | ok p? =>
    rw [hport] at h
    cases h
    cases x with
    | port =>
      rw [variableName]
      rcases port?_eq_ok_iff.1 hport with ⟨hvalue, rfl⟩ | ⟨text, p, hvalue, hp, rfl⟩
      · rw [hvalue]
        exact .kept rfl
      · rw [hvalue]
        exact .given hp rfl
    | skipVerification =>
      rw [variableName]
      cases hvalue : env.value? "SKIP_SLACK_VERIFICATION" with
      | none => exact .kept rfl
      | some text => exact .given rfl rfl
    -- all others are texts, which stand for themselves
    | _ => exact follows_of_get_eq_or (fun _ => rfl) Option.map_or

lemma exists_overlay_of_port? {p? : Option UInt16} (hport : env.port? "PORT" = .ok p?) :
    ∃ s', s.overlay env = .ok s' := by
  rw [Settings.overlay, hport]
  exact ⟨_, rfl⟩

/-- Settings come of an overlay exactly if each of them is what its own variable makes of it. -/
theorem overlay_eq_ok_iff :
    s.overlay env = .ok s' ↔ ∀ x : Setting, x.Follows s s' (env.value? x.variableName) := by
  refine ⟨follows_of_overlay, fun h => ?_⟩
  -- the port can be read, and so there is an overlay, which is the only one that there can be
  obtain ⟨p?, hport⟩ : ∃ p?, env.port? "PORT" = .ok p? := by
    have hfollows := h port
    rw [variableName] at hfollows
    cases hvalue : env.value? "PORT" with
    | none => exact ⟨none, port?_eq_ok_iff.2 (.inl ⟨hvalue, rfl⟩)⟩
    | some text =>
      rw [hvalue] at hfollows
      cases hfollows with
      | given hdenotes _ =>
        obtain ⟨p, rfl, hp⟩ := hdenotes
        exact ⟨some p, port?_eq_ok_iff.2 (.inr ⟨text, p, hvalue, ⟨p, rfl, hp⟩, rfl⟩)⟩
  obtain ⟨s'', hoverlay⟩ := exists_overlay_of_port? hport
  have hsame : s'' = s' := ext fun x => (follows_of_overlay hoverlay x).unique (h x)
  rw [hoverlay, hsame]

/-! ## Ports that are none -/

/-- A variable is refused as a port exactly if it has a text that stands for none; the fault names
the variable. -/
lemma port?_eq_error_iff {fault : Fault} :
    env.port? "PORT" = .error fault ↔ ∃ text e, env.value? "PORT" = some text ∧
      Decimal.readNat maxPort text.toList = .error e ∧
      fault = .invalidSetting "PORT" s!"'{text}' is not a valid port: {e.message}" := by
  rw [Environment.port?]
  cases env.value? "PORT" with
  | none => simp
  | some text =>
    cases hread : Decimal.readNat maxPort text.toList with
    | error e => simp [hread, eq_comm]
    | ok n => simp [hread]

end Setting

end ChatRelay
