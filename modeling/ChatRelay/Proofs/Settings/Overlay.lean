/-
# Environments laid over settings

Environments are laid over the settings of a file one after another.  A setting that a file
leaves out stays out only if no environment gives it; and since an empty variable counts as
not set, an empty value can come from nowhere but the file.
-/
import ChatRelay.Settings.Environment
import Mathlib.Tactic.Lemma
import Mathlib.Tactic.Common

namespace ChatRelay

/-- Lay environments over the settings, one after another. -/
def Settings.overlays (s : Settings) (envs : List Environment) : Except Fault Settings :=
  envs.foldlM Settings.overlay s

variable {s s' : Settings} {env : Environment} {envs : List Environment} {name : String}

/-- A variable is not set, or it is empty. -/
def Environment.LeavesOut (env : Environment) (name : String) : Prop :=
  ∀ value, env name = some value → value = ""

lemma Environment.value?_eq_none_iff : env.value? name = none ↔ env.LeavesOut name := by
  rw [value?, LeavesOut, Option.filter_eq_none_iff]
  simp

lemma Environment.value?_eq_some_iff {text : String} :
    env.value? name = some text ↔ env name = some text ∧ text ≠ "" := by
  rw [value?, Option.filter_eq_some_iff]
  simp

lemma Environment.value?_ne_empty : env.value? name ≠ some "" := by
  intro h
  rw [value?, Option.filter_eq_some_iff] at h
  exact absurd h.2 (by decide)

namespace Settings

/-- A setting is the one that a variable is laid over. -/
def IsLaidOver (get : Settings → Option String) (name : String) : Prop :=
  ∀ s s' env, overlay s env = .ok s' → get s' = (env.value? name).or (get s)

lemma overlay_eq_ok (h : overlay s env = .ok s') :
    s'.slack.signingSecret = (env.value? "SLACK_SIGNING_SECRET").or s.slack.signingSecret ∧
      s'.slack.verificationToken =
        (env.value? "SLACK_VERIFICATION_TOKEN").or s.slack.verificationToken := by
  rw [overlay] at h
  cases hport : env.port? "PORT" with
  | error e =>
    rw [hport] at h
    cases h
  | ok port =>
    rw [hport] at h
    cases h
    exact ⟨rfl, rfl⟩

lemma isLaidOver_signingSecret :
    IsLaidOver (fun s => s.slack.signingSecret) "SLACK_SIGNING_SECRET" :=
  fun _ _ _ h => (overlay_eq_ok h).1

lemma isLaidOver_verificationToken :
    IsLaidOver (fun s => s.slack.verificationToken) "SLACK_VERIFICATION_TOKEN" :=
  fun _ _ _ h => (overlay_eq_ok h).2

/-- By induction on the environments: a setting is missing or empty in the end only if it was
so from the beginning, and no environment gave it. -/
lemma overlays_eq_iff {get : Settings → Option String} (hget : IsLaidOver get name)
    {t : Option String} (ht : t = none ∨ t = some "") (h : s.overlays envs = .ok s') :
    get s' = t ↔ get s = t ∧ ∀ env ∈ envs, env.LeavesOut name := by
  induction envs generalizing s with
  | nil =>
    cases h
    simp
  | cons env envs ih =>
    rw [overlays, List.foldlM_cons] at h
    cases hfirst : overlay s env with
    | error e =>
      rw [hfirst] at h
      cases h
    | ok next =>
      rw [hfirst] at h
      have hstep : get next = t ↔ env.LeavesOut name ∧ get s = t := by
        rw [hget s next env hfirst, ← Environment.value?_eq_none_iff]
        have hne : env.value? name ≠ some "" := Environment.value?_ne_empty
        cases hvalue : env.value? name with
        | none => simp
        | some value =>
          rw [hvalue] at hne
          rcases ht with rfl | rfl
          · simp
          · simp [hne]
      rw [ih h, hstep, List.forall_mem_cons, and_assoc]
      exact and_left_comm

end Settings

end ChatRelay
