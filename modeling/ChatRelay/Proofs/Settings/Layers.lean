/-
# Environments one after another

Environments that are laid over settings one after another come to the same as one environment,
in which each variable has the last text that any of them gives it.  An environment that is laid
over settings twice changes nothing the second time, and one without texts changes nothing at
all.  Nothing but the port can go wrong, and whether it does depends on its variable alone.
-/
import ChatRelay.Proofs.Settings.Overlay
import ChatRelay.Proofs.Settings.Setting

namespace ChatRelay

/-! ## Merging environments -/

namespace Environment

/-- The last of some environments that gives a variable a text which is not empty gives it this
text. -/
def LastGives (envs : List Environment) (name text : String) : Prop :=
  ∃ before env after, envs = before ++ env :: after ∧ env name = some text ∧ text ≠ "" ∧
    ∀ later ∈ after, later.LeavesOut name

/-- The environment in which each variable has the last text that some environments give it. -/
def merge (envs : List Environment) : Environment := fun name =>
  envs.reverse.findSome? fun env => env.value? name

variable {env : Environment} {envs : List Environment} {name text : String}

lemma merge_cons : merge (env :: envs) name = (merge envs name).or (env.value? name) := by
  rw [merge, List.reverse_cons, List.findSome?_append]
  simp [merge]

lemma merge_eq_none_iff : merge envs name = none ↔ ∀ env ∈ envs, env.LeavesOut name := by
  simp [merge, List.findSome?_eq_none_iff, value?_eq_none_iff]

lemma merge_eq_some_iff : merge envs name = some text ↔ LastGives envs name text := by
  rw [merge, List.findSome?_eq_some_iff]
  constructor
  · rintro ⟨after, env, before, hsplit, hvalue, hafter⟩
    obtain ⟨hgives, hne⟩ := value?_eq_some_iff.1 hvalue
    refine ⟨before.reverse, env, after.reverse, ?_, hgives, hne, fun later hlater => ?_⟩
    · rw [← List.reverse_reverse envs, hsplit]
      simp
    · exact value?_eq_none_iff.1 (hafter later (List.mem_reverse.1 hlater))
  · rintro ⟨before, env, after, rfl, hgives, hne, hafter⟩
    refine ⟨after.reverse, env, before.reverse, by simp, value?_eq_some_iff.2 ⟨hgives, hne⟩, ?_⟩
    exact fun later hlater => value?_eq_none_iff.2 (hafter later (List.mem_reverse.1 hlater))

/-- The texts of a merged environment are not empty, so none of them counts as not set. -/
lemma value?_merge : (merge envs).value? name = merge envs name := by
  cases hmerge : merge envs name with
  | none => rw [value?, hmerge, Option.filter_none]
  | some text =>
    obtain ⟨-, -, -, -, -, hne, -⟩ := merge_eq_some_iff.1 hmerge
    exact value?_eq_some_iff.2 ⟨hmerge, hne⟩

end Environment

/-! ## Laying them over settings -/

namespace Settings

open Environment (merge LastGives)

variable {s s' : Settings} {env : Environment} {envs : List Environment}

/-- What comes of laying environments over settings one after another. -/
structure Layered (s : Settings) (envs : List Environment) (s' : Settings) : Prop where
  /-- The merged environment does the same at once. -/
  merged : s.overlay (merge envs) = .ok s'
  /-- A setting whose variable has a text somewhere is what the last one of these says. -/
  given : ∀ x : Setting, ∀ text, LastGives envs x.variableName text →
    ∃ v, x.Denotes text v ∧ x.get s' = some v
  /-- Any other setting is what it was. -/
  kept : ∀ x : Setting, (∀ env ∈ envs, env.LeavesOut x.variableName) → x.get s' = x.get s

/-- By induction on the environments: each setting is settled by the last text of its variable,
since a later text takes the place of an earlier one and no text leaves it. -/
lemma follows_of_overlays (h : s.overlays envs = .ok s') (x : Setting) :
    x.Follows s s' (merge envs x.variableName) := by
  induction envs generalizing s with
  | nil =>
    cases h
    exact .kept rfl
  | cons env envs ih =>
    rw [overlays, List.foldlM_cons] at h
    cases hfirst : overlay s env with
    | error fault =>
      rw [hfirst] at h
      cases h
    | ok next =>
      rw [hfirst] at h
      rw [Environment.merge_cons]
      exact (Setting.follows_of_overlay hfirst x).trans (ih h)

lemma layered_of_overlays (h : s.overlays envs = .ok s') : s.Layered envs s' where
  merged := by
    refine Setting.overlay_eq_ok_iff.2 fun x => ?_
    rw [Environment.value?_merge]
    exact follows_of_overlays h x
  given := by
    intro x text htext
    have hfollows := follows_of_overlays h x
    rw [Environment.merge_eq_some_iff.2 htext] at hfollows
    cases hfollows with
    | given hdenotes hget => exact ⟨_, hdenotes, hget⟩
  kept := by
    intro x hnone
    have hfollows := follows_of_overlays h x
    rw [Environment.merge_eq_none_iff.2 hnone] at hfollows
    cases hfollows with
    | kept hget => exact hget

lemma overlay_again (h : s.overlay env = .ok s') : s'.overlay env = .ok s' :=
  Setting.overlay_eq_ok_iff.2 fun x => (Setting.follows_of_overlay h x).again

lemma overlay_of_leavesOut (h : ∀ x : Setting, env.LeavesOut x.variableName) :
    s.overlay env = .ok s := by
  refine Setting.overlay_eq_ok_iff.2 fun x => ?_
  rw [Environment.value?_eq_none_iff.2 (h x)]
  exact .kept rfl

/-! ## Ports that are none -/

lemma overlay_eq_error_iff {fault : Fault} :
    s.overlay env = .error fault ↔ env.port? "PORT" = .error fault := by
  rw [overlay]
  cases env.port? "PORT" with
  | error e =>
    constructor
    · intro h
      cases h
      rfl
    · intro h
      cases h
      rfl
  | ok p? =>
    constructor
    · intro h
      cases h
    · intro h
      cases h

/-- An overlay fails exactly if the variable of the port has a text that stands for no port. -/
lemma overlay_fails_iff :
    (∃ fault, s.overlay env = .error fault) ↔
      ∃ text, env "PORT" = some text ∧ text ≠ "" ∧ ∀ v, ¬ Setting.port.Denotes text v := by
  simp only [overlay_eq_error_iff, ← and_assoc, ← Environment.value?_eq_some_iff]
  constructor
  · rintro ⟨fault, hfault⟩
    obtain ⟨text, e, hvalue, -, -⟩ := Setting.port?_eq_error_iff.1 hfault
    refine ⟨text, hvalue, fun v hdenotes => ?_⟩
    obtain ⟨p, rfl, hp⟩ := hdenotes
    have hok := Setting.port?_eq_ok_iff.2 (.inr ⟨text, p, hvalue, ⟨p, rfl, hp⟩, rfl⟩)
    exact absurd (hfault.symm.trans hok) nofun
  · rintro ⟨text, hvalue, hnone⟩
    cases hport : env.port? "PORT" with
    | error fault => exact ⟨fault, rfl⟩
    | ok p? =>
      rcases Setting.port?_eq_ok_iff.1 hport with ⟨hvalue', -⟩ | ⟨text', p, hvalue', hp, -⟩
      · exact absurd (hvalue.symm.trans hvalue') nofun
      · cases hvalue.symm.trans hvalue'
        exact absurd hp (hnone _)

/-- Whether and how an overlay fails is up to one variable. -/
lemma overlay_eq_error_congr {s₁ : Settings} {env₁ : Environment} {fault : Fault}
    (henv : env₁ "PORT" = env "PORT") (h : s.overlay env = .error fault) :
    s₁.overlay env₁ = .error fault := by
  rw [overlay_eq_error_iff] at h ⊢
  rwa [Environment.port?, Environment.value?, henv]

/-! ## The law -/

/-- Environments that are laid over settings one after another do what the merged environment
does at once: each setting is what the last text of its own variable says, or what it was.  So
an overlay does nothing when it is made again, nor does one without texts.  It fails exactly if
the variable of the port has a text that stands for none, and the fault names this variable,
whatever the settings and the other variables are. -/
theorem overlays_layered (s : Settings) :
    (∀ envs s', s.overlays envs = .ok s' → s.Layered envs s') ∧
    (∀ env s', s.overlay env = .ok s' → s'.overlay env = .ok s') ∧
    (∀ env, (∀ name, env.LeavesOut name) → s.overlay env = .ok s) ∧
    (∀ env, (∃ fault, s.overlay env = .error fault) ↔
      ∃ text, env "PORT" = some text ∧ text ≠ "" ∧ ∀ v, ¬ Setting.port.Denotes text v) ∧
    (∀ env fault, s.overlay env = .error fault →
      (∃ reason, fault = .invalidSetting "PORT" reason) ∧
        ∀ (s₁ : Settings) (env₁ : Environment), env₁ "PORT" = env "PORT" →
          s₁.overlay env₁ = .error fault) := by
  refine ⟨fun envs s' h => layered_of_overlays h, fun env s' h => overlay_again h,
    fun env h => overlay_of_leavesOut fun x => h x.variableName, fun env => overlay_fails_iff,
    fun env fault h => ⟨?_, fun s₁ env₁ henv => overlay_eq_error_congr henv h⟩⟩
  obtain ⟨text, e, -, -, hfault⟩ := Setting.port?_eq_error_iff.1 (overlay_eq_error_iff.1 h)
  exact ⟨_, hfault⟩

example : overlays {}
    [.ofList [("PORT", "+080"), ("GITHUB_ORG", "a")], .ofList [("PORT", ""), ("GITHUB_ORG", "b")]] =
      .ok { port := some 80, github := { org := some "b" } } := by decide

end Settings

end ChatRelay
