/-
# What settings lack

A configuration cannot do without four things, one of which two settings can provide.  What the
settings lack is reported at once and in a fixed order, and the report is neither too short nor
too long: an environment makes up for it exactly if it gives a text for each entry, and if it
does not, the entries that are left are reported again.  The workflow side alone lacks what the
report says about it.
-/
import ChatRelay.Proofs.Settings.Overlay
import ChatRelay.Proofs.Settings.Setting
import ChatRelay.Settings.Relay

namespace ChatRelay

/-! ## Requirements -/

/-- Something that a configuration cannot do without. -/
inductive Requirement where
  | botToken
  | credential
  | githubToken
  | org
deriving DecidableEq, Repr

namespace Requirement

/-- The requirements of the chat side. -/
def ofSlack : List Requirement := [botToken, credential]

/-- The requirements of the workflow side. -/
def ofGithub : List Requirement := [githubToken, org]

/-- All requirements, in the order in which they are reported. -/
def all : List Requirement := ofSlack ++ ofGithub

/-- The settings of which one has to have a value. -/
def settings : Requirement → List Setting
  | botToken => [.botToken]
  | credential => [.signingSecret, .verificationToken]
  | githubToken => [.githubToken]
  | org => [.org]

/-- What is reported if none of them has: their variables, with `or` between them. -/
def entry (q : Requirement) : String := " or ".intercalate (q.settings.map Setting.variableName)

/-- One of the settings has a value. -/
def isMet (q : Requirement) (s : Settings) : Bool := q.settings.any fun x => (x.get s).isSome

/-- An environment gives one of their variables a text that is not empty. -/
def isGiven (q : Requirement) (env : Environment) : Bool :=
  q.settings.any fun x => (env.value? x.variableName).isSome

/-- The requirements that settings do not meet. -/
def lacking (s : Settings) : List Requirement := all.filter fun q => !q.isMet s

variable {s s' : Settings} {env : Environment} {q : Requirement}

/-! ## Reports -/

lemma nodup_entries : (all.map entry).Nodup := by decide

lemma nodup_lacking (s : Settings) : ((lacking s).map entry).Nodup :=
  nodup_entries.sublist (List.filter_sublist.map entry)

lemma missing_slack (s : Settings) :
    SlackAccess.missing s.slack = (ofSlack.filter fun q => !q.isMet s).map entry := by
  obtain ⟨-, ⟨botToken, secret, token, -, -⟩, -⟩ := s
  cases botToken <;> cases secret <;> cases token <;> rfl

lemma missing_github (s : Settings) :
    GithubAccess.missing s.github = (ofGithub.filter fun q => !q.isMet s).map entry := by
  obtain ⟨-, -, ⟨token, org, -, -⟩⟩ := s
  cases token <;> cases org <;> rfl

/-- The names that are reported on the two sides are the entries of what is lacking. -/
lemma missing_eq (s : Settings) :
    SlackAccess.missing s.slack ++ GithubAccess.missing s.github = (lacking s).map entry := by
  rw [missing_slack, missing_github, lacking, all, List.filter_append, List.map_append]

/-- An entry of the workflow side can be told by its name. -/
def isOfGithub (name : String) : Bool := "GITHUB_".toList.isPrefixOf name.toList

lemma missing_github_eq (s : Settings) :
    GithubAccess.missing s.github = ((lacking s).map entry).filter isOfGithub := by
  have hside : all.filter (isOfGithub ∘ entry) = ofGithub := by decide
  -- to filter by name and to filter by what is met can be exchanged
  rw [missing_github, List.filter_map, lacking, List.filter_comm, hside]

/-! ## Configurations -/

lemma isSome_slack_iff (s : SlackSettings) :
    (SlackAccess.ofSettings? s).isSome ↔ SlackAccess.missing s = [] := by
  obtain ⟨botToken, secret, token, skip, url⟩ := s
  cases botToken <;> cases secret <;> cases token <;>
    simp [SlackAccess.ofSettings?, SlackAccess.missing]

lemma isSome_github_iff (s : GithubSettings) :
    (GithubAccess.ofSettings? s).isSome ↔ GithubAccess.missing s = [] := by
  obtain ⟨token, org, url, ref⟩ := s
  cases token <;> cases org <;> simp [GithubAccess.ofSettings?, GithubAccess.missing]

/-- Settings that lack nothing make a configuration. -/
lemma ofSettings_of_lacking_eq_nil (h : lacking s = []) :
    ∃ relay, Relay.ofSettings s = .ok relay ∧ GithubAccess.ofSettings s = .ok relay.github := by
  have hmissing := missing_eq s
  rw [h, List.map_nil, List.append_eq_nil_iff] at hmissing
  obtain ⟨slack, hslack⟩ := Option.isSome_iff_exists.1 ((isSome_slack_iff _).2 hmissing.1)
  obtain ⟨github, hgithub⟩ := Option.isSome_iff_exists.1 ((isSome_github_iff _).2 hmissing.2)
  exact ⟨_, by rw [Relay.ofSettings, hslack, hgithub], by rw [GithubAccess.ofSettings, hgithub]⟩

lemma ofSettings_of_lacking_ne_nil (h : lacking s ≠ []) :
    Relay.ofSettings s = .error (.missingSettings ((lacking s).map entry)) := by
  rw [← missing_eq, Relay.ofSettings]
  cases hslack : SlackAccess.ofSettings? s.slack with
  | none => rfl
  | some slack =>
    cases hgithub : GithubAccess.ofSettings? s.github with
    | none => rfl
    | some github =>
      -- with both sides made neither lacks anything, so there is nothing to report
      have hslack' := (isSome_slack_iff _).1 (Option.isSome_of_eq_some hslack)
      have hgithub' := (isSome_github_iff _).1 (Option.isSome_of_eq_some hgithub)
      have hmissing := missing_eq s
      rw [hslack', hgithub', List.append_nil] at hmissing
      exact absurd (List.map_eq_nil_iff.1 hmissing.symm) h

lemma ofSettings_eq_error_iff {fault : Fault} :
    Relay.ofSettings s = .error fault ↔
      lacking s ≠ [] ∧ fault = .missingSettings ((lacking s).map entry) := by
  by_cases h : lacking s = []
  · obtain ⟨relay, hrelay, -⟩ := ofSettings_of_lacking_eq_nil h
    simp [hrelay, h]
  · simp [ofSettings_of_lacking_ne_nil h, h, eq_comm]

lemma github_eq_error {fault : Fault} (h : GithubAccess.ofSettings s = .error fault) :
    lacking s ≠ [] ∧ fault = .missingSettings (((lacking s).map entry).filter isOfGithub) := by
  refine ⟨fun hnil => ?_, ?_⟩
  · obtain ⟨relay, -, hok⟩ := ofSettings_of_lacking_eq_nil hnil
    exact absurd (h.symm.trans hok) nofun
  · rw [← missing_github_eq]
    rw [GithubAccess.ofSettings] at h
    cases hgithub : GithubAccess.ofSettings? s.github with
    | none =>
      rw [hgithub] at h
      cases h
      rfl
    | some github =>
      rw [hgithub] at h
      cases h

/-! ## Environments that make up for it -/

/-- A setting has a value after an overlay if its variable is given, or if it had one before. -/
lemma isSome_get_of_overlay (h : s.overlay env = .ok s') (x : Setting) :
    (x.get s').isSome = ((x.get s).isSome || (env.value? x.variableName).isSome) := by
  have hfollows := Setting.follows_of_overlay h x
  cases hvalue : env.value? x.variableName with
  | none =>
    rw [hvalue] at hfollows
    cases hfollows with
    | kept hget => simp [hget]
  | some text =>
    rw [hvalue] at hfollows
    cases hfollows with
    | given _ hget => simp [hget]

lemma isMet_of_overlay (h : s.overlay env = .ok s') (q : Requirement) :
    q.isMet s' = (q.isMet s || q.isGiven env) := by
  simp only [isMet, isGiven, isSome_get_of_overlay h]
  induction q.settings with
  | nil => rfl
  | cons x xs ih => simp only [List.any_cons, ih]; ac_rfl

/-- After an overlay exactly that is lacking which was so before and is not given. -/
lemma lacking_of_overlay (h : s.overlay env = .ok s') :
    lacking s' = (lacking s).filter fun q => !q.isGiven env := by
  rw [lacking, lacking, List.filter_filter]
  refine List.filter_congr fun q _ => ?_
  rw [isMet_of_overlay h, Bool.not_or, Bool.and_comm]

/-- An environment gives nothing but variables of some requirements. -/
def GivesOnly (env : Environment) (qs : List Requirement) : Prop :=
  ∀ name text, env name = some text → text ≠ "" →
    ∃ q ∈ qs, ∃ x ∈ q.settings, x.variableName = name

/-- A list of requirements is complete and minimal as a report about settings: to give a text for
each of its entries is enough, and what is not given remains. -/
structure IsReport (s : Settings) (qs : List Requirement) : Prop where
  ne_nil : qs ≠ []
  nodup : (qs.map entry).Nodup
  /-- An environment that gives nothing else can be laid over the settings. -/
  overlay : ∀ env, GivesOnly env qs → ∃ s', s.overlay env = .ok s'
  /-- One that gives a text for every entry makes them complete. -/
  complete : ∀ env s', s.overlay env = .ok s' → (∀ q ∈ qs, q.isGiven env) →
    ∃ relay, Relay.ofSettings s' = .ok relay
  /-- After one that does not, the entries that are left are reported, in the same order. -/
  minimal : ∀ env s', s.overlay env = .ok s' → (∃ q ∈ qs, ¬ q.isGiven env) →
    Relay.ofSettings s' =
      .error (.missingSettings ((qs.filter fun q => !q.isGiven env).map entry))

lemma variableName_ne_port : ∀ q : Requirement, ∀ x ∈ q.settings, x.variableName ≠ "PORT" := by
  intro q
  cases q <;> decide

lemma exists_overlay_of_givesOnly {qs : List Requirement} (h : GivesOnly env qs) :
    ∃ s', s.overlay env = .ok s' := by
  have hport : env.value? "PORT" = none := by
    cases hvalue : env.value? "PORT" with
    | none => rfl
    | some text =>
      obtain ⟨hgives, hne⟩ := Environment.value?_eq_some_iff.1 hvalue
      obtain ⟨q, -, x, hx, hname⟩ := h "PORT" text hgives hne
      exact absurd hname (variableName_ne_port q x hx)
  exact Setting.exists_overlay_of_port? (Setting.port?_eq_ok_iff.2 (.inl ⟨hport, rfl⟩))

/-- What settings lack is complete and minimal as a report about them. -/
lemma isReport_lacking (h : lacking s ≠ []) : IsReport s (lacking s) where
  ne_nil := h
  nodup := nodup_lacking s
  overlay := fun env henv => exists_overlay_of_givesOnly henv
  complete := by
    intro env s' hoverlay hall
    have hnone : lacking s' = [] := by
      rw [lacking_of_overlay hoverlay, List.filter_eq_nil_iff]
      intro q hq
      simp [hall q hq]
    obtain ⟨relay, hrelay, -⟩ := ofSettings_of_lacking_eq_nil hnone
    exact ⟨relay, hrelay⟩
  minimal := by
    intro env s' hoverlay hsome
    obtain ⟨q, hq, hnot⟩ := hsome
    rw [← lacking_of_overlay hoverlay]
    refine ofSettings_of_lacking_ne_nil (List.ne_nil_of_mem (a := q) ?_)
    rw [lacking_of_overlay hoverlay, List.mem_filter]
    exact ⟨hq, by simpa using hnot⟩

end Requirement

/-! ## The report -/

open Requirement in
/-- Settings that do not make a configuration are refused with a report of what they lack, which
is complete and minimal.  The workflow side of a configuration is the one that is made of the
settings alone; and what it lacks by itself is the part of the report that concerns it. -/
theorem Relay.ofSettings_reports_missing (s : Settings) :
    (∀ fault, Relay.ofSettings s = .error fault →
      ∃ qs : List Requirement, fault = .missingSettings (qs.map entry) ∧ IsReport s qs) ∧
    (∀ relay, Relay.ofSettings s = .ok relay → GithubAccess.ofSettings s = .ok relay.github) ∧
    (∀ fault, GithubAccess.ofSettings s = .error fault →
      ∃ names, Relay.ofSettings s = .error (.missingSettings names) ∧
        fault = .missingSettings (names.filter isOfGithub)) := by
  refine ⟨fun fault h => ?_, fun relay h => ?_, fun fault h => ?_⟩
  · obtain ⟨hsome, hfault⟩ := ofSettings_eq_error_iff.1 h
    exact ⟨lacking s, hfault, isReport_lacking hsome⟩
  · have hnone : lacking s = [] := by
      by_contra hsome
      exact absurd (h.symm.trans (ofSettings_of_lacking_ne_nil hsome)) nofun
    obtain ⟨relay', hrelay', hgithub⟩ := ofSettings_of_lacking_eq_nil hnone
    cases h.symm.trans hrelay'
    exact hgithub
  · obtain ⟨hsome, hfault⟩ := github_eq_error h
    exact ⟨_, ofSettings_of_lacking_ne_nil hsome, hfault⟩

end ChatRelay
