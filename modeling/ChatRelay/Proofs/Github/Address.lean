/-
# Where a dispatch is sent

Seven names lead from the root of the workflow service to the dispatches of a workflow: among
them are the organization, the repository and the workflow.  A dispatch is sent to the place
where each name is a segment of its own, whatever characters the name holds, and the segment
is decoded to the name.  So a name from a chat leads nowhere else, but for two.  The names of
one dot and of two dots are passed over, and the dispatch then goes to a place of fewer
segments.
-/
import ChatRelay.Proofs.Router.Run
import ChatRelay.Proofs.Server.Refinement
import ChatRelay.Proofs.Server.Sending
import ChatRelay.Proofs.Text.Blank
import ChatRelay.Proofs.Url.Segment

namespace ChatRelay

/-! ## The place of a dispatch -/

/-- The names that lead to a dispatch from the root of the service. -/
def DispatchRequest.place (q : DispatchRequest) : List String :=
  ["repos", q.organization, q.repository, "actions", "workflows", q.workflow, "dispatches"]

/-- A request asks a service for a dispatch at its place: below the root of the service, where
every name of the place is spelled by one segment, and only the names of dots are left out. -/
structure Github.Client.Asks (c : Client) (q : DispatchRequest) (e : Sent) : Prop where
  service : e.service = .github
  method : e.request.method = .post
  /-- It goes to the host of the root, in the same way. -/
  root : e.request.url.scheme = c.base.scheme ∧ e.request.url.host = c.base.host ∧
    e.request.url.port = c.base.port
  path : ∃ segments, e.request.url.path = Url.ownPath c.base.path ++ Url.slashed segments ∧
    List.Forall₂ Url.Spells (q.place.filter fun n => ¬ Url.IsDotName n) segments ∧
    (segments.length = 7 ↔ ∀ n ∈ [q.organization, q.repository, q.workflow], ¬ Url.IsDotName n)

/-! ## Names from a chat -/

namespace Router

variable {r : Router} {step : RouterStep} {q : DispatchRequest}

lemma isBlank_of_workflowFile? {v : Verb} {file : String} (hfile : v.workflowFile? = some file) :
    ∀ c ∈ file.toList, Text.isBlank c = false := by
  have hall : (file.toList.all fun c => !Text.isBlank c) = true := by
    cases v <;> cases hfile <;> decide
  simpa using hall

lemma mem_of_ofArguments? {verb : Verb} {arguments : List String} {command : MentionCommand}
    {service : String} {inputs : Inputs}
    (hcommand : MentionCommand.ofArguments? verb arguments = some command)
    (htarget : command.target? = some (service, inputs)) : service ∈ arguments := by
  rw [MentionCommand.ofArguments?.eq_def] at hcommand
  split at hcommand <;> cases hcommand <;> cases htarget <;> simp

/-- The repository of a mention is one of its words, and its workflow is one of three. -/
lemma names_of_mentionRequest? {text : String} (hq : r.mentionRequest? text = some q) :
    q.repository ∈ Text.words text ∧ ∃ v : Verb, v.workflowFile? = some q.workflow := by
  rw [mentionRequest?, MentionCommand.parse] at hq
  cases hwords : Text.words text with
  | nil => simp [hwords, MentionCommand.ofWords] at hq
  | cons first arguments =>
    rw [hwords, MentionCommand.ofWords] at hq
    cases hverb : Verb.ofName? first with
    | none => simp [hverb] at hq
    | some verb =>
      cases hcommand : MentionCommand.ofArguments? verb arguments with
      | none => simp [hverb, hcommand] at hq
      | some command =>
        simp only [hverb, hcommand] at hq
        rw [MentionCommand.toDispatch?] at hq
        obtain ⟨workflow, hworkflow, hq⟩ := Option.bind_eq_some_iff.1 hq
        obtain ⟨⟨service, inputs⟩, htarget, hq⟩ := Option.bind_eq_some_iff.1 hq
        cases hq
        exact ⟨List.mem_cons_of_mem first (mem_of_ofArguments? hcommand htarget), _, hworkflow⟩

/-- The repository and the workflow of a slash command are words of its text. -/
lemma names_of_slashRequest? {name text : String} (hq : r.slashRequest? name text = some q) :
    q.repository ∈ Text.words text ∧ q.workflow ∈ Text.words text := by
  rw [slashRequest?] at hq
  split at hq
  · obtain ⟨command, hcommand, rfl⟩ := Option.map_eq_some_iff.1 hq
    rw [ActionCommand.parse?] at hcommand
    rcases hwords : Text.words text with _ | ⟨repository, _ | ⟨workflow, rest⟩⟩
    · simp [hwords, ActionCommand.ofWords?] at hcommand
    · simp [hwords, ActionCommand.ofWords?] at hcommand
    · rw [hwords, ActionCommand.ofWords?] at hcommand
      cases hcommand
      simp [ActionCommand.toDispatch]
  · cases hq

/-- The repository and the workflow of a dispatch hold no blanks. -/
lemma isBlank_of_request? (hq : r.request? step = some q) :
    (∀ c ∈ q.repository.toList, Text.isBlank c = false) ∧
      ∀ c ∈ q.workflow.toList, Text.isBlank c = false := by
  cases step with
  | mention inbound =>
    obtain ⟨hrepository, v, hworkflow⟩ := names_of_mentionRequest? hq
    exact ⟨Text.isBlank_of_mem_words hrepository, isBlank_of_workflowFile? hworkflow⟩
  | slash name inbound =>
    obtain ⟨hrepository, hworkflow⟩ := names_of_slashRequest? hq
    exact ⟨Text.isBlank_of_mem_words hrepository, Text.isBlank_of_mem_words hworkflow⟩

/-- What a run sends is what one of its steps asks for. -/
lemma exists_request?_of_sent {steps : List RouterStep} {outcomes : List Outcome}
    (hq : q ∈ ((r.run steps).run ⟨outcomes, []⟩).2.sent) :
    ∃ step ∈ steps, r.request? step = some q := by
  rw [run_run, List.nil_append, requests] at hq
  exact List.mem_filterMap.1 hq

end Router

lemma Url.isIgnored_of_isBlank {c : Char} (hc : Text.isBlank c = false) :
    Url.isIgnored c = false := by
  rw [Bool.eq_false_iff]
  intro hignored
  simp only [isIgnored, Bool.or_eq_true, beq_iff_eq] at hignored
  rcases hignored with (rfl | rfl) | rfl
  · exact absurd hc (by decide)
  · exact absurd hc (by decide)
  · exact absurd hc (by decide)

/-! ## The address of a dispatch -/

namespace Web

/-- User name and password are all that is taken out of an address. -/
lemma takeCredentials_place (u : Url) :
    (takeCredentials u).1.host = u.host ∧ (takeCredentials u).1.port = u.port ∧
      (takeCredentials u).1.path = u.path := by
  rw [takeCredentials]
  split
  · exact ⟨rfl, rfl, rfl⟩
  · simp only
    split <;> exact ⟨rfl, rfl, rfl⟩

end Web

namespace Github.Client

variable {c : Client} {token url : String} {q : DispatchRequest}

lemma dispatchUrl_root (hfile : Url.isFile c.base.scheme = false) :
    (c.dispatchUrl q).scheme = c.base.scheme ∧ (c.dispatchUrl q).host = c.base.host ∧
      (c.dispatchUrl q).port = c.base.port := by
  simp [dispatchUrl, Url.append, hfile]

/-- The path of a dispatch spells its place. -/
lemma dispatchUrl_path (hc : create token url = .ok c) (hweb : c.base.IsWeb)
    (hkept : ∀ n ∈ [q.organization, q.repository, q.workflow],
      ∀ ch ∈ n.toList, Url.isIgnored ch = false) :
    (c.dispatchUrl q).path = Url.ownPath c.base.path ++
      Url.slashed ((q.place.filter fun n => ¬ Url.IsDotName n).map Url.segment) := by
  obtain ⟨host, -, hhost⟩ := Url.host_of_parse? (eq_of_create hc).2 hweb
  refine Url.append_path hweb (by simp [hhost]) (by decide) ?_
  have hfixed : ∀ n ∈ ["repos", "actions", "workflows", "dispatches"],
      ∀ ch ∈ n.toList, Url.isIgnored ch = false := by
    have hall : (["repos", "actions", "workflows", "dispatches"].all fun n =>
        n.toList.all fun ch => !Url.isIgnored ch) = true := by
      decide
    simpa using hall
  simp only [List.forall_mem_cons] at hkept hfixed ⊢
  obtain ⟨horganization, hrepository, hworkflow, -⟩ := hkept
  obtain ⟨hrepos, hactions, hworkflows, hdispatches, -⟩ := hfixed
  exact ⟨hrepos, horganization, hrepository, hactions, hworkflows, hworkflow, hdispatches,
    fun _ h => by cases h⟩

/-- Only one of three names in the place of a dispatch can be one of dots. -/
lemma length_filter_place :
    (q.place.filter fun n => ¬ Url.IsDotName n).length = 7 ↔
      ∀ n ∈ [q.organization, q.repository, q.workflow], ¬ Url.IsDotName n := by
  have hseven : q.place.length = 7 := rfl
  have hfixed : ∀ n ∈ ["repos", "actions", "workflows", "dispatches"], ¬ Url.IsDotName n := by
    decide
  rw [← hseven, List.length_filter_eq_length_iff]
  simp only [DispatchRequest.place, List.forall_mem_cons, decide_eq_true_eq] at hfixed ⊢
  tauto

lemma asks_of_write {e : Sent} (hc : create token url = .ok c) (hweb : c.base.IsWeb)
    (hkept : ∀ n ∈ [q.organization, q.repository, q.workflow],
      ∀ ch ∈ n.toList, Url.isIgnored ch = false)
    (hservice : e.service = .github) (hwrite : (c.dispatchDraft q).write = .ok e.request) :
    c.Asks q e := by
  have hrequest := Web.Draft.request_of_write hwrite
  obtain ⟨hscheme, hhost, hport⟩ := dispatchUrl_root (q := q) hweb.isFile
  obtain ⟨hhost', hport', hpath'⟩ := Web.takeCredentials_place (c.dispatchUrl q)
  refine ⟨hservice, by rw [hrequest]; rfl, ?_, ?_⟩
  · rw [hrequest]
    exact ⟨(Web.takeCredentials_scheme _).trans hscheme, hhost'.trans hhost, hport'.trans hport⟩
  · refine ⟨(q.place.filter fun n => ¬ Url.IsDotName n).map Url.segment, ?_, ?_, ?_⟩
    · rw [hrequest]
      exact hpath'.trans (dispatchUrl_path hc hweb hkept)
    · rw [List.forall₂_map_right_iff]
      exact List.forall₂_same.2 fun n _ => Url.spells_segment n
    · rw [List.length_map]
      exact length_filter_place

/-- Every dispatch of every run of the router is sent to its place: the first request of the
call asks for the dispatch below the root of the service, each name in a segment of its own.
The place has its seven segments unless one of the names is one of dots. -/
theorem dispatch_asked_at_place (hc : create token url = .ok c) (hweb : c.base.IsWeb)
    (r : Router) (horganization : ∀ ch ∈ r.organization.toList, ch ∉ ['\t', '\n', '\r'])
    (steps : List RouterStep) (outcomes : List Outcome)
    (hq : q ∈ ((r.run steps).run ⟨outcomes, []⟩).2.sent) (sc : Scripts) (log : List Sent) :
    ∃ result calls,
      (c.startWorkflow (sc.exchange .github) q).run log = (result, log ++ calls) ∧
      (calls = [] ↔ ∃ e, (c.dispatchDraft q).write = .error e) ∧
      ∀ e ∈ calls.head?, c.Asks q e := by
  obtain ⟨step, -, hstep⟩ := Router.exists_request?_of_sent hq
  obtain ⟨hrepository, hworkflow⟩ := Router.isBlank_of_request? hstep
  have horg : ∀ ch ∈ q.organization.toList, Url.isIgnored ch = false := by
    rw [(Router.request?_places hstep).1]
    intro ch hch
    simpa [Url.isIgnored, and_assoc] using horganization ch hch
  have hkept : ∀ n ∈ [q.organization, q.repository, q.workflow],
      ∀ ch ∈ n.toList, Url.isIgnored ch = false := by
    simp only [List.forall_mem_cons]
    exact ⟨horg, fun ch hch => Url.isIgnored_of_isBlank (hrepository ch hch),
      fun ch hch => Url.isIgnored_of_isBlank (hworkflow ch hch), fun _ h => by cases h⟩
  obtain ⟨result, calls, hcalls, hrun⟩ := startWorkflow_sends sc c q log
  refine ⟨started result, calls, hrun, ?_⟩
  cases hcalls with
  | unwritten hwrite => exact ⟨by simp [hwrite], by simp⟩
  | written hwrite hleads =>
    refine ⟨by simp [hwrite], fun e he => ?_⟩
    cases he
    exact asks_of_write hc hweb hkept rfl hwrite

/-! ## A dispatch with a name of dots -/

/-- A run of one slash command with some text. -/
def slashRun (text : String) : List RouterStep :=
  [.slash "/devops-action" ⟨.slashCommand, text, "", ""⟩]

/-- The dispatch of such a run, for a repository and a workflow. -/
def slashDispatch (repository workflow : String) : DispatchRequest :=
  ⟨"o", repository, workflow, "main", .ofTokens []⟩

lemma create_loopback : create "g" "http://[::1]" = .ok ⟨"g", Server.loopback⟩ := by
  rw [create, Server.parse?_loopback]
  rfl

/-- A repository with a slash in its name, which stays in its segment. -/
theorem dispatch_asked_at_place_slash :
    slashDispatch "a/b" "w" ∈
      (((⟨"o", "main"⟩ : Router).run (slashRun "a/b w")).run ⟨[], []⟩).2.sent ∧
    ∃ result calls,
      ((⟨"g", Server.loopback⟩ : Client).startWorkflow (Server.acceptingScripts.exchange .github)
        (slashDispatch "a/b" "w")).run [] = (result, [] ++ calls) ∧
      (calls = [] ↔ ∃ e, ((⟨"g", Server.loopback⟩ : Client).dispatchDraft
        (slashDispatch "a/b" "w")).write = .error e) ∧
      ∀ e ∈ calls.head?, (⟨"g", Server.loopback⟩ : Client).Asks (slashDispatch "a/b" "w") e := by
  have hq : slashDispatch "a/b" "w" ∈
      (((⟨"o", "main"⟩ : Router).run (slashRun "a/b w")).run ⟨[], []⟩).2.sent := by
    decide +kernel
  have horganization : ∀ ch ∈ "o".toList, ch ∉ ['\t', '\n', '\r'] := by
    simp
  exact ⟨hq, dispatch_asked_at_place create_loopback Server.loopback_isWeb ⟨"o", "main"⟩
    horganization (slashRun "a/b w") [] hq Server.acceptingScripts []⟩

/-- A repository that is named by a dot is passed over: the dispatch is sent to a place without
a repository. -/
theorem dot_repository_passed_over :
    create "g" "http://[::1]" = .ok ⟨"g", Server.loopback⟩ ∧ Server.loopback.IsWeb ∧
    slashDispatch "." "w" ∈
      (((⟨"o", "main"⟩ : Router).run (slashRun ". w")).run ⟨[], []⟩).2.sent ∧
    (((⟨"g", Server.loopback⟩ : Client).startWorkflow
      (Server.acceptingScripts.exchange .github) (slashDispatch "." "w")).run []).2.map
        (fun e => (e.request.method, e.request.target)) =
      [(.post, "/repos/o/actions/workflows/w/dispatches")] := by
  refine ⟨create_loopback, Server.loopback_isWeb, by decide +kernel, by decide +kernel⟩

end Github.Client

end ChatRelay
