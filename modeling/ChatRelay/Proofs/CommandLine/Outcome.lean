/-
# Whether a run tells the truth

A run that makes a call of the workflow service says that it has done its job only if it has, and
shows nothing else but the reason if it has not.  This follows from the ways in which such a run
can end.  One thing is in the way: a list with a text that is too long for a table is not shown,
though it was sent, and the run breaks off.  The jobs that call nothing send nothing.
-/
import ChatRelay.Proofs.CommandLine.ServiceCall
import ChatRelay.Proofs.Json.RoundTrip
import ChatRelay.Proofs.Table.Layout

namespace ChatRelay.CommandLine

/-! ## Whether it is true -/

namespace ServiceCall

variable {α : Type} {call : ServiceCall α} {h : Host} {config : Option String} {f : Failure}
  {report : Report} {calls : List Sent}

/-- What a run tells about its call is true, if some answers are good ones, of which some cannot be
shown. -/
structure Tells (call : ServiceCall α) (h : Host) (config : Option String)
    (Good Unshown : Web.Response → Prop) (report : Report) (calls : List Sent) : Prop where
  once : calls.length ≤ 1
  /-- The exit status is zero exactly if the settings and the address are good, and the one
  request has a good answer. -/
  succeeds : report.exitCode = 0 ↔ ∃ a c r, h.Reaches config call.org a c ∧
    calls = [⟨.github, (call.draft a c).request, .answered r⟩] ∧ Good r ∧ ¬ Unshown r
  /-- The run breaks off exactly if such an answer cannot be shown. -/
  breaks : report.exitCode = 101 ↔ ∃ a c r, h.Reaches config call.org a c ∧
    calls = [⟨.github, (call.draft a c).request, .answered r⟩] ∧ Good r ∧ Unshown r
  /-- In all other cases the exit status is one, and the log ends with the reason. -/
  fails : report.exitCode ≠ 0 → report.exitCode ≠ 101 → report.exitCode = 1 ∧
    ∃ before f, call.Fails h config f calls ∧
      report.errorText = before ++ "error: " ++ f.chain ++ "\n"
  /-- Nothing is shown unless the exit status is zero. -/
  shows : report.exitCode ≠ 0 → report.outputText = ""

/-- A call that succeeds shows its result, unless it is one that cannot be shown. -/
def ShowsUnless (call : ServiceCall α) (IsWide : α → Prop) : Prop :=
  ∀ a v, (¬ IsWide v ∧ (call.shown a v).ending = .done) ∨
    IsWide v ∧ (call.shown a v).ending = .broken tooWide ∧ (call.shown a v).output = []

/-- A run that fails did not get an answer with a result. -/
lemma Fails.result_ne {a : GithubAccess} {c : Github.Client} {r : Web.Response}
    (hfails : call.Fails h config f calls) (hreaches : h.Reaches config call.org a c)
    (hcalls : calls = [⟨.github, (call.draft a c).request, .answered r⟩]) (v : α) :
    call.result r ≠ .ok v := by
  obtain ⟨⟨s, hload, haccess⟩, ⟨hurl, hbase⟩, -⟩ := hreaches
  cases hfails with
  | settings herror => exact absurd (hload.symm.trans herror) nofun
  | access hload' hnone =>
    cases hload.symm.trans hload'
    exact absurd haccess (hnone a)
  | address hload' haccess' hnone =>
    cases hload.symm.trans hload'
    cases haccess.unique haccess'
    exact absurd (hurl.symm.trans hnone) nofun
  | root hload' haccess' hurl' hnot =>
    cases hload.symm.trans hload'
    cases haccess.unique haccess'
    cases hurl.symm.trans hurl'
    exact absurd (hbase.symm.trans hnot) nofun
  | unwritten _ _ => cases hcalls
  | unanswered _ hdelivery =>
    obtain rfl := (List.cons.inj (congrArg (List.map Sent.delivery) hcalls)).1
    simp at hdelivery
  | refused _ herror =>
    cases (List.cons.inj (congrArg (List.map Sent.delivery) hcalls)).1
    rw [herror]
    exact nofun

lemma Fails.length_le (hfails : call.Fails h config f calls) : calls.length ≤ 1 := by
  cases hfails <;> simp

lemma errorText_eq (hending : report.ending = .failed f) :
    ∃ before, report.errorText = before ++ "error: " ++ f.chain ++ "\n" := by
  refine ⟨Report.textOf (report.remarks ++ report.log.map LogLine.render), ?_⟩
  simp [Report.errorText, Report.endingLines, hending, Report.textOf, String.join_append,
    String.append_assoc]

/-- In all the ways in which a run can end, it tells the truth. -/
lemma Ends.tells {Good Unshown : Web.Response → Prop} {IsWide : α → Prop}
    (hends : call.Ends h config report.output report.ending calls)
    (hshows : call.ShowsUnless IsWide) (hgood : ∀ r, Good r ↔ ∃ v, call.result r = .ok v)
    (hunshown : ∀ r v, call.result r = .ok v → (Unshown r ↔ IsWide v)) :
    call.Tells h config Good Unshown report calls := by
  generalize houtput : report.output = output, hending : report.ending = ending at hends
  cases hends with
  | @failed f _ hfails =>
    have hcode : report.exitCode = 1 := by rw [Report.exitCode, hending]
    have hnot : ¬ ∃ a c r, h.Reaches config call.org a c ∧
        calls = [⟨.github, (call.draft a c).request, .answered r⟩] ∧ Good r := by
      rintro ⟨a, c, r, hreaches, hcalls, hr⟩
      obtain ⟨v, hv⟩ := (hgood r).1 hr
      exact hfails.result_ne hreaches hcalls v hv
    refine ⟨hfails.length_le, ?_, ?_, fun _ _ => ⟨hcode, ?_⟩, fun _ => ?_⟩
    · refine iff_of_false (by omega) ?_
      rintro ⟨a, c, r, hreaches, hcalls, hr, -⟩
      exact hnot ⟨a, c, r, hreaches, hcalls, hr⟩
    · refine iff_of_false (by omega) ?_
      rintro ⟨a, c, r, hreaches, hcalls, hr, -⟩
      exact hnot ⟨a, c, r, hreaches, hcalls, hr⟩
    · obtain ⟨before, herror⟩ := errorText_eq hending
      exact ⟨before, f, hfails, herror⟩
    · rw [Report.outputText, houtput]
      rfl
  | @answered a c r v hreaches hresult =>
    have hr : Good r := (hgood r).2 ⟨v, hresult⟩
    -- the call itself says which answer is meant
    have hsame : ∀ a' c' r', [(⟨.github, (call.draft a c).request, .answered r⟩ : Sent)] =
        [⟨.github, (call.draft a' c').request, .answered r'⟩] → r = r' := by
      intro a' c' r' hcalls
      cases (List.cons.inj (congrArg (List.map Sent.delivery) hcalls)).1
      rfl
    rcases hshows a v with ⟨hnarrow, hdone⟩ | ⟨hwide, hbroken, hnothing⟩
    · have hcode : report.exitCode = 0 := by rw [Report.exitCode, hending, hdone]
      have hshown : ¬ Unshown r := fun h => hnarrow ((hunshown r v hresult).1 h)
      refine ⟨Nat.le_refl 1, iff_of_true hcode ⟨a, c, r, hreaches, rfl, hr, hshown⟩, ?_,
        fun hne => absurd hcode hne, fun hne => absurd hcode hne⟩
      refine iff_of_false (by omega) ?_
      rintro ⟨a', c', r', -, hcalls, -, hr'⟩
      exact hshown (hsame a' c' r' hcalls ▸ hr')
    · have hcode : report.exitCode = 101 := by rw [Report.exitCode, hending, hbroken]
      have hunshown : Unshown r := (hunshown r v hresult).2 hwide
      refine ⟨Nat.le_refl 1, ?_, iff_of_true hcode ⟨a, c, r, hreaches, rfl, hr, hunshown⟩,
        fun _ hne => absurd hcode hne, fun _ => ?_⟩
      · refine iff_of_false (by omega) ?_
        rintro ⟨a', c', r', -, hcalls, -, hr'⟩
        exact hr' (hsame a' c' r' hcalls ▸ hunshown)
      · rw [Report.outputText, houtput, hnothing]
        rfl

/-- A run with the exit status zero got an answer with a result, and shows this result. -/
lemma Ends.answered_of_exitCode (hends : call.Ends h config report.output report.ending calls)
    (hcode : report.exitCode = 0) :
    ∃ a c r v, h.Reaches config call.org a c ∧
      calls = [⟨.github, (call.draft a c).request, .answered r⟩] ∧ call.result r = .ok v ∧
      (call.shown a v).exitCode = 0 ∧ report.output = (call.shown a v).output := by
  rw [Report.exitCode] at hcode
  generalize report.output = output, report.ending = ending at hends hcode
  cases hends with
  | failed _ => cases hcode
  | answered hreaches hresult => exact ⟨_, _, _, _, hreaches, rfl, hresult, hcode, rfl⟩

end ServiceCall

/-! ## Lists of workflows -/

/-- The content of an answer is a list of workflows. -/
def Lists (r : Web.Response) (l : Github.WorkflowList) : Prop :=
  ∃ bytes v, r.body = some bytes ∧ Json.read? bytes = some v ∧
    Github.WorkflowList.ofJson? v = some l

/-- An output names the workflows of a repository, each of them once and in order. -/
inductive Names (organization repository : String) (l : Github.WorkflowList) :
    Bool → List String → Prop
  /-- As JSON, from which the list can be read. -/
  | json {text : String} :
      (Json.read? (Text.Utf8.bytes text)).bind Github.WorkflowList.ofJson? = some l →
      Names organization repository l true [text]
  /-- As a line that says that there are none. -/
  | none : l.workflows = [] →
      Names organization repository l false
        ["No workflows in " ++ organization ++ "/" ++ repository ++ "."]
  /-- As a table with a line for each of them. -/
  | table {ws : List Nat} {header rule : String} {rows : List String} :
      l.workflows ≠ [] → ws.length = 4 →
      List.Forall₂
        (fun w row => Table.IsRow ws [Text.Decimal.render w.id, w.name, w.path, w.state] row)
        l.workflows rows →
      Names organization repository l false
        (header :: rule :: rows ++ ["", Text.Decimal.render l.totalCount ++ " workflow(s)"])

lemma list?_eq_some_iff {r : Web.Response} {l : Github.WorkflowList} :
    Github.Client.list? r = some l ↔ Lists r l := by
  simp [Github.Client.list?, Lists, Option.bind_eq_some_iff]

lemma Lists.unique {r : Web.Response} {l l' : Github.WorkflowList} (h : Lists r l)
    (h' : Lists r l') : l = l' := by
  rw [← list?_eq_some_iff] at h h'
  exact Option.some.inj (h.symm.trans h')

lemma listResult_eq_ok_iff {r : Web.Response} {l : Github.WorkflowList} :
    Github.Client.listResult r = .ok l ↔ r.status = 200 ∧ Lists r l := by
  rw [← list?_eq_some_iff, Github.Client.listResult]
  by_cases hstatus : r.status = 200
  · rw [if_neg (not_not.2 hstatus)]
    cases Github.Client.list? r with
    | none => simp
    | some l' => simp [hstatus]
  · rw [if_pos hstatus]
    simp [hstatus]

/-- A list is shown unless its table is too wide. -/
lemma listCall_showsUnless (json : Bool) (repository : String) (org : Option String) :
    (listCall json repository org).ShowsUnless fun l =>
      json = false ∧ (workflowTable l).IsTooWide := by
  intro a l
  simp only [listCall, listReport]
  cases json with
  | true => exact .inl ⟨by simp, rfl⟩
  | false =>
    cases hempty : l.workflows with
    | nil =>
      refine .inl ⟨?_, rfl⟩
      rintro ⟨-, hwide⟩
      rw [← Table.lines?_eq_none_iff, workflowTable, hempty] at hwide
      exact absurd hwide (by decide +kernel)
    | cons w ws =>
      simp only [Bool.false_eq_true, if_false, List.isEmpty_cons, tableReport, true_and]
      cases hlines : (workflowTable l).lines? with
      | none => exact .inr ⟨Table.lines?_eq_none_iff.1 hlines, rfl, rfl⟩
      | some lines =>
        refine .inl ⟨fun hwide => ?_, rfl⟩
        rw [Table.lines?_eq_none_iff.2 hwide] at hlines
        cases hlines

lemma names_listReport {r : Web.Response} {l : Github.WorkflowList} (hlists : Lists r l)
    {json : Bool} {organization repository : String}
    (hcode : (listReport json organization repository l).exitCode = 0) :
    Names organization repository l json (listReport json organization repository l).output := by
  cases json with
  | true =>
    obtain ⟨-, v, -, -, hv⟩ := hlists
    refine .json ?_
    rw [Json.read?_pretty, Option.bind_some]
    exact Github.WorkflowList.ofJson?_source (Github.WorkflowList.fits_of_ofJson? hv)
  | false =>
    by_cases hempty : l.workflows = []
    · simp only [listReport, hempty]
      exact .none hempty
    · have hreport : listReport false organization repository l =
          tableReport (workflowTable l) ["", Text.Decimal.render l.totalCount ++ " workflow(s)"]
            .done := by
        rw [listReport, if_neg (by decide), if_neg (by simpa using hempty)]
      rw [hreport, tableReport] at hcode ⊢
      cases hlines : (workflowTable l).lines? with
      | none =>
        rw [hlines] at hcode
        cases hcode
      | some lines =>
        have hshown : lines = (workflowTable l).lines := Table.eq_lines_of_lines? hlines
        have hlength : (workflowTable l).widths.length = 4 := Table.length_widths _
        rw [hshown, Table.lines_eq]
        refine .table hempty hlength ?_
        exact List.forall₂_map_left_iff.1 (Table.forall₂_isRow (workflowTable l))

/-! ## The two calls -/

section Calls

variable {h : Host} {config org gitRef : Option String} {json : Bool} {repository workflow : String}
  {inputs : List String} {report : Report} {calls : List Sent}

lemma dispatchCall_tells
    (hends : (dispatchCall json repository workflow inputs org gitRef).Ends h config report.output
      report.ending calls) :
    (dispatchCall json repository workflow inputs org gitRef).Tells h config
      (fun r => r.status = 204) (fun _ => False) report calls := by
  have hshows : (dispatchCall json repository workflow inputs org gitRef).ShowsUnless
      fun _ => False := by
    intro a v
    cases json <;> exact .inl ⟨not_false, rfl⟩
  refine hends.tells hshows (fun r => ?_) fun _ _ _ => Iff.rfl
  rw [← Github.Client.dispatchResult_eq_ok_iff]
  constructor
  · intro hresult
    exact ⟨(), hresult⟩
  · rintro ⟨_, hresult⟩
    exact hresult

lemma listCall_tells
    (hends : (listCall json repository org).Ends h config report.output report.ending calls) :
    (listCall json repository org).Tells h config (fun r => r.status = 200 ∧ ∃ l, Lists r l)
      (fun r => json = false ∧ ∃ l, Lists r l ∧ (workflowTable l).IsTooWide) report calls := by
  refine hends.tells (listCall_showsUnless json repository org) (fun r => ?_)
    fun r l hresult => ?_
  · simp [listCall, listResult_eq_ok_iff]
  · have hlists := (listResult_eq_ok_iff.1 hresult).2
    constructor
    · rintro ⟨hjson, l', hlists', hwide⟩
      exact ⟨hjson, hlists'.unique hlists ▸ hwide⟩
    · rintro ⟨hjson, hwide⟩
      exact ⟨hjson, l, hlists, hwide⟩

/-- A list that is shown is the one of the answer. -/
lemma listCall_names
    (hends : (listCall json repository org).Ends h config report.output report.ending calls)
    (hcode : report.exitCode = 0) :
    ∃ a c r l, h.Reaches config org a c ∧
      calls = [⟨.github, ((listCall json repository org).draft a c).request, .answered r⟩] ∧
      Lists r l ∧ Names a.org repository l json report.output := by
  obtain ⟨a, c, r, l, hreaches, hcalls, hresult, hshown, houtput⟩ :=
    hends.answered_of_exitCode hcode
  have hlists := (listResult_eq_ok_iff.1 hresult).2
  refine ⟨a, c, r, l, hreaches, hcalls, hlists, ?_⟩
  rw [houtput]
  exact names_listReport hlists hshown

end Calls

/-! ## The truth about a run -/

lemma exists_perform_checkConfig {m : Type → Type} [Monad m] (w : Surroundings m) (json : Bool)
    (s : Settings) : ∃ report, Job.perform w json s .checkConfig = pure report := by
  rw [Job.perform]
  cases relayOf s with
  | error f => exact ⟨_, rfl⟩
  | ok relay => exact ⟨_, rfl⟩

/-- What a run tells is true, given what it has been asked for and what it has sent. -/
structure Truthful (h : Host) (sc : Scripts) (i : Invocation) (report : Report)
    (calls : List Sent) : Prop where
  route : ∀ slash text, i.job = .route slash text → calls = []
  checkConfig : i.job = .checkConfig → calls = []
  /-- A workflow is said to be started if the answer has status 204. -/
  startWorkflow : ∀ repository workflow inputs org gitRef, sc.AnswersAtOnce →
    i.job = .startWorkflow repository workflow inputs org gitRef →
    (dispatchCall i.json repository workflow inputs org gitRef).Tells h i.config
      (fun r => r.status = 204) (fun _ => False) report calls
  /-- Workflows are listed if the answer has status 200 and its content is a list, which is not to
  be shown as a table that is too wide. -/
  listWorkflows : ∀ repository org, sc.AnswersAtOnce → i.job = .listWorkflows repository org →
    (listCall i.json repository org).Tells h i.config
      (fun r => r.status = 200 ∧ ∃ l, Lists r l)
      (fun r => i.json = false ∧ ∃ l, Lists r l ∧ (workflowTable l).IsTooWide) report calls
  /-- What is shown then names the workflows of this list. -/
  names : ∀ repository org, sc.AnswersAtOnce → i.job = .listWorkflows repository org →
    report.exitCode = 0 → ∃ a c r l, h.Reaches i.config org a c ∧
      calls = [⟨.github, ((listCall i.json repository org).draft a c).request, .answered r⟩] ∧
      Lists r l ∧ Names a.org repository l i.json report.output

/-- For every settings file, every environment and all arguments that ask for something, a run
tells the truth about what it has done.  With a service that sends nothing on, the two jobs that
call it send one request at most.  Their exit status is zero exactly if the settings give access,
the address is one that paths can be appended to, and the answer is the one that is hoped for, and
a list that is shown names all workflows of the answer.  In all other cases nothing is shown.  The
exit status is one then, and the log ends with the reason, except for a good answer with a list
that is too wide for a table: there the run breaks off. -/
theorem run_truthful (h : Host) (sc : Scripts) {args : List String} {i : Invocation}
    (hargs : Invocation.ofArguments h.environment args = .ok i) :
    ∃ report calls, (run (h.surroundings sc) args).run [] = (report, calls) ∧
      Truthful h sc i report calls := by
  generalize hrun : (run (h.surroundings sc) args).run [] = ended
  obtain ⟨report, calls⟩ := ended
  refine ⟨report, calls, rfl, ?_⟩
  refine {
    route := ?_
    checkConfig := ?_
    startWorkflow := ?_
    listWorkflows := ?_
    names := ?_ }
  · intro slash text hjob
    obtain ⟨_, hnothing⟩ := run_sends_nothing hargs fun s => by
      rw [hjob]
      exact ⟨_, rfl⟩
    exact congrArg Prod.snd (hrun.symm.trans hnothing)
  · intro hjob
    obtain ⟨_, hnothing⟩ := run_sends_nothing hargs fun s => by
      rw [hjob]
      exact exists_perform_checkConfig (h.surroundings sc) i.json s
    exact congrArg Prod.snd (hrun.symm.trans hnothing)
  · intro repository workflow inputs org gitRef hsettled hjob
    obtain ⟨_, _, hrun', hends⟩ := run_ends_startWorkflow hargs hsettled hjob
    cases hrun.symm.trans hrun'
    exact dispatchCall_tells hends
  · intro repository org hsettled hjob
    obtain ⟨_, _, hrun', hends⟩ := run_ends_listWorkflows hargs hsettled hjob
    cases hrun.symm.trans hrun'
    exact listCall_tells hends
  · intro repository org hsettled hjob hcode
    obtain ⟨_, _, hrun', hends⟩ := run_ends_listWorkflows hargs hsettled hjob
    cases hrun.symm.trans hrun'
    exact listCall_names hends hcode

/-! ## A list with one workflow -/

/-- A host with all that is needed in its environment. -/
def lonelyHost : Host where
  environment :=
    .ofList [("GITHUB_TOKEN", "g"), ("GITHUB_ORG", "o"), ("GITHUB_API_URL", "http://[::1]")]
  files _ := .error (.unreadable "")
  listen _ := pure (.refused "")

/-- A service that answers every request with one list. -/
def listingScripts : Scripts where
  github _ := .answered ⟨200, [], some (Text.Utf8.bytes
    ("\x7b\"total_count\": 3, \"workflows\": [\x7b\"id\": 7, \"name\": \"Deploy\", " ++
      "\"path\": \"d.yml\", \"state\": \"active\"\x7d]\x7d"))⟩
  slack _ := .dropped []

lemma listingScripts_isFinal : listingScripts.IsFinal := by
  intro service n r hr
  cases service with
  | github =>
    cases hr
    decide
  | slack => cases hr

/-- The workflows of a repository are asked for with another owner, and the answer has one of the
three that it counts. -/
theorem run_truthful_list :
    Invocation.ofArguments lonelyHost.environment ["workflows", "list", "r", "--org=p"] =
      .ok ⟨none, false, .listWorkflows "r" (some "p")⟩ ∧
    listingScripts.AnswersAtOnce ∧
    ∃ report calls,
      (run (lonelyHost.surroundings listingScripts) ["workflows", "list", "r", "--org=p"]).run [] =
        (report, calls) ∧
      Truthful lonelyHost listingScripts ⟨none, false, .listWorkflows "r" (some "p")⟩
        report calls ∧
      report.output =
        ["ID  NAME    PATH   STATE", "--  ------  -----  ------", "7   Deploy  d.yml  active", "",
          "3 workflow(s)"] := by
  have hargs : Invocation.ofArguments lonelyHost.environment
      ["workflows", "list", "r", "--org=p"] =
        .ok ⟨none, false, .listWorkflows "r" (some "p")⟩ := by decide +kernel
  have houtput : ((run (lonelyHost.surroundings listingScripts)
      ["workflows", "list", "r", "--org=p"]).run []).1.output =
        ["ID  NAME    PATH   STATE", "--  ------  -----  ------", "7   Deploy  d.yml  active", "",
          "3 workflow(s)"] := by decide +kernel
  obtain ⟨report, calls, hrun, htrue⟩ := run_truthful lonelyHost listingScripts hargs
  rw [hrun] at houtput
  exact ⟨hargs, listingScripts_isFinal.answersAtOnce, report, calls, hrun, htrue, houtput⟩

/-! ## A list with a long name -/

/-- A list of one workflow with a name of some length. -/
def listOfLength (n : Nat) : Github.WorkflowList :=
  ⟨1, [⟨7, String.ofList (List.replicate n 'a'), "d.yml", "active", ""⟩]⟩

/-- The answer with this list. -/
def answerOfLength (n : Nat) : Web.Response := ⟨200, [], some (listOfLength n).toJson.bytes⟩

/-- A service that answers every request with this list. -/
def scriptsOfLength (n : Nat) : Scripts where
  github _ := .answered (answerOfLength n)
  slack _ := .dropped []

lemma scriptsOfLength_answersAtOnce (n : Nat) : (scriptsOfLength n).AnswersAtOnce := by
  intro q r q' hr hasks
  cases hr
  have hstatus : ¬ (200 ∈ [301, 302, 303, 307, 308]) := by decide
  exact absurd hasks.isRedirect hstatus

lemma lists_answerOfLength (n : Nat) : Lists (answerOfLength n) (listOfLength n) := by
  have hfits : (listOfLength n).Fits := by
    refine ⟨?_, fun w hw => ?_⟩
    · show 1 ≤ _
      decide
    · obtain rfl := List.mem_singleton.1 hw
      show 7 ≤ _
      decide
  exact ⟨_, _, rfl, Json.read?_bytes _, Github.WorkflowList.ofJson?_source hfits⟩

lemma isTooWide_listOfLength {n : Nat} (hn : Table.maxWidth < n) :
    (workflowTable (listOfLength n)).IsTooWide := by
  refine ⟨1, ?_, String.ofList (List.replicate n 'a'), ?_, ?_⟩
  · show 1 < 4
    decide
  · exact List.mem_cons_of_mem _ (List.mem_cons_self ..)
  · rwa [String.length_ofList, List.length_replicate]

/-- What its environment gives access to. -/
def lonelyAccess : GithubAccess := ⟨"g", "o", "http://[::1]", defaultRef⟩

lemma run_listOfLength {n : Nat} (hn : Table.maxWidth < n) :
    ((run (lonelyHost.surroundings (scriptsOfLength n)) ["workflows", "list", "r"]).run
      []).1.exitCode = 101 := by
  have hargs : Invocation.ofArguments lonelyHost.environment ["workflows", "list", "r"] =
      .ok ⟨none, false, .listWorkflows "r" none⟩ := by decide +kernel
  obtain ⟨s, hload, haccess⟩ : ∃ s, lonelyHost.load none = .ok s ∧
      accessOf s none = .ok lonelyAccess := ⟨_, rfl, rfl⟩
  have hwrite : (((listCall false "r" none).draft lonelyAccess ⟨"g", Server.loopback⟩).write).isOk =
      true := by decide +kernel
  obtain ⟨calls, hperform⟩ := ServiceCall.perform_of_answered (scriptsOfLength_answersAtOnce n)
    haccess Github.Client.create_loopback hwrite rfl
  have hlisted := listResult_eq_ok_iff.2 ⟨rfl, lists_answerOfLength n⟩
  have hbroken : (listReport false "o" "r" (listOfLength n)).exitCode = 101 := by
    have hnone := Table.lines?_eq_none_iff.2 (isTooWide_listOfLength hn)
    rw [listReport, if_neg (by decide), if_neg nofun, tableReport, hnone]
    rfl
  rw [run_run_of hargs (by rw [Host.perform_of_ok hload, perform_listWorkflows]; exact hperform)]
  show ((listCall false "r" none).report lonelyAccess (.ok (answerOfLength n))).exitCode = 101
  have hreport : (listCall false "r" none).report lonelyAccess (.ok (answerOfLength n)) =
      listReport false "o" "r" (listOfLength n) := by
    rw [ServiceCall.report]
    simp only [listCall, hlisted]
    rfl
  rw [hreport, hbroken]

/-- The workflow service answers with status 200 and a list, and the run breaks off. -/
theorem long_name_breaks_off :
    (scriptsOfLength 70000).AnswersAtOnce ∧
    (∃ r, (scriptsOfLength 70000).github 0 = .answered r ∧ r.status = 200 ∧
      Lists r (listOfLength 70000)) ∧
    lonelyHost.Reaches none none lonelyAccess ⟨"g", Server.loopback⟩ ∧
    ((run (lonelyHost.surroundings (scriptsOfLength 70000)) ["workflows", "list", "r"]).run
      []).1.exitCode = 101 := by
  refine ⟨scriptsOfLength_answersAtOnce _, ⟨_, rfl, rfl, lists_answerOfLength _⟩, ?_,
    run_listOfLength (by decide)⟩
  exact ⟨⟨_, rfl, rfl, rfl, rfl, rfl⟩, ⟨Server.parse?_loopback, rfl⟩, rfl⟩

end ChatRelay.CommandLine
