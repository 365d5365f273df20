/-
# Runs that make a call

Two jobs of the program make a call of the workflow service: one starts a workflow, the other
lists workflows.  On the way to its call a run reads a settings file, lays the environment over
it, and makes a client of what the settings say, and any of this may fail.  The two jobs differ in
the call and in what is shown of its answer, and in nothing else.  So all ways in which such a run
can end are found once for both.
-/
import ChatRelay.CommandLine.Run
import ChatRelay.Proofs.Github.Start

namespace ChatRelay

/-! ## Calls that are answered at once -/

/-- The first delivery of the workflow service asks for no other request. -/
def Scripts.AnswersAtOnce (sc : Scripts) : Prop := ∀ q : Web.Request, q.IsSettledBy (sc.github 0)

/-- Without redirects there is no other request to ask for. -/
lemma Scripts.IsFinal.answersAtOnce {sc : Scripts} (h : sc.IsFinal) : sc.AnswersAtOnce :=
  fun q => (h .github 0).isSettledBy q

/-- What is sent for a draft if the delivery asks for no other request, and the result. -/
inductive Web.Draft.Settles (d : Draft) (service : Service) (delivery : Delivery) :
    Except Error Web.Response → List Sent → Prop
  /-- The draft cannot be written, so nothing is sent. -/
  | unwritten {e : Error} : d.write = .error e → Settles d service delivery (.error e) []
  /-- It is sent, and the delivery decides the result. -/
  | written : Settles d service delivery (d.request.result delivery)
      [⟨service, d.request, delivery⟩]

lemma Scripts.send_settles (sc : Scripts) (service : Service) (d : Web.Draft) (log : List Sent)
    (hsettled : ∀ q : Web.Request, q.IsSettledBy (sc.next service log)) :
    ∃ result calls, d.Settles service (sc.next service log) result calls ∧
      (Web.send (sc.exchange service) d).run log = (result, log ++ calls) := by
  obtain ⟨e, hwrite, hrun⟩ | ⟨result, calls, -, htrail, hrun⟩ := sc.send_trail service d log
  · exact ⟨_, _, .unwritten hwrite, hrun⟩
  · obtain ⟨rfl, rfl⟩ := htrail.of_isSettledBy (hsettled _)
    exact ⟨_, _, .written, hrun⟩

/-! ## Settings that give access -/

/-- Settings say how the workflow service is reached, for an owner in place of the configured one
if there is one. -/
structure Settings.GivesAccess (s : Settings) (org : Option String) (a : GithubAccess) : Prop where
  token : s.github.token = some a.token
  owner : org.or s.github.org = some a.org
  address : s.github.apiUrl.getD defaultGithubUrl = a.apiUrl
  gitRef : s.github.defaultRef.getD defaultRef = a.defaultRef

lemma Settings.GivesAccess.unique {s : Settings} {org : Option String} {a a' : GithubAccess}
    (h : s.GivesAccess org a) (h' : s.GivesAccess org a') : a = a' := by
  obtain ⟨token, owner, apiUrl, gitRef⟩ := a
  have htoken : token = a'.token := Option.some.inj (h.token.symm.trans h'.token)
  have howner : owner = a'.org := Option.some.inj (h.owner.symm.trans h'.owner)
  have haddress : apiUrl = a'.apiUrl := h.address.symm.trans h'.address
  have hgitRef : gitRef = a'.defaultRef := h.gitRef.symm.trans h'.gitRef
  rw [htoken, howner, haddress, hgitRef]

namespace CommandLine

lemma accessOf_cases (s : Settings) (org : Option String) :
    (∃ a, accessOf s org = .ok a ∧ s.GivesAccess org a) ∨
      accessOf s org = .error ⟨["failed to load GitHub configuration"], .fault
          (.missingSettings (GithubAccess.missing { s.github with org := org.or s.github.org }))⟩ ∧
        ∀ a, ¬ s.GivesAccess org a := by
  rw [accessOf, GithubAccess.ofSettings, GithubAccess.ofSettings?]
  cases htoken : s.github.token with
  | none => exact .inr ⟨rfl, fun a h => absurd (htoken.symm.trans h.token) nofun⟩
  | some token =>
    cases howner : org.or s.github.org with
    | none => exact .inr ⟨rfl, fun a h => absurd (howner.symm.trans h.owner) nofun⟩
    | some owner => exact .inl ⟨_, rfl, htoken, howner, rfl, rfl⟩

/-! ## What a run finds -/

/-- What a run finds around it, besides the workflow service. -/
structure Host where
  environment : Environment
  files : String → Except Fault (List UInt8)
  listen : Server → StateM (List Sent) Listening

namespace Host

/-- The surroundings of a run with a workflow service that answers from a script. -/
def surroundings (h : Host) (sc : Scripts) : Surroundings (StateM (List Sent)) where
  environment := h.environment
  contentOf path := pure (h.files path)
  toGithub := sc.exchange .github
  listen := h.listen

/-- The settings of a file, or of none, under those of the environment. -/
def load (h : Host) : Option String → Except Fault Settings
  | none => Settings.overlay {} h.environment
  | some path => do (← Settings.ofFile (← h.files path)).overlay h.environment

/-- The settings give access to the workflow service, and its address is one that paths can be
appended to. -/
structure Reaches (h : Host) (config org : Option String) (a : GithubAccess)
    (c : Github.Client) : Prop where
  access : ∃ s, h.load config = .ok s ∧ s.GivesAccess org a
  root : Url.parse? a.apiUrl = some c.base ∧ c.base.isBase = true
  token : c.token = a.token

variable (h : Host) (sc : Scripts)

lemma perform_eq (i : Invocation) :
    i.perform (h.surroundings sc) =
      match h.load i.config with
      | .error fault => pure (.failed (settingsFailure fault))
      | .ok s => i.job.perform (h.surroundings sc) i.json s := by
  obtain ⟨config, json, job⟩ := i
  rw [Invocation.perform]
  cases config with
  | none =>
    simp only [pure_bind, readSettings, load, surroundings]
    cases Settings.overlay {} h.environment <;> rfl
  | some path =>
    simp only [surroundings, map_pure, pure_bind, readSettings, load]
    cases (do (← Settings.ofFile (← h.files path)).overlay h.environment :
      Except Fault Settings) <;> rfl

variable {h sc} {i : Invocation}

lemma perform_of_error {fault : Fault} (hload : h.load i.config = .error fault) :
    i.perform (h.surroundings sc) = pure (.failed (settingsFailure fault)) := by
  rw [perform_eq, hload]

lemma perform_of_ok {s : Settings} (hload : h.load i.config = .ok s) :
    i.perform (h.surroundings sc) = i.job.perform (h.surroundings sc) i.json s := by
  rw [perform_eq, hload]

end Host

/-! ## Jobs that are one call -/

/-- A job that makes one call of the workflow service. -/
structure ServiceCall (α : Type) where
  /-- The owner in place of the configured one, if there is one. -/
  org : Option String
  /-- What is said before the call. -/
  remarks : List LogLine
  draft : GithubAccess → Github.Client → Web.Draft
  result : Web.Response → Except Github.Error α
  /-- What a failure of the call is about. -/
  context : GithubAccess → String
  /-- The report if the call succeeds. -/
  shown : GithubAccess → α → Report

namespace ServiceCall

variable {α : Type} {m : Type → Type} [Monad m]

/-- The failure of a call. -/
def failure (call : ServiceCall α) (a : GithubAccess) (e : Github.Error) : Failure :=
  (callFailure e).within (call.context a)

/-- The report of a call, given what comes of it. -/
def report (call : ServiceCall α) (a : GithubAccess) :
    Except Web.Error Web.Response → Report
  | .error e => .failed (call.failure a (.transport e))
  | .ok r =>
    match call.result r with
    | .error e => .failed (call.failure a e)
    | .ok v => call.shown a v

/-- Make a call with what settings give access to. -/
def make (call : ServiceCall α) (toGithub : Web.Request → m Web.Delivery) (a : GithubAccess) :
    m Report :=
  match Github.Client.create a.token a.apiUrl with
  | .error e => pure (.failed (callFailure e))
  | .ok c => call.report a <$> Web.send toGithub (call.draft a c)

/-- Do a job that is a call. -/
def perform (call : ServiceCall α) (toGithub : Web.Request → m Web.Delivery) (s : Settings) :
    m Report :=
  match accessOf s call.org with
  | .error f => pure (.failed f)
  | .ok a => (·.after call.remarks) <$> call.make toGithub a

end ServiceCall

/-- To start a workflow. -/
def dispatchCall (json : Bool) (repository workflow : String) (inputs : List String)
    (org gitRef : Option String) : ServiceCall Unit where
  org := org
  remarks := inputRemarks inputs
  draft a c := c.dispatchDraft (dispatchRequest a repository workflow inputs gitRef)
  result := Github.Client.dispatchResult
  context a := workflow ++ " on " ++ a.org ++ "/" ++ repository
  shown a _ := startedReport json (dispatchRequest a repository workflow inputs gitRef)

/-- To list the workflows of a repository. -/
def listCall (json : Bool) (repository : String) (org : Option String) :
    ServiceCall Github.WorkflowList where
  org := org
  remarks := []
  draft a c := c.draft .get (c.listUrl a.org repository) none
  result := Github.Client.listResult
  context a := a.org ++ "/" ++ repository
  shown a l := listReport json a.org repository l

section Jobs

variable {m : Type → Type} [Monad m] [LawfulMonad m] (w : Surroundings m) (json : Bool)
  (s : Settings)

lemma perform_startWorkflow (repository workflow : String) (inputs : List String)
    (org gitRef : Option String) :
    Job.perform w json s (.startWorkflow repository workflow inputs org gitRef) =
      (dispatchCall json repository workflow inputs org gitRef).perform w.toGithub s := by
  rw [Job.perform, ServiceCall.perform]
  simp only [dispatchCall]
  cases accessOf s org with
  | error f => rfl
  | ok a =>
    simp only [← map_eq_pure_bind]
    congr 1
    rw [CommandLine.startWorkflow, ServiceCall.make]
    cases Github.Client.create a.token a.apiUrl with
    | error e => rfl
    | ok c =>
      simp only [Github.Client.startWorkflow_eq, map_eq_pure_bind, bind_assoc, pure_bind]
      congr 1
      funext result
      cases result with
      | error e => rfl
      | ok r =>
        simp only [Github.Client.started, ServiceCall.report]
        cases Github.Client.dispatchResult r with
        | error e => rfl
        | ok v => rfl

lemma perform_listWorkflows (repository : String) (org : Option String) :
    Job.perform w json s (.listWorkflows repository org) =
      (listCall json repository org).perform w.toGithub s := by
  rw [Job.perform, ServiceCall.perform]
  simp only [listCall]
  cases accessOf s org with
  | error f => rfl
  | ok a =>
    have hafter : (fun r : Report => r.after []) = id := rfl
    simp only [hafter, id_map]
    rw [CommandLine.listWorkflows, ServiceCall.make]
    cases Github.Client.create a.token a.apiUrl with
    | error e => rfl
    | ok c =>
      simp only [Github.Client.listWorkflows, map_eq_pure_bind, bind_assoc]
      congr 1
      funext result
      cases result with
      | error e =>
        simp only [pure_bind]
        rfl
      | ok r =>
        simp only [pure_bind, ServiceCall.report]
        cases Github.Client.listResult r with
        | error e => rfl
        | ok l => rfl

end Jobs

/-! ## How a run can end -/

namespace ServiceCall

variable {α : Type}

/-- Why a run fails, and what it has sent before. -/
inductive Fails (call : ServiceCall α) (h : Host) (config : Option String) :
    Failure → List Sent → Prop
  | settings {fault : Fault} : h.load config = .error fault →
      Fails call h config ⟨["failed to load relay configuration"], .fault fault⟩ []
  | access {s : Settings} : h.load config = .ok s → (∀ a, ¬ s.GivesAccess call.org a) →
      Fails call h config ⟨["failed to load GitHub configuration"], .fault (.missingSettings
        (GithubAccess.missing { s.github with org := call.org.or s.github.org }))⟩ []
  | address {s : Settings} {a : GithubAccess} : h.load config = .ok s →
      s.GivesAccess call.org a → Url.parse? a.apiUrl = none →
      Fails call h config (callFailure (.invalidUrl a.apiUrl)) []
  | root {s : Settings} {a : GithubAccess} {u : Url} : h.load config = .ok s →
      s.GivesAccess call.org a → Url.parse? a.apiUrl = some u → u.isBase = false →
      Fails call h config (callFailure (.invalidUrl u.text)) []
  | unwritten {a : GithubAccess} {c : Github.Client} {e : Web.Error} :
      h.Reaches config call.org a c → (call.draft a c).write = .error e →
      Fails call h config (call.failure a (.transport e)) []
  | unanswered {a : GithubAccess} {c : Github.Client} {delivery : Web.Delivery}
      {causes : List String} :
      h.Reaches config call.org a c → delivery ∈ [.dropped causes, .unreachable causes] →
      Fails call h config
        (call.failure a (.transport (.unanswered (call.draft a c).request.url.text causes)))
        [⟨.github, (call.draft a c).request, delivery⟩]
  /-- The answer is not the one that is hoped for. -/
  | refused {a : GithubAccess} {c : Github.Client} {r : Web.Response} {e : Github.Error} :
      h.Reaches config call.org a c → call.result r = .error e →
      Fails call h config (call.failure a e)
        [⟨.github, (call.draft a c).request, .answered r⟩]

/-- What a run shows and how it ends, and what it has sent. -/
inductive Ends (call : ServiceCall α) (h : Host) (config : Option String) :
    List String → Ending → List Sent → Prop
  /-- It fails, and shows nothing. -/
  | failed {f : Failure} {calls : List Sent} : call.Fails h config f calls →
      Ends call h config [] (.failed f) calls
  /-- The call succeeds. -/
  | answered {a : GithubAccess} {c : Github.Client} {r : Web.Response} {v : α} :
      h.Reaches config call.org a c → call.result r = .ok v →
      Ends call h config (call.shown a v).output (call.shown a v).ending
        [⟨.github, (call.draft a c).request, .answered r⟩]

variable {call : ServiceCall α} {h : Host} {config : Option String} {sc : Scripts}

/-- A call that is settled ends in one of the ways. -/
lemma ends_of_settles {a : GithubAccess} {c : Github.Client} {delivery : Web.Delivery}
    {result : Except Web.Error Web.Response} {calls : List Sent}
    (hreaches : h.Reaches config call.org a c)
    (hsettles : (call.draft a c).Settles .github delivery result calls) :
    call.Ends h config (call.report a result).output (call.report a result).ending calls := by
  cases hsettles with
  | unwritten hwrite => exact .failed (.unwritten hreaches hwrite)
  | written =>
    cases delivery with
    | dropped causes => exact .failed (.unanswered hreaches (by simp))
    | unreachable causes => exact .failed (.unanswered hreaches (by simp))
    | answered r =>
      rw [Web.Request.result, report]
      cases hresult : call.result r with
      | error e => exact .failed (.refused hreaches hresult)
      | ok v => exact .answered hreaches hresult

lemma make_ends (hsettled : sc.AnswersAtOnce) {s : Settings} {a : GithubAccess}
    (hload : h.load config = .ok s) (haccess : s.GivesAccess call.org a) :
    ∃ report calls, (call.make (sc.exchange .github) a).run [] = (report, calls) ∧
      call.Ends h config report.output report.ending calls := by
  rw [make, Github.Client.create]
  cases hurl : Url.parse? a.apiUrl with
  | none => exact ⟨_, _, rfl, .failed (.address hload haccess hurl)⟩
  | some u =>
    by_cases hbase : u.isBase = true
    · simp only [hbase, if_true]
      obtain ⟨result, calls, hsettles, hrun⟩ :=
        sc.send_settles .github (call.draft a ⟨a.token, u⟩) [] hsettled
      refine ⟨call.report a result, calls, by rw [StateT.run_map, hrun]; rfl, ?_⟩
      exact ends_of_settles ⟨⟨s, hload, haccess⟩, ⟨hurl, hbase⟩, rfl⟩ hsettles
    · simp only [hbase]
      exact ⟨_, _, rfl, .failed (.root hload haccess hurl (Bool.not_eq_true _ ▸ hbase))⟩

lemma perform_ends (hsettled : sc.AnswersAtOnce) {s : Settings} (hload : h.load config = .ok s) :
    ∃ report calls, (call.perform (sc.exchange .github) s).run [] = (report, calls) ∧
      call.Ends h config report.output report.ending calls := by
  rw [perform]
  obtain ⟨a, hok, haccess⟩ | ⟨herror, hnone⟩ := accessOf_cases s call.org
  · obtain ⟨report, calls, hrun, hends⟩ := make_ends hsettled hload haccess
    rw [hok]
    exact ⟨report.after call.remarks, calls, by simp only [StateT.run_map, hrun]; rfl, hends⟩
  · rw [herror]
    exact ⟨_, _, rfl, .failed (.access hload hnone)⟩

/-- A call with an answer ends with the report of this answer. -/
lemma perform_of_answered {s : Settings} {a : GithubAccess} {c : Github.Client} {r : Web.Response}
    (hsettled : sc.AnswersAtOnce) (haccess : accessOf s call.org = .ok a)
    (hcreate : Github.Client.create a.token a.apiUrl = .ok c)
    (hwrite : (call.draft a c).write.isOk = true) (hr : sc.github 0 = .answered r) :
    ∃ calls, (call.perform (sc.exchange .github) s).run [] =
      ((call.report a (.ok r)).after call.remarks, calls) := by
  obtain ⟨result, calls, hsettles, hrun⟩ :=
    sc.send_settles .github (call.draft a c) [] hsettled
  refine ⟨calls, ?_⟩
  simp only [perform, haccess, make, hcreate, StateT.run_map, hrun]
  cases hsettles with
  | unwritten herror =>
    rw [herror] at hwrite
    cases hwrite
  | written =>
    have hnext : sc.next .github [] = .answered r := hr
    rw [hnext]
    rfl

end ServiceCall

/-! ## Runs -/

section Runs

variable {h : Host} {sc : Scripts} {args : List String} {i : Invocation}

lemma run_run_of (hargs : Invocation.ofArguments h.environment args = .ok i) {report : Report}
    {calls : List Sent} (hperform : (i.perform (h.surroundings sc)).run [] = (report, calls)) :
    (run (h.surroundings sc) args).run [] =
      (report.filtered (.ofText ((h.environment logVariable).getD "") i.job.logLimit), calls) := by
  have hargs' : Invocation.ofArguments (h.surroundings sc).environment args = .ok i := hargs
  rw [run, hargs']
  exact run_bind_of hperform

lemma run_ends {α : Type} {call : ServiceCall α}
    (hargs : Invocation.ofArguments h.environment args = .ok i) (hsettled : sc.AnswersAtOnce)
    (hjob : ∀ s, i.job.perform (h.surroundings sc) i.json s =
      call.perform (sc.exchange .github) s) :
    ∃ report calls, (run (h.surroundings sc) args).run [] = (report, calls) ∧
      call.Ends h i.config report.output report.ending calls := by
  cases hload : h.load i.config with
  | error fault =>
    exact ⟨_, _, run_run_of hargs (by rw [Host.perform_of_error hload]; rfl),
      .failed (.settings hload)⟩
  | ok s =>
    obtain ⟨report, calls, hrun, hends⟩ := ServiceCall.perform_ends hsettled hload
    exact ⟨_, _, run_run_of hargs (by rw [Host.perform_of_ok hload, hjob, hrun]), hends⟩

lemma run_ends_startWorkflow (hargs : Invocation.ofArguments h.environment args = .ok i)
    (hsettled : sc.AnswersAtOnce) {repository workflow : String} {inputs : List String}
    {org gitRef : Option String}
    (hjob : i.job = .startWorkflow repository workflow inputs org gitRef) :
    ∃ report calls, (run (h.surroundings sc) args).run [] = (report, calls) ∧
      (dispatchCall i.json repository workflow inputs org gitRef).Ends h i.config report.output
        report.ending calls := by
  refine run_ends hargs hsettled fun s => ?_
  rw [hjob]
  exact perform_startWorkflow (h.surroundings sc) i.json s repository workflow inputs org gitRef

lemma run_ends_listWorkflows (hargs : Invocation.ofArguments h.environment args = .ok i)
    (hsettled : sc.AnswersAtOnce) {repository : String} {org : Option String}
    (hjob : i.job = .listWorkflows repository org) :
    ∃ report calls, (run (h.surroundings sc) args).run [] = (report, calls) ∧
      (listCall i.json repository org).Ends h i.config report.output report.ending calls := by
  refine run_ends hargs hsettled fun s => ?_
  rw [hjob]
  exact perform_listWorkflows (h.surroundings sc) i.json s repository org

/-- A job that only reports sends nothing. -/
lemma run_sends_nothing (hargs : Invocation.ofArguments h.environment args = .ok i)
    (hjob : ∀ s, ∃ report, i.job.perform (h.surroundings sc) i.json s = pure report) :
    ∃ report, (run (h.surroundings sc) args).run [] = (report, []) := by
  cases hload : h.load i.config with
  | error fault => exact ⟨_, run_run_of hargs (by rw [Host.perform_of_error hload]; rfl)⟩
  | ok s =>
    obtain ⟨report, hreport⟩ := hjob s
    exact ⟨_, run_run_of hargs (by rw [Host.perform_of_ok hload, hreport]; rfl)⟩

end Runs

end CommandLine

end ChatRelay
