/-
# Running the program

Each job turns settings into a report.  What a job needs from outside, the environment,
files, the workflow service and a port to listen on, is handed to it, so that it runs in
any monad.  A job that fails shows nothing but its log and the reason, except for a check
of the configuration, which shows what it has found in either case.  A run that comes to a
table which cannot be written breaks off there.
-/
import ChatRelay.CommandLine.Arguments
import ChatRelay.CommandLine.Report
import ChatRelay.DryRun
import ChatRelay.Server.Basic
import ChatRelay.Table

namespace ChatRelay.CommandLine

open Text

/-! ## The outside -/

inductive Listening where
  | refused (reason : String)
  /-- The server listened on a port until it was told to stop; some requests may not have
  been answered in time. -/
  | stopped (port : UInt16) (unanswered : Bool)
deriving DecidableEq, Repr

/-- What the program has around it. -/
structure Surroundings (m : Type → Type) where
  environment : Environment
  contentOf : String → m (Except Fault (List UInt8))
  toGithub : Web.Request → m Web.Delivery
  listen : Server → m Listening

/-! ## Settings -/

def settingsFailure (f : Fault) : Failure :=
  (Failure.ofFault f).within "failed to load relay configuration"

/-- The failure of a call of the workflow service. -/
def callFailure (e : Github.Error) : Failure := ⟨[], .other e.message e.causes⟩

/-- The settings of a file, or of none, under those of an environment. -/
def readSettings (env : Environment) (file : Option (Except Fault (List UInt8))) :
    Except Failure Settings :=
  let settings : Except Fault Settings := do
    match file with
    | none => Settings.overlay {} env
    | some content => (← Settings.ofFile (← content)).overlay env
  settings.mapError settingsFailure

def relayOf (s : Settings) : Except Failure Relay :=
  (Relay.ofSettings s).mapError settingsFailure

/-- What the workflow service is reached with, for an owner other than the configured one if
there is one. -/
def accessOf (s : Settings) (org : Option String) : Except Failure GithubAccess :=
  let s := { s with github := { s.github with org := org.or s.github.org } }
  (GithubAccess.ofSettings s).mapError fun f =>
    (Failure.ofFault f).within "failed to load GitHub configuration"

/-! ## Tables -/

/-- What is said about a table with a column that is too wide. -/
def tooWide : String := "Formatting argument out of range"

/-- The report of a table with some lines behind it.  Nothing is shown of a table that cannot be
written. -/
def tableReport (t : Table) (after : List String) (ending : Ending) : Report :=
  match t.lines? with
  | some lines => { output := lines ++ after, ending }
  | none => { ending := .broken tooWide }

/-! ## Checking the configuration -/

/-- The heading of a warning. -/
def warningLine (w : Warning) : String := "[" ++ w.level.name ++ "] " ++ w.message

/-- The configuration and the warnings about it as JSON. -/
def checkJson (r : Relay) : Json :=
  .object
    [("settings", Json.sorted (r.summary.map fun p => (p.1, .text p.2))),
     ("warnings", .array (r.warnings.map Warning.toJson))]

def checkTable (r : Relay) : Table :=
  ⟨["SETTING", "VALUE"], r.summary.map fun p => [p.1, p.2]⟩

/-- The warnings about a configuration as lines. -/
def warningLines (r : Relay) : List String :=
  if r.warnings.isEmpty then ["Config is valid. No warnings."] else r.warnings.map warningLine

def checkEnding (r : Relay) : Ending :=
  if r.isBlocked then .failed (.ofText "config validation found errors") else .done

def checkReport (json : Bool) (r : Relay) : Report :=
  if json then { output := [(checkJson r).pretty], ending := checkEnding r }
  else tableReport (checkTable r) ("" :: warningLines r) (checkEnding r)

/-! ## Dry runs -/

def dryRunJson (text : String) (d : DryRun) : Json :=
  .object
    [("dispatch", (d.dispatch.map fun r => Json.sorted r.members).getD .null),
     ("reply", .text d.reply),
     ("text", .text text)]

/-- What a dispatch is for. -/
def dispatchText (r : DispatchRequest) : String :=
  r.workflow ++ " on " ++ r.organization ++ "/" ++ r.repository ++ " at " ++ r.gitRef

def dryRunLines (d : DryRun) : List String :=
  let dispatch :=
    match d.dispatch with
    | none => ["No workflow would be dispatched."]
    | some r =>
      ("Would dispatch " ++ dispatchText r) ::
        r.inputs.entries.map fun p => "  " ++ p.1 ++ " = " ++ p.2
  dispatch ++ ["", "Reply:", d.reply]

def routeReport (json slash : Bool) (text : String) (s : Settings) : Report :=
  let d := DryRun.ofSettings s slash text
  if json then .ofJson (dryRunJson text d) else { output := dryRunLines d }

/-! ## Calling the workflow service -/

def dispatchRequest (a : GithubAccess) (repository workflow : String) (inputs : List String)
    (gitRef : Option String) : DispatchRequest :=
  ⟨a.org, repository, workflow, gitRef.getD a.defaultRef, Inputs.ofTokens inputs⟩

/-- What is to be said about inputs: a last one without a value is left out. -/
def inputRemarks (inputs : List String) : List LogLine :=
  if inputs.length % 2 = 1 then
    [{ level := .warning, source := "chatops::cmd::workflows",
       message := "ignoring unpaired trailing input '" ++ inputs.getLastD "" ++ "'" }]
  else []

def startedReport (json : Bool) (r : DispatchRequest) : Report :=
  if json then .ofJson (.object [("dispatched", .bool true), ("request", Json.sorted r.members)])
  else { output := ["Triggered " ++ dispatchText r] }

def workflowTable (l : Github.WorkflowList) : Table :=
  ⟨["ID", "NAME", "PATH", "STATE"],
    l.workflows.map fun w => [Decimal.render w.id, w.name, w.path, w.state]⟩

def listReport (json : Bool) (organization repository : String) (l : Github.WorkflowList) :
    Report :=
  if json then .ofJson l.toJson
  else if l.workflows.isEmpty then
    { output := ["No workflows in " ++ organization ++ "/" ++ repository ++ "."] }
  else
    tableReport (workflowTable l) ["", Decimal.render l.totalCount ++ " workflow(s)"] .done

variable {m : Type → Type} [Monad m]

def startWorkflow (toGithub : Web.Request → m Web.Delivery) (json : Bool) (a : GithubAccess)
    (r : DispatchRequest) : m Report := do
  match Github.Client.create a.token a.apiUrl with
  | .error e => return .failed (callFailure e)
  | .ok client =>
    match ← client.startWorkflow toGithub r with
    | .ok _ => return startedReport json r
    | .error e =>
      let context := r.workflow ++ " on " ++ r.organization ++ "/" ++ r.repository
      return .failed ((callFailure e).within context)

def listWorkflows (toGithub : Web.Request → m Web.Delivery) (json : Bool) (a : GithubAccess)
    (repository : String) : m Report := do
  match Github.Client.create a.token a.apiUrl with
  | .error e => return .failed (callFailure e)
  | .ok client =>
    match ← client.listWorkflows toGithub a.org repository with
    | .ok l => return listReport json a.org repository l
    | .error e => return .failed ((callFailure e).within (a.org ++ "/" ++ repository))

/-! ## Running the relay -/

/-- The log of a configuration that is put to use. -/
def summaryLog (r : Relay) : List LogLine :=
  r.summary.map fun p =>
    { level := .info, source := "chatops::cmd::serve", message := p.1 ++ ": " ++ p.2 }

def readyLog (r : Relay) : List LogLine :=
  if r.slack.skipVerification then
    [{ level := .warning, source := "chatops_server::state",
       message := "Slack request verification is DISABLED; do not run this in production" }]
  else []

/-- The report of a server that listened on a port. -/
def stoppedReport (port : UInt16) (unanswered : Bool) : Report :=
  let line (message : String) : LogLine := { level := .info, source := "chatops_server", message }
  let log :=
    [line ("chatops relay listening on http://0.0.0.0:" ++ Decimal.render port.toNat),
     line "shutdown signal received, draining in-flight requests"]
  match Server.stop unanswered with
  | .ok _ => { log := log ++ [line "server stopped"] }
  | .error reason => (Report.failed (.ofText reason)).after log

def serve (listen : Server → m Listening) (r : Relay) : m Report := do
  let remarks := r.warnings.map LogLine.ofWarning
  if r.isBlocked then
    let reason := "relay configuration has errors; run `chatops config check`"
    return (Report.failed (.ofText reason)).after remarks
  let log := remarks ++ summaryLog r
  match Server.create r with
  | .error e => return (Report.failed (callFailure e)).after log
  | .ok server =>
    let log := log ++ readyLog r
    match ← listen server with
    | .refused reason => return (Report.failed (.ofText reason)).after log
    | .stopped port unanswered => return (stoppedReport port unanswered).after log

/-! ## Jobs -/

def Job.perform (w : Surroundings m) (json : Bool) (s : Settings) : Job → m Report
  | .serve port =>
    match relayOf s with
    | .error f => return .failed f
    | .ok r => CommandLine.serve w.listen { r with port := port.getD r.port }
  | .checkConfig =>
    match relayOf s with
    | .error f => return .failed f
    | .ok r => return checkReport json r
  | .listWorkflows repository org =>
    match accessOf s org with
    | .error f => return .failed f
    | .ok a => CommandLine.listWorkflows w.toGithub json a repository
  | .startWorkflow repository workflow inputs org gitRef =>
    match accessOf s org with
    | .error f => return .failed f
    | .ok a => do
      let r := dispatchRequest a repository workflow inputs gitRef
      return (← CommandLine.startWorkflow w.toGithub json a r).after (inputRemarks inputs)
  | .route slash text => return routeReport json slash text s

def Invocation.perform (w : Surroundings m) (i : Invocation) : m Report := do
  let file ←
    match i.config with
    | none => pure none
    | some path => some <$> w.contentOf path
  match readSettings w.environment file with
  | .error f => return .failed f
  | .ok s => i.job.perform w i.json s

/-- The report of a run without a job. -/
def Halt.report : Halt → Report
  | version c => { output := [c.versionLine] }
  | help c => { output := [c.usageLine] }
  | misuse c => { ending := .misused c }

/-- The variable with the rules about what is shown of the log. -/
def logVariable : String := "RUST_LOG"

/-- What a job shows of the log, where no rule says otherwise. -/
def Job.logLimit : Job → LogLimit
  | .serve _ => some .info
  | _ => some .warning

def run (w : Surroundings m) (args : List String) : m Report :=
  match Invocation.ofArguments w.environment args with
  | .error halt => return halt.report
  | .ok i => do
    let rules := (w.environment logVariable).getD ""
    return (← i.perform w).filtered (.ofText rules i.job.logLimit)

end ChatRelay.CommandLine
