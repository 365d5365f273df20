/-
# Three ways to one dispatch

A workflow can be started from the command line, where its repository, its name and its inputs
are arguments of their own, by the slash command, where they are words of one text, and by a
mention, where a verb stands for the workflow and its inputs.  Where the words are the same
and the organization and the ref are those of one configuration, the dispatch is the same, with
whatever blanks the words are written.
-/
import ChatRelay.CommandLine.Run
import ChatRelay.Proofs.Router.Run
import ChatRelay.Proofs.Text.Spacing

namespace ChatRelay

open Text

/-- The router of a relay that reaches the workflow service in some way. -/
def GithubAccess.router (a : GithubAccess) : Router := ⟨a.org, a.defaultRef⟩

/-! ## Texts made of words -/

namespace Router

variable {r : Router} {text : String}

/-- A slash command for a repository and a workflow, with further words. -/
lemma slashRequest?_of_spaced {repository workflow : String} {tokens : List String}
    (h : Spaced (repository :: workflow :: tokens) text.toList) :
    r.slashRequest? slashCommand text =
      some ⟨r.organization, repository, workflow, r.gitRef, .ofTokens tokens⟩ := by
  have hparse : ActionCommand.parse? text =
      some ⟨repository, workflow, .ofTokens tokens⟩ := by
    rw [ActionCommand.parse?, words_eq_iff.2 h]
    rfl
  rw [slashRequest?, if_pos rfl, hparse]
  rfl

/-- A mention of a verb with the arguments that it needs. -/
lemma mentionRequest?_of_spaced (verb : Verb) {arguments : List String}
    {command : MentionCommand} (h : Spaced (verb.name :: arguments) text.toList)
    (hcommand : MentionCommand.ofArguments? verb arguments = some command) :
    r.mentionRequest? text = command.toDispatch? r.organization r.gitRef := by
  have hparse : MentionCommand.parse text = .ok command := by
    rw [MentionCommand.parse, words_eq_iff.2 h, MentionCommand.ofWords]
    simp only [Verb.ofName?_name, hcommand]
  rw [mentionRequest?, hparse]

/-- A step sends the one dispatch that it asks for. -/
lemma sends_singleton {step : RouterStep} {q : DispatchRequest} (h : r.request? step = some q) :
    r.Sends step [q] := by
  rw [sends_iff, h]
  rfl

/-- A mention and a slash command that ask for one dispatch. -/
lemma sends_same {asked typed : Inbound} {q : DispatchRequest}
    (hasked : r.mentionRequest? asked.text = some q)
    (htyped : r.slashRequest? slashCommand typed.text = some q) :
    ∃ q, r.Sends (.mention asked) [q] ∧ r.Sends (.slash slashCommand typed) [q] :=
  ⟨q, sends_singleton hasked, sends_singleton htyped⟩

end Router

/-! ## Jobs that start a workflow -/

namespace CommandLine

variable {s : Settings} {a : GithubAccess}

/-- A job starts a workflow with what some settings give access to: in whatever surroundings,
the program makes this one dispatch, and reports what became of it behind some lines of its
log. -/
def Job.Starts (job : Job) (s : Settings) (a : GithubAccess) (q : DispatchRequest) : Prop :=
  ∀ (m : Type → Type) [Monad m] [LawfulMonad m] (w : Surroundings m) (json : Bool), ∃ log,
    job.perform w json s = (fun report => report.after log) <$>
      CommandLine.startWorkflow w.toGithub json a q

lemma accessOf_none (h : GithubAccess.ofSettings s = .ok a) : accessOf s none = .ok a := by
  rw [accessOf]
  simp only [Option.none_or, h]
  rfl

lemma startWorkflow_starts (h : GithubAccess.ofSettings s = .ok a)
    (repository workflow : String) (inputs : List String) :
    (Job.startWorkflow repository workflow inputs none none).Starts s a
      (dispatchRequest a repository workflow inputs none) := by
  intro m _ _ w json
  refine ⟨inputRemarks inputs, ?_⟩
  rw [Job.perform, accessOf_none h, map_eq_pure_bind]

/-- For every configuration of the workflow side, the program starts from separate arguments
exactly the dispatch that the slash command makes for any text made of the same words.  And the
mentions of the three verbs make the dispatches of the slash commands that spell out what the
verbs stand for. -/
theorem same_dispatch_every_way (a : GithubAccess) :
    (∀ (s : Settings) (repository workflow : String) (inputs : List String) (typed : Inbound),
      GithubAccess.ofSettings s = .ok a →
      Spaced (repository :: workflow :: inputs) typed.text.toList →
      (Job.startWorkflow repository workflow inputs none none).Starts s a
          (dispatchRequest a repository workflow inputs none) ∧
        a.router.Sends (.slash slashCommand typed)
          [dispatchRequest a repository workflow inputs none]) ∧
    (∀ (environment service : String) (asked typed : Inbound),
      Spaced ["deploy", environment, service] asked.text.toList →
      Spaced [service, "deploy.yml", "environment", environment, "service", service]
        typed.text.toList →
      ∃ q, a.router.Sends (.mention asked) [q] ∧ a.router.Sends (.slash slashCommand typed) [q]) ∧
    (∀ (service : String) (asked typed : Inbound),
      Spaced ["build", service] asked.text.toList →
      Spaced [service, "build.yml", "service", service] typed.text.toList →
      ∃ q, a.router.Sends (.mention asked) [q] ∧ a.router.Sends (.slash slashCommand typed) [q]) ∧
    (∀ (service : String) (asked typed : Inbound),
      Spaced ["test", service] asked.text.toList →
      Spaced [service, "test.yml", "service", service] typed.text.toList →
      ∃ q, a.router.Sends (.mention asked) [q] ∧
        a.router.Sends (.slash slashCommand typed) [q]) := by
  refine ⟨?_, ?_, ?_, ?_⟩
  · intro s repository workflow inputs typed hs htyped
    refine ⟨startWorkflow_starts hs repository workflow inputs, ?_⟩
    exact Router.sends_singleton (Router.slashRequest?_of_spaced htyped)
  · intro environment service asked typed hasked htyped
    exact Router.sends_same (Router.mentionRequest?_of_spaced .deploy hasked rfl)
      (Router.slashRequest?_of_spaced htyped)
  · intro service asked typed hasked htyped
    exact Router.sends_same (Router.mentionRequest?_of_spaced .build hasked rfl)
      (Router.slashRequest?_of_spaced htyped)
  · intro service asked typed hasked htyped
    exact Router.sends_same (Router.mentionRequest?_of_spaced .test hasked rfl)
      (Router.slashRequest?_of_spaced htyped)

/-! ## A command with a repeated input -/

/-- Settings of the workflow side alone. -/
def workflowSettings : Settings where
  github := { token := some "g", org := some "o" }

/-- What these settings give access to. -/
def workflowAccess : GithubAccess := ⟨"g", "o", defaultGithubUrl, defaultRef⟩

/-- A slash command with wide blanks, an input that is named twice and one without a value. -/
def repeatedInput : Inbound := ⟨.slashCommand, " r\u3000w\tk v  k u z", "U", "C"⟩

/-- A mention of a deployment. -/
def deployMention : Inbound := ⟨.mention, "deploy\u2003staging api", "U", "C"⟩

/-- The slash command that spells this deployment out. -/
def deployCommand : Inbound :=
  ⟨.slashCommand, "api deploy.yml environment staging service api", "V", "D"⟩

/-- The command, and the deployment with what spells it out. -/
theorem same_dispatch_every_way_repeated :
    (GithubAccess.ofSettings workflowSettings = .ok workflowAccess ∧
      Spaced ["r", "w", "k", "v", "k", "u", "z"] repeatedInput.text.toList ∧
      (Job.startWorkflow "r" "w" ["k", "v", "k", "u", "z"] none none).Starts workflowSettings
        workflowAccess (dispatchRequest workflowAccess "r" "w" ["k", "v", "k", "u", "z"] none) ∧
      workflowAccess.router.Sends (.slash slashCommand repeatedInput)
        [dispatchRequest workflowAccess "r" "w" ["k", "v", "k", "u", "z"] none]) ∧
    Spaced ["deploy", "staging", "api"] deployMention.text.toList ∧
    Spaced ["api", "deploy.yml", "environment", "staging", "service", "api"]
      deployCommand.text.toList ∧
    ∃ q, workflowAccess.router.Sends (.mention deployMention) [q] ∧
      workflowAccess.router.Sends (.slash slashCommand deployCommand) [q] := by
  have hs : GithubAccess.ofSettings workflowSettings = .ok workflowAccess := rfl
  have hrepeated := words_eq_iff.1 (by decide +kernel :
    words repeatedInput.text = ["r", "w", "k", "v", "k", "u", "z"])
  have hasked := words_eq_iff.1 (by decide +kernel :
    words deployMention.text = ["deploy", "staging", "api"])
  have htyped := words_eq_iff.1 (by decide +kernel :
    words deployCommand.text = ["api", "deploy.yml", "environment", "staging", "service", "api"])
  obtain ⟨harguments, hdeploy, -, -⟩ := same_dispatch_every_way workflowAccess
  exact ⟨⟨hs, hrepeated, harguments _ _ _ _ _ hs hrepeated⟩, hasked, htyped,
    hdeploy _ _ _ _ hasked htyped⟩

end CommandLine

end ChatRelay
