/-
# What is said about a dispatch

A chat is told that a workflow was started exactly if the workflow service answered the
request for it with status 204, whatever else was in the answer.  Otherwise it is told why
not: that no answer came, what the service explained, or the status alone.  This holds for a
slash command, where the text is the answer, and for a mention, where it is posted, and it
does not matter what the chat service makes of the post.
-/
import ChatRelay.Proofs.Server.Gate
import ChatRelay.Proofs.Server.Refinement
import ChatRelay.Proofs.Server.Sending

namespace ChatRelay

/-! ## What is said -/

/-- An answer explains a refusal: its content is readable, and is an explanation. -/
def Github.Explains (r : Web.Response) (x : Explanation) : Prop :=
  ∃ bytes v, r.body = some bytes ∧ Json.read? bytes = some v ∧ Explanation.ofJson? v = some x

/-- What is said about the dispatch of a mention: the text for success, and the one that comes
before the reason of a failure. -/
inductive MentionCommand.Wording : MentionCommand → String → String → Prop
  | deploy {environment service : String} :
      Wording (.deploy environment service)
        ("🚀 Deployment of `" ++ service ++ "` to `" ++ environment ++
          "` environment has been triggered!")
        "❌ Failed to trigger deployment: "
  | build {service : String} :
      Wording (.build service) ("🔨 Build for `" ++ service ++ "` has been triggered!")
        "❌ Failed to trigger build: "
  | test {service : String} :
      Wording (.test service) ("🧪 Tests for `" ++ service ++ "` have been triggered!")
        "❌ Failed to trigger tests: "

/-- What is said about the dispatch of a slash command. -/
inductive ActionCommand.Wording : ActionCommand → String → String → Prop
  | action {repository workflow : String} {inputs : Inputs} :
      Wording ⟨repository, workflow, inputs⟩
        ("✅ GitHub Action `" ++ workflow ++ "` triggered for repository `" ++ repository ++ "`")
        "Failed to trigger GitHub Action: "

/-- What is said about a dispatch, given what was sent for it and what came of that: the text
for success, or the one for failure followed by the reason. -/
inductive Web.Draft.Told (d : Draft) (success failure : String) : List Sent → String → Prop
  /-- The service answers with the one status that means success. -/
  | accepted {q : Request} {r : Response} :
      d.write = .ok q → r.status = 204 → Told d success failure [⟨.github, q, .answered r⟩] success
  /-- The service answers with another status, and explains why. -/
  | explained {q : Request} {r : Response} {x : Github.Explanation} :
      d.write = .ok q → r.status ≠ 204 → Github.Explains r x →
      Told d success failure [⟨.github, q, .answered r⟩]
        (failure ++ ("workflow dispatch failed: " ++ x.message))
  /-- The service answers with another status, and does not explain why. -/
  | unexplained {q : Request} {r : Response} :
      d.write = .ok q → r.status ≠ 204 → (∀ x, ¬ Github.Explains r x) →
      Told d success failure [⟨.github, q, .answered r⟩]
        (failure ++ ("workflow dispatch failed with status " ++ toString r.status))
  /-- No answer comes to the request that was sent. -/
  | unanswered {q : Request} {delivery : Delivery} {causes : List String} :
      d.write = .ok q → delivery = .dropped causes ∨ delivery = .unreachable causes →
      Told d success failure [⟨.github, q, delivery⟩]
        (failure ++ ("failed to send request: " ++
          ("error sending request for url (" ++ q.url.text ++ ")")))
  /-- The token cannot be in a request. -/
  | badToken {cause : String} :
      d.write = .error (.unwritable none cause) →
      Told d success failure [] (failure ++ ("failed to send request: " ++ "builder error"))
  | badAddress {url cause : String} :
      d.write = .error (.unwritable (some url) cause) →
      Told d success failure []
        (failure ++ ("failed to send request: " ++ ("builder error for url (" ++ url ++ ")")))

/-- The text for an outcome. -/
def Outcome.text (success failure : String) : Outcome → String
  | .accepted => success
  | .failed reason => failure ++ reason

variable {success failure : String}

/-- As long as no reason makes a failure look like success, success is told exactly of a
dispatch that is answered with its status. -/
lemma Web.Draft.Told.eq_success_iff {d : Draft} {calls : List Sent} {text : String}
    (h : d.Told success failure calls text) (hne : ∀ reason, failure ++ reason ≠ success) :
    text = success ↔ ∃ e ∈ calls, ∃ r, e.delivery = .answered r ∧ r.status = 204 := by
  cases h with
  | accepted _ hstatus =>
    exact ⟨fun _ => ⟨_, List.mem_singleton.2 rfl, _, rfl, hstatus⟩, fun _ => rfl⟩
  | explained _ hstatus _ => simp [hne, hstatus]
  | unexplained _ hstatus _ => simp [hne, hstatus]
  | unanswered _ hdelivery =>
    rcases hdelivery with rfl | rfl
    · simp [hne]
    · simp [hne]
  | badToken _ => simp [hne]
  | badAddress _ => simp [hne]

/-! ## Outcomes of dispatches -/

namespace Github.Client

variable {c : Client} {request : DispatchRequest} {r : Web.Response}

lemma explanation?_eq_some_iff {x : Explanation} : explanation? r = some x ↔ Explains r x := by
  simp only [explanation?, Explains, Option.bind_eq_bind, Option.bind_eq_some_iff,
    exists_and_left]

/-- What the router is told about an answer is what is said about it. -/
lemma told_answered {d : Web.Draft} {q : Web.Request} (hwrite : d.write = .ok q) :
    d.Told success failure [⟨.github, q, .answered r⟩]
      ((outcome (.ok r)).text success failure) := by
  rw [outcome, dispatchResult]
  by_cases hstatus : r.status = 204
  · rw [if_pos hstatus]
    exact .accepted hwrite hstatus
  · rw [if_neg hstatus]
    cases hexplanation : explanation? r with
    | some x => exact .explained hwrite hstatus (explanation?_eq_some_iff.1 hexplanation)
    | none =>
      refine .unexplained hwrite hstatus fun x hx => ?_
      rw [explanation?_eq_some_iff.2 hx] at hexplanation
      cases hexplanation

/-- A dispatch is told as what came of its one request. -/
lemma told_of_sends (success failure : String) {first : Web.Delivery}
    (hfinal : first.IsFinal) {result : Except Web.Error Web.Response} {calls : List Sent}
    (hsends : (c.dispatchDraft request).Sends .github first result calls) :
    (c.dispatchDraft request).Told success failure calls
      ((outcome result).text success failure) := by
  cases hsends with
  | unwritten hwrite =>
    obtain ⟨url, cause, rfl⟩ := Web.Draft.unwritable_of_write hwrite
    cases url with
    | none => exact .badToken hwrite
    | some url => exact .badAddress hwrite
  | written hwrite hleads =>
    obtain ⟨rfl, rfl⟩ := hleads.final hfinal
    cases first with
    | answered r => exact told_answered hwrite
    | dropped causes => exact .unanswered hwrite (.inl rfl)
    | unreachable causes => exact .unanswered hwrite (.inr rfl)

end Github.Client

/-! ## Texts -/

/-- What is put behind a text does not change how it begins. -/
lemma head?_append {a b : String} {c : Char} (ha : a.toList.head? = some c) :
    (a ++ b).toList.head? = some c := by
  rw [String.toList_append, List.head?_append, ha]
  rfl

lemma ne_of_head? {a b : String} {c d : Char} (ha : a.toList.head? = some c)
    (hb : b.toList.head? = some d) (hne : c ≠ d) : a ≠ b := by
  rintro rfl
  exact hne (Option.some.inj (ha.symm.trans hb))

namespace MentionCommand

variable {command : MentionCommand}

lemma exists_wording (hverb : command.verb ≠ .help) :
    ∃ success failure, command.Wording success failure := by
  cases command with
  | deploy environment service => exact ⟨_, _, .deploy⟩
  | build service => exact ⟨_, _, .build⟩
  | test service => exact ⟨_, _, .test⟩
  | help => exact absurd rfl hverb

/-- No failure of a mention reads like a success: they begin with different signs. -/
lemma Wording.append_ne (h : command.Wording success failure) (reason : String) :
    failure ++ reason ≠ success := by
  cases h with
  | deploy =>
    exact ne_of_head? (c := '❌') (d := '🚀') (head?_append (by decide))
      (head?_append (head?_append (head?_append (head?_append (by decide))))) (by decide)
  | build =>
    exact ne_of_head? (c := '❌') (d := '🔨') (head?_append (by decide))
      (head?_append (head?_append (by decide))) (by decide)
  | test =>
    exact ne_of_head? (c := '❌') (d := '🧪') (head?_append (by decide))
      (head?_append (head?_append (by decide))) (by decide)

/-- The reply to a mention that dispatches has the wording of its command. -/
lemma Wording.render_ofText (h : command.Wording success failure) {text : String}
    (hparse : parse text = .ok command) (o : Outcome) :
    (Reply.ofText text o).render = o.text success failure := by
  have hverb : command.verb ≠ .help := by cases h <;> simp [verb]
  simp only [Reply.ofText, hparse, hverb, if_false]
  cases o with
  | accepted => cases h <;> rfl
  | failed reason => cases h <;> rfl

end MentionCommand

namespace ActionCommand

variable {command : ActionCommand}

lemma exists_wording (command : ActionCommand) :
    ∃ success failure, command.Wording success failure :=
  ⟨_, _, .action⟩

/-- No failure of a slash command reads like a success. -/
lemma Wording.append_ne (h : command.Wording success failure) (reason : String) :
    failure ++ reason ≠ success := by
  cases h with
  | action =>
    exact ne_of_head? (c := 'F') (d := '✅') (head?_append (by decide))
      (head?_append (head?_append (head?_append (head?_append (by decide))))) (by decide)

/-- The reply to a slash command that dispatches has the wording of the command. -/
lemma Wording.render_ofText (h : command.Wording success failure) {name text : String}
    (hname : name = slashCommand) (hparse : parse? text = some command) (o : Outcome) :
    (SlashReply.ofText name text o).render = o.text success failure := by
  simp only [SlashReply.ofText, hname, hparse, if_true]
  cases h with
  | action => cases o <;> rfl

end ActionCommand

/-! ## Serving one request -/

/-- One of some calls was answered with the status that means success. -/
def IsAccepted (calls : List Sent) : Prop :=
  ∃ e ∈ calls, ∃ r, e.delivery = .answered r ∧ r.status = 204

namespace Server

/-- A slash command with some arguments is answered with what came of its dispatch. -/
def AnswersOutcome (s : Server) (arguments : String) (q : DispatchRequest) (served : Served) :
    Prop :=
  ∃ command success failure text, ActionCommand.parse? arguments = some command ∧
    command.Wording success failure ∧ served.response.Says 200 "text" text ∧
    (s.github.dispatchDraft q).Told success failure served.sent text ∧
    (text = success ↔ IsAccepted served.sent)

/-- After a mention, what came of its dispatch is posted to the channel. -/
def PostsOutcome (s : Server) (c : Slack.Callback) (q : DispatchRequest) (served : Served) :
    Prop :=
  ∃ command success failure text calls posts,
    MentionCommand.parse (stripMention c.text) = .ok command ∧
    command.Wording success failure ∧ served.response.IsBare 200 ∧
    served.sent = calls ++ posts ∧
    (s.github.dispatchDraft q).Told success failure calls text ∧
    (text = success ↔ IsAccepted calls) ∧ s.slack.SendsPost c.channel text posts

/-- What is said about the dispatch that a request makes is what came of it, and success is
said exactly if the dispatch was accepted. -/
structure SaysOutcome (s : Server) (a : Arrival) (served : Served) : Prop where
  /-- To a slash command it is said in the answer. -/
  command : ∀ body form q, s.Admits a "/slack/commands" .form body →
    Form.decode body = .ok form →
    s.router.slashRequest? (form.value "command") (form.value "text") = some q →
    s.AnswersOutcome (form.value "text") q served
  /-- To a mention that is delivered for the first time it is said in its channel. -/
  mention : ∀ body c q, s.Admits a "/slack/events" .json body →
    Slack.Event.decode? body = some (.callback c) → c.kind = "app_mention" →
    a.request.hasHeader retryHeader = false →
    s.router.mentionRequest? (stripMention c.text) = some q → s.PostsOutcome c q served

variable {s : Server} {sc : Scripts} {a : Arrival}

/-- A dispatch for a reply, whatever the services answer. -/
lemma replyAfter_sends {α : Type} (s : Server) (sc : Scripts) (reply : Outcome → α)
    (q : DispatchRequest) (log : List Sent) :
    ∃ result calls, (s.github.dispatchDraft q).Sends .github (sc.next .github log) result calls ∧
      (Router.replyAfter (s.github.dispatch sc.exchanges.toGithub) reply (some q)).run log =
        (reply (Github.Client.outcome result), log ++ calls) := by
  obtain ⟨result, calls, hcalls, hrun⟩ := Github.Client.dispatch_sends sc s.github q log
  exact ⟨result, calls, hcalls, replyAfter_run_some hrun⟩

section

variable (hsc : ∀ n, (sc.github n).IsFinal)

include hsc

lemma saysOutcome_of_command {body : List UInt8} {form : Form} {q : DispatchRequest}
    (hadmits : s.Admits a "/slack/commands" .form body) (hform : Form.decode body = .ok form)
    (hq : s.router.slashRequest? (form.value "command") (form.value "text") = some q)
    (log : List Sent) :
    s.AnswersOutcome (form.value "text") q ((s.serve sc a).run log).1 := by
  obtain ⟨hname, hwords⟩ := Router.slashRequest?_isSome_iff.1 (Option.isSome_of_eq_some hq)
  obtain ⟨command, hparse⟩ :=
    Option.isSome_iff_exists.1 (ActionCommand.parse?_isSome_iff.2 hwords)
  obtain ⟨result, calls, hcalls, hrun⟩ := replyAfter_sends s sc
    (SlashReply.ofText (form.value "command") (form.value "text")) q log
  rw [← hq, ← slashInbound_text, ← Router.handleSlash_eq] at hrun
  rw [serve_of_command (task_eq_command hadmits hform) hrun]
  obtain ⟨success, failure, hwording⟩ := command.exists_wording
  have htold := Github.Client.told_of_sends success failure (hsc _) hcalls
  refine ⟨command, success, failure, _, hparse, hwording, ?_, htold,
    htold.eq_success_iff hwording.append_ne⟩
  rw [← hwording.render_ofText hname hparse]
  exact Response.says_ofJson 200 "text" _

lemma saysOutcome_of_mention {body : List UInt8} {c : Slack.Callback} {q : DispatchRequest}
    (hadmits : s.Admits a "/slack/events" .json body)
    (hevent : Slack.Event.decode? body = some (.callback c)) (hkind : c.kind = "app_mention")
    (hfresh : a.request.hasHeader retryHeader = false)
    (hq : s.router.mentionRequest? (stripMention c.text) = some q) (log : List Sent) :
    s.PostsOutcome c q ((s.serve sc a).run log).1 := by
  obtain ⟨command, hparse, hverb⟩ :=
    Router.mentionRequest?_isSome_iff.1 (Option.isSome_of_eq_some hq)
  obtain ⟨result, calls, hcalls, hrun⟩ := replyAfter_sends s sc
    (Reply.ofText (stripMention c.text)) q log
  rw [← hq, ← Router.handleMention_eq _ _ ⟨.mention, stripMention c.text, c.user, c.channel⟩]
    at hrun
  obtain ⟨success, failure, hwording⟩ := MentionCommand.exists_wording hverb
  have hreply := hwording.render_ofText hparse (Github.Client.outcome result)
  obtain ⟨posted, posts, hposts, hpost⟩ := Slack.Client.post_sends sc s.slack c.channel
    (Reply.ofText (stripMention c.text) (Github.Client.outcome result)).render
    (log ++ calls)
  rw [serve_of_mention (task_eq_mention hadmits hevent hkind hfresh) hrun hpost]
  have htold := Github.Client.told_of_sends success failure (hsc _) hcalls
  refine ⟨command, success, failure, _, calls, posts, hparse, hwording,
    Response.isBare_empty 200, rfl, htold, htold.eq_success_iff hwording.append_ne, ?_⟩
  rwa [← hreply]

end

/-! ## Runs -/

end Server

end ChatRelay
