/-
# What the services cannot change

Two runs of a server on the same requests, with services that answer differently.  To an event
the answer is the same in both, since nothing is looked at but the event itself.  The chat
service has no influence on anything but itself: as long as the workflow services answer alike,
every answer of the server is the same, and so is everything that is sent to the workflow
service.  And if no answer asks for another request, both runs send the same requests, where
posts may differ in their texts.
-/
import ChatRelay.Proofs.Server.Refinement
import ChatRelay.Proofs.Server.Sending

namespace ChatRelay

/-! ## What is asked of the services -/

/-- A request that was sent, without what came of it. -/
def Sent.ask (e : Sent) : Service × Web.Request := (e.service, e.request)

/-- Two requests are the same, but for the text if they are posts to a channel. -/
inductive SameButText : Service × Web.Request → Service × Web.Request → Prop
  /-- Requests to the workflow service are the same. -/
  | github {q : Web.Request} : SameButText (.github, q) (.github, q)
  /-- Requests to the chat service are posts to the same channel. -/
  | slack {q : Web.Request} {channel text : String} (text' : String) :
      q.body = some (Slack.Client.content channel text) →
      SameButText (.slack, q)
        (.slack, { q with body := some (Slack.Client.content channel text') })

/-- What was sent to the workflow service. -/
def toGithub (log : List Sent) : List Sent := log.filter fun e => e.service == .github

lemma toGithub_append (log calls : List Sent) :
    toGithub (log ++ calls) = toGithub log ++ toGithub calls := List.filter_append ..

lemma toGithub_eq_nil {calls : List Sent} (h : ∀ e ∈ calls, e.service = .slack) :
    toGithub calls = [] :=
  List.filter_eq_nil_iff.2 fun e he => by simp [h e he]

/-- The requests that a draft is written as: one, or none if it cannot be written. -/
def Web.Draft.requests (d : Draft) : List Request := d.write.toOption.toList

namespace Server

variable (s : Server)

/-- What is asked of the workflow service for a dispatch, if there is one. -/
def dispatchAsks (request? : Option DispatchRequest) : List (Service × Web.Request) :=
  request?.toList.flatMap fun request =>
    (s.github.dispatchDraft request).requests.map fun q => (.github, q)

/-- What is asked of the chat service for a post. -/
def postAsks (channel text : String) : List (Service × Web.Request) :=
  (Url.parse? s.slack.postUrl).toList.flatMap fun url =>
    (s.slack.postDraft url channel text).requests.map fun q => (.slack, q)

/-- What is asked of the services for a task, given the text of the post. -/
def asks (text : String) : Task → List (Service × Web.Request)
  | .answer _ => []
  | .mention c =>
    s.dispatchAsks (s.router.mentionRequest? (stripMention c.text)) ++ s.postAsks c.channel text
  | .command form =>
    s.dispatchAsks (s.router.slashRequest? (form.value "command") (form.value "text"))

/-! ## The text of a post makes no other difference -/

variable {s}

lemma dispatchAsks_alike (request? : Option DispatchRequest) :
    List.Forall₂ SameButText (s.dispatchAsks request?) (s.dispatchAsks request?) := by
  refine List.forall₂_same.2 fun e he => ?_
  obtain ⟨request, -, he⟩ := List.mem_flatMap.1 he
  obtain ⟨q, -, rfl⟩ := List.mem_map.1 he
  exact .github

lemma postAsks_alike (channel text text' : String) :
    List.Forall₂ SameButText (s.postAsks channel text) (s.postAsks channel text') := by
  rw [postAsks, postAsks]
  cases Url.parse? s.slack.postUrl with
  | none => exact .nil
  | some url =>
    simp only [Option.toList_some, List.flatMap_cons, List.flatMap_nil, List.append_nil]
    -- the two drafts differ in their content alone
    have hwrite := (s.slack.postDraft url channel text).write_withBody
      (some (Slack.Client.content channel text'))
    change (s.slack.postDraft url channel text').write = _ at hwrite
    rw [Web.Draft.requests, Web.Draft.requests, hwrite]
    cases hq : (s.slack.postDraft url channel text).write with
    | error e => exact .nil
    | ok q =>
      have hbody : q.body = some (Slack.Client.content channel text) := by
        rw [Web.Draft.request_of_write hq]
        rfl
      exact .cons (.slack text' hbody) .nil

lemma asks_alike (text text' : String) (task : Task) :
    List.Forall₂ SameButText (s.asks text task) (s.asks text' task) := by
  cases task with
  | answer response => exact .nil
  | mention c => exact List.rel_append (dispatchAsks_alike _) (postAsks_alike _ _ _)
  | command form => exact dispatchAsks_alike _

end Server

/-! ## Serving while no answer asks for another request -/

section

variable {sc : Scripts} (hsc : sc.IsFinal)

include hsc

lemma Scripts.IsFinal.send_asks (service : Service) (d : Web.Draft) (log : List Sent) :
    ∃ result calls, (Web.send (sc.exchange service) d).run log = (result, log ++ calls) ∧
      calls.map Sent.ask = d.requests.map fun q => (service, q) := by
  obtain ⟨result, calls, hsends, hrun⟩ := sc.send_sends service d log
  refine ⟨result, calls, hrun, ?_⟩
  rw [Web.Draft.requests]
  cases hsends with
  | unwritten hwrite =>
    rw [hwrite]
    rfl
  | written hwrite hleads =>
    obtain ⟨rfl, -⟩ := hleads.final (hsc service _)
    rw [hwrite]
    rfl

namespace Server

variable {s : Server}

lemma replyAfter_asks {α : Type} (reply : Outcome → α) (request? : Option DispatchRequest)
    (log : List Sent) :
    ∃ o calls,
      (Router.replyAfter (s.github.dispatch sc.exchanges.toGithub) reply request?).run log =
        (reply o, log ++ calls) ∧
      calls.map Sent.ask = s.dispatchAsks request? := by
  cases request? with
  | none => exact ⟨.accepted, [], replyAfter_run_none log, rfl⟩
  | some request =>
    obtain ⟨result, calls, hrun, hcalls⟩ :=
      hsc.send_asks .github (s.github.dispatchDraft request) log
    refine ⟨Github.Client.outcome result, calls,
      replyAfter_run_some (Github.Client.dispatch_run_of hrun), ?_⟩
    rw [hcalls, dispatchAsks, Option.toList_some, List.flatMap_singleton]

lemma post_asks (channel text : String) (log : List Sent) :
    ∃ result calls,
      (s.slack.post sc.exchanges.toSlack channel text).run log = (result, log ++ calls) ∧
        calls.map Sent.ask = s.postAsks channel text := by
  rw [postAsks]
  cases hurl : Url.parse? s.slack.postUrl with
  | none => exact ⟨_, [], Slack.Client.post_run_unreadable hurl log, rfl⟩
  | some url =>
    obtain ⟨result, calls, hrun, hcalls⟩ :=
      hsc.send_asks .slack (s.slack.postDraft url channel text) log
    refine ⟨Slack.Client.posted result, calls, Slack.Client.post_run_of hurl hrun, ?_⟩
    rw [hcalls, Option.toList_some, List.flatMap_singleton]

/-- What is asked of the services is known from the task, up to the text of the post. -/
lemma serve_asks (a : Arrival) (log : List Sent) :
    ∃ text, ((s.serve sc a).run log).1.sent.map Sent.ask =
      s.asks text (s.task a.time a.request) := by
  cases htask : s.task a.time a.request with
  | answer response =>
    rw [serve_of_answer htask]
    exact ⟨"", rfl⟩
  | mention c =>
    obtain ⟨o, calls, hrun, hcalls⟩ := replyAfter_asks (s := s) hsc
      (Reply.ofText (stripMention c.text)) (s.router.mentionRequest? (stripMention c.text)) log
    rw [← Router.handleMention_eq _ _ ⟨.mention, stripMention c.text, c.user, c.channel⟩] at hrun
    obtain ⟨result, posts, hpost, hposts⟩ := post_asks (s := s) hsc c.channel
      (Reply.ofText (stripMention c.text) o).render (log ++ calls)
    rw [serve_of_mention htask hrun hpost]
    exact ⟨_, by rw [List.map_append, hcalls, hposts, asks]⟩
  | command form =>
    obtain ⟨o, calls, hrun, hcalls⟩ := replyAfter_asks (s := s) hsc
      (SlashReply.ofText (form.value "command") (form.value "text"))
      (s.router.slashRequest? (form.value "command") (form.value "text")) log
    rw [← slashInbound_text, ← Router.handleSlash_eq] at hrun
    rw [serve_of_command htask hrun]
    exact ⟨"", hcalls⟩

end Server

end

/-! ## Computations in step -/

/-- Two computations go in step: if the same was sent to the workflow service before, they have
the same result and send the same. -/
def InStep {α : Type} (c c' : StateM (List Sent) α) : Prop :=
  ∀ log log', toGithub log = toGithub log' →
    ∃ a calls, c.run log = (a, log ++ calls) ∧ c'.run log' = (a, log' ++ calls)

namespace InStep

lemma isKept : IsKept @InStep where
  pure a log log' _ := ⟨a, [], by rw [List.append_nil]; rfl, by rw [List.append_nil]; rfl⟩
  bind hc hf log log' hlog := by
    obtain ⟨a, calls, hrun, hrun'⟩ := hc log log' hlog
    obtain ⟨b, more, hmore, hmore'⟩ := hf a (log ++ calls) (log' ++ calls) (by
      rw [toGithub_append, toGithub_append, hlog])
    refine ⟨b, calls ++ more, ?_, ?_⟩
    · rw [run_bind_of hrun, hmore, List.append_assoc]
    · rw [run_bind_of hrun', hmore', List.append_assoc]

variable {sc sc' : Scripts} (hsc : sc.github = sc'.github)

include hsc

lemma exchange (q : Web.Request) : InStep (sc.exchange .github q) (sc'.exchange .github q) := by
  intro log log' hlog
  have hnext : sc.next .github log = sc'.next .github log' := by
    show sc.github _ = sc'.github _
    rw [hsc, List.countP_eq_length_filter, List.countP_eq_length_filter]
    exact congrArg (fun calls => sc'.github calls.length) hlog
  refine ⟨sc.next .github log, [⟨.github, q, sc.next .github log⟩],
    Scripts.exchange_run q log, ?_⟩
  rw [hnext]
  exact Scripts.exchange_run q log'

lemma replyAfter {α : Type} (c : Github.Client) (reply : Outcome → α)
    (request? : Option DispatchRequest) :
    InStep (Router.replyAfter (c.dispatch sc.exchanges.toGithub) reply request?)
      (Router.replyAfter (c.dispatch sc'.exchanges.toGithub) reply request?) :=
  isKept.replyAfter (isKept.dispatch (exchange hsc) c) reply request?

end InStep

/-! ## Two runs -/

namespace Server

/-- What came of a request with some services, against what came of it with others. -/
structure Independent (sc sc' : Scripts) (a : Arrival) (x x' : Served) : Prop where
  /-- An event is answered alike, whatever the services do. -/
  event : a.request.path = "/slack/events" → x.response = x'.response
  /-- As long as the workflow services answer alike, every request is answered alike, and the
  same is sent to the workflow service, with the same result. -/
  chat : sc.github = sc'.github →
    x.response = x'.response ∧ toGithub x.sent = toGithub x'.sent
  /-- If no answer asks for another request, the same requests are sent, in the same order, to
  the workflow service and, as posts to the same channels, to the chat service. -/
  sent : sc.IsFinal → sc'.IsFinal →
    List.Forall₂ SameButText (x.sent.map Sent.ask) (x'.sent.map Sent.ask)

variable {s : Server} {sc sc' : Scripts}

lemma heardTask_ne_command (redelivered : Bool) (event : Slack.Event) (form : Form) :
    heardTask redelivered event ≠ .command form := by
  cases event with
  | challenge text => simp [heardTask]
  | callback c =>
    rw [heardTask]
    split <;> simp
  | other => simp [heardTask]

/-- Where events are received, there is never a slash command to be handled. -/
lemma task_ne_command {a : Arrival} (hpath : a.request.path = "/slack/events") (form : Form) :
    s.task a.time a.request ≠ .command form := by
  rcases s.task_cases a with ⟨body, event, -, -, htask⟩ | ⟨body, form', hadmits, -, -⟩ |
    ⟨response, hrefused⟩
  · rw [htask]
    exact heardTask_ne_command _ event form
  · exact absurd (hpath.symm.trans hadmits.path) (by decide)
  · rw [hrefused.task]
    simp

lemma response_of_event {a : Arrival} (hpath : a.request.path = "/slack/events")
    (log log' : List Sent) :
    ((s.serve sc a).run log).1.response = ((s.serve sc' a).run log').1.response := by
  cases htask : s.task a.time a.request with
  | answer response => rw [serve_of_answer htask, serve_of_answer htask]
  | mention c => rw [response_of_mention htask, response_of_mention htask]
  | command form => exact absurd htask (task_ne_command hpath form)

lemma serve_chat (hsc : sc.github = sc'.github) (a : Arrival) {log log' : List Sent}
    (hlog : toGithub log = toGithub log') :
    ((s.serve sc a).run log).1.response = ((s.serve sc' a).run log').1.response ∧
      toGithub ((s.serve sc a).run log).1.sent = toGithub ((s.serve sc' a).run log').1.sent := by
  cases htask : s.task a.time a.request with
  | answer response =>
    rw [serve_of_answer htask, serve_of_answer htask]
    exact ⟨rfl, rfl⟩
  | mention c =>
    obtain ⟨reply, calls, hrun, hrun'⟩ := InStep.replyAfter hsc s.github
      (Reply.ofText (stripMention c.text)) (s.router.mentionRequest? (stripMention c.text))
      log log' hlog
    rw [← Router.handleMention_eq _ _ ⟨.mention, stripMention c.text, c.user, c.channel⟩]
      at hrun hrun'
    obtain ⟨_, posts, hposts, hpost⟩ :=
      Slack.Client.post_sends sc s.slack c.channel reply.render (log ++ calls)
    obtain ⟨_, posts', hposts', hpost'⟩ :=
      Slack.Client.post_sends sc' s.slack c.channel reply.render (log' ++ calls)
    rw [serve_of_mention htask hrun hpost, serve_of_mention htask hrun' hpost']
    refine ⟨rfl, ?_⟩
    rw [toGithub_append, toGithub_append, toGithub_eq_nil hposts.service_eq,
      toGithub_eq_nil hposts'.service_eq]
  | command form =>
    obtain ⟨reply, calls, hrun, hrun'⟩ := InStep.replyAfter hsc s.github
      (SlashReply.ofText (form.value "command") (form.value "text"))
      (s.router.slashRequest? (form.value "command") (form.value "text")) log log' hlog
    rw [← slashInbound_text, ← Router.handleSlash_eq] at hrun hrun'
    rw [serve_of_command htask hrun, serve_of_command htask hrun']
    exact ⟨rfl, rfl⟩

/-- One step of two runs: a request is served independently of the services, and afterwards the
same was sent to the workflow services, provided they answer alike. -/
lemma serve_independent (a : Arrival) {log log' : List Sent}
    (hlog : sc.github = sc'.github → toGithub log = toGithub log') :
    Independent sc sc' a ((s.serve sc a).run log).1 ((s.serve sc' a).run log').1 ∧
      (sc.github = sc'.github →
        toGithub ((s.serve sc a).run log).2 = toGithub ((s.serve sc' a).run log').2) := by
  refine ⟨⟨fun hpath => response_of_event hpath log log',
    fun hsc => serve_chat hsc a (hlog hsc), fun hsc hsc' => ?_⟩, fun hsc => ?_⟩
  · obtain ⟨text, hasks⟩ := serve_asks (s := s) hsc a log
    obtain ⟨text', hasks'⟩ := serve_asks (s := s) hsc' a log'
    rw [hasks, hasks']
    exact asks_alike text text' _
  · rw [serve_run, serve_run, toGithub_append, toGithub_append, hlog hsc,
      (serve_chat hsc a (hlog hsc)).2]

/-- In two runs of a server on the same requests, whatever the services do in the one and in the
other, every event is answered alike.  With the same answers of the workflow service every
request is answered alike, and without answers that ask for another request both runs send the
same to the workflow service, and as many posts to the same channels. -/
theorem run_independent_of_services (s : Server) (sc sc' : Scripts) (arrivals : List Arrival)
    (log : List Sent) :
    List.Forall₂ (fun a served => Independent sc sc' a served.1 served.2) arrivals
      (((s.run sc arrivals).run log).1.zip ((s.run sc' arrivals).run log).1) := by
  -- from equal logs on, what was sent to the workflow services stays equal if they answer alike
  have hstep (a : Arrival) (log log' : List Sent)
      (hlog : sc.github = sc'.github → toGithub log = toGithub log') :=
    serve_independent (s := s) a hlog
  exact run_zip_forall₂ hstep arrivals fun _ => rfl

/-! ## A chat service that stays silent -/

/-- Services of which only the workflow service answers. -/
def silentScripts : Scripts := ⟨acceptingScripts.github, fun _ => .dropped []⟩

/-- The event of a mention that asks for a build. -/
def mentionBody : List UInt8 :=
  Text.Utf8.bytes ("\x7b\"token\":\"t\",\"type\":\"event_callback\"," ++
    "\"event\":\x7b\"type\":\"app_mention\",\"text\":\"<@U> build api\",\"channel\":\"C\"\x7d\x7d")

/-- The request with this event. -/
def mentionArrival : Arrival := ⟨0, ⟨"POST", "/slack/events", [], some mentionBody⟩⟩

lemma silentScripts_isFinal : silentScripts.IsFinal := by
  intro service n r hr
  cases service with
  | github => exact acceptingScripts_isFinal .github n r hr
  | slack => cases hr

/-- A mention and a slash command, with a chat service that answers and with one that does
not. -/
theorem run_independent_of_services_silent :
    mentionArrival.request.path = "/slack/events" ∧
    acceptingScripts.github = silentScripts.github ∧
    acceptingScripts.IsFinal ∧ silentScripts.IsFinal ∧
    List.Forall₂
      (fun a served => Independent acceptingScripts silentScripts a served.1 served.2)
      [mentionArrival, commandArrival]
      ((((loopbackServer "o").run acceptingScripts [mentionArrival, commandArrival]).run []).1.zip
        (((loopbackServer "o").run silentScripts [mentionArrival, commandArrival]).run []).1) :=
  ⟨by decide +kernel, rfl, acceptingScripts_isFinal, silentScripts_isFinal,
    run_independent_of_services (loopbackServer "o") acceptingScripts silentScripts
      [mentionArrival, commandArrival] []⟩

end Server

end ChatRelay
