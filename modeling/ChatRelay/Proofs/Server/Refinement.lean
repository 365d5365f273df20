/-
# A server does what the router says

The router is pure: it turns a text into at most one dispatch and, given what became of it,
into a reply.  A server that receives such texts in signed requests does just that, for one
request after another.  It carries out the dispatch that the router makes, reports to the
router what came of it, and shows the reply where the text came from: in the answer to a slash
command, and in the channel of a mention.  It sends nothing else.
-/
import ChatRelay.Proofs.Server.Calls
import ChatRelay.Proofs.Server.Gate
import ChatRelay.Proofs.Server.Response
import ChatRelay.Proofs.Url.Append

namespace ChatRelay

/-! ## The relation -/

/-- The services are on the web, and the tokens for them can be in headers. -/
structure Relay.IsOnWeb (relay : Relay) : Prop where
  githubToken : Web.isHeaderText relay.github.token = true
  slackToken : Web.isHeaderText relay.slack.botToken = true
  github : ∃ url, Url.parse? relay.github.apiUrl = some url ∧ url.IsWeb
  slack : ∃ url, Url.parse? relay.slack.apiUrl = some url ∧ url.IsWeb

namespace Server

/-- A server carries out the dispatches that the router makes, at most one, and an outcome is
what comes of them. -/
inductive CarriesOut (s : Server) : Outcome → List DispatchRequest → List Sent → Prop
  | none {o : Outcome} : CarriesOut s o [] []
  /-- There is one, and it is called for once. -/
  | one {request : DispatchRequest} {result : Except Web.Error Web.Response}
      {calls : List Sent} :
      (s.github.dispatchDraft request).SentOnce .github result calls →
      CarriesOut s (Github.Client.outcome result) [request] calls

/-- What a server makes of a request is what the router makes of the text in it. -/
inductive Refines (s : Server) (a : Arrival) : Served → Prop
  /-- A slash command: its dispatch, and the reply as the answer. -/
  | command {body : List UInt8} {form : Form} {reply : SlashReply} {o : Outcome}
      {rest : List Outcome} {requests : List DispatchRequest} {calls : List Sent}
      {response : Response} :
      s.Admits a "/slack/commands" .form body →
      Form.decode body = .ok form →
      (s.router.handleSlash Recorder.dispatch (form.value "command") (slashInbound form)).run
        ⟨[o], []⟩ = (reply, ⟨rest, requests⟩) →
      requests.length =
        (if form.value "command" = "/devops-action" ∧
          2 ≤ (Text.words (form.value "text")).length then 1 else 0) →
      s.CarriesOut o requests calls →
      response.Says 200 "text" reply.render →
      Refines s a ⟨response, calls⟩
  /-- A mention that is delivered for the first time: its dispatch, and then the reply. -/
  | mention {body : List UInt8} {c : Slack.Callback} {reply : Reply} {o : Outcome}
      {rest : List Outcome} {requests : List DispatchRequest} {calls posts : List Sent}
      {response : Response} :
      s.Admits a "/slack/events" .json body →
      Slack.Event.decode? body = some (.callback c) →
      c.kind = "app_mention" →
      a.request.hasHeader retryHeader = false →
      (s.router.handleMention Recorder.dispatch
        ⟨.mention, stripMention c.text, c.user, c.channel⟩).run ⟨[o], []⟩ =
          (reply, ⟨rest, requests⟩) →
      s.CarriesOut o requests calls →
      s.slack.Posts c.channel reply.render posts →
      response.IsBare 200 →
      Refines s a ⟨response, calls ++ posts⟩
  /-- Another event, or a mention that is delivered again: nothing. -/
  | acknowledged {body : List UInt8} {event : Slack.Event} {response : Response} :
      s.Admits a "/slack/events" .json body →
      Slack.Event.decode? body = some event →
      (∀ c, event = .callback c → c.kind = "app_mention" →
        a.request.hasHeader retryHeader = true) →
      response.status = 200 →
      Refines s a ⟨response, []⟩
  /-- A request that is not admitted or cannot be read: an error, unless it asks for health. -/
  | refused {response : Response} :
      ¬ s.AdmitsReadable a →
      (a.request.path ≠ "/health" → 400 ≤ response.status) →
      Refines s a ⟨response, []⟩

variable {relay : Relay} {s : Server} {sc : Scripts}

/-! ## Serving what is left to do -/

lemma serve_of_command {a : Arrival} {form : Form} {reply : SlashReply} {log calls : List Sent}
    (htask : s.task a.time a.request = .command form)
    (hrun : (s.router.handleSlash (s.github.dispatch sc.exchanges.toGithub)
      (form.value "command") (slashInbound form)).run log = (reply, log ++ calls)) :
    (s.serve sc a).run log = (⟨slashAnswer reply, calls⟩, log ++ calls) := by
  apply serve_of_handle
  rw [handle_eq, htask, perform, StateT.run_map, hrun]
  rfl

/-- The post comes after the dispatch, and its result is not looked at. -/
lemma serve_of_mention {a : Arrival} {c : Slack.Callback} {reply : Reply}
    {result : Except Slack.Error Unit} {log calls posts : List Sent}
    (htask : s.task a.time a.request = .mention c)
    (hrun : (s.router.handleMention (s.github.dispatch sc.exchanges.toGithub)
      ⟨.mention, stripMention c.text, c.user, c.channel⟩).run log = (reply, log ++ calls))
    (hpost : (s.slack.post sc.exchanges.toSlack c.channel reply.render).run (log ++ calls) =
      (result, log ++ calls ++ posts)) :
    (s.serve sc a).run log = (⟨.empty 200, calls ++ posts⟩, log ++ (calls ++ posts)) := by
  have hmention : (s.handleMention sc.exchanges c).run log = ((), log ++ (calls ++ posts)) := by
    rw [handleMention, run_bind_of hrun, run_bind_of hpost, List.append_assoc]
    rfl
  apply serve_of_handle
  rw [handle_eq, htask, perform, run_bind_of hmention]
  rfl

/-- The answer to a mention does not depend on what the services do. -/
lemma response_of_mention {a : Arrival} {c : Slack.Callback}
    (htask : s.task a.time a.request = .mention c) (log : List Sent) :
    ((s.serve sc a).run log).1.response = .empty 200 := by
  simp only [serve_eq, handle_eq, htask, perform, fst_run_bind_pure]

/-- The answer to a command is a reply, whatever the services do. -/
lemma response_of_command (sc : Scripts) {a : Arrival} {form : Form}
    (htask : s.task a.time a.request = .command form) (log : List Sent) :
    ∃ reply, ((s.serve sc a).run log).1.response = slashAnswer reply := by
  simp only [serve_eq, handle_eq, htask, perform, StateT.run_map]
  exact ⟨_, rfl⟩

/-! ## Carrying out -/

section

variable {α : Type} {dispatch : DispatchRequest → StateM (List Sent) Outcome} {reply : Outcome → α}

lemma replyAfter_run_none (log : List Sent) :
    (Router.replyAfter dispatch reply none).run log = (reply .accepted, log ++ []) := by
  rw [List.append_nil]
  rfl

lemma replyAfter_run_some {request : DispatchRequest} {o : Outcome} {log log' : List Sent}
    (hrun : (dispatch request).run log = (o, log')) :
    (Router.replyAfter dispatch reply (some request)).run log = (reply o, log') := by
  rw [Router.replyAfter, StateT.run_map, hrun]
  rfl

end

lemma length_slashRequest? {r : Router} {name text : String} :
    (r.slashRequest? name text).toList.length =
      if name = "/devops-action" ∧ 2 ≤ (Text.words text).length then 1 else 0 := by
  have hsome : (r.slashRequest? name text).isSome ↔
      name = "/devops-action" ∧ 2 ≤ (Text.words text).length := Router.slashRequest?_isSome_iff
  rw [Option.length_toList]
  simp only [← hsome]

lemma create_eq_ok (hs : create relay = .ok s) :
    s.relay = relay ∧ s.github.token = relay.github.token ∧
      Url.parse? relay.github.apiUrl = some s.github.base := by
  rw [create] at hs
  cases hgithub : Github.Client.create relay.github.token relay.github.apiUrl with
  | error e =>
    rw [hgithub] at hs
    cases hs
  | ok github =>
    rw [hgithub] at hs
    cases hs
    exact ⟨rfl, Github.Client.eq_of_create hgithub⟩

section

variable (hs : create relay = .ok s) (hrelay : relay.IsOnWeb)

include hs hrelay

lemma dispatchDraft_isProper (request : DispatchRequest) :
    (s.github.dispatchDraft request).IsProper := by
  obtain ⟨-, htoken, hurl⟩ := create_eq_ok hs
  obtain ⟨url, hurl', hweb⟩ := hrelay.github
  cases hurl.symm.trans hurl'
  exact Github.Client.dispatchDraft_isProper hurl hweb (htoken ▸ hrelay.githubToken) request

variable (hsc : sc.IsFinal)

include hsc

/-- To reply to the outcome of a dispatch, if there is one, is the same with the recorder and
with the services, given what comes of the dispatch. -/
lemma reply_run {α : Type} (request? : Option DispatchRequest) (reply : Outcome → α)
    (log : List Sent) :
    ∃ o rest calls, s.CarriesOut o request?.toList calls ∧
      (Router.replyAfter Recorder.dispatch reply request?).run ⟨[o], []⟩ =
        (reply o, ⟨rest, request?.toList⟩) ∧
      (Router.replyAfter (s.github.dispatch sc.exchanges.toGithub) reply request?).run log =
        (reply o, log ++ calls) := by
  cases request? with
  | none =>
    -- any outcome will do, since none is looked at
    exact ⟨.accepted, [.accepted], [], .none, rfl, replyAfter_run_none log⟩
  | some request =>
    have hproper := dispatchDraft_isProper hs hrelay request
    obtain ⟨result, calls, hcalls, hrun⟩ := Github.Client.dispatch_run hsc hproper log
    exact ⟨Github.Client.outcome result, [], calls, .one hcalls, rfl, replyAfter_run_some hrun⟩

/-- A slash command that is handled for real is one that is handled on paper. -/
lemma handleSlash_run (name : String) (inbound : Inbound) (log : List Sent) :
    ∃ o reply rest calls,
      (s.router.handleSlash Recorder.dispatch name inbound).run ⟨[o], []⟩ =
        (reply, ⟨rest, (s.router.slashRequest? name inbound.text).toList⟩) ∧
      s.CarriesOut o (s.router.slashRequest? name inbound.text).toList calls ∧
      (s.router.handleSlash (s.github.dispatch sc.exchanges.toGithub) name inbound).run log =
        (reply, log ++ calls) := by
  obtain ⟨o, rest, calls, hcalls, hrouter, hserver⟩ := reply_run hs hrelay hsc
    (s.router.slashRequest? name inbound.text) (SlashReply.ofText name inbound.text) log
  rw [← Router.handleSlash_eq] at hrouter hserver
  exact ⟨o, _, rest, calls, hrouter, hcalls, hserver⟩

/-- A mention that is handled for real is one that is handled on paper. -/
lemma handleMention_run (inbound : Inbound) (log : List Sent) :
    ∃ o reply rest calls,
      (s.router.handleMention Recorder.dispatch inbound).run ⟨[o], []⟩ =
        (reply, ⟨rest, (s.router.mentionRequest? inbound.text).toList⟩) ∧
      s.CarriesOut o (s.router.mentionRequest? inbound.text).toList calls ∧
      (s.router.handleMention (s.github.dispatch sc.exchanges.toGithub) inbound).run log =
        (reply, log ++ calls) := by
  obtain ⟨o, rest, calls, hcalls, hrouter, hserver⟩ := reply_run hs hrelay hsc
    (s.router.mentionRequest? inbound.text) (Reply.ofText inbound.text) log
  rw [← Router.handleMention_eq] at hrouter hserver
  exact ⟨o, _, rest, calls, hrouter, hcalls, hserver⟩

/-! ## Serving one request -/

variable {a : Arrival}

lemma refines_of_command {body : List UInt8} {form : Form}
    (hadmits : s.Admits a "/slack/commands" .form body) (hform : Form.decode body = .ok form)
    (htask : s.task a.time a.request = .command form) (log : List Sent) :
    s.Refines a ((s.serve sc a).run log).1 := by
  obtain ⟨o, reply, rest, calls, hrouter, hcalls, hserver⟩ :=
    handleSlash_run hs hrelay hsc (form.value "command") (slashInbound form) log
  rw [serve_of_command htask hserver]
  exact .command hadmits hform hrouter length_slashRequest? hcalls
    (Response.says_ofJson 200 "text" reply.render)

lemma refines_of_mention {body : List UInt8} {c : Slack.Callback}
    (hadmits : s.Admits a "/slack/events" .json body)
    (hevent : Slack.Event.decode? body = some (.callback c)) (hkind : c.kind = "app_mention")
    (hfresh : a.request.hasHeader retryHeader = false)
    (htask : s.task a.time a.request = .mention c) (log : List Sent) :
    s.Refines a ((s.serve sc a).run log).1 := by
  obtain ⟨o, reply, rest, calls, hrouter, hcalls, hserver⟩ :=
    handleMention_run hs hrelay hsc ⟨.mention, stripMention c.text, c.user, c.channel⟩ log
  obtain ⟨url, hurl, hweb⟩ := hrelay.slack
  obtain ⟨hrel, -, -⟩ := create_eq_ok hs
  rw [← hrel] at hurl
  have htoken : Web.isHeaderText s.relay.slack.botToken = true := hrel ▸ hrelay.slackToken
  obtain ⟨result, posts, hposts, hpost⟩ : ∃ result posts,
      s.slack.Posts c.channel reply.render posts ∧
        (s.slack.post sc.exchanges.toSlack c.channel reply.render).run (log ++ calls) =
          (result, log ++ calls ++ posts) :=
    Slack.Client.post_run hsc hurl hweb htoken c.channel reply.render (log ++ calls)
  rw [serve_of_mention htask hserver hpost]
  exact .mention hadmits hevent hkind hfresh hrouter hcalls hposts (Response.isBare_empty 200)

lemma refines_of_event {body : List UInt8} {event : Slack.Event}
    (hadmits : s.Admits a "/slack/events" .json body)
    (hevent : Slack.Event.decode? body = some event)
    (htask : s.task a.time a.request = heardTask (a.request.hasHeader retryHeader) event)
    (log : List Sent) : s.Refines a ((s.serve sc a).run log).1 := by
  cases event with
  | challenge text =>
    rw [serve_of_answer htask]
    exact .acknowledged hadmits hevent (fun c hc => by cases hc) rfl
  | other =>
    rw [serve_of_answer htask]
    exact .acknowledged hadmits hevent (fun c hc => by cases hc) rfl
  | callback c =>
    by_cases hfresh : (c.kind = "app_mention" && !a.request.hasHeader retryHeader) = true
    · have hmention : s.task a.time a.request = .mention c := by
        rw [htask, heardTask, if_pos hfresh]
      simp only [Bool.and_eq_true, decide_eq_true_eq, Bool.not_eq_true'] at hfresh
      exact refines_of_mention hs hrelay hsc hadmits hevent hfresh.1 hfresh.2 hmention log
    · have hanswer : s.task a.time a.request = .answer (.empty 200) := by
        rw [htask, heardTask, if_neg hfresh]
      rw [serve_of_answer hanswer]
      refine .acknowledged hadmits hevent (fun c' hc' hkind => ?_) rfl
      cases hc'
      simpa [hkind] using hfresh

end

/-! ## Runs -/

/-- In every run of a server whose services are on the web, and whatever they answer short of
asking for another request, every request is served as the router says, and nothing is sent
but while a request is served. -/
theorem run_refines_router (relay : Relay) (s : Server) (sc : Scripts)
    (hs : create relay = .ok s) (hrelay : relay.IsOnWeb) (hsc : sc.IsFinal)
    (arrivals : List Arrival) (log : List Sent) :
    List.Forall₂ s.Refines arrivals ((s.run sc arrivals).run log).1 ∧
    ((s.run sc arrivals).run log).2 =
      log ++ ((s.run sc arrivals).run log).1.flatMap Served.sent := by
  refine ⟨run_forall₂ (fun a log => ?_) arrivals log, run_log arrivals log⟩
  rcases s.task_cases a with ⟨body, event, hadmits, hevent, htask⟩ |
    ⟨body, form, hadmits, hform, htask⟩ | ⟨response, hrefused⟩
  · exact refines_of_event hs hrelay hsc hadmits hevent htask log
  · exact refines_of_command hs hrelay hsc hadmits hform htask log
  · rw [serve_of_answer hrefused.task]
    exact .refused hrefused.unread hrefused.status

/-! ## A relay next to its services -/

/-- The address of the own machine. -/
def loopback : Url := ⟨"http".toList, [], none, some "[::1]".toList, none, ['/'], none, none⟩

/-- The configuration of a relay on the machine of its services, for an organization. -/
def loopbackRelay (org : String) : Relay :=
  ⟨8080, ⟨"b", none, some "t", false, "http://[::1]"⟩, ⟨"g", org, "http://[::1]", "main"⟩⟩

/-- The server of this configuration. -/
def loopbackServer (org : String) : Server := ⟨loopbackRelay org, ⟨"g", loopback⟩⟩

/-- Services that accept everything. -/
def acceptingScripts : Scripts :=
  ⟨fun _ => .answered ⟨204, [], some []⟩, fun _ => .answered ⟨200, [], some []⟩⟩

/-- A slash command with two words. -/
def commandBody : List UInt8 :=
  Text.Utf8.bytes "token=t&command=%2Fdevops-action&text=r+w"

/-- The form of this command. -/
def commandForm : Form := ⟨[("token", "t"), ("command", "/devops-action"), ("text", "r w")]⟩

/-- The request with this command. -/
def commandArrival : Arrival := ⟨0, ⟨"POST", "/slack/commands", [], some commandBody⟩⟩

lemma parse?_loopback : Url.parse? "http://[::1]" = some loopback := by decide +kernel

lemma loopback_isWeb : loopback.IsWeb := .inl rfl

lemma create_loopbackRelay (org : String) :
    create (loopbackRelay org) = .ok (loopbackServer org) := by
  rw [create, Github.Client.create, loopbackRelay, parse?_loopback]
  rfl

lemma loopbackRelay_isOnWeb (org : String) : (loopbackRelay org).IsOnWeb where
  githubToken := (by decide : Web.isHeaderText "g" = true)
  slackToken := (by decide : Web.isHeaderText "b" = true)
  github := ⟨loopback, parse?_loopback, loopback_isWeb⟩
  slack := ⟨loopback, parse?_loopback, loopback_isWeb⟩

lemma acceptingScripts_isFinal : acceptingScripts.IsFinal := by
  intro service n r hr
  cases service <;> cases hr <;> decide

lemma decode_commandBody : Form.decode commandBody = .ok commandForm := by decide +kernel

/-- A run of the server next to its services. -/
theorem run_refines_router_loopback :
    create (loopbackRelay "o") = .ok (loopbackServer "o") ∧ (loopbackRelay "o").IsOnWeb ∧
    acceptingScripts.IsFinal ∧
    List.Forall₂ (loopbackServer "o").Refines [commandArrival]
      (((loopbackServer "o").run acceptingScripts [commandArrival]).run []).1 ∧
    (((loopbackServer "o").run acceptingScripts [commandArrival]).run []).2 =
      [] ++ (((loopbackServer "o").run acceptingScripts [commandArrival]).run []).1.flatMap
        Served.sent := by
  have hs := create_loopbackRelay "o"
  have hrelay := loopbackRelay_isOnWeb "o"
  exact ⟨hs, hrelay, acceptingScripts_isFinal,
    run_refines_router _ _ _ hs hrelay acceptingScripts_isFinal [commandArrival] []⟩

/-! ## A dispatch that is not sent -/

lemma verify_commandBody (org : String) :
    (loopbackServer org).verifier.verify ⟨none, none, commandBody, .form⟩ 0 = .ok () := by
  show Verifier.checkToken "t" ⟨none, none, commandBody, .form⟩ = .ok ()
  rw [Verifier.checkToken, Verifier.bodyToken, decode_commandBody]
  decide

lemma admits_commandArrival (org : String) :
    (loopbackServer org).Admits commandArrival "/slack/commands" .form commandBody where
  method := rfl
  path := by decide +kernel
  content := rfl
  size := by decide +kernel
  accepted := ⟨none, none, (fun _ h => by cases h), (fun _ h => by cases h),
    verify_commandBody org⟩

lemma slashRequest?_commandForm (org : String) :
    (loopbackServer org).router.slashRequest? (commandForm.value "command")
      (commandForm.value "text") = some ⟨org, "r", "w", "main", .ofTokens []⟩ := by
  have hname : commandForm.value "command" = slashCommand := by decide
  have hparse : ActionCommand.parse? (commandForm.value "text") =
      some ⟨"r", "w", .ofTokens []⟩ := by
    decide +kernel
  rw [Router.slashRequest?, if_pos hname, hparse]
  rfl

/-- An organization whose name has a length. -/
def organizationOfLength (n : Nat) : String := String.ofList (List.replicate n 'a')

lemma length_organizationOfLength (n : Nat) : (organizationOfLength n).length = n := by
  rw [organizationOfLength, String.length_ofList, List.length_replicate]

lemma organizationOfLength_isPlain {n : Nat} (hn : 6 < n) :
    Url.isPlain true (organizationOfLength n).toList = true := by
  have hmap : (List.replicate n 'a').map Char.toLower = List.replicate n 'a' := by
    rw [List.map_replicate]
    rfl
  have hne : ∀ s : String, s.length ≤ 6 → String.ofList (List.replicate n 'a') ≠ s := by
    rintro s hs rfl
    rw [String.length_ofList, List.length_replicate] at hs
    omega
  rw [organizationOfLength, String.toList_ofList, Url.isPlain_iff]
  refine ⟨fun c hc => ?_, ?_, ?_⟩
  · rw [List.eq_of_mem_replicate hc]
    decide
  · rw [Url.isSingleDot, hmap, decide_eq_false_iff_not]
    simp only [List.mem_cons, List.not_mem_nil, or_false, not_or]
    exact ⟨hne _ (by decide), hne _ (by decide)⟩
  · rw [Url.isDoubleDot, hmap, decide_eq_false_iff_not]
    simp only [List.mem_cons, List.not_mem_nil, or_false, not_or]
    exact ⟨hne _ (by decide), hne _ (by decide), hne _ (by decide), hne _ (by decide)⟩

/-- No dispatch for an organization with too long a name can be written. -/
lemma isWritable_eq_false {org : String} (hplain : Url.isPlain true org.toList = true)
    (hlong : Web.maxUrlLength < org.length) :
    Web.isWritable ((loopbackServer org).github.dispatchDraft
      ⟨org, "r", "w", "main", .ofTokens []⟩).request.url = false := by
  have hnames : ∀ n ∈ ["repos", org, "r", "actions", "workflows", "w", "dispatches"],
      Url.isPlain true n.toList = true := by
    simp only [List.forall_mem_cons]
    exact ⟨by decide, hplain, by decide, by decide, by decide, by decide, by decide,
      fun _ h => by cases h⟩
  have hlength := Url.length_le_append (u := loopback) (by decide) hnames
    (List.mem_cons_of_mem _ (List.mem_cons_self ..))
  have hmore : ¬ (loopback.append
      ["repos", org, "r", "actions", "workflows", "w", "dispatches"]).chars.length ≤
        Web.maxUrlLength := by
    omega
  show (_ && _) = false
  rw [Bool.and_eq_false_iff]
  exact .inl (decide_eq_false hmore)

lemma serve_commandArrival {org : String} (hplain : Url.isPlain true org.toList = true)
    (hlong : Web.maxUrlLength < org.length) :
    (((loopbackServer org).serve acceptingScripts commandArrival).run []).1.sent = [] := by
  have htask := task_eq_command (admits_commandArrival org) decode_commandBody
  obtain ⟨o, reply, rest, calls, -, hcalls, hserver⟩ :=
    handleSlash_run (create_loopbackRelay org) (loopbackRelay_isOnWeb org)
      acceptingScripts_isFinal (commandForm.value "command") (slashInbound commandForm) []
  -- the one dispatch has an address that is too long, so the call for it sends nothing
  have hnone : calls = [] := by
    rw [slashInbound_text, slashRequest?_commandForm] at hcalls
    cases hcalls with
    | one h =>
      cases h with
      | written h => exact absurd ((isWritable_eq_false hplain hlong).symm.trans h) (by decide)
      | unwritten _ => rfl
  rw [serve_of_command htask hserver]
  exact hnone

/-- With too long a name in its address, a dispatch that the router makes is not sent. -/
theorem dispatch_not_sent_if_too_long :
    let relay := loopbackRelay (organizationOfLength 65535)
    let s := loopbackServer (organizationOfLength 65535)
    create relay = .ok s ∧ relay.IsOnWeb ∧ acceptingScripts.IsFinal ∧
    s.Admits commandArrival "/slack/commands" .form commandBody ∧
    Form.decode commandBody = .ok commandForm ∧
    ((s.router.handleSlash Recorder.dispatch (commandForm.value "command")
      (slashInbound commandForm)).run ⟨[], []⟩).2.sent.length = 1 ∧
    ((s.run acceptingScripts [commandArrival]).run []).1.map Served.sent = [[]] := by
  -- the length is made abstract, so that nothing is computed with a name of this length
  generalize hn : 65535 = n
  have hplain : Url.isPlain true (organizationOfLength n).toList = true :=
    organizationOfLength_isPlain (by omega)
  have hlong : Web.maxUrlLength < (organizationOfLength n).length := by
    rw [length_organizationOfLength, Web.maxUrlLength]
    omega
  refine ⟨create_loopbackRelay _, loopbackRelay_isOnWeb _, acceptingScripts_isFinal,
    admits_commandArrival _, decode_commandBody, ?_, ?_⟩
  · rw [Router.handleSlash_eq, slashInbound_text, slashRequest?_commandForm]
    rfl
  · rw [run_cons, run_nil, List.map_singleton, serve_commandArrival hplain hlong]

end Server

end ChatRelay
