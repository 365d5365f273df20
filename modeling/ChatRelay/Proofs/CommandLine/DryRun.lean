/-
# Dry runs against the live router

A dry run is worked out without a router: it reads the text, looks up the organization and the
ref in the settings, and picks the reply by itself.  For settings that a relay can be run with,
it shows what the router of this relay does.  A dispatch is shown exactly if the router sends
one, it is the one that the router sends, and the reply is the router's once the dispatch is
accepted.
-/
import ChatRelay.Proofs.CommandLine.Dispatch
import ChatRelay.Proofs.Server.Refinement

namespace ChatRelay

/-! ## What a router does with a text -/

/-- The step of a relay that a text stands for: the slash command with this text, or a mention
whose text is left when the reference to the bot is taken away. -/
def liveStep (slash : Bool) (text user channel : String) : RouterStep :=
  if slash then .slash slashCommand ⟨.slashCommand, text, user, channel⟩
  else .mention ⟨.mention, stripMention text, user, channel⟩

/-- The text of a reply. -/
def StepReply.text : StepReply → String
  | mention reply => reply.render
  | slash reply => reply.render

/-! ## Dry runs -/

lemma Relay.github_of_settings {s : Settings} {relay : Relay}
    (h : Relay.ofSettings s = .ok relay) :
    s.github.org = some relay.github.org ∧
      s.github.defaultRef.getD defaultRef = relay.github.defaultRef := by
  rw [Relay.ofSettings] at h
  split at h
  · rename_i hgithub
    simp only [GithubAccess.ofSettings?, Option.bind_eq_bind, Option.bind_eq_some_iff] at hgithub
    obtain ⟨token, -, org, horg, haccess⟩ := hgithub
    cases h
    cases haccess
    exact ⟨horg, rfl⟩
  · cases h

namespace DryRun

variable (r : Router) (text : String)

lemma ofMention_eq :
    ofMention r.organization r.gitRef text =
      ⟨r.mentionRequest? (stripMention text),
        (Reply.ofText (stripMention text) .accepted).render⟩ := by
  rw [ofMention, Router.mentionRequest?, Reply.ofText]
  cases MentionCommand.parse (stripMention text) with
  | error rejection => rfl
  | ok command =>
    simp only
    cases hrequest : command.toDispatch? r.organization r.gitRef with
    | none =>
      have hverb := MentionCommand.toDispatch?_eq_none_iff.1 hrequest
      simp only [hverb, if_true]
    | some q =>
      -- what has a request is not the command for help
      have hverb : command.verb ≠ .help := fun hhelp => by
        rw [MentionCommand.toDispatch?_eq_none_iff.2 hhelp] at hrequest
        cases hrequest
      simp only [hverb, if_false]
      rfl

lemma ofSlash_eq :
    ofSlash r.organization r.gitRef text =
      ⟨r.slashRequest? slashCommand text,
        (SlashReply.ofText slashCommand text .accepted).render⟩ := by
  rw [ofSlash, Router.slashRequest?, SlashReply.ofText, if_pos rfl, if_pos rfl]
  cases ActionCommand.parse? text <;> rfl

/-- With the settings of a relay, a dry run finds what the router of the relay asks for, and
replies as the router does once this is accepted. -/
lemma ofSettings_eq {s : Settings} {relay : Relay} (hrelay : Relay.ofSettings s = .ok relay)
    (slash : Bool) (text user channel : String) :
    ofSettings s slash text =
      ⟨relay.github.router.request? (liveStep slash text user channel),
        ((liveStep slash text user channel).reply .accepted).text⟩ := by
  obtain ⟨horg, href⟩ := Relay.github_of_settings hrelay
  rw [ofSettings, horg, href]
  cases slash with
  | true =>
    simp only [if_true, liveStep]
    exact ofSlash_eq relay.github.router text
  | false =>
    simp only [Bool.false_eq_true, if_false, liveStep]
    exact ofMention_eq relay.github.router text

end DryRun

/-! ## What a dry run shows -/

namespace DispatchRequest

/-- A dispatch with its five fields in the order of their names, or null if there is none. -/
def shown : Option DispatchRequest → Json
  | none => .null
  | some q => .object
    [("git_ref", .text q.gitRef), ("inputs", q.inputs.toJson),
     ("organization", .text q.organization), ("repository", .text q.repository),
     ("workflow_id", .text q.workflow)]

lemma sorted_members_eq (dispatch : Option DispatchRequest) :
    (dispatch.map fun q => Json.sorted q.members).getD .null = shown dispatch := by
  cases dispatch with
  | none => rfl
  | some q =>
    simp [shown, Json.sorted, members, fieldNames, List.mergeSort,
      List.MergeSort.Internal.splitInTwo]

end DispatchRequest

namespace CommandLine

/-- A report shows a dispatch, or that there is none, and a reply to a text. -/
inductive Report.Shows (text : String) :
    Bool → Option DispatchRequest → String → Report → Prop
  /-- As JSON, with all fields of the dispatch, or with null in its place. -/
  | json {dispatch : Option DispatchRequest} {reply : String} :
      Shows text true dispatch reply
        { output := [(Json.object
            [("dispatch", DispatchRequest.shown dispatch), ("reply", .text reply),
             ("text", .text text)]).pretty] }
  /-- As lines, of which the first says that there is no dispatch. -/
  | nothing {reply : String} :
      Shows text false none reply
        { output := ["No workflow would be dispatched.", "", "Reply:", reply] }
  /-- As lines, of which the first ones name the fields of the dispatch. -/
  | request {q : DispatchRequest} {reply : String} :
      Shows text false (some q) reply
        { output :=
            ("Would dispatch " ++
                (q.workflow ++ " on " ++ q.organization ++ "/" ++ q.repository ++ " at " ++
                  q.gitRef)) ::
              (q.inputs.entries.map fun p => "  " ++ p.1 ++ " = " ++ p.2) ++
              ["", "Reply:", reply] }

/-- An object that begins with null is not written like one that begins with an object. -/
lemma pretty_null_ne {name : String} {p q r : String × Json} {ms ms' ms'' : List (String × Json)} :
    (Json.object ((name, .null) :: p :: ms)).pretty ≠
      (Json.object ((name, .object (q :: ms')) :: r :: ms'')).pretty := by
  intro h
  have hchars := String.ofList_injective h
  simp [Json.prettyChars, Json.prettyMembers] at hchars

lemma heading_ne (s : String) : "No workflow would be dispatched." ≠ "Would dispatch " ++ s := by
  intro h
  have hchars := congrArg (List.head? ∘ String.toList) h
  simp at hchars

/-- Whether there is a dispatch can be seen from a report. -/
lemma Report.Shows.isSome_eq {text reply reply' : String} {json : Bool}
    {dispatch dispatch' : Option DispatchRequest} {report report' : Report}
    (h : Shows text json dispatch reply report) (h' : Shows text json dispatch' reply' report')
    (heq : report = report') : dispatch.isSome = dispatch'.isSome := by
  have houtput := congrArg Report.output heq
  cases h with
  | json =>
    cases h'
    rcases dispatch with _ | q <;> rcases dispatch' with _ | q'
    · rfl
    · exact absurd (List.singleton_inj.1 houtput) pretty_null_ne
    · exact absurd (List.singleton_inj.1 houtput).symm pretty_null_ne
    · rfl
  | nothing =>
    cases h' with
    | nothing => rfl
    | request => exact absurd (List.cons.inj houtput).1 (heading_ne _)
  | request =>
    cases h' with
    | nothing => exact absurd (List.cons.inj houtput).1.symm (heading_ne _)
    | request => rfl

lemma routeReport_shows (json slash : Bool) (text : String) (s : Settings) :
    Report.Shows text json (DryRun.ofSettings s slash text).dispatch
      (DryRun.ofSettings s slash text).reply (routeReport json slash text s) := by
  generalize hrun : DryRun.ofSettings s slash text = d
  cases json with
  | true =>
    rw [routeReport, hrun]
    simp only [if_true, Report.ofJson, dryRunJson, DispatchRequest.sorted_members_eq]
    exact .json
  | false =>
    rw [routeReport, hrun]
    rcases d with ⟨_ | q, reply⟩
    · exact .nothing
    · exact .request

/-! ## Agreement with the live router -/

/-- What a run of the program shows for a text, against what a router does with it. -/
structure RouteAgrees (s : Settings) (r : Router) (slash : Bool) (text : String)
    (dispatch : Option DispatchRequest) (reply : String) : Prop where
  /-- In whatever surroundings and form, the report shows this dispatch and this reply, and
  whether there is a dispatch can be seen from it. -/
  shown : ∀ (m : Type → Type) [Monad m] (w : Surroundings m) (json : Bool), ∃ report,
    (Job.route slash text).perform w json s = pure report ∧
      Report.Shows text json dispatch reply report ∧
      ∀ dispatch' reply', Report.Shows text json dispatch' reply' report →
        dispatch'.isSome = dispatch.isSome
  /-- The router sends this dispatch, or nothing if it is none, whoever writes the text. -/
  sent : ∀ user channel, r.Sends (liveStep slash text user channel) dispatch.toList
  /-- The router gives this reply, if there is no dispatch or it is accepted. -/
  replied : ∀ user channel outcomes, dispatch = none ∨ outcomes.headD .accepted = .accepted →
    ((r.step (liveStep slash text user channel)).run ⟨outcomes, []⟩).1.text = reply

lemma routeAgrees_of_eq {s : Settings} {r : Router} {slash : Bool} {text : String} {d : DryRun}
    (hrun : DryRun.ofSettings s slash text = d)
    (hlive : ∀ user channel, d =
      ⟨r.request? (liveStep slash text user channel),
        ((liveStep slash text user channel).reply .accepted).text⟩) :
    RouteAgrees s r slash text d.dispatch d.reply where
  shown m _ w json := by
    have hshows := hrun ▸ routeReport_shows json slash text s
    exact ⟨_, rfl, hshows, fun _ _ h => h.isSome_eq hshows rfl⟩
  sent user channel := by
    rw [Router.sends_iff, hlive user channel]
  replied user channel outcomes h := by
    rw [hlive user channel] at h ⊢
    rw [Router.run_step]
    cases hrequest : r.request? (liveStep slash text user channel) with
    | none => rfl
    | some q =>
      rw [hrequest] at h
      have haccepted := h.resolve_left (Option.some_ne_none q)
      simp only [haccepted]

/-- For all settings that a relay can be run with and every text: the program shows that a
dispatch would be made exactly if the router of the relay makes one, with the same fields, and
it shows the reply of the router to a dispatch that is accepted, or to a text that asks for
none.  A server with these settings has this router. -/
theorem route_agrees_with_router {s : Settings} {relay : Relay}
    (hrelay : Relay.ofSettings s = .ok relay) (slash : Bool) (text : String) :
    (∃ dispatch reply, RouteAgrees s relay.github.router slash text dispatch reply) ∧
      ∀ server, Server.create relay = .ok server → server.router = relay.github.router := by
  refine ⟨⟨_, _, routeAgrees_of_eq rfl fun user channel =>
    DryRun.ofSettings_eq hrelay slash text user channel⟩, ?_⟩
  intro server hserver
  obtain ⟨hrelay, -, -⟩ := Server.create_eq_ok hserver
  rw [Server.router, hrelay]
  rfl

/-! ## A mention under settings with a ref of their own -/

/-- Complete settings with a ref. -/
def routeSettings : Settings where
  slack := { botToken := some "b", signingSecret := some "k" }
  github := { token := some "g", org := some "o", defaultRef := some "stable" }

/-- The relay of these settings. -/
def routeRelay : Relay where
  port := defaultPort
  slack := ⟨"b", some "k", none, false, defaultSlackUrl⟩
  github := ⟨"g", "o", defaultGithubUrl, "stable"⟩

/-- A deployment with a word too many. -/
theorem route_agrees_with_router_stable :
    Relay.ofSettings routeSettings = .ok routeRelay ∧
      (∃ dispatch reply, RouteAgrees routeSettings routeRelay.github.router false
        "<@U1> deploy staging api now" dispatch reply) ∧
      ∀ server, Server.create routeRelay = .ok server →
        server.router = routeRelay.github.router := by
  have hrelay : Relay.ofSettings routeSettings = .ok routeRelay := rfl
  exact ⟨hrelay, route_agrees_with_router hrelay false _⟩

end CommandLine

end ChatRelay
