/-
# What a call sends, whatever is answered

The first request of a call is the one that its draft is written as.  Others follow only where
an answer asks for another request, and they have the content of the first one or none.  So a
call that is answered at once sends one request, and its result is what comes of this one.
-/
import ChatRelay.Proofs.Server.Calls

namespace ChatRelay

namespace Web

/-! ## Calls -/

/-- What is sent to a service for a request with a delivery, and the result of the call: what
comes of the delivery alone if it is final, and what further requests lead to if not. -/
structure Request.Leads (q : Request) (service : Service) (d : Delivery)
    (result : Except Error Response) (rest : List Sent) : Prop where
  /-- A final delivery is the last one, and it decides the result. -/
  final : d.IsFinal → rest = [] ∧ result = q.result d
  /-- All that follows goes to the service, with the content of the request or none. -/
  rest : ∀ e ∈ rest, e.service = service ∧ (e.request.body = q.body ∨ e.request.body = none)

/-- What is sent to a service for a draft, and the result of the call, given what comes of the
first request. -/
inductive Draft.Sends (d : Draft) (service : Service) (first : Delivery) :
    Except Error Response → List Sent → Prop
  /-- The draft cannot be written, so nothing is sent. -/
  | unwritten {e : Error} : d.write = .error e → Sends d service first (.error e) []
  /-- The draft is written and sent, and whatever follows is led to by the answers. -/
  | written {q : Request} {result : Except Error Response} {rest : List Sent} :
      d.write = .ok q → q.Leads service first result rest →
      Sends d service first result (⟨service, q, first⟩ :: rest)

/-- All that is sent for a draft goes to the one service. -/
lemma Draft.Sends.service_eq {draft : Draft} {service : Service}
    {result : Except Error Response} {calls : List Sent}
    (h : draft.Sends service d result calls) : ∀ e ∈ calls, e.service = service := by
  cases h with
  | unwritten _ => simp
  | written _ hleads =>
    exact List.forall_mem_cons.2 ⟨rfl, fun e he => (hleads.rest e he).1⟩

end Web

namespace Scripts

/-- A trail is its first request, and what this one leads to. -/
lemma Trail.leads {sc : Scripts} {service : Service} {left n : Nat} {q : Web.Request}
    {result : Except Web.Error Web.Response} {calls : List Sent}
    (h : sc.Trail service left n q result calls) :
    ∃ rest, calls = ⟨service, q, sc.delivery service n⟩ :: rest ∧
      q.Leads service (sc.delivery service n) result rest := by
  obtain ⟨rest, rfl⟩ := h.eq_cons
  refine ⟨rest, rfl, fun hfinal => ?_, (List.forall_mem_cons.1 h.body_eq).2⟩
  obtain ⟨hresult, hcalls⟩ := h.of_isSettledBy (hfinal.isSettledBy q)
  exact ⟨List.tail_eq_of_cons_eq hcalls, hresult⟩

/-- With every script, a call sends what its draft is written as, and then what the answers ask
for. -/
lemma send_sends (sc : Scripts) (service : Service) (d : Web.Draft) (log : List Sent) :
    ∃ result calls, d.Sends service (sc.next service log) result calls ∧
      (Web.send (sc.exchange service) d).run log = (result, log ++ calls) := by
  obtain ⟨e, hwrite, hrun⟩ | ⟨result, calls, hwrite, htrail, hrun⟩ := sc.send_trail service d log
  · exact ⟨.error e, [], .unwritten hwrite, hrun⟩
  · obtain ⟨rest, rfl, hleads⟩ := htrail.leads
    exact ⟨result, _, .written hwrite hleads, hrun⟩

end Scripts

/-! ## Dispatches -/

namespace Github.Client

variable {c : Client}

/-- What becomes of the start of a workflow, given the result of its call. -/
def started : Except Web.Error Web.Response → Except Error Unit
  | .error e => .error (.transport e)
  | .ok response => dispatchResult response

/-- In every monad the start of a workflow is its call, followed by what becomes of it. -/
lemma startWorkflow_eq {m : Type → Type} [Monad m] [LawfulMonad m]
    (exchange : Web.Request → m Web.Delivery) (request : DispatchRequest) :
    c.startWorkflow exchange request = started <$> Web.send exchange (c.dispatchDraft request) := by
  rw [startWorkflow, map_eq_pure_bind]
  congr 1
  funext result
  cases result <;> rfl

lemma startWorkflow_sends (sc : Scripts) (c : Client) (request : DispatchRequest)
    (log : List Sent) :
    ∃ result calls,
      (c.dispatchDraft request).Sends .github (sc.next .github log) result calls ∧
      (c.startWorkflow (sc.exchange .github) request).run log =
        (started result, log ++ calls) := by
  obtain ⟨result, calls, hcalls, hrun⟩ := sc.send_sends .github (c.dispatchDraft request) log
  refine ⟨result, calls, hcalls, ?_⟩
  rw [startWorkflow_eq, StateT.run_map, hrun]
  rfl

lemma dispatch_sends (sc : Scripts) (c : Client) (request : DispatchRequest) (log : List Sent) :
    ∃ result calls,
      (c.dispatchDraft request).Sends .github (sc.next .github log) result calls ∧
      (c.dispatch (sc.exchange .github) request).run log = (outcome result, log ++ calls) := by
  obtain ⟨result, calls, hcalls, hrun⟩ := sc.send_sends .github (c.dispatchDraft request) log
  exact ⟨result, calls, hcalls, dispatch_run_of hrun⟩

end Github.Client

/-! ## Posts -/

namespace Slack.Client

/-- What is sent for a post. -/
inductive SendsPost (c : Client) (channel text : String) : List Sent → Prop
  /-- The address of the service is one, and the call is made. -/
  | called {url : Url} {first : Web.Delivery} {result : Except Web.Error Web.Response}
      {calls : List Sent} :
      Url.parse? c.postUrl = some url →
      (c.postDraft url channel text).Sends .slack first result calls →
      SendsPost c channel text calls
  | unreadable : Url.parse? c.postUrl = none → SendsPost c channel text []

lemma SendsPost.service_eq {c : Client} {channel text : String} {posts : List Sent}
    (h : c.SendsPost channel text posts) : ∀ e ∈ posts, e.service = .slack := by
  cases h with
  | called _ hsends => exact hsends.service_eq
  | unreadable _ => simp

lemma post_sends (sc : Scripts) (c : Client) (channel text : String) (log : List Sent) :
    ∃ result calls, c.SendsPost channel text calls ∧
      (c.post (sc.exchange .slack) channel text).run log = (result, log ++ calls) := by
  cases hurl : Url.parse? c.postUrl with
  | none => exact ⟨_, [], .unreadable hurl, post_run_unreadable hurl log⟩
  | some url =>
    obtain ⟨result, calls, hcalls, hrun⟩ := sc.send_sends .slack (c.postDraft url channel text) log
    exact ⟨posted result, calls, .called hurl hcalls, post_run_of hurl hrun⟩

end Slack.Client

end ChatRelay
