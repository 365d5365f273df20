/-
# The start of a workflow

One request starts a workflow only where the first answer asks for nothing on the web.  Where it
does ask for another request, the dispatch may be posted again, and the workflow counts as started
by the status of an answer that need not be the one to the dispatch.
-/
import ChatRelay.Proofs.Github.Address

namespace ChatRelay

/-! ## The start of a workflow -/

namespace Github.Client

variable {result : Except Error Unit} {calls : List Sent}

/-- What the start of a workflow sends, and what comes of it, if the service has delivered `n`
times before. -/
structure Starts (sc : Scripts) (c : Client) (request : DispatchRequest) (n : Nat)
    (result : Except Error Unit) (calls : List Sent) : Prop where
  /-- Nothing is sent only if the dispatch cannot be written. -/
  unsent : calls = [] ↔ ∃ e, (c.dispatchDraft request).write = .error e
  first : ∀ e ∈ calls.head?,
    e.request.method = .post ∧ e.request = (c.dispatchDraft request).request
  /-- All requests go to the service, which delivers to them in order. -/
  delivered : ∀ k, ∀ hk : k < calls.length,
    calls[k].service = .github ∧ calls[k].delivery = sc.delivery .github (n + k)
  /-- Every further request is asked for by the answer to the one before. -/
  led : calls.IsChain Sent.LeadsTo
  bounded : calls.length ≤ Web.maxRedirects + 1
  /-- The dispatch is all that is sent only where its delivery asks for nothing on the web. -/
  once : calls ≠ [] →
    (calls.length = 1 ↔ (c.dispatchDraft request).request.IsEndedBy (sc.delivery .github n))
  /-- The last answer decides whether the workflow counts as started. -/
  accepted : result = .ok () ↔
    ∃ e ∈ calls.getLast?, ∃ r, e.delivery = .answered r ∧ r.status = 204

lemma dispatchResult_eq_ok_iff {r : Web.Response} : dispatchResult r = .ok () ↔ r.status = 204 := by
  rw [dispatchResult]
  split
  · next h => exact iff_of_true rfl h
  · next h =>
    refine iff_of_false ?_ h
    split <;> exact fun h => nomatch h

/-- The error of a dispatch that is refused carries the status of the answer. -/
lemma status?_of_dispatchResult {r : Web.Response} {e : Error}
    (h : dispatchResult r = .error e) : e.status? = some r.status := by
  rw [dispatchResult] at h
  split at h
  · cases h
  · split at h <;> cases h <;> rfl

lemma started_eq_ok_iff {result : Except Web.Error Web.Response} :
    started result = .ok () ↔ ∃ r, result = .ok r ∧ r.status = 204 := by
  cases result with
  | error e => simp [started]
  | ok r => simp [started, dispatchResult_eq_ok_iff]

/-- An answer with status 204 asks for nothing. -/
lemma isSettledBy_of_status {q : Web.Request} {r : Web.Response} (hstatus : r.status = 204) :
    q.IsSettledBy (.answered r) := by
  intro r' q' hr hasks
  cases hr
  have hredirect := hasks.isRedirect
  rw [Web.Response.IsRedirect, hstatus] at hredirect
  exact absurd hredirect (by decide)

/-- The start of a workflow leaves a trail of requests, whatever the service delivers: the
dispatch first, and behind it what the answers ask for.  The dispatch is sent alone if and only
if its delivery asks for nothing on the web, and the workflow counts as started if and only if
the last request is answered with status 204. -/
theorem startWorkflow_leaves_trail (sc : Scripts) (c : Client) (request : DispatchRequest)
    (log : List Sent) :
    ∃ result calls,
      (c.startWorkflow (sc.exchange .github) request).run log = (result, log ++ calls) ∧
      c.Starts sc request (log.countP fun e => e.service == .github) result calls := by
  rw [startWorkflow_eq, StateT.run_map]
  obtain ⟨e, hwrite, hrun⟩ | ⟨result, calls, hwrite, htrail, hrun⟩ :=
    sc.send_trail .github (c.dispatchDraft request) log
  · refine ⟨started (.error e), [], by rw [hrun]; rfl, ?_⟩
    exact {
      unsent := by simp [hwrite]
      first := by simp
      delivered := by simp
      led := .nil
      bounded := by simp
      once := by simp
      accepted := by simp [started] }
  · refine ⟨started result, calls, by rw [hrun]; rfl, ?_⟩
    obtain ⟨rest, hcalls⟩ := htrail.eq_cons
    exact {
      unsent := by simp [hwrite, hcalls]
      first := by
        rw [hcalls]
        rintro e ⟨⟩
        exact ⟨rfl, rfl⟩
      delivered := htrail.delivered
      led := htrail.isChain
      bounded := htrail.length_le
      once := fun _ => htrail.length_eq_one_iff
      accepted := by
        rw [started_eq_ok_iff]
        constructor
        · rintro ⟨r, hresult, hstatus⟩
          obtain ⟨e, he, hr, -⟩ := htrail.result_eq_ok_iff.1 hresult
          exact ⟨e, he, r, hr, hstatus⟩
        · rintro ⟨e, he, r, hr, hstatus⟩
          have hsettled : e.request.IsSettledBy (.answered r) := isSettledBy_of_status hstatus
          exact ⟨r, htrail.result_eq_ok_iff.2 ⟨e, he, hr, hsettled⟩, hstatus⟩ }

/-- All that the start of a workflow sends comes with JSON or with nothing. -/
lemma Starts.isTyped {sc : Scripts} {c : Client} {request : DispatchRequest} {n : Nat}
    (h : c.Starts sc request n result calls) : ∀ e ∈ calls, e.request.IsTyped := by
  refine h.led.induction (fun e => e.request.IsTyped) calls ?_ fun hne => ?_
  · rintro e e' ⟨r, -, hasks, -⟩ hbefore
    exact hasks.isTyped hbefore
  · obtain ⟨-, hfirst⟩ := h.first _ (List.head_mem_head? hne)
    rw [hfirst]
    rfl

/-! ## A dispatch that is sent on -/

/-- The first request is answered with a status and a place to go to, and all others are
answered with status 204. -/
def movedScripts (status : Nat) : Scripts where
  github n :=
    if n = 0 then .answered ⟨status, [("location", Text.Utf8.bytes "/moved")], some []⟩
    else .answered ⟨204, [], some []⟩
  slack _ := .dropped []

/-- The start of a workflow at a service that points elsewhere. -/
def movedStart (status : Nat) : Except Error Unit × List (Web.Method × String) :=
  let (result, sent) := ((⟨"g", Server.loopback⟩ : Client).startWorkflow
    ((movedScripts status).exchange .github) (slashDispatch "r" "w")).run []
  (result, sent.map fun e => (e.request.method, e.request.target))

/-- Status 307 makes the dispatch posted twice, and status 302 makes a workflow count as started
by the answer to a request that only asks to be shown something. -/
theorem dispatch_sent_on :
    movedStart 307 =
      (.ok (), [(.post, "/repos/o/r/actions/workflows/w/dispatches"), (.post, "/moved")]) ∧
    movedStart 302 =
      (.ok (), [(.post, "/repos/o/r/actions/workflows/w/dispatches"), (.get, "/moved")]) := by
  decide +kernel

end Github.Client

end ChatRelay
