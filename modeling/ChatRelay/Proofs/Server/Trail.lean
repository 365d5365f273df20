/-
# Where the answers lead a call

Every request of a call but the first one is asked for by the answer to the one before.  The
call ends with the first delivery that asks for nothing, or for what is not on the web, or when
the request has been sent on as often as it may be, and the last delivery decides what comes of
it.
-/
import ChatRelay.Proofs.Web.Exchange
import ChatRelay.Server.Session

namespace ChatRelay

lemma run_bind_of {α β : Type} {c : StateM (List Sent) α} {f : α → StateM (List Sent) β} {b : α}
    {log log' : List Sent} (h : c.run log = (b, log')) :
    (c >>= f).run log = (f b).run log' := by
  rw [StateT.run_bind, h]
  rfl

lemma fst_run_bind_pure {α β : Type} (c : StateM (List Sent) α) (b : β) (log : List Sent) :
    ((c >>= fun _ => pure b).run log).1 = b := rfl

namespace Web

variable {q q' : Request} {r : Response} {d : Delivery}

/-! ## Requests that an answer asks for -/

/-- An answer to a request asks for another one, at the address that it points to. -/
structure Request.AsksFor (q : Request) (r : Response) (q' : Request) : Prop where
  address : location? q.url r = some q'.url
  /-- The authorization stays behind when the host changes. -/
  authorization : q'.authorization = if sameOrigin q.url q'.url then q.authorization else []
  client : q'.accept = q.accept ∧ q'.userAgent = q.userAgent
  /-- Three statuses ask to be shown something, and two for the same to be done again. -/
  content : r.status ∈ [301, 302, 303] ∧ q'.method = .get ∧ q'.body = none ∨
    r.status ∈ [307, 308] ∧ q'.method = q.method ∧ q'.body = q.body

/-- A delivery of a request asks for no other one. -/
def Request.IsSettledBy (q : Request) (d : Delivery) : Prop :=
  ∀ r q', d = .answered r → ¬ q.AsksFor r q'

/-- A delivery of a request asks for no other one on the web. -/
def Request.IsEndedBy (q : Request) (d : Delivery) : Prop :=
  ∀ r q', d = .answered r → q.AsksFor r q' → ¬ q'.url.IsWeb

lemma asksFor_of_next? (hnext : q.next? r = some q') : q.AsksFor r q' := by
  rw [Request.next?] at hnext
  obtain ⟨url, hurl, hnext⟩ := Option.bind_eq_some_iff.1 hnext
  simp only at hnext
  split at hnext
  · next hshown =>
    cases hnext
    exact ⟨hurl, rfl, ⟨rfl, rfl⟩, .inl ⟨by simpa using hshown, rfl, rfl⟩⟩
  · split at hnext
    · next hkept =>
      cases hnext
      exact ⟨hurl, rfl, ⟨rfl, rfl⟩, .inr ⟨by simpa using hkept, rfl, rfl⟩⟩
    · exact absurd hnext (by simp)

lemma Request.AsksFor.next?_eq (h : q.AsksFor r q') : q.next? r = some q' := by
  obtain ⟨method, url, authorization, accept, userAgent, body⟩ := q'
  obtain ⟨haddress, hauthorization, ⟨haccept, hagent⟩, hcontent⟩ := h
  simp only at haddress hauthorization haccept hagent hcontent
  rw [Request.next?, haddress, Option.bind_eq_bind, Option.bind_some, haccept, hagent,
    hauthorization]
  rcases hcontent with ⟨hstatus, rfl, rfl⟩ | ⟨hstatus, rfl, rfl⟩
  · have hshown : r.status = 301 ∨ r.status = 302 ∨ r.status = 303 := by simpa using hstatus
    rw [if_pos hshown]
  · have hkept : r.status = 307 ∨ r.status = 308 := by simpa using hstatus
    rw [if_neg (by omega), if_pos hkept]

lemma next?_eq_some_iff : q.next? r = some q' ↔ q.AsksFor r q' :=
  ⟨asksFor_of_next?, Request.AsksFor.next?_eq⟩

lemma Request.AsksFor.unique {q'' : Request} (h : q.AsksFor r q') (h' : q.AsksFor r q'') :
    q' = q'' :=
  Option.some.inj (h.next?_eq.symm.trans h'.next?_eq)

lemma Request.AsksFor.isRedirect (h : q.AsksFor r q') : r.IsRedirect := by
  rcases h.content with ⟨hstatus, -⟩ | ⟨hstatus, -⟩ <;>
    simp only [Response.IsRedirect, List.mem_cons, List.not_mem_nil, or_false] at hstatus ⊢ <;>
    omega

/-- A request comes with JSON if it asks to have something done, and else with nothing. -/
def Request.IsTyped (q : Request) : Prop :=
  q.contentType = if q.method = .post then some "application/json" else none

lemma Request.AsksFor.isTyped (h : q.AsksFor r q') (hq : q.IsTyped) : q'.IsTyped := by
  rcases h.content with ⟨-, hmethod, hbody⟩ | ⟨-, hmethod, hbody⟩
  · rw [IsTyped, contentType, hmethod, hbody]
    rfl
  · rw [IsTyped, contentType, hmethod, hbody]
    exact hq

/-- A delivery that asks for no other request settles every request. -/
lemma Delivery.IsFinal.isSettledBy (h : d.IsFinal) (q : Request) : q.IsSettledBy d :=
  fun r _ hr hasks => h r hr hasks.isRedirect

/-- A delivery settles its request, or it is an answer that asks for another one. -/
lemma turn_cases (q : Request) (d : Delivery) :
    (q.IsSettledBy d ∧ q.turn d = .done (q.result d)) ∨
      ∃ r q', d = .answered r ∧ q.AsksFor r q' ∧ q.turn d = .again q' := by
  cases d with
  | dropped causes => exact .inl ⟨fun _ _ h => (nomatch h), rfl⟩
  | unreachable causes => exact .inl ⟨fun _ _ h => (nomatch h), rfl⟩
  | answered r =>
    cases hnext : q.next? r with
    | none =>
      refine .inl ⟨fun r' q' hr hasks => ?_, by simp only [Request.turn, hnext, Request.result]⟩
      cases hr
      rw [hasks.next?_eq] at hnext
      cases hnext
    | some q' =>
      exact .inr ⟨r, q', rfl, next?_eq_some_iff.1 hnext, by simp only [Request.turn, hnext]⟩

end Web

/-- One sending leads to the next: what came of it is an answer that asks for the other, at an
address of the web. -/
def Sent.LeadsTo (e e' : Sent) : Prop :=
  ∃ r, e.delivery = .answered r ∧ e.request.AsksFor r e'.request ∧ e'.request.url.IsWeb

/-! ## Trails -/

namespace Scripts

/-- What comes of the next request to a service, after all that was sent. -/
def next (sc : Scripts) (service : Service) (log : List Sent) : Web.Delivery :=
  sc.delivery service (log.countP fun e => e.service == service)

lemma exchange_run {sc : Scripts} {service : Service} (q : Web.Request) (log : List Sent) :
    (sc.exchange service q).run log =
      (sc.next service log, log ++ [⟨service, q, sc.next service log⟩]) := rfl

/-- All that is sent to a service from one of its deliveries on, for a request that may be sent
on some number of times, and the result of the call. -/
inductive Trail (sc : Scripts) (service : Service) :
    Nat → Nat → Web.Request → Except Web.Error Web.Response → List Sent → Prop
  /-- The delivery asks for nothing, and it decides the result. -/
  | settled {left n : Nat} {q : Web.Request} :
      q.IsSettledBy (sc.delivery service n) →
      Trail sc service left n q (q.result (sc.delivery service n))
        [⟨service, q, sc.delivery service n⟩]
  /-- The answer asks for another request, but not on the web. -/
  | barred {left n : Nat} {q q' : Web.Request} {r : Web.Response} :
      sc.delivery service n = .answered r → q.AsksFor r q' → ¬ q'.url.IsWeb →
      Trail sc service (left + 1) n q
        (.error (.unwritable (some q'.url.text) "URL scheme is not allowed"))
        [⟨service, q, .answered r⟩]
  /-- The answer asks for another request, which may not be sent any more. -/
  | stopped {n : Nat} {q q' : Web.Request} {r : Web.Response} :
      sc.delivery service n = .answered r → q.AsksFor r q' →
      Trail sc service 0 n q (.error (.redirected q.url.text)) [⟨service, q, .answered r⟩]
  /-- The answer asks for another request, and the trail goes on from this one. -/
  | again {left n : Nat} {q q' : Web.Request} {r : Web.Response}
      {result : Except Web.Error Web.Response} {rest : List Sent} :
      sc.delivery service n = .answered r → q.AsksFor r q' → q'.url.IsWeb →
      Trail sc service left (n + 1) q' result rest →
      Trail sc service (left + 1) n q result (⟨service, q, .answered r⟩ :: rest)

variable {sc : Scripts} {service : Service} {left n : Nat} {q : Web.Request}
  {result : Except Web.Error Web.Response} {calls : List Sent}

/-- Every call leaves a trail, by induction on the number of times that its request may still be
sent on. -/
lemma sendUpTo_trail (sc : Scripts) (service : Service) (left : Nat) (q : Web.Request)
    (log : List Sent) :
    ∃ result calls,
      sc.Trail service left (log.countP fun e => e.service == service) q result calls ∧
      (Web.sendUpTo (sc.exchange service) left q).run log = (result, log ++ calls) := by
  induction left generalizing q log with
  | zero =>
    rw [Web.sendUpTo, run_bind_of (exchange_run q log)]
    obtain ⟨hsettled, hturn⟩ | ⟨r, q', hr, hasks, hturn⟩ := Web.turn_cases q (sc.next service log)
    · simp only [hturn]
      exact ⟨_, _, .settled hsettled, rfl⟩
    · simp only [hturn]
      rw [hr]
      exact ⟨_, _, .stopped hr hasks, rfl⟩
  | succ left ih =>
    rw [Web.sendUpTo, run_bind_of (exchange_run q log)]
    obtain ⟨hsettled, hturn⟩ | ⟨r, q', hr, hasks, hturn⟩ := Web.turn_cases q (sc.next service log)
    · simp only [hturn]
      exact ⟨_, _, .settled hsettled, rfl⟩
    · simp only [hturn]
      rw [hr]
      split
      · next hscheme => exact ⟨_, _, .barred hr hasks (not_or.2 hscheme), rfl⟩
      · next hscheme =>
        have hweb : q'.url.IsWeb := by
          by_contra hnot
          exact hscheme (not_or.1 hnot)
        obtain ⟨result, rest, htrail, hrun⟩ := ih q' (log ++ [⟨service, q, .answered r⟩])
        rw [List.countP_append, List.countP_singleton, beq_self_eq_true, if_pos rfl] at htrail
        exact ⟨result, _, .again hr hasks hweb htrail,
          hrun.trans (by rw [List.append_assoc]; rfl)⟩

namespace Trail

/-- A trail begins with the request itself. -/
lemma eq_cons (h : sc.Trail service left n q result calls) :
    ∃ rest, calls = ⟨service, q, sc.delivery service n⟩ :: rest := by
  cases h with
  | settled _ => exact ⟨_, rfl⟩
  | barred hr _ _ => exact ⟨_, by rw [hr]⟩
  | stopped hr _ => exact ⟨_, by rw [hr]⟩
  | again hr _ _ _ => exact ⟨_, by rw [hr]⟩

/-- The service delivers to the requests of a trail in order. -/
lemma delivered (h : sc.Trail service left n q result calls) (k : Nat) (hk : k < calls.length) :
    calls[k].service = service ∧ calls[k].delivery = sc.delivery service (n + k) := by
  induction h generalizing k with
  | settled _ =>
    obtain rfl : k = 0 := by simpa using hk
    exact ⟨rfl, rfl⟩
  | barred hr _ _ =>
    obtain rfl : k = 0 := by simpa using hk
    exact ⟨rfl, hr.symm⟩
  | stopped hr _ =>
    obtain rfl : k = 0 := by simpa using hk
    exact ⟨rfl, hr.symm⟩
  | again hr _ _ _ ih =>
    cases k with
    | zero => exact ⟨rfl, hr.symm⟩
    | succ k =>
      obtain ⟨hservice, hdelivery⟩ := ih k (by simpa using hk)
      refine ⟨hservice, hdelivery.trans ?_⟩
      rw [Nat.add_assoc, Nat.add_comm 1 k]

/-- Where the first delivery asks for nothing, nothing follows, and it decides the result. -/
lemma of_isSettledBy (h : sc.Trail service left n q result calls)
    (hsettled : q.IsSettledBy (sc.delivery service n)) :
    result = q.result (sc.delivery service n) ∧ calls = [⟨service, q, sc.delivery service n⟩] := by
  cases h with
  | settled _ => exact ⟨rfl, rfl⟩
  | barred hr hasks _ => exact absurd hasks (hsettled _ _ hr)
  | stopped hr hasks => exact absurd hasks (hsettled _ _ hr)
  | again hr hasks _ _ => exact absurd hasks (hsettled _ _ hr)

/-- All that is sent goes to the service, with the content of the request or none. -/
lemma body_eq (h : sc.Trail service left n q result calls) :
    ∀ e ∈ calls, e.service = service ∧ (e.request.body = q.body ∨ e.request.body = none) := by
  induction h with
  | settled _ => exact List.forall_mem_singleton.2 ⟨rfl, .inl rfl⟩
  | barred _ _ _ => exact List.forall_mem_singleton.2 ⟨rfl, .inl rfl⟩
  | stopped _ _ => exact List.forall_mem_singleton.2 ⟨rfl, .inl rfl⟩
  | again _ hasks _ _ ih =>
    refine List.forall_mem_cons.2 ⟨⟨rfl, .inl rfl⟩, fun e he => ?_⟩
    obtain ⟨hservice, hbody⟩ := ih e he
    rcases hasks.content with ⟨-, -, hnone⟩ | ⟨-, -, hsame⟩
    · exact ⟨hservice, .inr (hbody.elim (fun h => h.trans hnone) id)⟩
    · exact ⟨hservice, hsame ▸ hbody⟩

lemma length_le (h : sc.Trail service left n q result calls) : calls.length ≤ left + 1 := by
  induction h with
  | settled _ => simp
  | barred _ _ _ => simp
  | stopped _ _ => simp
  | again _ _ _ _ ih => simpa using ih

lemma isChain (h : sc.Trail service left n q result calls) : calls.IsChain Sent.LeadsTo := by
  induction h with
  | settled _ => exact .singleton _
  | barred _ _ _ => exact .singleton _
  | stopped _ _ => exact .singleton _
  | again hr hasks hweb htrail ih =>
    obtain ⟨rest, rfl⟩ := htrail.eq_cons
    exact .cons_cons ⟨_, rfl, hasks, hweb⟩ ih

/-- As long as the request may be sent on, its trail ends at once only if the delivery does not
lead on. -/
lemma length_eq_one_iff (h : sc.Trail service (left + 1) n q result calls) :
    calls.length = 1 ↔ q.IsEndedBy (sc.delivery service n) := by
  cases h with
  | settled hsettled =>
    exact iff_of_true rfl fun r q' hr hasks => absurd hasks (hsettled r q' hr)
  | barred hr hasks hnot =>
    refine iff_of_true rfl fun r' q'' hr' hasks' => ?_
    cases hr.symm.trans hr'
    cases hasks.unique hasks'
    exact hnot
  | again hr hasks hweb htrail =>
    obtain ⟨rest, rfl⟩ := htrail.eq_cons
    exact iff_of_false (by simp) fun hended => hended _ _ hr hasks hweb

/-- Where the one answer asks for another request, it is not what the call results in. -/
lemma not_settled {q' : Web.Request} {r r' : Web.Response} (hasks : q.AsksFor r q') :
    ¬ ∃ e ∈ [(⟨service, q, .answered r⟩ : Sent)].getLast?,
      e.delivery = .answered r' ∧ e.request.IsSettledBy (.answered r') := by
  rw [List.getLast?_singleton]
  rintro ⟨e, ⟨⟩, hr, hsettled⟩
  cases hr
  exact hsettled _ _ rfl hasks

/-- The answer that a call results in is the last one of its trail. -/
lemma result_eq_ok_iff {r : Web.Response} (h : sc.Trail service left n q result calls) :
    result = .ok r ↔
      ∃ e ∈ calls.getLast?, e.delivery = .answered r ∧ e.request.IsSettledBy (.answered r) := by
  induction h with
  | @settled _ n q hsettled =>
    rw [List.getLast?_singleton]
    simp only [Option.mem_def, Option.some.injEq, exists_eq_left']
    cases hd : sc.delivery service n with
    | dropped causes => simp [Web.Request.result]
    | unreachable causes => simp [Web.Request.result]
    | answered r' =>
      rw [hd] at hsettled
      simp only [Web.Request.result, Except.ok.injEq, Web.Delivery.answered.injEq]
      refine ⟨fun heq => ⟨heq, heq ▸ hsettled⟩, And.left⟩
  | barred hr hasks _ => exact iff_of_false (by simp) (not_settled hasks)
  | stopped hr hasks => exact iff_of_false (by simp) (not_settled hasks)
  | again _ _ _ htrail ih =>
    obtain ⟨rest, rfl⟩ := htrail.eq_cons
    rw [ih, List.getLast?_cons_cons]

end Trail

/-- A draft that cannot be written sends nothing, and any other one leaves a trail. -/
lemma send_trail (sc : Scripts) (service : Service) (d : Web.Draft) (log : List Sent) :
    (∃ e, d.write = .error e ∧
      (Web.send (sc.exchange service) d).run log = (.error e, log ++ [])) ∨
    ∃ result calls, d.write = .ok d.request ∧
      sc.Trail service Web.maxRedirects (log.countP fun e => e.service == service) d.request
        result calls ∧
      (Web.send (sc.exchange service) d).run log = (result, log ++ calls) := by
  rw [Web.send]
  cases hwrite : d.write with
  | error e =>
    refine .inl ⟨e, rfl, ?_⟩
    rw [List.append_nil]
    rfl
  | ok q =>
    obtain rfl := Web.Draft.request_of_write hwrite
    obtain ⟨result, calls, htrail, hrun⟩ := sc.sendUpTo_trail service Web.maxRedirects d.request log
    exact .inr ⟨result, calls, rfl, htrail, hrun⟩

end Scripts

end ChatRelay
