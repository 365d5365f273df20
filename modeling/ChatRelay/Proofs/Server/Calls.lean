/-
# Calls to the services

A call that the relay makes is one request, or none if its address cannot be in a request.
This holds as long as no answer asks for another request.  What the router is told about a
dispatch, and what becomes of a post, follows from what comes of this one request.
-/
import ChatRelay.Proofs.Server.Trail

namespace ChatRelay

/-! ## One call, one request -/

/-- What is sent for a draft, and the result of the call. -/
inductive Web.Draft.SentOnce (d : Draft) (service : Service) :
    Except Error Web.Response → List Sent → Prop
  /-- The request is sent, and the result is what comes of it. -/
  | written {delivery : Delivery} :
      isWritable d.request.url = true →
      SentOnce d service (d.request.result delivery) [⟨service, d.request, delivery⟩]
  | unwritten : isWritable d.request.url = false → SentOnce d service (.error d.unwritable) []

namespace Scripts

variable {sc : Scripts} {service : Service}

/-- No answer of the services asks for another request. -/
def IsFinal (sc : Scripts) : Prop := ∀ service n, (sc.delivery service n).IsFinal

lemma IsFinal.send_run (hsc : sc.IsFinal) (service : Service) {d : Web.Draft} (hd : d.IsProper)
    (log : List Sent) :
    ∃ result calls, d.SentOnce service result calls ∧
      (Web.send (sc.exchange service) d).run log = (result, log ++ calls) := by
  obtain ⟨e, hwrite, hrun⟩ | ⟨result, calls, hwrite, htrail, hrun⟩ := sc.send_trail service d log
  · rw [hd.write_eq] at hwrite
    split at hwrite
    · cases hwrite
    · next h =>
      cases hwrite
      exact ⟨_, _, .unwritten (Bool.not_eq_true _ ▸ h), hrun⟩
  · rw [hd.write_eq] at hwrite
    split at hwrite
    · next h =>
      obtain ⟨rfl, rfl⟩ := htrail.of_isSettledBy ((hsc service _).isSettledBy _)
      exact ⟨_, _, .written h, hrun⟩
    · cases hwrite

end Scripts

/-! ## Dispatches -/

namespace Github.Client

/-- A client keeps its token and the address that it was created with. -/
lemma eq_of_create {token url : String} {c : Client} (hc : create token url = .ok c) :
    c.token = token ∧ Url.parse? url = some c.base := by
  rw [create] at hc
  cases hurl : Url.parse? url with
  | none =>
    rw [hurl] at hc
    cases hc
  | some base =>
    simp only [hurl] at hc
    split at hc <;> cases hc
    exact ⟨rfl, rfl⟩

/-- The call that a dispatch is. -/
def dispatchDraft (c : Client) (request : DispatchRequest) : Web.Draft :=
  c.draft .post (c.dispatchUrl request) (some request.payload)

/-- What the router is told about a dispatch, given the result of its call. -/
def outcome : Except Web.Error Web.Response → Outcome
  | .error e => .failed (Error.transport e).message
  | .ok response =>
    match dispatchResult response with
    | .ok _ => .accepted
    | .error e => .failed e.message

variable {c : Client}

/-- In every monad a dispatch is its call, followed by what the router is told about it. -/
lemma dispatch_eq {m : Type → Type} [Monad m] [LawfulMonad m]
    (exchange : Web.Request → m Web.Delivery) (request : DispatchRequest) :
    c.dispatch exchange request = outcome <$> Web.send exchange (c.dispatchDraft request) := by
  rw [dispatch, startWorkflow, bind_assoc, map_eq_pure_bind]
  congr 1
  funext result
  cases result with
  | error e => rw [pure_bind]; rfl
  | ok response =>
    rw [pure_bind, outcome]
    cases dispatchResult response <;> rfl

/-- A dispatch sends what its call sends. -/
lemma dispatch_run_of {sc : Scripts} {request : DispatchRequest}
    {result : Except Web.Error Web.Response} {log log' : List Sent}
    (hrun : (Web.send (sc.exchange .github) (c.dispatchDraft request)).run log = (result, log')) :
    (c.dispatch (sc.exchange .github) request).run log = (outcome result, log') := by
  rw [dispatch_eq, StateT.run_map, hrun]
  rfl

lemma dispatch_run {sc : Scripts} (hsc : sc.IsFinal) {request : DispatchRequest}
    (hproper : (c.dispatchDraft request).IsProper) (log : List Sent) :
    ∃ result calls, (c.dispatchDraft request).SentOnce .github result calls ∧
      (c.dispatch (sc.exchange .github) request).run log = (outcome result, log ++ calls) := by
  obtain ⟨result, calls, hcalls, hrun⟩ := hsc.send_run .github hproper log
  exact ⟨result, calls, hcalls, dispatch_run_of hrun⟩

/-- The dispatches of a client for a place on the web are proper. -/
lemma dispatchDraft_isProper {url : String} (hbase : Url.parse? url = some c.base)
    (hweb : c.base.IsWeb) (htoken : Web.isHeaderText c.token = true)
    (request : DispatchRequest) : (c.dispatchDraft request).IsProper where
  web := hweb
  host := (Url.host_of_parse? hbase hweb :)
  token := htoken

end Github.Client

/-! ## Posts -/

namespace Slack.Client

/-- The call that a post to an address is. -/
def postDraft (c : Client) (url : Url) (channel text : String) : Web.Draft :=
  ⟨.post, url, c.botToken, "*/*", none,
    some (.object [("channel", .text channel), ("text", .text text)])⟩

/-- What is sent for a post. -/
inductive Posts (c : Client) (channel text : String) : List Sent → Prop
  /-- The address is one, and the call is made. -/
  | called {url : Url} {result : Except Web.Error Web.Response} {calls : List Sent} :
      Url.parse? c.postUrl = some url →
      (c.postDraft url channel text).SentOnce .slack result calls →
      Posts c channel text calls
  | unreadable : Url.parse? c.postUrl = none → Posts c channel text []

/-- What becomes of a post, given the result of its call. -/
def posted : Except Web.Error Web.Response → Except Error Unit
  | .error e => .error (.transport e)
  | .ok response => postResult response

/-- In every monad a post to an address is its call, followed by what becomes of it. -/
lemma post_eq {m : Type → Type} [Monad m] [LawfulMonad m]
    {exchange : Web.Request → m Web.Delivery} {c : Client} {channel text : String} {url : Url}
    (hurl : Url.parse? c.postUrl = some url) :
    c.post exchange channel text =
      posted <$> Web.send exchange (c.postDraft url channel text) := by
  simp only [post, hurl]
  rw [map_eq_pure_bind]
  congr 1
  funext result
  cases result <;> rfl

/-- A post to an address sends what its call sends. -/
lemma post_run_of {sc : Scripts} {c : Client} {channel text : String} {url : Url}
    {result : Except Web.Error Web.Response} {log log' : List Sent}
    (hurl : Url.parse? c.postUrl = some url)
    (hrun : (Web.send (sc.exchange .slack) (c.postDraft url channel text)).run log =
      (result, log')) :
    (c.post (sc.exchange .slack) channel text).run log = (posted result, log') := by
  rw [post_eq hurl, StateT.run_map, hrun]
  rfl

/-- A post to what is no address sends nothing. -/
lemma post_run_unreadable {sc : Scripts} {c : Client} {channel text : String}
    (hurl : Url.parse? c.postUrl = none) (log : List Sent) :
    (c.post (sc.exchange .slack) channel text).run log =
      (.error (.transport (.unwritable none "relative URL without a base")), log ++ []) := by
  rw [post, hurl, List.append_nil]
  rfl

/-- Posts go to a place of the same scheme as the one that the client is for. -/
lemma postUrl_scheme {url token : String} {u v : Url} (hu : Url.parse? url = some u)
    (hv : Url.parse? (create url token).postUrl = some v) : v.scheme = u.scheme := by
  refine Url.scheme_eq_of_starts hu hv fun w hw => ?_
  rw [postUrl, create, String.toList_append, String.toList_ofList]
  exact hw.append _

lemma post_run {sc : Scripts} (hsc : sc.IsFinal) {url token : String} {u : Url}
    (hu : Url.parse? url = some u) (hweb : u.IsWeb) (htoken : Web.isHeaderText token = true)
    (channel text : String) (log : List Sent) :
    ∃ result calls, (create url token).Posts channel text calls ∧
      ((create url token).post (sc.exchange .slack) channel text).run log =
        (result, log ++ calls) := by
  cases hv : Url.parse? (create url token).postUrl with
  | none => exact ⟨_, [], .unreadable hv, post_run_unreadable hv log⟩
  | some v =>
    have hvweb : v.IsWeb := by
      rw [Url.IsWeb, postUrl_scheme hu hv]
      exact hweb
    have hproper : ((create url token).postDraft v channel text).IsProper :=
      ⟨hvweb, Url.host_of_parse? hv hvweb, htoken⟩
    obtain ⟨result, calls, hcalls, hrun⟩ := hsc.send_run .slack hproper log
    exact ⟨posted result, calls, .called hv hcalls, post_run_of hv hrun⟩

end Slack.Client

end ChatRelay
