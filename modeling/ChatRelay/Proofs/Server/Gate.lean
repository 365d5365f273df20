/-
# The gate before the services

A server talks to the services only on behalf of requests that it has admitted: posted to one
of the two routes, with a body of at most one mebibyte, accepted by the verifier on exactly
the bytes and headers that were received, and readable.  Every other request is answered on
the spot.  The gate stands for each request of a run alike, whatever was served before it and
whatever the services answer.
-/
import ChatRelay.Proofs.Server.Session

namespace ChatRelay

/-! ## Headers -/

namespace InboundRequest

/-- A byte is a visible ASCII character, a space or a tab. -/
def IsVisible (b : UInt8) : Prop := b = 0x09 ∨ 0x20 ≤ b ∧ b ≤ 0x7E

/-- What a header of a request reads as: the first value of that name, if all of it is visible
ASCII; a value that is not counts as absent. -/
def Reads (r : InboundRequest) (name : String) : Option String → Prop
  | some text => ∃ value, r.headers.lookup name = some value ∧ (∀ b ∈ value, IsVisible b) ∧
      text.toList = value.map fun b => Char.ofNat b.toNat
  | none => ∀ value, r.headers.lookup name = some value → ∃ b ∈ value, ¬ IsVisible b

variable {r : InboundRequest} {name : String}

lemma all_isVisible_iff {value : List UInt8} :
    (value.all fun b => b == 0x09 || (0x20 ≤ b && b ≤ 0x7E)) = true ↔
      ∀ b ∈ value, IsVisible b := by
  simp [IsVisible]

lemma reads_header? : r.Reads name (r.header? name) := by
  rw [header?]
  cases hlookup : r.headers.lookup name with
  | none =>
    intro value hvalue
    exact absurd (hlookup.symm.trans hvalue) (by simp)
  | some value =>
    simp only [Option.bind_eq_bind, Option.bind_some]
    split
    · rename_i hall
      exact ⟨value, hlookup, all_isVisible_iff.1 hall, String.toList_ofList⟩
    · rename_i hall
      intro value' hvalue'
      cases hlookup.symm.trans hvalue'
      rw [all_isVisible_iff] at hall
      push Not at hall
      exact hall

/-- A header reads in one way only. -/
lemma reads_iff {t : Option String} : r.Reads name t ↔ r.header? name = t := by
  constructor
  · intro h
    have hheader : r.Reads name (r.header? name) := reads_header?
    cases ht : r.header? name with
    | none =>
      rw [ht] at hheader
      cases t with
      | none => rfl
      | some text =>
        obtain ⟨value, hlookup, hall, -⟩ := h
        obtain ⟨b, hb, hnot⟩ := hheader value hlookup
        exact absurd (hall b hb) hnot
    | some text =>
      rw [ht] at hheader
      obtain ⟨value, hlookup, hall, htext⟩ := hheader
      cases t with
      | none =>
        obtain ⟨b, hb, hnot⟩ := h value hlookup
        exact absurd (hall b hb) hnot
      | some text' =>
        obtain ⟨value', hlookup', -, htext'⟩ := h
        cases hlookup.symm.trans hlookup'
        rw [String.toList_inj.1 (htext.trans htext'.symm)]
  · rintro rfl
    exact reads_header?

end InboundRequest

namespace Server

/-! ## Admission -/

/-- A request is admitted on a route: it is posted there with a body of at most one mebibyte,
and the verifier accepts this body with the headers of the request at the time at which it is
handled. -/
structure Admits (s : Server) (a : Arrival) (route : String) (format : BodyFormat)
    (body : List UInt8) : Prop where
  method : a.request.method = "POST"
  path : a.request.path = route
  content : a.request.body = some body
  size : body.length ≤ 1048576
  /-- The verifier accepts it. -/
  accepted : ∃ timestamp signature, a.request.Reads timestampHeader timestamp ∧
    a.request.Reads signatureHeader signature ∧
    s.verifier.verify ⟨timestamp, signature, body, format⟩ a.time = .ok ()

/-- A request is admitted on one of the two routes, and its body can be read there. -/
def AdmitsReadable (s : Server) (a : Arrival) : Prop :=
  (∃ body event, s.Admits a "/slack/events" .json body ∧
    Slack.Event.decode? body = some event) ∨
  (∃ body form, s.Admits a "/slack/commands" .form body ∧ Form.decode body = .ok form)

/-- A request is refused with an answer: it is not admitted or cannot be read, and the answer is
an error unless the request asks whether the server runs. -/
structure Refuses (s : Server) (a : Arrival) (response : Response) : Prop where
  /-- It is not admitted, or cannot be read. -/
  unread : ¬ s.AdmitsReadable a
  /-- There is nothing left to do but to answer it. -/
  task : s.task a.time a.request = .answer response
  status : a.request.path ≠ "/health" → 400 ≤ response.status

variable {s : Server} {a : Arrival}

lemma admits_iff {route : String} {format : BodyFormat} {body : List UInt8} :
    s.Admits a route format body ↔
      a.request.path = route ∧ a.request.method = "POST" ∧ a.request.body = some body ∧
        body.length ≤ maxBodySize ∧
        s.verifier.verify (signedRequest a.request body format) a.time = .ok () := by
  constructor
  · rintro ⟨hmethod, hpath, hbody, hsize, timestamp, signature, ht, hs, hverify⟩
    refine ⟨hpath, hmethod, hbody, hsize, ?_⟩
    rwa [signedRequest, InboundRequest.reads_iff.1 ht, InboundRequest.reads_iff.1 hs]
  · rintro ⟨hpath, hmethod, hbody, hsize, hverify⟩
    exact ⟨hmethod, hpath, hbody, hsize, _, _, InboundRequest.reads_header?,
      InboundRequest.reads_header?, hverify⟩

/-- No request is admitted on both routes, so what is admitted on one is readable only there. -/
lemma admitsReadable_iff_event {body : List UInt8} (h : s.Admits a "/slack/events" .json body) :
    s.AdmitsReadable a ↔ (Slack.Event.decode? body).isSome := by
  constructor
  · rintro (⟨body', event, h', hevent⟩ | ⟨body', form, h', -⟩)
    · cases h.content.symm.trans h'.content
      rw [hevent]
      rfl
    · exact absurd (h.path.symm.trans h'.path) (by decide)
  · intro hsome
    obtain ⟨event, hevent⟩ := Option.isSome_iff_exists.1 hsome
    exact .inl ⟨body, event, h, hevent⟩

lemma admitsReadable_iff_command {body : List UInt8}
    (h : s.Admits a "/slack/commands" .form body) :
    s.AdmitsReadable a ↔ ∃ form, Form.decode body = .ok form := by
  constructor
  · rintro (⟨body', event, h', -⟩ | ⟨body', form, h', hform⟩)
    · exact absurd (h.path.symm.trans h'.path) (by decide)
    · cases h.content.symm.trans h'.content
      exact ⟨form, hform⟩
  · rintro ⟨form, hform⟩
    exact .inr ⟨body, form, h, hform⟩

/-! ## What is left to do, and for whom -/

lemma le_status_of_malformed (reason : String) :
    400 ≤ (Failure.ofFault (.malformed reason)).response.status := Nat.le_refl 400

lemma le_status_of_verification (reason : String) :
    400 ≤ (Failure.ofFault (.verification reason)).response.status := Nat.le_succ 400

lemma le_status_of_refusal (refusal : Refusal) :
    400 ≤ (Failure.ofFault refusal.fault).response.status := by
  cases refusal <;>
    first
    | exact le_status_of_malformed _
    | exact le_status_of_verification _

/-- Content that is posted is passed on if it is small enough and accepted, and refused with an
error if not. -/
lemma received_cases (s : Server) (a : Arrival) (format : BodyFormat)
    (content : List UInt8 → Task) :
    (∃ body, a.request.body = some body ∧ body.length ≤ maxBodySize ∧
      s.verifier.verify (signedRequest a.request body format) a.time = .ok () ∧
      s.received a.time a.request format content = content body) ∨
    ((∀ body, a.request.body = some body → body.length ≤ maxBodySize →
      s.verifier.verify (signedRequest a.request body format) a.time ≠ .ok ()) ∧
      ∃ response, s.received a.time a.request format content = .answer response ∧
        400 ≤ response.status) := by
  rw [received]
  cases hbody : a.request.body with
  | none =>
    refine .inr ⟨fun body h => ?_, .empty 408, rfl, ?_⟩
    · cases h
    · exact (by decide : 400 ≤ 408)
  | some body =>
    by_cases hsize : maxBodySize < body.length
    · refine .inr ⟨fun body' h hle => ?_, _, if_pos hsize, ?_⟩
      · cases h
        exact absurd hsize (Nat.not_lt.2 hle)
      · exact (by decide : 400 ≤ 413)
    · cases hverify : s.verifier.verify (signedRequest a.request body format) a.time with
      | error refusal =>
        refine .inr ⟨fun body' h _ hok => ?_, (Failure.ofFault refusal.fault).response, ?_,
          le_status_of_refusal refusal⟩
        · cases h
          exact absurd (hverify.symm.trans hok) (by simp)
        · simp only [hsize, if_false, hverify]
      | ok _ =>
        refine .inl ⟨body, rfl, Nat.not_lt.1 hsize, hverify, ?_⟩
        simp only [hsize, if_false, hverify]

lemma task_of_event (hpath : a.request.path = "/slack/events") :
    s.task a.time a.request =
      if a.request.method = "POST" then
        s.received a.time a.request .json (eventTask (a.request.hasHeader retryHeader))
      else .answer (notAllowed "POST") := by
  rw [task, hpath]
  rfl

lemma task_of_command (hpath : a.request.path = "/slack/commands") :
    s.task a.time a.request =
      if a.request.method = "POST" then s.received a.time a.request .form commandTask
      else .answer (notAllowed "POST") := by
  rw [task, hpath]
  rfl

/-- Away from the two routes there is an answer, which is an error but on the third route. -/
lemma task_elsewhere (hevents : a.request.path ≠ "/slack/events")
    (hcommands : a.request.path ≠ "/slack/commands") :
    ∃ response, s.task a.time a.request = .answer response ∧
      (a.request.path ≠ "/health" → 400 ≤ response.status) := by
  rw [task]
  -- the routes are told apart by the path alone
  generalize a.request.path = path at hevents hcommands ⊢
  by_cases hhealth : path = "/health"
  · subst hhealth
    by_cases hmethod : a.request.method = "GET" ∨ a.request.method = "HEAD"
    · exact ⟨_, if_pos hmethod, fun h => absurd rfl h⟩
    · exact ⟨_, if_neg hmethod, fun h => absurd rfl h⟩
  · refine ⟨.empty 404, ?_, fun _ => (by decide : 400 ≤ 404)⟩
    split
    · exact absurd rfl hhealth
    · exact absurd rfl hevents
    · exact absurd rfl hcommands
    · rfl

/-- An event that is posted is heard or refused. -/
lemma event_cases (hpath : a.request.path = "/slack/events") (hmethod : a.request.method = "POST") :
    (∃ body event, s.Admits a "/slack/events" .json body ∧
      Slack.Event.decode? body = some event ∧
      s.task a.time a.request = heardTask (a.request.hasHeader retryHeader) event) ∨
    ∃ response, s.Refuses a response := by
  have htask := task_of_event (s := s) hpath
  rw [if_pos hmethod] at htask
  rcases received_cases s a .json (eventTask (a.request.hasHeader retryHeader)) with
    ⟨body, hbody, hsize, hverify, hreceived⟩ | ⟨hnot, response, hreceived, hstatus⟩
  · have hadmits : s.Admits a "/slack/events" .json body :=
      admits_iff.2 ⟨hpath, hmethod, hbody, hsize, hverify⟩
    rw [hreceived, eventTask] at htask
    cases hevent : Slack.Event.decode? body with
    | none =>
      rw [hevent] at htask
      refine .inr ⟨_, ?_, htask, fun _ => le_status_of_malformed _⟩
      rw [admitsReadable_iff_event hadmits, hevent]
      exact Bool.false_ne_true
    | some event =>
      rw [hevent] at htask
      exact .inl ⟨body, event, hadmits, hevent, htask⟩
  · -- what is admitted here has been accepted, and what was refused has not
    refine .inr ⟨response, ?_, htask.trans hreceived, fun _ => hstatus⟩
    rintro (⟨body, -, h, -⟩ | ⟨body, -, h, -⟩)
    · obtain ⟨-, -, hbody, hsize, hverify⟩ := admits_iff.1 h
      exact hnot body hbody hsize hverify
    · exact absurd (hpath.symm.trans h.path) (by decide)

/-- A command that is posted is handled or refused. -/
lemma command_cases (hpath : a.request.path = "/slack/commands")
    (hmethod : a.request.method = "POST") :
    (∃ body form, s.Admits a "/slack/commands" .form body ∧ Form.decode body = .ok form ∧
      s.task a.time a.request = .command form) ∨
    ∃ response, s.Refuses a response := by
  have htask := task_of_command (s := s) hpath
  rw [if_pos hmethod] at htask
  rcases received_cases s a .form commandTask with
    ⟨body, hbody, hsize, hverify, hreceived⟩ | ⟨hnot, response, hreceived, hstatus⟩
  · have hadmits : s.Admits a "/slack/commands" .form body :=
      admits_iff.2 ⟨hpath, hmethod, hbody, hsize, hverify⟩
    rw [hreceived, commandTask] at htask
    cases hform : Form.decode body with
    | error fault =>
      rw [hform] at htask
      refine .inr ⟨_, ?_, htask, fun _ => le_status_of_malformed _⟩
      rw [admitsReadable_iff_command hadmits, hform]
      rintro ⟨form, h⟩
      cases h
    | ok form =>
      rw [hform] at htask
      exact .inl ⟨body, form, hadmits, hform, htask⟩
  · refine .inr ⟨response, ?_, htask.trans hreceived, fun _ => hstatus⟩
    rintro (⟨body, -, h, -⟩ | ⟨body, -, h, -⟩)
    · exact absurd (hpath.symm.trans h.path) (by decide)
    · obtain ⟨-, -, hbody, hsize, hverify⟩ := admits_iff.1 h
      exact hnot body hbody hsize hverify

/-- A request that is not posted is refused, whatever its route. -/
lemma refuses_of_method_ne (hmethod : a.request.method ≠ "POST") :
    ∃ response, s.Refuses a response := by
  have hunread : ¬ s.AdmitsReadable a := by
    rintro (⟨_, _, h, -⟩ | ⟨_, _, h, -⟩)
    · exact hmethod h.method
    · exact hmethod h.method
  by_cases hevents : a.request.path = "/slack/events"
  · have htask := task_of_event (s := s) hevents
    rw [if_neg hmethod] at htask
    exact ⟨_, hunread, htask, fun _ => (by decide : 400 ≤ 405)⟩
  · by_cases hcommands : a.request.path = "/slack/commands"
    · have htask := task_of_command (s := s) hcommands
      rw [if_neg hmethod] at htask
      exact ⟨_, hunread, htask, fun _ => (by decide : 400 ≤ 405)⟩
    · obtain ⟨response, htask, hstatus⟩ := task_elsewhere hevents hcommands
      exact ⟨response, hunread, htask, hstatus⟩

/-- A request is an admitted event that is heard, an admitted command that is handled, or
refused. -/
lemma task_cases (s : Server) (a : Arrival) :
    (∃ body event, s.Admits a "/slack/events" .json body ∧
      Slack.Event.decode? body = some event ∧
      s.task a.time a.request = heardTask (a.request.hasHeader retryHeader) event) ∨
    (∃ body form, s.Admits a "/slack/commands" .form body ∧ Form.decode body = .ok form ∧
      s.task a.time a.request = .command form) ∨
    ∃ response, s.Refuses a response := by
  by_cases hmethod : a.request.method = "POST"
  · by_cases hevents : a.request.path = "/slack/events"
    · rcases event_cases hevents hmethod with h | h
      · exact .inl h
      · exact .inr (.inr h)
    · by_cases hcommands : a.request.path = "/slack/commands"
      · exact .inr (command_cases hcommands hmethod)
      · obtain ⟨response, htask, hstatus⟩ := task_elsewhere hevents hcommands
        refine .inr (.inr ⟨response, ?_, htask, hstatus⟩)
        rintro (⟨_, _, h, -⟩ | ⟨_, _, h, -⟩)
        · exact hevents h.path
        · exact hcommands h.path
  · exact .inr (.inr (refuses_of_method_ne hmethod))

/-- A readable command that is admitted is handled. -/
lemma task_eq_command {body : List UInt8} {form : Form}
    (h : s.Admits a "/slack/commands" .form body) (hform : Form.decode body = .ok form) :
    s.task a.time a.request = .command form := by
  rcases s.task_cases a with ⟨body', -, h', -⟩ | ⟨body', form', h', hform', htask⟩ |
    ⟨response, hrefused⟩
  · exact absurd (h'.path.symm.trans h.path) (by decide)
  · cases h'.content.symm.trans h.content
    cases hform'.symm.trans hform
    exact htask
  · exact absurd (.inr ⟨body, form, h, hform⟩) hrefused.unread

/-- What is left to do for an event that is admitted depends on its body, and on whether it is
delivered again. -/
lemma task_eq_event {body : List UInt8} (h : s.Admits a "/slack/events" .json body) :
    s.task a.time a.request = eventTask (a.request.hasHeader retryHeader) body := by
  obtain ⟨hpath, hmethod, hbody, hsize, hverify⟩ := admits_iff.1 h
  rw [task_of_event hpath, if_pos hmethod, received, hbody]
  simp only [Nat.not_lt.2 hsize, if_false, hverify]

/-- A mention that is admitted for the first time is handled. -/
lemma task_eq_mention {body : List UInt8} {c : Slack.Callback}
    (h : s.Admits a "/slack/events" .json body)
    (hevent : Slack.Event.decode? body = some (.callback c)) (hkind : c.kind = "app_mention")
    (hfresh : a.request.hasHeader retryHeader = false) :
    s.task a.time a.request = .mention c := by
  rw [task_eq_event h, eventTask, hevent, hfresh]
  simp [heardTask, hkind]

/-! ## The gate -/

variable {sc : Scripts}

/-- Where the answer is known, nothing is sent. -/
lemma serve_of_answer {response : Response} (h : s.task a.time a.request = .answer response)
    (log : List Sent) : (s.serve sc a).run log = (⟨response, []⟩, log) := by
  have hhandle : (s.handle sc.exchanges a.time a.request).run log = (response, log ++ []) := by
    rw [handle_eq, h, perform, List.append_nil]
    rfl
  rw [serve_of_handle hhandle, List.append_nil]

/-- In every run, with every script of the services and whatever was sent before, a request to
a service is sent only while an admitted and readable request is served, and nothing is sent
but while a request is served. -/
theorem run_sends_only_if_admitted (s : Server) (sc : Scripts) (arrivals : List Arrival)
    (log : List Sent) :
    List.Forall₂ (fun a served => served.sent ≠ [] → s.AdmitsReadable a) arrivals
      ((s.run sc arrivals).run log).1 ∧
    ((s.run sc arrivals).run log).2 =
      log ++ ((s.run sc arrivals).run log).1.flatMap Served.sent := by
  refine ⟨run_forall₂ (fun a log hsent => ?_) arrivals log, run_log arrivals log⟩
  rcases s.task_cases a with ⟨body, event, h, hevent, -⟩ | ⟨body, form, h, hform, -⟩ |
    ⟨response, hrefused⟩
  · exact .inl ⟨body, event, h, hevent⟩
  · exact .inr ⟨body, form, h, hform⟩
  · rw [serve_of_answer hrefused.task] at hsent
    exact absurd rfl hsent

end Server

end ChatRelay
