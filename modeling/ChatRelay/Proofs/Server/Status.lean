/-
# What posts are answered with

A request that is posted to one of the two routes is refused for its size, refused for a fault,
or served.  There are seven kinds of faults, but only two of them come up on the way: what the
verifier refuses is malformed or fails the verification, and what cannot be read behind it is
malformed.  What the services do comes after that, and it never shows in the status.  So the
answer never says that the server is at fault.
-/
import ChatRelay.Proofs.Server.Refinement

namespace ChatRelay

/-- The route that takes bodies of a format. -/
def BodyFormat.route : BodyFormat → String
  | form => "/slack/commands"
  | json => "/slack/events"

namespace Server

/-! ## Faults -/

/-- A body that has been accepted cannot be read on its route. -/
inductive Unreadable : BodyFormat → List UInt8 → Fault → Prop
  | event {body : List UInt8} : Slack.Event.decode? body = none →
      Unreadable .json body (.malformed "invalid event payload")
  | form {body : List UInt8} {fault : Form.Fault} : Form.decode body = .error fault →
      Unreadable .form body (.malformed fault.message)

/-- What the verifier says to a body that is posted. -/
def verdict (s : Server) (a : Arrival) (format : BodyFormat) (body : List UInt8) :
    Except Refusal Unit :=
  s.verifier.verify (signedRequest a.request body format) a.time

/-- A body that is posted has a fault: the verifier refuses it for this fault, or it accepts the
body, which then cannot be read. -/
inductive HasFault (s : Server) (a : Arrival) (format : BodyFormat) (body : List UInt8) :
    Fault → Prop
  | refused {refusal : Refusal} : s.verdict a format body = .error refusal →
      HasFault s a format body refusal.fault
  | unreadable {fault : Fault} : s.verdict a format body = .ok () →
      Unreadable format body fault → HasFault s a format body fault

/-- An answer says what is wrong with a body: that it is malformed, or that it fails the
verification, and why. -/
inductive SaysFault (response : Response) : Fault → Prop
  | malformed {reason : String} :
      response.Says 400 "error" ("malformed request: " ++ reason) →
      SaysFault response (.malformed reason)
  | unverified {reason : String} :
      response.Says 401 "error" ("request verification failed: " ++ reason) →
      SaysFault response (.verification reason)

/-- The answer to a body that is posted. -/
structure AnswersBody (s : Server) (a : Arrival) (format : BodyFormat) (body : List UInt8)
    (response : Response) : Prop where
  status : response.status = 200 ∨ response.status = 400 ∨ response.status = 401 ∨
    response.status = 413
  /-- One is for bodies of more than one mebibyte. -/
  tooLong : response.status = 413 ↔ 1048576 < body.length
  /-- One is for other bodies that fail the verification. -/
  unverified : body.length ≤ 1048576 → (response.status = 401 ↔
    ∃ refusal reason, s.verdict a format body = .error refusal ∧
      refusal.fault = .verification reason)
  /-- One is for other bodies that are malformed, as the verifier or the reader says. -/
  malformed : body.length ≤ 1048576 → (response.status = 400 ↔
    ∃ reason, s.HasFault a format body (.malformed reason))
  /-- What is wrong with these bodies is said in the answer. -/
  message : body.length ≤ 1048576 → ∀ fault, s.HasFault a format body fault →
    SaysFault response fault

/-- Requests that are posted are answered without fault of the server, and if all of their content
arrives, as it deserves. -/
structure AnswersPost (s : Server) (a : Arrival) (response : Response) : Prop where
  /-- No request that is posted is answered with an error of the server. -/
  noServerError : ∀ format : BodyFormat, a.request.method = "POST" →
    a.request.path = format.route → response.status < 500
  /-- Content is answered by what it is. -/
  body : ∀ (format : BodyFormat) (body : List UInt8), a.request.method = "POST" →
    a.request.path = format.route → a.request.body = some body →
    s.AnswersBody a format body response

variable {s : Server} {a : Arrival} {format : BodyFormat} {body : List UInt8}
  {fault fault' : Fault}

lemma Unreadable.unique (h : Unreadable format body fault) (h' : Unreadable format body fault') :
    fault = fault' := by
  cases h with
  | event =>
    cases h'
    rfl
  | form hform =>
    cases h' with
    | form hform' =>
      cases hform.symm.trans hform'
      rfl

lemma HasFault.unique (h : s.HasFault a format body fault) (h' : s.HasFault a format body fault') :
    fault = fault' := by
  cases h with
  | refused hrefused =>
    cases h' with
    | refused hrefused' =>
      cases hrefused.symm.trans hrefused'
      rfl
    | unreadable haccepted _ => cases hrefused.symm.trans haccepted
  | unreadable haccepted hread =>
    cases h' with
    | refused hrefused => cases hrefused.symm.trans haccepted
    | unreadable _ hread' => exact hread.unique hread'

/-- Of all kinds of faults two come up, and one of them with the verifier alone. -/
lemma HasFault.kind (h : s.HasFault a format body fault) :
    (∃ reason, fault = .malformed reason) ∨
      ∃ refusal reason, s.verdict a format body = .error refusal ∧
        refusal.fault = .verification reason ∧ fault = .verification reason := by
  cases h with
  | unreadable _ hread =>
    cases hread with
    | event _ => exact .inl ⟨_, rfl⟩
    | form _ => exact .inl ⟨_, rfl⟩
  | @refused refusal hrefused =>
    cases hfault : refusal.fault with
    | malformed reason => exact .inl ⟨reason, rfl⟩
    | verification reason => exact .inr ⟨refusal, reason, hrefused, hfault, rfl⟩
    -- no cause to refuse a request is a fault of another kind
    | _ => cases refusal <;> exact absurd hfault nofun

lemma HasFault.unverified_iff (h : s.HasFault a format body fault) :
    (∃ refusal reason, s.verdict a format body = .error refusal ∧
      refusal.fault = .verification reason) ↔ ∃ reason, fault = .verification reason := by
  constructor
  · rintro ⟨refusal, reason, hrefused, hrefusal⟩
    exact ⟨reason, (h.unique (.refused hrefused)).trans hrefusal⟩
  · rintro ⟨reason, hreason⟩
    -- what cannot be read is malformed, so it was the verifier
    rcases h.kind with ⟨reason', hmalformed⟩ | ⟨refusal, reason', hrefused, hrefusal, -⟩
    · cases hreason.symm.trans hmalformed
    · exact ⟨refusal, reason', hrefused, hrefusal⟩

lemma HasFault.malformed_iff (h : s.HasFault a format body fault) :
    (∃ reason, s.HasFault a format body (.malformed reason)) ↔
      ∃ reason, fault = .malformed reason := by
  constructor
  · rintro ⟨reason, h'⟩
    exact ⟨reason, h.unique h'⟩
  · rintro ⟨reason, rfl⟩
    exact ⟨reason, h⟩

lemma status_eq_401_iff (fault : Fault) :
    (Failure.ofFault fault).response.status = 401 ↔ ∃ reason, fault = .verification reason := by
  cases fault <;> simp [Failure.response, Response.ofJson, Failure.status, Failure.ofFault]

lemma status_eq_400_iff (fault : Fault) :
    (Failure.ofFault fault).response.status = 400 ↔ ∃ reason, fault = .malformed reason := by
  cases fault <;> simp [Failure.response, Response.ofJson, Failure.status, Failure.ofFault]

/-- The answer to a fault that comes up says what it is. -/
lemma HasFault.saysFault (h : s.HasFault a format body fault) :
    SaysFault (Failure.ofFault fault).response fault := by
  rcases h.kind with ⟨reason, rfl⟩ | ⟨_, reason, -, -, rfl⟩
  · exact .malformed (Response.says_ofJson 400 "error" ("malformed request: " ++ reason))
  · exact .unverified
      (Response.says_ofJson 401 "error" ("request verification failed: " ++ reason))

/-! ## What is said of a body

Of a body that is too long, of one with a fault, and of one that is served, all that is said of
the answer is true.
-/

namespace AnswersBody

variable {response : Response}

lemma of_tooLong (hlong : 1048576 < body.length) (hstatus : response.status = 413) :
    s.AnswersBody a format body response where
  status := .inr (.inr (.inr hstatus))
  tooLong := iff_of_true hstatus hlong
  unverified hle := absurd hlong (Nat.not_lt.2 hle)
  malformed hle := absurd hlong (Nat.not_lt.2 hle)
  message hle := absurd hlong (Nat.not_lt.2 hle)

lemma of_fault (hle : body.length ≤ 1048576) (h : s.HasFault a format body fault) :
    s.AnswersBody a format body (Failure.ofFault fault).response := by
  have hstatus : (Failure.ofFault fault).response.status = 400 ∨
      (Failure.ofFault fault).response.status = 401 := by
    rcases h.kind with ⟨reason, hmalformed⟩ | ⟨_, reason, -, -, hunverified⟩
    · exact .inl ((status_eq_400_iff fault).2 ⟨reason, hmalformed⟩)
    · exact .inr ((status_eq_401_iff fault).2 ⟨reason, hunverified⟩)
  refine ⟨by omega, iff_of_false (by omega) (Nat.not_lt.2 hle),
    fun _ => (status_eq_401_iff fault).trans h.unverified_iff.symm,
    fun _ => (status_eq_400_iff fault).trans h.malformed_iff.symm, fun _ fault' h' => ?_⟩
  cases h.unique h'
  exact h.saysFault

lemma of_served (hle : body.length ≤ 1048576) (hnone : ∀ fault, ¬ s.HasFault a format body fault)
    (hstatus : response.status = 200) : s.AnswersBody a format body response where
  status := .inl hstatus
  tooLong := iff_of_false (by omega) (Nat.not_lt.2 hle)
  unverified _ := by
    refine iff_of_false (by omega) ?_
    rintro ⟨refusal, reason, hrefused, -⟩
    exact hnone _ (.refused hrefused)
  malformed _ := by
    refine iff_of_false (by omega) ?_
    rintro ⟨reason, hfault⟩
    exact hnone _ hfault
  message _ fault hfault := absurd hfault (hnone fault)

end AnswersBody

/-! ## What is done with content -/

/-- What is left to do for content that has been accepted. -/
def contentTask (a : Arrival) : BodyFormat → List UInt8 → Task
  | .form => commandTask
  | .json => eventTask (a.request.hasHeader retryHeader)

lemma task_of_post (hmethod : a.request.method = "POST") (hpath : a.request.path = format.route) :
    s.task a.time a.request = s.received a.time a.request format (contentTask a format) := by
  cases format with
  | form => rw [task_of_command hpath, if_pos hmethod, contentTask]
  | json => rw [task_of_event hpath, if_pos hmethod, contentTask]

/-- Something is served: if its answer is known, it is no error. -/
def IsServed : Task → Prop
  | .answer response => response.status = 200
  | .mention _ => True
  | .command _ => True

lemma heardTask_isServed (redelivered : Bool) (event : Slack.Event) :
    IsServed (heardTask redelivered event) := by
  cases event with
  | challenge text => rfl
  | other => rfl
  | callback c =>
    rw [heardTask]
    split
    · trivial
    · rfl

/-- Content that has been accepted is served, or it cannot be read and this is what is said. -/
lemma contentTask_cases (a : Arrival) (format : BodyFormat) (body : List UInt8) :
    (∃ fault, Unreadable format body fault ∧
      contentTask a format body = .answer (Failure.ofFault fault).response) ∨
    ((∀ fault, ¬ Unreadable format body fault) ∧ IsServed (contentTask a format body)) := by
  cases format with
  | form =>
    rw [contentTask, commandTask]
    cases hform : Form.decode body with
    | error fault => exact .inl ⟨_, .form hform, rfl⟩
    | ok form =>
      refine .inr ⟨fun fault hread => ?_, trivial⟩
      cases hread with
      | form hform' => cases hform.symm.trans hform'
  | json =>
    rw [contentTask, eventTask]
    cases hevent : Slack.Event.decode? body with
    | none => exact .inl ⟨_, .event hevent, rfl⟩
    | some event =>
      refine .inr ⟨fun fault hread => ?_, heardTask_isServed _ event⟩
      cases hread with
      | event hevent' => cases hevent.symm.trans hevent'

/-- What is served is answered without error, whatever the services do. -/
lemma status_of_isServed (sc : Scripts) (h : IsServed (s.task a.time a.request))
    (log : List Sent) :
    ((s.serve sc a).run log).1.response.status = 200 := by
  cases htask : s.task a.time a.request with
  | answer response =>
    rw [htask] at h
    rw [serve_of_answer htask]
    exact h
  | mention c =>
    rw [response_of_mention htask]
    rfl
  | command form =>
    obtain ⟨reply, hresponse⟩ := response_of_command sc htask log
    rw [hresponse]
    rfl

/-! ## Answers -/

section

variable (hmethod : a.request.method = "POST") (hpath : a.request.path = format.route)
  (hbody : a.request.body = some body)

include hmethod hpath hbody

/-- Content that is posted is too long, has a fault, or is served; of these the first that applies
decides. -/
lemma answer_cases (sc : Scripts) (log : List Sent) :
    (1048576 < body.length ∧ ((s.serve sc a).run log).1.response.status = 413) ∨
    (body.length ≤ 1048576 ∧ ∃ fault, s.HasFault a format body fault ∧
      ((s.serve sc a).run log).1.response = (Failure.ofFault fault).response) ∨
    (body.length ≤ 1048576 ∧ (∀ fault, ¬ s.HasFault a format body fault) ∧
      ((s.serve sc a).run log).1.response.status = 200) := by
  have htask := task_of_post (s := s) hmethod hpath
  rw [received, hbody] at htask
  -- the size comes before the verifier, and the verifier before the reader
  by_cases hsize : maxBodySize < body.length
  · simp only [hsize, if_true] at htask
    refine .inl ⟨hsize, ?_⟩
    rw [serve_of_answer htask]
    rfl
  · simp only [hsize, if_false] at htask
    have hle : body.length ≤ 1048576 := Nat.not_lt.1 hsize
    refine .inr ?_
    cases hverdict : s.verdict a format body with
    | error refusal =>
      rw [verdict] at hverdict
      simp only [hverdict] at htask
      refine .inl ⟨hle, refusal.fault, .refused hverdict, ?_⟩
      rw [serve_of_answer htask]
    | ok _ =>
      have haccepted := hverdict
      rw [verdict] at hverdict
      simp only [hverdict] at htask
      rcases contentTask_cases a format body with ⟨fault, hread, hcontent⟩ | ⟨hread, hserved⟩
      · refine .inl ⟨hle, fault, .unreadable haccepted hread, ?_⟩
        rw [serve_of_answer (htask.trans hcontent)]
      · refine .inr ⟨hle, fun fault hfault => ?_, ?_⟩
        · cases hfault with
          | refused hrefused => cases haccepted.symm.trans hrefused
          | unreadable _ hread' => exact hread fault hread'
        · exact status_of_isServed sc (htask ▸ hserved) log

lemma answersBody (sc : Scripts) (log : List Sent) :
    s.AnswersBody a format body ((s.serve sc a).run log).1.response := by
  generalize hresponse : ((s.serve sc a).run log).1.response = response
  have hcases := answer_cases (s := s) hmethod hpath hbody sc log
  rw [hresponse] at hcases
  rcases hcases with ⟨hlong, h413⟩ | ⟨hle, fault, hfault, rfl⟩ | ⟨hle, hnone, h200⟩
  · exact .of_tooLong hlong h413
  · exact .of_fault hle hfault
  · exact .of_served hle hnone h200

end

/-- No request that is posted to a route is answered with an error of the server, not even one
whose content never ends. -/
lemma status_lt_of_post (hmethod : a.request.method = "POST")
    (hpath : a.request.path = format.route) (sc : Scripts) (log : List Sent) :
    ((s.serve sc a).run log).1.response.status < 500 := by
  cases hbody : a.request.body with
  | none =>
    have htask := task_of_post (s := s) hmethod hpath
    rw [received, hbody] at htask
    rw [serve_of_answer htask]
    exact (by decide : 408 < 500)
  | some body =>
    have := (answersBody (s := s) hmethod hpath hbody sc log).status
    omega

/-- In every run, with every script of the services and whatever was sent before, requests that
are posted to a route are answered as they deserve. -/
theorem run_answers_posts (s : Server) (sc : Scripts) (arrivals : List Arrival) (log : List Sent) :
    List.Forall₂ (fun a served => s.AnswersPost a served.response) arrivals
      ((s.run sc arrivals).run log).1 :=
  run_forall₂ (fun _ log =>
    ⟨fun _ hmethod hpath => status_lt_of_post hmethod hpath sc log,
      fun _ _ hmethod hpath hbody => answersBody hmethod hpath hbody sc log⟩) arrivals log

end Server

end ChatRelay
