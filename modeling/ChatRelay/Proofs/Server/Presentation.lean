/-
# Events that are presented differently

The server decides about an admitted event by what is read from its body.  So two bodies that
present the same envelope lead to the same answer and to the same requests to the services,
wherever the members stand, however their literals are spelled, and whatever else is sent along.
-/
import ChatRelay.Proofs.Json.Reading
import ChatRelay.Proofs.Server.Gate
import ChatRelay.Proofs.Server.Refinement
import ChatRelay.Proofs.Slack.Presentation

namespace ChatRelay.Server

open Json (Source)
open Text.Utf8 (bytes)

/-! ## The same event in two requests -/

/-- Two requests are the same, or both are admitted as events, both for the first time or both
again, and their bodies present the same envelope. -/
inductive PresentsSame (s : Server) (a a' : Arrival) : Prop
  | same : a = a' → PresentsSame s a a'
  /-- They present the same envelope. -/
  | events {body body' : List UInt8} {v v' : Source} :
      s.Admits a "/slack/events" .json body → s.Admits a' "/slack/events" .json body' →
      a.request.hasHeader retryHeader = a'.request.hasHeader retryHeader →
      v.WrittenAs body → v'.WrittenAs body' → Slack.SameEnvelope v v' → PresentsSame s a a'

variable {s : Server} {sc : Scripts} {a a' : Arrival}

/-- Bodies that present the same envelope are read as the same event, or neither is read. -/
lemma decode?_eq {body body' : List UInt8} {v v' : Source} (hbody : v.WrittenAs body)
    (hbody' : v'.WrittenAs body') (h : Slack.SameEnvelope v v') :
    Slack.Event.decode? body = Slack.Event.decode? body' := by
  rw [Slack.Event.decode?, Slack.Event.decode?, Json.readKept?, Json.readKept?,
    Json.read?_eq_some_iff.2 hbody, Json.read?_eq_some_iff.2 hbody', Option.filter_some,
    Option.filter_some, h.keepable_eq]
  split
  · exact h.ofJson?_eq
  · rfl

lemma PresentsSame.task_eq (h : s.PresentsSame a a') :
    s.task a.time a.request = s.task a'.time a'.request := by
  cases h with
  | same h => rw [h]
  | events hadmits hadmits' hretry hbody hbody' hsame =>
    rw [task_eq_event hadmits, task_eq_event hadmits', hretry, eventTask, eventTask,
      decode?_eq hbody hbody' hsame]

/-- A step of two runs: with the same to be done, the same is answered and sent. -/
lemma serve_eq_of_task_eq (h : s.task a.time a.request = s.task a'.time a'.request)
    (log : List Sent) : (s.serve sc a).run log = (s.serve sc a').run log := by
  rw [serve_eq, serve_eq, handle_eq, handle_eq, h]

/-- In every run, what is answered and what is sent to the services depends on the envelopes of
admitted events, and not on how they are presented. -/
theorem run_independent_of_presentation (s : Server) (sc : Scripts)
    {arrivals arrivals' : List Arrival}
    (h : List.Forall₂ s.PresentsSame arrivals arrivals') (log : List Sent) :
    (s.run sc arrivals).run log = (s.run sc arrivals').run log := by
  induction h generalizing log with
  | nil => rfl
  | cons hfirst _ ih => rw [run_cons, run_cons, serve_eq_of_task_eq hfirst.task_eq, ih]

/-! ## A mention that is written in two ways -/

/-- The event of a mention. -/
def plainMention : Source :=
  .object [(bytes "type", .text (bytes "app_mention")), (bytes "channel", .text (bytes "C"))]

/-- Its envelope, with the type in front. -/
def plainEnvelope : Source :=
  .object [(bytes "type", .text (bytes "event_callback")), (bytes "event", plainMention),
    (bytes "token", .text (bytes "t"))]

/-- This envelope as it is sent. -/
def plainBody : List UInt8 :=
  bytes ("\x7b\"type\":\"event_callback\",\"event\":\x7b\"type\":\"app_mention\"," ++
    "\"channel\":\"C\"\x7d,\"token\":\"t\"\x7d")

/-- The same mention, with a timestamp and an escape. -/
def stampedMention : Source :=
  .object [(bytes "ts", .number ⟨false, ['1'], ['5'], none⟩),
    (bytes "channel", .text (bytes "\\u0043")), (bytes "type", .text (bytes "app_mention"))]

/-- Its envelope, with more in it, and with the type at the end. -/
def stampedEnvelope : Source :=
  .object [(bytes "token", .text (bytes "t")), (bytes "event", stampedMention),
    (bytes "users", .array [.null]), (bytes "type", .text (bytes "event_callback"))]

/-- This envelope as it is sent. -/
def stampedBody : List UInt8 :=
  bytes ("\x7b\"token\": \"t\", \"event\": \x7b\"ts\":1.5,\"channel\":\"\\u0043\"," ++
    "\"type\":\"app_mention\"\x7d,\n\"users\":[null],\"type\":\"event_callback\"\x7d")

/-- A request with an event. -/
def eventArrival (body : List UInt8) : Arrival := ⟨0, ⟨"POST", "/slack/events", [], some body⟩⟩

lemma hasHeader_eventArrival (body : List UInt8) :
    (eventArrival body).request.hasHeader retryHeader = false := rfl

lemma read?_plainBody : Json.read? plainBody = some plainEnvelope := by
  have htokens : Json.tokens? plainBody = some plainEnvelope.tokens := by decide +kernel
  rw [Json.read?, htokens]
  rfl

lemma read?_stampedBody : Json.read? stampedBody = some stampedEnvelope := by
  have htokens : Json.tokens? stampedBody = some stampedEnvelope.tokens := by decide +kernel
  rw [Json.read?, htokens]
  rfl

/-- The members of the mention that are read are the same texts. -/
lemma sameCallback_stamped : Slack.SameCallback plainMention stampedMention := by
  have htype : Json.textOf? (bytes "app_mention") = Json.textOf? (bytes "app_mention") := rfl
  have hchannel : Json.textOf? (bytes "C") = Json.textOf? (bytes "\\u0043") := by decide +kernel
  refine .record ⟨by decide +kernel, by decide +kernel⟩ ⟨by decide +kernel, by decide +kernel⟩ ?_
    (Source.othersKept_of_keepable (by decide +kernel))
    (Source.othersKept_of_keepable (by decide +kernel))
  simp only [Slack.callbackNames, List.forall_mem_cons]
  exact ⟨.some (.text htype), .none, .none, .some (.text hchannel), by simp⟩

/-- So are those of the envelope, and the mention stands in both. -/
lemma sameEnvelope_stamped : Slack.SameEnvelope plainEnvelope stampedEnvelope := by
  refine .record ⟨by decide +kernel, by decide +kernel⟩ ⟨by decide +kernel, by decide +kernel⟩ ?_
    (.some sameCallback_stamped) (Source.othersKept_of_keepable (by decide +kernel))
    (Source.othersKept_of_keepable (by decide +kernel))
  simp only [List.forall_mem_cons]
  exact ⟨.some (.text rfl), .none, .some (.text rfl), by simp⟩

lemma admits_eventArrival {body : List UInt8} {v : Source} (hsize : body.length ≤ 1048576)
    (hread : Json.readKept? body = some v) (htoken : Verifier.jsonToken v = "t") :
    (loopbackServer "o").Admits (eventArrival body) "/slack/events" .json body where
  method := rfl
  path := by
    simp only [InboundRequest.path, eventArrival]
    decide +kernel
  content := rfl
  size := hsize
  accepted := by
    refine ⟨none, none, fun _ h => ?_, fun _ h => ?_, ?_⟩
    · cases h
    · cases h
    · show Verifier.checkToken "t" ⟨none, none, body, .json⟩ = .ok ()
      rw [Verifier.checkToken, Verifier.bodyToken]
      simp only [hread, htoken]
      rfl

/-- A mention and the same one in another presentation, with the type at its end. -/
theorem run_independent_of_presentation_stamped :
    List.Forall₂ (loopbackServer "o").PresentsSame [eventArrival plainBody]
        [eventArrival stampedBody] ∧
      ((loopbackServer "o").run acceptingScripts [eventArrival plainBody]).run [] =
        ((loopbackServer "o").run acceptingScripts [eventArrival stampedBody]).run [] := by
  have hkept : Json.keepable Json.maxDepth plainEnvelope = true := by decide +kernel
  have hkept' : Json.keepable Json.maxDepth stampedEnvelope = true := by decide +kernel
  have hread : Json.readKept? plainBody = some plainEnvelope := by
    rw [Json.readKept?, read?_plainBody, Option.filter_some, if_pos hkept]
  have hread' : Json.readKept? stampedBody = some stampedEnvelope := by
    rw [Json.readKept?, read?_stampedBody, Option.filter_some, if_pos hkept']
  have hsame : (loopbackServer "o").PresentsSame (eventArrival plainBody)
      (eventArrival stampedBody) :=
    .events (admits_eventArrival (by decide +kernel) hread (by decide +kernel))
      (admits_eventArrival (by decide +kernel) hread' (by decide +kernel))
      ((hasHeader_eventArrival plainBody).trans (hasHeader_eventArrival stampedBody).symm)
      (Json.read?_eq_some_iff.1 read?_plainBody) (Json.read?_eq_some_iff.1 read?_stampedBody)
      sameEnvelope_stamped
  exact ⟨.cons hsame .nil,
    run_independent_of_presentation (loopbackServer "o") acceptingScripts (.cons hsame .nil) []⟩

end ChatRelay.Server
