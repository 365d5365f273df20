/-
# Events that are acknowledged and nothing else

An event that is not for the bot is not acted on: nothing is sent for it.  An envelope of
another type than the two that matter is acknowledged, whatever else is in it.  A callback of
another kind than a mention is acknowledged if its text, its user and its channel are strings
where they are there, and it is called malformed if not, although none of them is needed.
-/
import ChatRelay.Proofs.Json.Reading
import ChatRelay.Proofs.Server.Gate
import ChatRelay.Proofs.Server.Refinement
import ChatRelay.Proofs.Slack.Event

namespace ChatRelay.Server

open Json (Source)

/-! ## What is acknowledged -/

/-- An event that is not for the bot is answered, and nothing is sent. -/
structure AcknowledgesOthers (s : Server) (a : Arrival) (served : Served) : Prop where
  /-- An envelope of another type is acknowledged, whatever is in it. -/
  envelope : ∀ body v type, s.Admits a "/slack/events" .json body →
    v.WrittenAs body → Json.keepable Json.maxDepth v = true → v.IsRecord →
    v.textMember? "type" = some type → type ≠ "event_callback" → type ≠ "url_verification" →
    served.response.IsBare 200 ∧ served.sent = []
  /-- A callback of another kind is acknowledged if its fields are texts, and malformed if
  not. -/
  callback : ∀ body v event kind, s.Admits a "/slack/events" .json body →
    v.WrittenAs body → Json.keepable Json.maxDepth v = true → v.IsRecord →
    v.textMember? "type" = some "event_callback" → v.member? "event" = some event →
    event.IsRecord → event.textMember? "type" = some kind → kind ≠ "app_mention" →
    (Slack.HasTextFields event → served.response.IsBare 200) ∧
      (¬ Slack.HasTextFields event →
        served.response.Says 400 "error" "malformed request: invalid event payload") ∧
      served.sent = []

variable {s : Server} {a : Arrival} {body : List UInt8} {v event : Source}

lemma decode?_of_readKept? (hread : Json.readKept? body = some v) :
    Slack.Event.decode? body = Slack.Event.ofJson? v := by
  rw [Slack.Event.decode?, hread, Option.bind_some]

lemma task_of_otherEnvelope {type : String} (hadmits : s.Admits a "/slack/events" .json body)
    (hread : Json.readKept? body = some v) (hv : v.IsRecord)
    (htype : v.textMember? "type" = some type) (hcallback : type ≠ "event_callback")
    (hchallenge : type ≠ "url_verification") :
    s.task a.time a.request = .answer (.empty 200) := by
  rw [task_eq_event hadmits, eventTask, decode?_of_readKept? hread,
    Slack.Event.ofJson?_other hv htype hcallback hchallenge]
  rfl

section

variable {kind : String} (hadmits : s.Admits a "/slack/events" .json body)
  (hread : Json.readKept? body = some v) (hv : v.IsRecord)
  (htype : v.textMember? "type" = some "event_callback") (hevent : v.member? "event" = some event)
  (hrecord : event.IsRecord) (hkind : event.textMember? "type" = some kind)

include hadmits hread hv htype hevent hrecord hkind

lemma task_of_otherKind (hother : kind ≠ "app_mention") (hfields : Slack.HasTextFields event) :
    s.task a.time a.request = .answer (.empty 200) := by
  obtain ⟨c, hc, rfl⟩ := Slack.Callback.ofJson?_of_textFields hrecord hkind hfields
  rw [task_eq_event hadmits, eventTask, decode?_of_readKept? hread,
    Slack.Event.ofJson?_callback hv htype hevent, hc]
  simp [heardTask, hother]

lemma task_of_malformedFields (hfields : ¬ Slack.HasTextFields event) :
    s.task a.time a.request =
      .answer (Failure.ofFault (.malformed "invalid event payload")).response := by
  rw [task_eq_event hadmits, eventTask, decode?_of_readKept? hread,
    Slack.Event.ofJson?_callback hv htype hevent,
    Slack.Callback.ofJson?_of_not_textFields hrecord hkind hfields]
  rfl

end

/-- In every run, events that are not for the bot are answered, and nothing is sent for them. -/
theorem run_acknowledges_others (s : Server) (sc : Scripts) (arrivals : List Arrival)
    (log : List Sent) :
    List.Forall₂ s.AcknowledgesOthers arrivals ((s.run sc arrivals).run log).1 := by
  refine run_forall₂ (fun a log => ⟨?_, ?_⟩) arrivals log
  · intro body v type hadmits hbody hkept hv htype hcallback hchallenge
    have hread := Json.readKept?_eq_some_iff.2 ⟨hbody, hkept⟩
    have htask := task_of_otherEnvelope hadmits hread hv htype hcallback hchallenge
    rw [serve_of_answer htask]
    exact ⟨Response.isBare_empty 200, rfl⟩
  · intro body v event kind hadmits hbody hkept hv htype hevent hrecord hkind hother
    have hread := Json.readKept?_eq_some_iff.2 ⟨hbody, hkept⟩
    by_cases hfields : Slack.HasTextFields event
    · have htask := task_of_otherKind hadmits hread hv htype hevent hrecord hkind hother hfields
      rw [serve_of_answer htask]
      exact ⟨fun _ => Response.isBare_empty 200, fun h => absurd hfields h, rfl⟩
    · have htask := task_of_malformedFields hadmits hread hv htype hevent hrecord hkind hfields
      rw [serve_of_answer htask]
      exact ⟨fun h => absurd h hfields, fun _ => Response.says_ofJson 400 "error" _, rfl⟩

/-! ## An event that is called malformed -/

/-- A literal between two quotes. -/
def literal (text : String) : List UInt8 := Text.Utf8.bytes text

/-- The event that somebody joins: its user is an object. -/
def joinEvent : Source :=
  .object [(literal "type", .text (literal "team_join")),
    (literal "user", .object [(literal "id", .text (literal "U1"))])]

/-- The envelope of this event. -/
def joinEnvelope : Source :=
  .object [(literal "token", .text (literal "t")),
    (literal "type", .text (literal "event_callback")), (literal "event", joinEvent)]

/-- The envelope as it is sent. -/
def joinBody : List UInt8 :=
  Text.Utf8.bytes ("\x7b\"token\":\"t\",\"type\":\"event_callback\"," ++
    "\"event\":\x7b\"type\":\"team_join\",\"user\":\x7b\"id\":\"U1\"\x7d\x7d\x7d")

/-- The request with this event. -/
def joinArrival : Arrival := ⟨0, ⟨"POST", "/slack/events", [], some joinBody⟩⟩

lemma tokens?_joinBody : Json.tokens? joinBody =
    some [.openBrace, .text (literal "token"), .colon, .text (literal "t"), .comma,
      .text (literal "type"), .colon, .text (literal "event_callback"), .comma,
      .text (literal "event"), .colon, .openBrace, .text (literal "type"), .colon,
      .text (literal "team_join"), .comma, .text (literal "user"), .colon, .openBrace,
      .text (literal "id"), .colon, .text (literal "U1"), .closeBrace, .closeBrace,
      .closeBrace] := by
  decide +kernel

lemma readKept?_joinBody : Json.readKept? joinBody = some joinEnvelope := by
  have hread : Json.read? joinBody = some joinEnvelope := by
    rw [Json.read?, tokens?_joinBody]
    rfl
  have hkept : Json.keepable Json.maxDepth joinEnvelope = true := by decide +kernel
  rw [Json.readKept?, hread, Option.filter_some, if_pos hkept]

lemma joinEnvelope_isRecord : joinEnvelope.IsRecord := by
  constructor
  · decide +kernel
  · decide +kernel

lemma joinEvent_isRecord : joinEvent.IsRecord := by
  constructor
  · decide +kernel
  · decide +kernel

lemma not_hasTextFields_joinEvent : ¬ Slack.HasTextFields joinEvent := by
  intro hfields
  have huser : joinEvent.member? "user" =
      some (.object [(literal "id", .text (literal "U1"))]) := by
    rfl
  exact absurd (hfields "user" (by decide) _ huser) (by decide)

lemma admits_joinArrival :
    (loopbackServer "o").Admits joinArrival "/slack/events" .json joinBody where
  method := rfl
  path := by decide +kernel
  content := rfl
  size := by decide +kernel
  accepted := by
    refine ⟨none, none, fun _ h => ?_, fun _ h => ?_, ?_⟩
    · cases h
    · cases h
    · show Verifier.checkToken "t" ⟨none, none, joinBody, .json⟩ = .ok ()
      rw [Verifier.checkToken, Verifier.bodyToken]
      simp only [readKept?_joinBody]
      rfl

/-- An event of another kind is not acknowledged, because its user is no string. -/
theorem join_called_malformed :
    (loopbackServer "o").Admits joinArrival "/slack/events" .json joinBody ∧
    joinEnvelope.WrittenAs joinBody ∧ Json.keepable Json.maxDepth joinEnvelope = true ∧
    joinEnvelope.IsRecord ∧
    joinEnvelope.textMember? "type" = some "event_callback" ∧
    joinEnvelope.member? "event" = some joinEvent ∧ joinEvent.IsRecord ∧
    joinEvent.textMember? "type" = some "team_join" ∧
    (((loopbackServer "o").run acceptingScripts [joinArrival]).run []).1.map
      (fun served => served.response.status) = [400] := by
  have htype : joinEnvelope.textMember? "type" = some "event_callback" := by decide +kernel
  have hevent : joinEnvelope.member? "event" = some joinEvent := rfl
  have hkind : joinEvent.textMember? "type" = some "team_join" := by decide +kernel
  obtain ⟨hbody, hkept⟩ := Json.readKept?_eq_some_iff.1 readKept?_joinBody
  refine ⟨admits_joinArrival, hbody, hkept, joinEnvelope_isRecord, htype, hevent,
    joinEvent_isRecord, hkind, ?_⟩
  have htask := task_of_malformedFields admits_joinArrival readKept?_joinBody
    joinEnvelope_isRecord htype hevent joinEvent_isRecord hkind not_hasTextFields_joinEvent
  rw [run_cons, run_nil, List.map_singleton, serve_of_answer htask]
  rfl

end ChatRelay.Server
