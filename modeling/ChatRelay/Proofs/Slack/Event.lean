/-
# Events that are not for the relay

An envelope of another type than the two that matter is read as such, whatever else is in it.
A callback is read if its kind is a string, and so is every one of the three fields that is
there; whether the kind is one that the relay acts on makes no difference to this.
-/
import ChatRelay.Proofs.Json.Member
import ChatRelay.Slack.Event

namespace ChatRelay.Slack

open Json (Source)

variable {v event : Source} {type kind : String}

/-! ## Callbacks -/

/-- The fields of a callback that may be missing are strings where they are there. -/
def HasTextFields (event : Source) : Prop :=
  ∀ name ∈ ["text", "user", "channel"], ∀ w, event.member? name = some w → w.text?.isSome

lemma isSome_orElse_text? {field : Option Source} :
    (Source.orElse Source.text? "" field).isSome ↔ ∀ w, field = some w → w.text?.isSome := by
  cases field with
  | none => simp [Source.orElse]
  | some w => simp [Source.orElse]

namespace Callback

/-- The fields of a callback are read one by one. -/
lemma ofJson?_eq (hevent : event.IsRecord) (hkind : event.textMember? "type" = some kind) :
    ofJson? event = do
      let text ← Source.orElse Source.text? "" (event.member? "text")
      let user ← Source.orElse Source.text? "" (event.member? "user")
      let channel ← Source.orElse Source.text? "" (event.member? "channel")
      return ⟨kind, text, user, channel⟩ := by
  have hrequired : Source.required Source.text? (event.member? "type") = some kind := hkind
  simp only [ofJson?, Source.fields?_eq hevent, List.map_cons, List.map_nil,
    Option.bind_eq_bind, Option.bind_some, hrequired]

lemma ofJson?_of_textFields (hevent : event.IsRecord)
    (hkind : event.textMember? "type" = some kind) (hfields : HasTextFields event) :
    ∃ c, ofJson? event = some c ∧ c.kind = kind := by
  simp only [HasTextFields, List.forall_mem_cons, ← isSome_orElse_text?] at hfields
  obtain ⟨htext, huser, hchannel, -⟩ := hfields
  obtain ⟨text, htext⟩ := Option.isSome_iff_exists.1 htext
  obtain ⟨user, huser⟩ := Option.isSome_iff_exists.1 huser
  obtain ⟨channel, hchannel⟩ := Option.isSome_iff_exists.1 hchannel
  refine ⟨⟨kind, text, user, channel⟩, ?_, rfl⟩
  rw [ofJson?_eq hevent hkind, htext, huser, hchannel]
  rfl

lemma ofJson?_of_not_textFields (hevent : event.IsRecord)
    (hkind : event.textMember? "type" = some kind) (hfields : ¬ HasTextFields event) :
    ofJson? event = none := by
  rw [Option.eq_none_iff_forall_ne_some]
  rintro c hc
  -- a callback that is read has had all its fields read
  apply hfields
  rw [ofJson?_eq hevent hkind] at hc
  obtain ⟨text, htext, hc⟩ := Option.bind_eq_some_iff.1 hc
  obtain ⟨user, huser, hc⟩ := Option.bind_eq_some_iff.1 hc
  obtain ⟨channel, hchannel, -⟩ := Option.bind_eq_some_iff.1 hc
  simp only [HasTextFields, List.forall_mem_cons, ← isSome_orElse_text?]
  exact ⟨Option.isSome_of_eq_some htext, Option.isSome_of_eq_some huser,
    Option.isSome_of_eq_some hchannel, fun _ h => by cases h⟩

end Callback

/-! ## Envelopes -/

namespace Event

/-- The type of an envelope is taken out of it wherever it stands. -/
lemma envelope?_eq (hv : v.IsRecord) (htype : v.textMember? "type" = some type) :
    ∃ content, envelope? v = some (type, content) ∧ content.IsRecord ∧
      isOverlong content = false ∧
      ∀ name, name ≠ "type" → content.member? name = v.member? name := by
  cases v with
  | object ms =>
    obtain ⟨w, hw, htext⟩ := Option.bind_eq_some_iff.1 htype
    obtain ⟨k, hfilter⟩ := Source.filter_isNamed hv.2 hw
    refine ⟨_, ?_, Source.isRecord_filter hv fun m => !Source.isNamed "type" m, rfl,
      fun name hname => Source.member?_filter_not hname⟩
    have hfilter' : ms.filter (fun m => Json.textOf? m.1 == some "type") = [(k, w)] := hfilter
    simp only [envelope?, hfilter', htext, Option.map_some]
    rfl
  | _ => exact hv.elim

/-- An envelope of another type than the two that matter is read as such. -/
lemma ofJson?_other (hv : v.IsRecord) (htype : v.textMember? "type" = some type)
    (hcallback : type ≠ "event_callback") (hchallenge : type ≠ "url_verification") :
    ofJson? v = some .other := by
  obtain ⟨content, henvelope, -, hshort, -⟩ := envelope?_eq hv htype
  simp [ofJson?, henvelope, hcallback, hchallenge, hshort]

/-- A callback is read from the member for it. -/
lemma ofJson?_callback (hv : v.IsRecord) (htype : v.textMember? "type" = some "event_callback")
    (hevent : v.member? "event" = some event) :
    ofJson? v = (Callback.ofJson? event).map .callback := by
  obtain ⟨content, henvelope, hcontent, -, hmember⟩ := envelope?_eq hv htype
  have hfields : content.fields? ["event"] = some [some event] := by
    rw [Source.fields?_eq hcontent, List.map_singleton, hmember "event" (by decide), hevent]
  have hne : "event_callback" ≠ "url_verification" := by decide
  simp only [ofJson?, henvelope, hne, hfields, Option.bind_eq_bind, Option.bind_some, if_false,
    if_true, Source.required]

end Event

end ChatRelay.Slack
