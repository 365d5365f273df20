/-
# Events up to their presentation

The type of an envelope may stand anywhere in it, and so may all the others of its members.
What is read from an envelope depends on its type, its challenge and its event, and of the
event on four members.  What else there is at these two levels makes no difference, as long as
it could be kept.
-/
import ChatRelay.Proofs.Json.Same
import ChatRelay.Proofs.Slack.Event

namespace ChatRelay.Slack

open Json (Source)

/-! ## The same event -/

/-- The members that are read from an event. -/
def callbackNames : List String := ["type", "text", "user", "channel"]

/-- The members that are read from an envelope. -/
def envelopeNames : List String := ["type", "challenge", "event", "token"]

/-- Two values in an envelope present the same event.  If they are objects, this depends on the
members that are read, and the others could be kept. -/
inductive SameCallback (v v' : Source) : Prop
  | value : (∀ ms, v ≠ .object ms) → v.Same v' → SameCallback v v'
  /-- They are objects with the same members to be read. -/
  | record : v.IsRecord → v'.IsRecord →
      (∀ name ∈ callbackNames, Option.Rel Source.Same (v.member? name) (v'.member? name)) →
      v.OthersKept (Json.maxDepth - 2) callbackNames →
      v'.OthersKept (Json.maxDepth - 2) callbackNames → SameCallback v v'

/-- Two documents present the same envelope.  If they are objects, this depends on the members
that are read, and the others could be kept. -/
inductive SameEnvelope (v v' : Source) : Prop
  /-- They are neither objects nor arrays, and the same. -/
  | value : (∀ ms, v ≠ .object ms) → (∀ items, v ≠ .array items) → v.Same v' → SameEnvelope v v'
  /-- They are arrays with the same fields. -/
  | array {items items' : List Source} : v = .array items → v' = .array items' →
      List.Forall₂ SameCallback items items' → SameEnvelope v v'
  /-- They are objects with the same members to be read. -/
  | record : v.IsRecord → v'.IsRecord →
      (∀ name ∈ ["type", "challenge", "token"],
        Option.Rel Source.Same (v.member? name) (v'.member? name)) →
      Option.Rel SameCallback (v.member? "event") (v'.member? "event") →
      v.OthersKept (Json.maxDepth - 1) envelopeNames →
      v'.OthersKept (Json.maxDepth - 1) envelopeNames → SameEnvelope v v'

variable {v v' : Source}

/-! ## Callbacks -/

section Fields

variable {R : Source → Source → Prop} {field field' : Option Source}

lemma required_eq {α : Type} {read : Source → Option α} (hread : ∀ w w', R w w' → read w = read w')
    (h : Option.Rel R field field') :
    Source.required read field = Source.required read field' := by
  cases h with
  | none => rfl
  | some hw => exact hread _ _ hw

lemma orElse_eq {α : Type} {read : Source → Option α} {default : α}
    (hread : ∀ w w', R w w' → read w = read w') (h : Option.Rel R field field') :
    Source.orElse read default field = Source.orElse read default field' := by
  cases h with
  | none => rfl
  | some hw => exact hread _ _ hw

end Fields

/-- A callback is read from its four fields. -/
lemma Callback.ofJson?_eq_of_fieldsRel (h : Source.FieldsRel Source.Same callbackNames v v') :
    ofJson? v = ofJson? v' := by
  have htext : ∀ w w', Source.Same w w' → w.text? = w'.text? := fun _ _ => Source.Same.text?_eq
  rw [ofJson?, ofJson?]
  change ((v.fields? callbackNames).bind _) = ((v'.fields? callbackNames).bind _)
  rw [Source.FieldsRel] at h
  generalize v.fields? callbackNames = fields, v'.fields? callbackNames = fields' at h ⊢
  cases h with
  | none => rfl
  | some hfields =>
    rcases hfields with _ | ⟨hkind, _ | ⟨hmessage, _ | ⟨huser, _ | ⟨hchannel, _ | _⟩⟩⟩⟩
    case some.cons.cons.cons.cons.nil =>
      simp only [Option.bind_some, required_eq htext hkind, orElse_eq htext hmessage,
        orElse_eq htext huser, orElse_eq htext hchannel]
    all_goals rfl

namespace SameCallback

/-- Callbacks are read alike. -/
lemma ofJson?_eq (h : SameCallback v v') : Callback.ofJson? v = Callback.ofJson? v' := by
  cases h with
  | record hv hv' hread _ _ =>
    exact Callback.ofJson?_eq_of_fieldsRel (Source.fieldsRel_of_records hv hv' hread)
  | value hobject hsame =>
    cases hsame with
    | array hitems => exact Callback.ofJson?_eq_of_fieldsRel (Source.fieldsRel_of_arrays hitems)
    | object hms => exact absurd rfl (hobject _)
    | _ => rfl

lemma text?_eq (h : SameCallback v v') : v.text? = v'.text? := by
  cases h with
  | value _ hsame => exact hsame.text?_eq
  | record hv hv' _ _ _ => rw [hv.text?_eq_none, hv'.text?_eq_none]

lemma keepable_eq (h : SameCallback v v') :
    Json.keepable (Json.maxDepth - 1) v = Json.keepable (Json.maxDepth - 1) v' := by
  cases h with
  | value _ hsame => exact hsame.keepable_eq _
  | record hv hv' hread hothers hothers' =>
    refine Source.keepable_eq_of_records hv hv' hothers hothers' fun name hname => ?_
    exact Source.rel_imp (fun _ _ h => h.keepable_eq _) (hread name hname)

end SameCallback

/-! ## Envelopes -/

namespace Event

lemma envelope?_eq_none (hv : v.IsRecord) (htype : v.textMember? "type" = none) :
    envelope? v = none := by
  cases v with
  | object ms =>
    cases hmember : (Source.object ms).member? "type" with
    | none =>
      have hfind := Option.map_eq_none_iff.1 hmember
      have hfilter : ms.filter (fun m => Json.textOf? m.1 == some "type") = [] :=
        List.filter_eq_nil_iff.2 (List.find?_eq_none.1 hfind)
      simp only [envelope?, hfilter]
    | some w =>
      rw [Source.textMember?, hmember, Option.bind_some] at htype
      obtain ⟨k, hfilter⟩ := Source.filter_isNamed hv.2 hmember
      have hfilter' : ms.filter (fun m => Json.textOf? m.1 == some "type") = [(k, w)] := hfilter
      simp only [envelope?, hfilter', htype, Option.map_none]
  | _ => exact hv.elim

/-- A record of one field is read from this field. -/
lemma bind_single_eq {α : Type} {R : Source → Source → Prop} {names : List String}
    {read : Option Source → Option α} (hread : ∀ field field', Option.Rel R field field' →
      read field = read field') (h : Source.FieldsRel R names v v') :
    ((v.fields? names).bind fun fields => match fields with
      | [field] => read field
      | _ => none) =
    ((v'.fields? names).bind fun fields => match fields with
      | [field] => read field
      | _ => none) := by
  rw [Source.FieldsRel] at h
  generalize v.fields? names = fields, v'.fields? names = fields' at h ⊢
  cases h with
  | none => rfl
  | some hfields =>
    rcases hfields with _ | ⟨hfield, _ | _⟩
    · rfl
    · exact hread _ _ hfield
    · rfl

/-- What is read from an envelope depends on its type and on what stands beside it. -/
lemma ofJson?_eq_of_contents {type : String} {content content' : Source}
    (hv : envelope? v = some (type, content)) (hv' : envelope? v' = some (type, content'))
    (hchallenge : Source.FieldsRel (fun w w' => w.text? = w'.text?) ["challenge"] content content')
    (hevent : Source.FieldsRel (fun w w' => Callback.ofJson? w = Callback.ofJson? w') ["event"]
      content content')
    (hlong : isOverlong content = isOverlong content') : ofJson? v = ofJson? v' := by
  simp only [ofJson?, hv, hv', Option.bind_eq_bind, Option.bind_some, hlong]
  split
  · exact bind_single_eq (fun _ _ h => by rw [required_eq (fun _ _ h => h) h]) hchallenge
  · split
    · exact bind_single_eq (fun _ _ h => by rw [required_eq (fun _ _ h => h) h]) hevent
    · rfl

end Event

namespace SameEnvelope

/-- Envelopes are read alike. -/
lemma ofJson?_eq (h : SameEnvelope v v') : Event.ofJson? v = Event.ofJson? v' := by
  cases h with
  | value hobject harray hsame =>
    cases hsame with
    | array _ => exact absurd rfl (harray _)
    | object _ => exact absurd rfl (hobject _)
    | _ => rfl
  | array hv hv' hitems =>
    subst hv hv'
    cases hitems with
    | nil => rfl
    | @cons first first' rest rest' hfirst hrest =>
      cases htype : first.text? with
      | none => simp only [Event.ofJson?, Event.envelope?, ← hfirst.text?_eq, htype, Option.map_none]
      | some type =>
        have hv : Event.envelope? (.array (first :: rest)) = some (type, .array rest) := by
          rw [Event.envelope?, htype, Option.map_some]
        have hv' : Event.envelope? (.array (first' :: rest')) = some (type, .array rest') := by
          rw [Event.envelope?, ← hfirst.text?_eq, htype, Option.map_some]
        refine Event.ofJson?_eq_of_contents hv hv' ?_ ?_ ?_
        · exact Source.fieldsRel_of_arrays (hrest.imp fun _ _ h => h.text?_eq)
        · exact Source.fieldsRel_of_arrays (hrest.imp fun _ _ h => h.ofJson?_eq)
        · cases hrest with
          | nil => rfl
          | cons _ _ => rfl
  | record hv hv' hread hevent _ _ =>
    have htext (name : String) (hname : name ∈ ["type", "challenge", "token"]) :
        Option.Rel (fun w w' => w.text? = w'.text?) (v.member? name) (v'.member? name) :=
      Source.rel_imp (fun _ _ h => h.text?_eq) (hread name hname)
    have htype : v.textMember? "type" = v'.textMember? "type" :=
      required_eq (fun _ _ h => h) (htext "type" (by decide))
    cases htype' : v'.textMember? "type" with
    | none =>
      rw [htype'] at htype
      simp only [Event.ofJson?, Event.envelope?_eq_none hv htype,
        Event.envelope?_eq_none hv' htype']
    | some type =>
      rw [htype'] at htype
      obtain ⟨content, hcontent, hrecord, hshort, hmember⟩ := Event.envelope?_eq hv htype
      obtain ⟨content', hcontent', hrecord', hshort', hmember'⟩ := Event.envelope?_eq hv' htype'
      refine Event.ofJson?_eq_of_contents hcontent hcontent' ?_ ?_ (hshort.trans hshort'.symm)
      · refine Source.fieldsRel_of_records hrecord hrecord' (List.forall_mem_singleton.2 ?_)
        rw [hmember _ (by decide), hmember' _ (by decide)]
        exact htext "challenge" (by decide)
      · refine Source.fieldsRel_of_records hrecord hrecord' (List.forall_mem_singleton.2 ?_)
        rw [hmember _ (by decide), hmember' _ (by decide)]
        exact Source.rel_imp (fun _ _ h => h.ofJson?_eq) hevent

lemma keepable_eq (h : SameEnvelope v v') :
    Json.keepable Json.maxDepth v = Json.keepable Json.maxDepth v' := by
  cases h with
  | value _ _ hsame => exact hsame.keepable_eq _
  | array hv hv' hitems =>
    subst hv hv'
    exact Source.all_eq_of_forall₂ hitems fun v _ v' h => h.keepable_eq
  | record hv hv' hread hevent hothers hothers' =>
    refine Source.keepable_eq_of_records hv hv' hothers hothers' ?_
    have hkept (name : String) (hname : name ∈ ["type", "challenge", "token"]) :=
      Source.rel_imp (fun _ _ h => h.keepable_eq (Json.maxDepth - 1)) (hread name hname)
    simp only [envelopeNames, List.forall_mem_cons]
    exact ⟨hkept "type" (by decide), hkept "challenge" (by decide),
      Source.rel_imp (fun _ _ h => h.keepable_eq) hevent, hkept "token" (by decide), by simp⟩

end SameEnvelope

end ChatRelay.Slack
