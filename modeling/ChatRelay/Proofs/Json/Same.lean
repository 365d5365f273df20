/-
# Values up to their spelling

The same value can be written in many ways: the characters of a literal as themselves or as
escapes, the members of an object in any order.  What a value stands for does not depend on
this, and neither does whether it could be kept.  Of a record, a reader looks only at the
members of some names; of the others it matters only that they could be kept.
-/
import ChatRelay.Proofs.Json.Grammar
import ChatRelay.Proofs.Json.Member
import Mathlib.Data.List.Forall2

namespace ChatRelay.Json.Source

/-! ## The same value -/

mutual

/-- Two values are the same but for the spelling of literals and the order of members. -/
inductive Same : Source → Source → Prop
  | null : Same null null
  | bool (b : Bool) : Same (bool b) (bool b)
  | number (n : Number) : Same (number n) (number n)
  | text {bs bs' : List UInt8} : textOf? bs = textOf? bs' → Same (text bs) (text bs')
  | array {items items' : List Source} :
      List.Forall₂ Same items items' → Same (array items) (array items')
  | object {ms ms' : List (List UInt8 × Source)} :
      SameMembers ms ms' → Same (object ms) (object ms')

/-- Each member of one object has its counterpart at some place of the other. -/
inductive SameMembers : List (List UInt8 × Source) → List (List UInt8 × Source) → Prop
  | nil : SameMembers [] []
  | cons {k k' : List UInt8} {v v' : Source} {rest before after : List (List UInt8 × Source)} :
      textOf? k = textOf? k' → Same v v' → SameMembers rest (before ++ after) →
      SameMembers ((k, v) :: rest) (before ++ (k', v') :: after)

end

lemma Same.text?_eq {v v' : Source} (h : v.Same v') : v.text? = v'.text? := by
  cases h with
  | text htext => exact htext
  | _ => rfl

section

variable {f : Source → Bool}

lemma all_eq_of_forall₂ {R : Source → Source → Prop} {items items' : List Source}
    (h : List.Forall₂ R items items') (hf : ∀ v ∈ items, ∀ v', R v v' → f v = f v') :
    items.all f = items'.all f := by
  induction h with
  | nil => rfl
  | cons hv _ ih =>
    obtain ⟨hfirst, hrest⟩ := List.forall_mem_cons.1 hf
    rw [List.all_cons, List.all_cons, hfirst _ hv, ih hrest]

lemma SameMembers.all_eq {ms ms' : List (List UInt8 × Source)} (h : SameMembers ms ms')
    (hf : ∀ m ∈ ms, ∀ v', m.2.Same v' → f m.2 = f v') :
    (ms.all fun m => (textOf? m.1).isSome && f m.2) =
      ms'.all fun m => (textOf? m.1).isSome && f m.2 := by
  -- each member of the first object has its counterpart between two parts of the second
  induction ms generalizing ms' with
  | nil =>
    cases h
    rfl
  | cons m rest ih =>
    obtain ⟨hfirst, hrest⟩ := List.forall_mem_cons.1 hf
    cases h with
    | cons hk hv hms =>
      rw [List.all_cons, ih hms hrest, List.all_append, List.all_append, List.all_cons, hk,
        hfirst _ hv]
      exact Bool.and_left_comm _ _ _

end

/-- Whether a value could be kept does not depend on how it is written. -/
lemma Same.keepable_eq {v v' : Source} (h : v.Same v') (depth : Nat) :
    keepable depth v = keepable depth v' := by
  induction v using Source.induction generalizing v' depth with
  | null => cases h; rfl
  | bool b => cases h; rfl
  | number n => cases h; rfl
  | text bs =>
    cases h with
    | text htext => simp only [keepable, htext]
  | array items ih =>
    cases h with
    | array hitems =>
      cases depth with
      | zero => rfl
      | succ depth =>
        rw [keepable, keepable]
        exact all_eq_of_forall₂ hitems fun v hv v' h => ih v hv h depth
  | object ms ih =>
    cases h with
    | object hms =>
      cases depth with
      | zero => rfl
      | succ depth =>
        rw [keepable, keepable]
        exact hms.all_eq fun m hm v' h => ih m hm h depth

/-! ## Records of which some members are read -/

variable {v v' : Source} {names : List String} {depth : Nat}

/-- The members of an object that are named otherwise could be kept. -/
def OthersKept (depth : Nat) (names : List String) : Source → Prop
  | object ms => ∀ m ∈ ms, (∀ name ∈ names, textOf? m.1 ≠ some name) → keepable depth m.2 = true
  | _ => True

/-- Where all of a value could be kept, whatever is not read could be, too. -/
lemma othersKept_of_keepable (h : keepable (depth + 1) v = true) : v.OthersKept depth names := by
  cases v with
  | object ms =>
    simp only [keepable, List.all_eq_true, Bool.and_eq_true] at h
    exact fun m hm _ => (h m hm).2
  | _ => trivial

/-- Where names are different, each member is found by its own. -/
lemma member?_of_mem {ms : List (List UInt8 × Source)}
    (hnodup : (ms.map fun m => textOf? m.1).Nodup) {m : List UInt8 × Source} (hm : m ∈ ms)
    {name : String} (hname : textOf? m.1 = some name) :
    (object ms).member? name = some m.2 := by
  induction ms with
  | nil => cases hm
  | cons first rest ih =>
    rw [List.map_cons, List.nodup_cons] at hnodup
    rcases List.mem_cons.1 hm with rfl | hlater
    · exact member?_cons_of_named (isNamed_iff.2 hname)
    · have hother : ¬ isNamed name first = true := by
        rw [isNamed_iff, ← hname]
        intro heq
        exact hnodup.1 (heq ▸ List.mem_map_of_mem hlater)
      rw [member?_cons_of_not hother]
      exact ih hnodup.2 hlater

lemma IsRecord.text?_eq_none (hv : v.IsRecord) : v.text? = none := by
  cases v with
  | text _ => exact hv.elim
  | _ => rfl

lemma mem_of_member? {ms : List (List UInt8 × Source)} {name : String} {w : Source}
    (h : (object ms).member? name = some w) : ∃ m ∈ ms, m.2 = w := by
  obtain ⟨m, hm, rfl⟩ := Option.map_eq_some_iff.1 h
  exact ⟨m, List.mem_of_find?_eq_some hm, rfl⟩

/-- A record could be kept if the members of some names could be, and the others. -/
lemma keepable_record_iff (hv : v.IsRecord) (hothers : v.OthersKept depth names) :
    keepable (depth + 1) v = true ↔
      ∀ name ∈ names, ∀ w, v.member? name = some w → keepable depth w = true := by
  cases v with
  | object ms =>
    obtain ⟨hnames, hnodup⟩ := hv
    simp only [keepable, List.all_eq_true, Bool.and_eq_true]
    constructor
    · intro hall name _ w hw
      obtain ⟨m, hm, rfl⟩ := mem_of_member? hw
      exact (hall m hm).2
    · intro hread m hm
      refine ⟨hnames m hm, ?_⟩
      by_cases hname : ∃ name ∈ names, textOf? m.1 = some name
      · obtain ⟨name, hmem, hname⟩ := hname
        exact hread name hmem m.2 (member?_of_mem hnodup hm hname)
      · exact hothers m hm fun name hmem heq => hname ⟨name, hmem, heq⟩
  | _ => exact hv.elim

/-- Records whose members of some names could be kept alike, and the others too. -/
lemma keepable_eq_of_records (hv : v.IsRecord) (hv' : v'.IsRecord)
    (hothers : v.OthersKept depth names) (hothers' : v'.OthersKept depth names)
    (h : ∀ name ∈ names, Option.Rel (fun w w' => keepable depth w = keepable depth w')
      (v.member? name) (v'.member? name)) :
    keepable (depth + 1) v = keepable (depth + 1) v' := by
  rw [Bool.eq_iff_iff, keepable_record_iff hv hothers, keepable_record_iff hv' hothers']
  refine forall₂_congr fun name hname => ?_
  have hname := h name hname
  generalize v.member? name = w?, v'.member? name = w'? at hname ⊢
  cases hname with
  | none => simp
  | some heq => simp [heq]

lemma rel_imp {R R' : Source → Source → Prop} (h : ∀ w w', R w w' → R' w w')
    {w? w'? : Option Source} (hrel : Option.Rel R w? w'?) : Option.Rel R' w? w'? := by
  cases hrel with
  | none => exact .none
  | some hw => exact .some (h _ _ hw)

/-- The fields of two values that are read as records correspond to each other. -/
def FieldsRel (R : Source → Source → Prop) (names : List String) (v v' : Source) : Prop :=
  Option.Rel (List.Forall₂ (Option.Rel R)) (v.fields? names) (v'.fields? names)

variable {R : Source → Source → Prop}

lemma fieldsRel_of_records (hv : v.IsRecord) (hv' : v'.IsRecord)
    (h : ∀ name ∈ names, Option.Rel R (v.member? name) (v'.member? name)) :
    FieldsRel R names v v' := by
  rw [FieldsRel, fields?_eq hv, fields?_eq hv']
  refine .some ?_
  rw [List.forall₂_map_left_iff, List.forall₂_map_right_iff, List.forall₂_same]
  exact h

lemma fieldsRel_of_arrays {items items' : List Source} (h : List.Forall₂ R items items') :
    FieldsRel R names (array items) (array items') := by
  rw [FieldsRel, fields?, fields?, h.length_eq]
  by_cases hlength : items'.length ≤ names.length
  · rw [if_pos hlength, if_pos hlength]
    refine .some (List.rel_append ?_ ?_)
    · rw [List.forall₂_map_left_iff, List.forall₂_map_right_iff]
      exact h.imp fun _ _ => .some
    · -- both arrays lack the same number of fields
      rw [List.forall₂_same]
      intro w hw
      rw [List.eq_of_mem_replicate hw]
      exact .none
  · rw [if_neg hlength, if_neg hlength]
    exact .none

end ChatRelay.Json.Source
