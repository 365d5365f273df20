/-
# Objects with distinct names

Where the names of an object are texts, all different, the members can be looked up in any
order and are found.  The fields of a record are then the members of their names, whatever
other members there are, and leaving out the members of one name changes none of the others.
-/
import ChatRelay.Json.Typed
import Mathlib.Data.List.Nodup
import Mathlib.Tactic.Lemma
import Mathlib.Tactic.Common

namespace ChatRelay.Json.Source

/-! ## Members -/

/-- A member has a name. -/
def isNamed (name : String) (m : List UInt8 × Source) : Bool := textOf? m.1 == some name

/-- The value of the first member of a name. -/
def member? : Source → String → Option Source
  | object ms, name => (ms.find? (isNamed name)).map Prod.snd
  | _, _ => none

/-- The text of the first member of a name, if it is a string. -/
def textMember? (v : Source) (name : String) : Option String := (v.member? name).bind text?

/-- One of the members of a name is a string. -/
def HasText (v : Source) (name : String) : Prop :=
  ∃ ms, v = object ms ∧ ∃ m ∈ ms, textOf? m.1 = some name ∧ m.2.text?.isSome

/-- A value is an object all of whose members have different names. -/
def IsRecord : Source → Prop
  | object ms => (∀ m ∈ ms, (textOf? m.1).isSome) ∧ (ms.map fun m => textOf? m.1).Nodup
  | _ => False

variable {ms : List (List UInt8 × Source)} {name : String}

lemma isNamed_iff {m : List UInt8 × Source} : isNamed name m = true ↔ textOf? m.1 = some name := by
  rw [isNamed, beq_iff_eq]

/-- By induction on the members: where all names are texts, the members are read with them, and
found by them. -/
lemma members?_eq (hnames : ∀ m ∈ ms, (textOf? m.1).isSome) :
    ∃ named, (object ms).members? = some named ∧
      named.map (fun m => some m.1) = ms.map (fun m => textOf? m.1) ∧
      ∀ k, named.lookup k = (object ms).member? k := by
  induction ms with
  | nil => exact ⟨[], rfl, rfl, fun _ => rfl⟩
  | cons m ms ih =>
    obtain ⟨named, hmembers, hnamed, hlookup⟩ := ih fun m' hm' => hnames m' (.tail m hm')
    obtain ⟨k, hk⟩ := Option.isSome_iff_exists.1 (hnames m (.head ms))
    rw [members?] at hmembers
    refine ⟨(k, m.2) :: named, ?_, ?_, fun name => ?_⟩
    · rw [members?, List.mapM_cons, hmembers, hk]
      rfl
    · rw [List.map_cons, List.map_cons, hnamed, hk]
    · specialize hlookup name
      rw [member?] at hlookup ⊢
      by_cases hname : name = k
      · have hfirst : isNamed name m = true := isNamed_iff.2 (hname ▸ hk)
        rw [List.find?_cons_of_pos hfirst, hname, List.lookup_cons_self]
        rfl
      · have hother : ¬ isNamed name m = true := by
          rw [isNamed_iff, hk]
          simpa using Ne.symm hname
        have hbeq : (name == k) = false := by simpa using hname
        rw [List.find?_cons_of_neg hother, ← hlookup, List.lookup_cons, hbeq]

/-- By induction on the members: those that are read are members of the object. -/
lemma mem_of_members? {named : List (String × Source)} (hnamed : (object ms).members? = some named)
    {p : String × Source} (hp : p ∈ named) : ∃ m ∈ ms, textOf? m.1 = some p.1 ∧ m.2 = p.2 := by
  induction ms generalizing named with
  | nil =>
    cases hnamed
    cases hp
  | cons m ms ih =>
    rw [members?, List.mapM_cons] at hnamed
    obtain ⟨first, hfirst, hnamed⟩ := Option.bind_eq_some_iff.1 hnamed
    obtain ⟨rest, hrest, hnamed⟩ := Option.bind_eq_some_iff.1 hnamed
    cases hnamed
    rcases List.mem_cons.1 hp with rfl | hp
    · obtain ⟨k, hk, rfl⟩ := Option.map_eq_some_iff.1 hfirst
      exact ⟨m, .head ms, hk, rfl⟩
    · obtain ⟨m', hm', hmember⟩ := ih hrest hp
      exact ⟨m', .tail m hm', hmember⟩

/-! ## Fields -/

/-- The fields of a record are its members. -/
lemma fields?_eq {v : Source} (hv : v.IsRecord) (names : List String) :
    v.fields? names = some (names.map v.member?) := by
  cases v with
  | object ms =>
    obtain ⟨hnames, hnodup⟩ := hv
    obtain ⟨named, hmembers, hnamed, hlookup⟩ := members?_eq hnames
    have hkeys : (named.map Prod.fst).Nodup := by
      rw [← hnamed] at hnodup
      exact List.Nodup.of_map some (by rwa [List.map_map])
    -- a name that is there at most once is no repetition
    have hall : (names.all fun k => (named.countP fun m => m.1 == k) ≤ 1) = true := by
      rw [List.all_eq_true]
      intro k _
      have hcount := List.nodup_iff_count_le_one.1 hkeys k
      rw [List.count, List.countP_map] at hcount
      exact decide_eq_true hcount
    simp only [fields?, hmembers, Option.bind_eq_bind, Option.bind_some, hall, if_true, hlookup]
    rfl
  | _ => exact hv.elim

/-! ## Leaving out a member -/

lemma member?_cons_of_named {m : List UInt8 × Source} (hm : isNamed name m = true) :
    (object (m :: ms)).member? name = some m.2 := by
  rw [member?, List.find?_cons_of_pos hm]
  rfl

lemma member?_cons_of_not {m : List UInt8 × Source} (hm : ¬ isNamed name m = true) :
    (object (m :: ms)).member? name = (object ms).member? name := by
  rw [member?, List.find?_cons_of_neg hm, member?]

/-- By induction on the members: the one member of a name is all that is left when those with
other names are left out. -/
lemma filter_isNamed (hnodup : (ms.map fun m => textOf? m.1).Nodup) {v : Source}
    (hv : (object ms).member? name = some v) : ∃ k, ms.filter (isNamed name) = [(k, v)] := by
  induction ms with
  | nil => cases hv
  | cons m ms ih =>
    rw [List.map_cons, List.nodup_cons] at hnodup
    obtain ⟨hnew, hnodup⟩ := hnodup
    by_cases hm : isNamed name m = true
    · -- another member of the name would make the names repeat
      have hrest : ms.filter (isNamed name) = [] := by
        rw [List.filter_eq_nil_iff]
        intro m' hm' hnamed
        apply hnew
        rw [isNamed_iff.1 hm, ← isNamed_iff.1 hnamed]
        exact List.mem_map_of_mem hm'
      rw [member?_cons_of_named hm] at hv
      cases hv
      exact ⟨m.1, by rw [List.filter_cons_of_pos hm, hrest]⟩
    · rw [member?_cons_of_not hm] at hv
      rw [List.filter_cons_of_neg hm]
      exact ih hnodup hv

/-- Without the members of a name, a record is one with the other members. -/
lemma isRecord_filter (hv : (object ms).IsRecord) (p : List UInt8 × Source → Bool) :
    (object (ms.filter p)).IsRecord :=
  ⟨fun m hm => hv.1 m (List.mem_filter.1 hm).1, hv.2.sublist (List.filter_sublist.map _)⟩

lemma member?_filter_not {other : String} (hother : other ≠ name) :
    (object (ms.filter fun m => !isNamed name m)).member? other = (object ms).member? other := by
  rw [member?, member?, List.find?_filter]
  congr 2
  funext m
  by_cases hm : isNamed other m = true
  · have hname : ¬ isNamed name m = true := by
      rw [isNamed_iff, isNamed_iff.1 hm]
      simpa using hother
    simp [hm, hname]
  · simp [hm]

end ChatRelay.Json.Source
