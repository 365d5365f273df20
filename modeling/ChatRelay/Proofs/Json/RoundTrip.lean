/-
# Records that are read back

What is written for a record is an object with its fields under their names, where a field
without a value may be left out.  The typed readers find the fields again, whichever form the
object is written in, and so every record that is written is read as the record that it was.
-/
import ChatRelay.Command.Dispatch
import ChatRelay.Command.Inbound
import ChatRelay.Github.Workflow
import ChatRelay.Proofs.Json.Member
import ChatRelay.Proofs.Json.Writing
import ChatRelay.Settings.Relay

namespace ChatRelay

/-! ## Readers on what is written -/

namespace Json

@[simp] lemma text?_source (s : String) : (text s).source.text? = some s := textOf?_literal s

@[simp] lemma bool?_source (b : Bool) : (bool b).source.bool? = some b := rfl

@[simp] lemma name?_source (s : String) : (text s).source.name? = some s := textOf?_literal s

lemma nat?_source {bound n : Nat} (hn : n ≤ bound) : (nat n).source.nat? bound = some n := by
  have hread := Text.Decimal.readDigits_digits hn
  simp [source, Source.nat?, natural, Number.nat?, hread, Except.toOption]

lemma list?_source {α : Type} {read : Source → Option α} {write : α → Json} {as : List α}
    (h : ∀ a ∈ as, read (write a).source = some a) :
    Source.list? read (array (as.map write)).source = some as := by
  rw [source_array, Source.list?]
  induction as with
  | nil => rfl
  | cons a as ih =>
    obtain ⟨hfirst, hrest⟩ := List.forall_mem_cons.1 h
    rw [List.map_cons, List.map_cons, List.mapM_cons, hfirst, ih hrest]
    rfl

lemma members?_source (members : List (String × Json)) :
    (object members).source.members? = some (members.map fun m => (m.1, m.2.source)) := by
  rw [source_object, Source.members?]
  induction members with
  | nil => rfl
  | cons m members ih =>
    rw [List.map_cons, List.mapM_cons, ih, textOf?_literal]
    rfl

lemma isRecord_source {members : List (String × Json)} (h : (members.map Prod.fst).Nodup) :
    (object members).source.IsRecord := by
  rw [source_object, Source.IsRecord, List.map_map]
  refine ⟨List.forall_mem_map.2 fun m _ => by simp, ?_⟩
  have hnames : members.map ((fun m => textOf? m.1) ∘ fun m => (literal m.1, source m.2)) =
      (members.map Prod.fst).map some := by
    simp
  rw [hnames]
  exact h.map (Option.some_injective _)

/-- The members of an object that is written are found by their names. -/
lemma member?_source (members : List (String × Json)) (name : String) :
    (object members).source.member? name = (members.lookup name).map source := by
  rw [source_object]
  induction members with
  | nil => rfl
  | cons m members ih =>
    rw [List.map_cons]
    by_cases hname : name = m.1
    · have hnamed : Source.isNamed name (literal m.1, source m.2) = true := by
        rw [Source.isNamed_iff, textOf?_literal, hname]
      rw [Source.member?_cons_of_named hnamed, hname, List.lookup_cons_self]
      rfl
    · have hother : ¬ Source.isNamed name (literal m.1, source m.2) = true := by
        rw [Source.isNamed_iff, textOf?_literal]
        simpa using Ne.symm hname
      rw [Source.member?_cons_of_not hother, ih, List.lookup_cons, beq_eq_false_iff_ne.2 hname]

/-! ## Fields of objects that are written -/

/-- The members that have a value. -/
def presentMembers (members : List (String × Option Json)) : List (String × Json) :=
  members.filterMap fun m => m.2.map fun v => (m.1, v)

lemma names_presentMembers_sublist (members : List (String × Option Json)) :
    ((presentMembers members).map Prod.fst).Sublist (members.map Prod.fst) := by
  induction members with
  | nil => exact .slnil
  | cons m rest ih =>
    obtain ⟨k, _ | v⟩ := m
    · exact .cons k ih
    · exact .cons_cons k ih

/-- Among different names, each has its own value or none. -/
lemma lookup_presentMembers {members : List (String × Option Json)}
    (h : (members.map Prod.fst).Nodup) {m : String × Option Json} (hm : m ∈ members) :
    (presentMembers members).lookup m.1 = m.2 := by
  induction members with
  | nil => cases hm
  | cons first rest ih =>
    rw [List.map_cons, List.nodup_cons] at h
    obtain ⟨hnew, hrest⟩ := h
    obtain ⟨k, v?⟩ := first
    rcases List.mem_cons.1 hm with rfl | hlater
    · cases v? with
      | some v => exact List.lookup_cons_self
      | none =>
        -- the name is not among the others
        refine List.lookup_eq_none_iff.2 fun p hp => ?_
        have hmem := (names_presentMembers_sublist rest).subset (List.mem_map_of_mem hp)
        exact bne_iff_ne.2 fun heq => hnew (heq ▸ hmem)
    · have hmem : m.1 ∈ rest.map Prod.fst := List.mem_map_of_mem hlater
      have hother : (m.1 == k) = false := beq_eq_false_iff_ne.2 fun heq => hnew (heq ▸ hmem)
      cases v? with
      | none => exact ih hrest hlater
      | some v =>
        have hlookup := ih hrest hlater
        rw [presentMembers, List.filterMap_cons, Option.map_some, List.lookup_cons, hother]
        exact hlookup

/-- The fields of an object without the members that have no value. -/
lemma fields?_present {members : List (String × Option Json)}
    (h : (members.map Prod.fst).Nodup) :
    (present members).source.fields? (members.map Prod.fst) =
      some (members.map fun m => m.2.map source) := by
  have hrecord := isRecord_source (h.sublist (names_presentMembers_sublist members))
  rw [present, ← presentMembers, Source.fields?_eq hrecord, List.map_map]
  congr 1
  refine List.map_congr_left fun m hm => ?_
  rw [Function.comp_apply, member?_source, lookup_presentMembers h hm]

variable {names : List String}

/-- The fields of a record of which some have no value. -/
lemma fields?_present_zip (hnames : names.Nodup) {values : List (Option Json)}
    (hlength : names.length = values.length) :
    (present (names.zip values)).source.fields? names = some (values.map (Option.map source)) := by
  have hfst : (names.zip values).map Prod.fst = names := List.map_fst_zip hlength.le
  have hsnd : (names.zip values).map Prod.snd = values := List.map_snd_zip hlength.ge
  have hfields := @fields?_present (names.zip values) (by rwa [hfst])
  rw [hfst] at hfields
  rw [hfields, ← hsnd, List.map_map, hsnd]
  rfl

/-- The fields of a record. -/
lemma fields?_zip (hnames : names.Nodup) {values : List Json}
    (hlength : names.length = values.length) :
    (object (names.zip values)).source.fields? names =
      some (values.map fun v => some v.source) := by
  have hall : present (names.zip (values.map some)) = object (names.zip values) := by
    simp [present, List.zip_map_right, List.filterMap_map]
  have hfields := @fields?_present_zip names hnames (values.map some) (by simpa using hlength)
  rwa [hall, List.map_map] at hfields

/-- A field that may be left out is read as the value that it had, if it had one. -/
lemma orElse_optional?_source {α : Type} {read : Source → Option α} {write : α → Json}
    (hread : ∀ a, read (write a).source = some a) (hnull : ∀ a, (write a).source ≠ .null)
    (a? : Option α) :
    Source.orElse (Source.optional? read) none ((a?.map write).map source) = some a? := by
  cases a? with
  | none => rfl
  | some a =>
    have hsome : Source.optional? read (write a).source = (read (write a).source).map some := by
      unfold Source.optional?
      split
      · exact absurd ‹_› (hnull a)
      · rfl
    rw [Option.map_some, Option.map_some, Source.orElse, hsome, hread]
    rfl

lemma orElse_text?_source (s? : Option String) :
    Source.orElse (Source.optional? Source.text?) none ((s?.map text).map source) = some s? :=
  orElse_optional?_source text?_source (fun _ => nofun) s?

lemma orElse_bool?_source (b? : Option Bool) :
    Source.orElse (Source.optional? Source.bool?) none ((b?.map bool).map source) = some b? :=
  orElse_optional?_source bool?_source (fun _ => nofun) b?

/-- A text or null is read as the text that it has, if it has one. -/
lemma optional?_ofText?_source (s? : Option String) :
    Source.optional? Source.text? (ofText? s?).source = some s? := by
  cases s? with
  | none => rfl
  | some s => exact orElse_text?_source (some s)

end Json

open Json (Source)

/-! ## Inputs -/

namespace Inputs

/-- A name behind all others comes last. -/
lemma put_of_forall_lt {name value : String} {es : List (String × String)}
    (h : ∀ p ∈ es, p.1 < name) : put name value es = es ++ [(name, value)] := by
  induction es with
  | nil => rfl
  | cons p rest ih =>
    obtain ⟨hlt, hrest⟩ := List.forall_mem_cons.1 h
    have hnot : ¬ name < p.1 := fun hlt' => String.lt_irrefl _ (String.lt_trans hlt hlt')
    have hne : name ≠ p.1 := fun heq => String.lt_irrefl p.1 (heq ▸ hlt)
    rw [put, if_neg hnot, if_neg hne, ih hrest, List.cons_append]

lemma entries_foldl_insert (i : Inputs) {rest : List (String × String)}
    (h : Ordered (i.entries ++ rest)) :
    (rest.foldl (fun i p => i.insert p.1 p.2) i).entries = i.entries ++ rest := by
  -- the first of the entries that are still to be put comes behind those that are there
  induction rest generalizing i with
  | nil => simp
  | cons p rest ih =>
    have hlast : (i.insert p.1 p.2).entries = i.entries ++ [p] :=
      put_of_forall_lt fun q hq =>
        (List.pairwise_append.1 h).2.2 q hq p (.head rest)
    rw [List.foldl_cons, ih (i.insert p.1 p.2) (by rwa [hlast, List.append_assoc]), hlast,
      List.append_assoc]
    rfl

/-- Inputs are made up again from their entries. -/
lemma ofList_entries (i : Inputs) : ofList i.entries = i :=
  eq_of_entries (entries_foldl_insert empty (by simpa [empty] using i.ordered))

lemma mapM_text?_source (es : List (String × String)) :
    (es.map fun p => (p.1, (Json.text p.2).source)).mapM
      (fun m => m.2.text?.map fun s => (m.1, s)) = some es := by
  induction es with
  | nil => rfl
  | cons p rest ih =>
    rw [List.map_cons, List.mapM_cons, ih, Json.text?_source]
    rfl

lemma ofJson?_source (i : Inputs) : ofJson? i.toJson.source = some i := by
  rw [toJson, ofJson?, Json.members?_source, List.map_map, Option.bind_eq_bind, Option.bind_some]
  have hpairs := mapM_text?_source i.entries
  simp only [Function.comp_def, hpairs, Option.bind_eq_bind, Option.bind_some, ofList_entries]
  rfl

end Inputs

/-! ## Records -/

lemma DispatchRequest.ofJson?_source (r : DispatchRequest) : ofJson? r.toJson.source = some r := by
  rw [ofJson?, toJson, members, Json.fields?_zip (by decide) rfl]
  simp [Source.required, Inputs.ofJson?_source]

lemma Style.ofJson?_source (s : Style) : ofJson? s.toJson.source = some s := by
  have hname : ofName? s.name = some s := by cases s <;> rfl
  rw [ofJson?, toJson, Json.name?_source, Option.bind_some, hname]

lemma Warning.ofJson?_source (w : Warning) : ofJson? w.toJson.source = some w := by
  have hlevel : WarningLevel.ofName? w.level.name = some w.level := by cases w.level <;> rfl
  rw [ofJson?, toJson, Json.fields?_zip (by decide) rfl]
  simp [Source.required, hlevel]

lemma SlackSettings.ofJson?_source (s : SlackSettings) : ofJson? s.toJson.source = some s := by
  rw [ofJson?, toJson, Json.fields?_present_zip (by decide) rfl]
  simp only [List.map_cons, List.map_nil, Json.orElse_text?_source, Json.orElse_bool?_source,
    Option.bind_eq_bind, Option.bind_some]
  rfl

lemma GithubSettings.ofJson?_source (s : GithubSettings) : ofJson? s.toJson.source = some s := by
  rw [ofJson?, toJson, Json.fields?_present_zip (by decide) rfl]
  simp only [List.map_cons, List.map_nil, Json.orElse_text?_source, Option.bind_eq_bind,
    Option.bind_some]
  rfl

lemma Settings.ofJson?_source (s : Settings) : ofJson? s.toJson.source = some s := by
  have hport : Source.orElse (Source.optional? (Source.nat? maxPort)) none
      ((s.port.map fun p => Json.nat p.toNat).map Json.source) =
        some (s.port.map UInt16.toNat) := by
    cases s.port with
    | none => rfl
    | some p =>
      have hread := Json.nat?_source (Nat.le_of_lt_succ p.toNat_lt)
      exact congrArg (Option.map some) hread
  have hback : (s.port.map UInt16.toNat).map UInt16.ofNat = s.port := by simp [Function.comp_def]
  have hslack : Source.orElse SlackSettings.ofJson? {} (some s.slack.toJson.source) =
      some s.slack := s.slack.ofJson?_source
  have hgithub : Source.orElse GithubSettings.ofJson? {} (some s.github.toJson.source) =
      some s.github := s.github.ofJson?_source
  rw [ofJson?, toJson, Json.fields?_present_zip (by decide) rfl]
  simp only [List.map_cons, List.map_nil, Option.map_some, hport, hslack, hgithub, hback,
    Option.bind_eq_bind, Option.bind_some]
  rfl

/-- The numbers of a list are ones of sixty-four bits. -/
structure Github.WorkflowList.Fits (l : WorkflowList) : Prop where
  totalCount : l.totalCount ≤ Source.maxNat64
  ids : ∀ w ∈ l.workflows, w.id ≤ Source.maxNat64

lemma Github.Explanation.ofJson?_source (e : Explanation) : ofJson? e.toJson.source = some e := by
  rw [ofJson?, toJson, Json.fields?_zip (by decide) rfl]
  simp [Source.orElse, Json.optional?_ofText?_source]

lemma Github.Workflow.ofJson?_source {w : Workflow} (h : w.id ≤ Source.maxNat64) :
    ofJson? w.toJson.source = some w := by
  rw [ofJson?, toJson, Json.fields?_zip (by decide) rfl]
  simp [Source.required, Source.orElse, Json.nat?_source h]

lemma Github.WorkflowList.ofJson?_source {l : WorkflowList} (h : l.Fits) :
    ofJson? l.toJson.source = some l := by
  have hlist := Json.list?_source fun w hw => Workflow.ofJson?_source (h.ids w hw)
  rw [ofJson?, toJson, Json.fields?_zip (by decide) rfl]
  simp only [List.map_cons, List.map_nil, Source.required, Option.bind_eq_bind, Option.bind_some,
    Json.nat?_source h.totalCount, hlist]
  rfl

/-! ## Lists that are read -/

/-- A natural number that is read is the value of what is written, and within its bound. -/
lemma Json.Number.int?_of_nat? {bound n : Nat} {x : Number} (h : x.nat? bound = some n) :
    x.int? = some n ∧ n ≤ bound := by
  rw [nat?] at h
  split at h
  · cases h
  · next hplain =>
    simp only [Bool.or_eq_true, not_or, Bool.not_eq_true] at hplain
    obtain ⟨⟨hpositive, hfraction⟩, hexponent⟩ := hplain
    cases hread : Text.Decimal.readDigits bound x.whole with
    | error e =>
      rw [hread] at h
      cases h
    | ok k =>
      rw [hread] at h
      cases h
      obtain ⟨-, -, hvalue, hle⟩ := Text.Decimal.readDigits_eq_ok_iff.1 hread
      refine ⟨?_, hle⟩
      simp [int?, hpositive, hfraction, hexponent, Text.Decimal.ofDigitChars_eq_value, ← hvalue]

lemma Json.le_of_nat? {bound n : Nat} {v : Source} (h : v.nat? bound = some n) : n ≤ bound := by
  cases v with
  | number x => exact (Number.int?_of_nat? h).2
  | _ => cases h

/-- Everything in a list that is read is read from an item. -/
lemma Json.exists_of_mem_list? {α : Type} {read : Source → Option α} {v : Source} {as : List α}
    (h : v.list? read = some as) : ∀ a ∈ as, ∃ item, read item = some a := by
  cases v with
  | array items =>
    rw [Source.list?] at h
    induction items generalizing as with
    | nil =>
      cases h
      simp
    | cons item items ih =>
      rw [List.mapM_cons] at h
      obtain ⟨first, hfirst, h⟩ := Option.bind_eq_some_iff.1 h
      obtain ⟨rest, hrest, h⟩ := Option.bind_eq_some_iff.1 h
      cases h
      exact List.forall_mem_cons.2 ⟨⟨item, hfirst⟩, ih hrest⟩
  | _ => cases h

lemma Github.Workflow.id_le_of_ofJson? {v : Source} {w : Workflow} (h : ofJson? v = some w) :
    w.id ≤ Source.maxNat64 := by
  rw [ofJson?] at h
  obtain ⟨fields, -, h⟩ := Option.bind_eq_some_iff.1 h
  split at h
  · obtain ⟨id, hid, h⟩ := Option.bind_eq_some_iff.1 h
    obtain ⟨field, -, hid⟩ := Option.bind_eq_some_iff.1 hid
    obtain ⟨name, -, h⟩ := Option.bind_eq_some_iff.1 h
    obtain ⟨path, -, h⟩ := Option.bind_eq_some_iff.1 h
    obtain ⟨state, -, h⟩ := Option.bind_eq_some_iff.1 h
    obtain ⟨badgeUrl, -, h⟩ := Option.bind_eq_some_iff.1 h
    cases h
    exact Json.le_of_nat? hid
  · cases h

/-- A list that is read can be written and read again. -/
lemma Github.WorkflowList.fits_of_ofJson? {v : Source} {l : WorkflowList}
    (h : ofJson? v = some l) : l.Fits := by
  rw [ofJson?] at h
  obtain ⟨fields, -, h⟩ := Option.bind_eq_some_iff.1 h
  split at h
  · obtain ⟨totalCount, htotal, h⟩ := Option.bind_eq_some_iff.1 h
    obtain ⟨count, -, htotal⟩ := Option.bind_eq_some_iff.1 htotal
    obtain ⟨workflows, hworkflows, h⟩ := Option.bind_eq_some_iff.1 h
    obtain ⟨items, -, hworkflows⟩ := Option.bind_eq_some_iff.1 hworkflows
    cases h
    refine ⟨Json.le_of_nat? htotal, fun w hw => ?_⟩
    obtain ⟨item, hitem⟩ := Json.exists_of_mem_list? hworkflows w hw
    exact Workflow.id_le_of_ofJson? hitem
  · cases h

/-! ## The body of a dispatch -/

/-- An object says which ref and which inputs a request has, and nothing else. -/
structure DispatchRequest.IsPayload (r : DispatchRequest) (v : Source) : Prop where
  names : v.members?.map (List.map Prod.fst) = some ["inputs", "ref"]
  /-- One is the ref, as a text. -/
  ref : v.textMember? "ref" = some r.gitRef
  /-- The other one is an object with the inputs. -/
  inputs : (v.member? "inputs").bind Inputs.ofJson? = some r.inputs

lemma DispatchRequest.isPayload_source (r : DispatchRequest) : r.IsPayload r.payload.source where
  names := by
    rw [payload, Json.members?_source]
    rfl
  ref := by
    rw [payload, Source.textMember?, Json.member?_source]
    exact Json.text?_source r.gitRef
  inputs := by
    rw [payload, Json.member?_source]
    exact r.inputs.ofJson?_source

/-! ## Reading what is written -/

namespace Json

/-- The ways in which a value is written. -/
inductive IsWritten (v : Json) : List UInt8 → Prop
  | compact : IsWritten v v.bytes
  | pretty : IsWritten v (Text.Utf8.bytes v.pretty)

/-- However a value is written, a record is read from it. -/
def ReadsAs {α : Type} (v : Json) (read : Source → Option α) (a : α) : Prop :=
  ∀ bs, v.IsWritten bs → (read? bs).bind read = some a

lemma IsWritten.reads {v : Json} {bs : List UInt8} (h : v.IsWritten bs) :
    read? bs = some v.source := by
  cases h with
  | compact => exact read?_bytes v
  | pretty => exact read?_pretty v

lemma readsAs_of_source {α : Type} {v : Json} {read : Source → Option α} {a : α}
    (h : read v.source = some a) : v.ReadsAs read a := by
  intro bs hbs
  rw [hbs.reads, Option.bind_some, h]

/-- What is written for a list of workflows, for settings, for a request or for a warning is
read as the same, and the body of a request is an object with its ref and its inputs.  The
numbers of a list of workflows are ones of sixty-four bits; nothing is required of the texts. -/
theorem records_read_back :
    (∀ l : Github.WorkflowList, l.Fits → l.toJson.ReadsAs Github.WorkflowList.ofJson? l) ∧
      (∀ s : Settings, s.toJson.ReadsAs Settings.ofJson? s) ∧
      (∀ r : DispatchRequest, r.toJson.ReadsAs DispatchRequest.ofJson? r) ∧
      (∀ w : Warning, w.toJson.ReadsAs Warning.ofJson? w) ∧
      ∀ (r : DispatchRequest) (bs : List UInt8), r.payload.IsWritten bs →
        ∃ v, read? bs = some v ∧ r.IsPayload v :=
  ⟨fun _ h => readsAs_of_source (Github.WorkflowList.ofJson?_source h),
    fun s => readsAs_of_source s.ofJson?_source,
    fun r => readsAs_of_source r.ofJson?_source,
    fun w => readsAs_of_source w.ofJson?_source,
    fun r _ hbs => ⟨r.payload.source, hbs.reads, r.isPayload_source⟩⟩

/-- A list with the greatest number, and with a name of which most characters are escaped. -/
def escapedList : Github.WorkflowList where
  totalCount := 0
  workflows := [⟨18446744073709551615, "\"\\\u0000\t\u001f\u007f😀", "", "", ""⟩]

theorem records_read_back_escapes :
    escapedList.Fits ∧ escapedList.toJson.ReadsAs Github.WorkflowList.ofJson? escapedList := by
  have hfits : escapedList.Fits := ⟨by decide, by decide⟩
  exact ⟨hfits, records_read_back.1 escapedList hfits⟩

example : (text "\"\u0000\t/\u007f😀").compact = "\"\\\"\\u0000\\t/\u007f😀\"" := by
  decide +kernel

end Json

end ChatRelay
