/-
# The contents of a form

Before any text is made of them, the names and values of a body are bytes: a plus sign stands for
a space, an escape for the byte of its digits, and every other byte for itself.  A body has such
contents exactly if no escape in it is broken, and it is read if it is UTF-8 besides.  Whether its
contents are UTF-8 plays no part in this.  Contents that are become the text that they encode, so
that different ones are told apart; all others become a text with U+FFFD in it, and these may be
mixed up.
-/
import ChatRelay.Proofs.Form.Fault

namespace ChatRelay

namespace Text

/-! ## Broken escapes in parts of a list -/

namespace Percent

variable {w rest : List UInt8} {i : Nat}

lemma not_isBroken_right (h : ∀ i, ¬ IsBroken (w ++ rest) i) : ∀ i, ¬ IsBroken rest i := by
  rintro i ⟨hsign, hdigits⟩
  have hget (k : Nat) : (w ++ rest)[w.length + k]? = rest[k]? := by
    rw [List.getElem?_append_right (Nat.le_add_right _ _), Nat.add_sub_cancel_left]
  refine h (w.length + i) ⟨(hget i).trans hsign, ?_⟩
  simp only [Nat.add_assoc, hget]
  exact hdigits

/-- Nothing is broken by what comes behind, if this does not start with a digit. -/
lemma not_isBroken_left (hrest : ∀ b ∈ rest.head?, ¬ IsHexDigit b)
    (h : ∀ i, ¬ IsBroken (w ++ rest) i) : ∀ i, ¬ IsBroken w i := by
  rintro i ⟨hsign, hdigits⟩
  obtain ⟨hi, -⟩ := List.getElem?_eq_some_iff.1 hsign
  refine h i ⟨(List.getElem?_append_left hi).trans hsign, ?_⟩
  rintro ⟨d, e, hd, he, hhex⟩
  -- the digits are within the list, as the byte behind it is none
  have hbehind {b : UInt8} {k : Nat} (hb : (w ++ rest)[k]? = some b) (hhex : IsHexDigit b)
      (hk : k ≤ w.length) : w[k]? = some b := by
    rcases Nat.lt_or_eq_of_le hk with hlt | rfl
    · exact (List.getElem?_append_left hlt).symm.trans hb
    · rw [List.getElem?_append_right (Nat.le_refl _), Nat.sub_self,
        ← List.head?_eq_getElem?] at hb
      exact absurd hhex (hrest b hb)
  have hd' := hbehind hd hhex.1 hi
  obtain ⟨hi', -⟩ := List.getElem?_eq_some_iff.1 hd'
  exact hdigits ⟨d, e, hd', hbehind he hhex.2 hi', hhex⟩

end Percent

/-- Bytes that are not UTF-8 are read with a replacement in them. -/
lemma Utf8.mem_decodeLossy {bs : List UInt8} (h : ¬ IsValid bs) : '\uFFFD' ∈ decodeLossy bs := by
  obtain ⟨s, rest, rfl, hrest⟩ := exists_encode_append bs
  have hne : rest ≠ [] := by
    rintro rfl
    exact h ⟨s, by simp⟩
  obtain ⟨piece, ps, hpieces, hfault⟩ := exists_pieces_eq_cons hne hrest
  rw [decodeLossy, pieces_encode_append, List.map_append, hpieces]
  refine List.mem_append_right _ ?_
  cases piece with
  | char c => exact absurd rfl (hfault c)
  | bad size => exact List.mem_cons_self ..
  | cut size => exact List.mem_cons_self ..

end Text

namespace Form

open Text

/-! ## Contents -/

/-- What is written stands for some bytes. -/
inductive StandsFor : List UInt8 → List UInt8 → Prop
  | nil : StandsFor [] []
  | itself {b : UInt8} {w bs : List UInt8} :
      b ≠ Percent.sign → b ≠ 0x2B → StandsFor w bs → StandsFor (b :: w) (b :: bs)
  /-- An escape stands for the byte of its two digits. -/
  | escape {b h l : UInt8} {w bs : List UInt8} :
      Percent.IsDigitOf (b.toNat / 16) h → Percent.IsDigitOf (b.toNat % 16) l → StandsFor w bs →
      StandsFor (Percent.sign :: h :: l :: w) (b :: bs)
  | plus {w bs : List UInt8} : StandsFor w bs → StandsFor (0x2B :: w) (0x20 :: bs)

/-- The bytes of a name and of a value, as a piece of a body has them. -/
inductive FieldContent : List UInt8 × List UInt8 → List UInt8 → Prop
  /-- The name ends at the first equals sign. -/
  | pair {n v name value : List UInt8} : 0x3D ∉ n → 0x26 ∉ n → 0x26 ∉ v →
      StandsFor n name → StandsFor v value → FieldContent (name, value) (n ++ 0x3D :: v)
  /-- Without an equals sign the value is empty. -/
  | bare {n name : List UInt8} : n ≠ [] → 0x3D ∉ n → 0x26 ∉ n →
      StandsFor n name → FieldContent (name, []) n

/-- The bytes of all names and values of a body, of which the pieces end at ampersands. -/
inductive Contents : List (List UInt8 × List UInt8) → List UInt8 → Prop
  | nil : Contents [] []
  | ampersand {contents : List (List UInt8 × List UInt8)} {body : List UInt8} :
      Contents contents body → Contents contents (0x26 :: body)
  | field {content : List UInt8 × List UInt8} {contents : List (List UInt8 × List UInt8)}
      {w body : List UInt8} :
      FieldContent content w → (∀ b ∈ body.head?, b = 0x26) → Contents contents body →
      Contents (content :: contents) (w ++ body)

variable {w bs rest body : List UInt8} {content : List UInt8 × List UInt8}
  {contents : List (List UInt8 × List UInt8)} {name : String}

/-- The bytes that a part of a piece is decoded to. -/
def unescape (w : List UInt8) : List UInt8 :=
  Percent.decode (w.map fun b => if b = 0x2B then 0x20 else b)

namespace StandsFor

/-- By induction on what is written: no digit of an escape is a plus sign. -/
lemma unescape_eq (h : StandsFor w bs) : unescape w = bs := by
  induction h with
  | nil => rfl
  | itself hsign hplus _ ih =>
    rw [unescape, List.map_cons, if_neg hplus, Percent.decode_cons_of_ne hsign]
    exact congrArg _ ih
  | escape hhigh hlow _ ih =>
    have hescape := Percent.escape?_eq_some_iff.2 ⟨hhigh, hlow⟩
    obtain ⟨hh, hl⟩ := Percent.isHexDigit_of_escape? hescape
    have hplus {d : UInt8} (hd : Percent.IsHexDigit d) : d ≠ 0x2B :=
      Percent.ne_of_isHexDigit hd (by decide)
    have hsign : Percent.sign ≠ 0x2B := by decide
    rw [unescape, List.map_cons, List.map_cons, List.map_cons, if_neg hsign, if_neg (hplus hh),
      if_neg (hplus hl), Percent.decode_escape hescape]
    exact congrArg _ ih
  | plus _ ih =>
    have hspace : (0x20 : UInt8) ≠ Percent.sign := by decide
    rw [unescape, List.map_cons, if_pos rfl, Percent.decode_cons_of_ne hspace]
    exact congrArg _ ih

/-- No escape is broken in what is written, also not by what comes behind it. -/
lemma not_isBroken (h : StandsFor w bs) (hrest : ∀ i, ¬ Percent.IsBroken rest i) :
    ∀ i, ¬ Percent.IsBroken (w ++ rest) i := by
  induction h with
  | nil => exact hrest
  | itself hsign _ _ ih => exact Percent.not_isBroken_cons hsign ih
  | escape hhigh hlow _ ih =>
    obtain ⟨hh, hl⟩ := Percent.isHexDigit_of_escape?
      (Percent.escape?_eq_some_iff.2 ⟨hhigh, hlow⟩)
    exact Percent.not_isBroken_escape hh hl ih
  | plus _ ih => exact Percent.not_isBroken_cons (by decide) ih

end StandsFor

/-- All that is written stands for something, if no escape in it is broken.  By induction on the
length, as an escape takes three bytes. -/
lemma exists_standsFor (hw : ∀ i, ¬ Percent.IsBroken w i) : ∃ bs, StandsFor w bs := by
  induction hlength : w.length using Nat.strongRecOn generalizing w with
  | ind length ih =>
    cases w with
    | nil => exact ⟨[], .nil⟩
    | cons b w =>
      by_cases hb : b = Percent.sign
      · have hdigits : ∃ h l, w[0]? = some h ∧ w[1]? = some l ∧
            Percent.IsHexDigit h ∧ Percent.IsHexDigit l := by
          by_contra hdigits
          exact hw 0 ⟨congrArg some hb, hdigits⟩
        obtain ⟨h, l, hh, hl, hhex⟩ := hdigits
        rcases w with _ | ⟨h', _ | ⟨l', w⟩⟩
        · cases hh
        · cases hl
        · cases hh
          cases hl
          obtain ⟨c, hc⟩ := Option.isSome_iff_exists.1 (Percent.isSome_escape?_iff.2 hhex)
          obtain ⟨hhigh, hlow⟩ := Percent.escape?_eq_some_iff.1 hc
          have hrest : ∀ i, ¬ Percent.IsBroken w i :=
            Percent.not_isBroken_right (w := [b, h, l]) hw
          obtain ⟨bs, hbs⟩ := ih w.length (by simp at hlength; omega) hrest rfl
          subst hb
          exact ⟨c :: bs, .escape hhigh hlow hbs⟩
      · have hrest : ∀ i, ¬ Percent.IsBroken w i := Percent.not_isBroken_right (w := [b]) hw
        obtain ⟨bs, hbs⟩ := ih w.length (by simp at hlength; omega) hrest rfl
        by_cases hplus : b = 0x2B
        · subst hplus
          exact ⟨_, .plus hbs⟩
        · exact ⟨_, .itself hb hplus hbs⟩

/-! ## What a body is cut into -/

/-- The bytes that the name and the value of a piece are decoded to. -/
def unescapeField (piece : List UInt8) : List UInt8 × List UInt8 :=
  (unescape (piece.takeWhile (· != 0x3D)), unescape ((piece.dropWhile (· != 0x3D)).drop 1))

/-- The bytes that the names and values of a body are decoded to. -/
def unescapeFields (body : List UInt8) : List (List UInt8 × List UInt8) :=
  ((body.splitOnP (· == 0x26)).filter fun p => !p.isEmpty).map unescapeField

namespace FieldContent

lemma ne_nil (h : FieldContent content w) : w ≠ [] := by
  cases h with
  | pair => simp
  | bare hne => exact hne

lemma ampersand_notMem (h : FieldContent content w) : 0x26 ∉ w := by
  cases h with
  | pair _ hn hv =>
    rw [List.mem_append, List.mem_cons, not_or, not_or]
    exact ⟨hn, by decide, hv⟩
  | bare _ _ hn => exact hn

lemma unescapeField_eq (h : FieldContent content w) : unescapeField w = content := by
  cases h with
  | pair hequals _ _ hn hv =>
    rw [unescapeField, takeWhile_ne_append_cons hequals, drop_dropWhile_ne hequals,
      hn.unescape_eq, hv.unescape_eq]
  | bare _ hequals _ hn =>
    have hall := forall_ne_of_notMem hequals
    rw [unescapeField, List.takeWhile_eq_self_iff.2 hall, List.dropWhile_eq_nil_iff.2 hall,
      hn.unescape_eq]
    rfl

lemma not_isBroken (h : FieldContent content w) (hrest : ∀ i, ¬ Percent.IsBroken rest i) :
    ∀ i, ¬ Percent.IsBroken (w ++ rest) i := by
  cases h with
  | pair _ _ _ hn hv =>
    rw [List.append_assoc]
    exact hn.not_isBroken (Percent.not_isBroken_cons (by decide) (hv.not_isBroken hrest))
  | bare _ _ _ hn => exact hn.not_isBroken hrest

end FieldContent

lemma exists_fieldContent (hne : w ≠ []) (hampersand : 0x26 ∉ w)
    (hw : ∀ i, ¬ Percent.IsBroken w i) : ∃ content, FieldContent content w := by
  by_cases hequals : 0x3D ∈ w
  · obtain ⟨n, v, rfl, hn⟩ := List.eq_append_cons_of_mem hequals
    rw [List.mem_append, List.mem_cons, not_or, not_or] at hampersand
    obtain ⟨name, hname⟩ := exists_standsFor
      (Percent.not_isBroken_left (by simp; decide) hw)
    obtain ⟨value, hvalue⟩ := exists_standsFor
      (Percent.not_isBroken_right (w := [0x3D]) (Percent.not_isBroken_right hw))
    exact ⟨_, .pair hn hampersand.1 hampersand.2.2 hname hvalue⟩
  · obtain ⟨name, hname⟩ := exists_standsFor hw
    exact ⟨_, .bare hne hequals hampersand hname⟩

namespace Contents

/-- The contents are what a body is decoded to, by induction on its pieces. -/
lemma unescapeFields_eq (h : Contents contents body) : unescapeFields body = contents := by
  induction h with
  | nil => rfl
  | ampersand _ ih =>
    rw [unescapeFields, filter_splitOnP_cons (by decide)]
    exact ih
  | @field _ _ w _ hw hbody _ ih =>
    have hpiece : ∀ b ∈ w, (b == 0x26) = false := by
      intro b hb
      simpa using fun heq : b = 0x26 => hw.ampersand_notMem (heq ▸ hb)
    rw [unescapeFields, filter_splitOnP_append hw.ne_nil hpiece (by simpa using hbody),
      List.map_cons, hw.unescapeField_eq]
    exact congrArg _ ih

lemma not_isBroken (h : Contents contents body) : ∀ i, ¬ Percent.IsBroken body i := by
  induction h with
  | nil => exact fun i => Percent.isBroken_nil
  | ampersand _ ih => exact Percent.not_isBroken_cons (by decide) ih
  | field hw _ _ ih => exact hw.not_isBroken ih

end Contents

/-- A body starts with what stands before its first ampersand. -/
lemma exists_piece (body : List UInt8) :
    ∃ w rest, body = w ++ rest ∧ 0x26 ∉ w ∧ ∀ b ∈ rest.head?, b = 0x26 := by
  by_cases hmem : 0x26 ∈ body
  · obtain ⟨w, rest, rfl, hw⟩ := List.eq_append_cons_of_mem hmem
    exact ⟨w, _, rfl, hw, by simp⟩
  · exact ⟨body, [], by simp, hmem, by simp⟩

/-- By induction on the length of the body, from which the first piece is taken. -/
lemma exists_contents (hbody : ∀ i, ¬ Percent.IsBroken body i) :
    ∃ contents, Contents contents body := by
  induction hlength : body.length using Nat.strongRecOn generalizing body with
  | ind length ih =>
    obtain ⟨w, rest, rfl, hw, hrest⟩ := exists_piece body
    have hbroken := Percent.not_isBroken_right hbody
    rw [List.length_append] at hlength
    rcases eq_or_ne w [] with rfl | hne
    · cases rest with
      | nil => exact ⟨[], .nil⟩
      | cons b rest =>
        obtain rfl := hrest b rfl
        obtain ⟨contents, hcontents⟩ := ih rest.length (by simp at hlength; omega)
          (Percent.not_isBroken_right (w := [0x26]) hbroken) rfl
        exact ⟨contents, .ampersand hcontents⟩
    · have hpos := List.length_pos_iff.2 hne
      obtain ⟨contents, hcontents⟩ := ih rest.length (by omega) hbroken rfl
      have hdigit : ∀ b ∈ rest.head?, ¬ Percent.IsHexDigit b := by
        intro b hb
        rw [hrest b hb]
        decide
      obtain ⟨content, hcontent⟩ :=
        exists_fieldContent hne hw (Percent.not_isBroken_left hdigit hbody)
      exact ⟨content :: contents, .field hcontent hrest hcontents⟩

/-! ## What becomes of contents -/

/-- A text is what is made of some bytes: the one that they encode, if there is one, and
otherwise one that shows that there is none. -/
structure ReadAs (bs : List UInt8) (text : String) : Prop where
  exact : Utf8.bytes text = bs ↔ Utf8.IsValid bs
  marked : ¬ Utf8.IsValid bs → '\uFFFD' ∈ text.toList

/-- The text that is made of some bytes. -/
def textOf (bs : List UInt8) : String := String.ofList (Utf8.decodeLossy bs)

lemma textOf_bytes (name : String) : textOf (Utf8.bytes name) = name := by
  rw [textOf, Utf8.bytes, Utf8.decodeLossy_encode, String.ofList_toList]

lemma readAs_textOf (bs : List UInt8) : ReadAs bs (textOf bs) where
  exact := by
    constructor
    · intro h
      exact ⟨_, h⟩
    · rintro ⟨s, rfl⟩
      rw [textOf, Utf8.decodeLossy_encode, Utf8.bytes, String.toList_ofList]
  marked h := by
    rw [textOf, String.toList_ofList]
    exact Utf8.mem_decodeLossy h

/-- A text without replacements is made of its own bytes alone. -/
lemma textOf_eq_iff (hname : '\uFFFD' ∉ name.toList) : textOf bs = name ↔ bs = Utf8.bytes name := by
  constructor
  · rintro rfl
    have hvalid : Utf8.IsValid bs := by
      by_contra hvalid
      exact hname ((readAs_textOf bs).marked hvalid)
    exact ((readAs_textOf bs).exact.2 hvalid).symm
  · rintro rfl
    exact textOf_bytes name

lemma ReadAs.eq_iff {v v' : List UInt8} {text text' : String} (h : ReadAs v text)
    (h' : ReadAs v' text') (hv : Utf8.IsValid v) (hv' : Utf8.IsValid v') :
    text = text' ↔ v = v' := by
  rw [← h.exact.2 hv, ← h'.exact.2 hv']
  constructor
  · intro heq
    rw [heq]
  · intro heq
    exact String.toList_inj.1 (Utf8.encode_injective heq)

/-- A form shows some contents: its fields are what is made of them, in order, and what is looked
up under a name is what is made of the first value of this name. -/
structure Shows (form : Form) (contents : List (List UInt8 × List UInt8)) : Prop where
  fields : List.Forall₂ (fun content field => ReadAs content.1 field.1 ∧ ReadAs content.2 field.2)
    contents form.fields
  value (name : String) : '\uFFFD' ∉ name.toList →
    Option.Rel ReadAs (contents.lookup (Utf8.bytes name)) (form.get? name)

lemma decodeFields_eq (body : List UInt8) :
    decodeFields body = (unescapeFields body).map fun content =>
      (textOf content.1, textOf content.2) := by
  rw [decodeFields, unescapeFields, List.map_map]
  rfl

lemma shows_textOf (contents : List (List UInt8 × List UInt8)) :
    Shows ⟨contents.map fun content => (textOf content.1, textOf content.2)⟩ contents where
  fields := by
    rw [List.forall₂_map_right_iff]
    exact List.forall₂_same.2 fun content _ => ⟨readAs_textOf content.1, readAs_textOf content.2⟩
  value name hname := by
    rw [get?]
    induction contents with
    | nil => exact .none
    | cons content contents ih =>
      obtain ⟨n, v⟩ := content
      simp only [List.map_cons, List.lookup_cons]
      by_cases hn : n = Utf8.bytes name
      · have htext : textOf n = name := (textOf_eq_iff hname).2 hn
        rw [hn, textOf_bytes, beq_self_eq_true, beq_self_eq_true]
        exact .some (readAs_textOf v)
      · have htext : textOf n ≠ name := fun htext => hn ((textOf_eq_iff hname).1 htext)
        rw [beq_false_of_ne (Ne.symm hn), beq_false_of_ne (Ne.symm htext)]
        exact ih

/-- A form that is read shows the contents of its body. -/
lemma shows_of_read {form : Form} (hread : read body = .ok form) (h : Contents contents body) :
    form.Shows contents := by
  obtain ⟨-, -, rfl⟩ := decode_eq_ok_iff.1 (read_eq_ok_iff.1 hread)
  rw [decodeFields_eq, h.unescapeFields_eq]
  exact shows_textOf contents

lemma existsUnique_contents {form : Form} (hread : read body = .ok form) :
    ∃! contents, Contents contents body := by
  obtain ⟨-, hbroken, -⟩ := decode_eq_ok_iff.1 (read_eq_ok_iff.1 hread)
  obtain ⟨contents, hcontents⟩ := exists_contents hbroken
  refine ⟨contents, hcontents, fun other hother => ?_⟩
  rw [← hother.unescapeFields_eq, hcontents.unescapeFields_eq]

/-- A body is read if it is UTF-8 and has contents, whether or not these are UTF-8. -/
lemma read_iff_contents : (∃ form, read body = .ok form) ↔
    Utf8.IsValid body ∧ ∃ contents, Contents contents body := by
  rw [exists_read_eq_ok_iff]
  refine and_congr_right fun _ => ⟨exists_contents, ?_⟩
  rintro ⟨contents, hcontents⟩
  exact hcontents.not_isBroken

/-- Values that are UTF-8 are told apart, also across bodies. -/
lemma get?_eq_iff {form form' : Form} {contents' : List (List UInt8 × List UInt8)}
    {v v' : List UInt8} (h : form.Shows contents) (h' : form'.Shows contents')
    (hname : '\uFFFD' ∉ name.toList) (hv : contents.lookup (Utf8.bytes name) = some v)
    (hv' : contents'.lookup (Utf8.bytes name) = some v') (hvalid : Utf8.IsValid v)
    (hvalid' : Utf8.IsValid v') : form.get? name = form'.get? name ↔ v = v' := by
  have hvalue := h.value name hname
  have hvalue' := h'.value name hname
  rw [hv] at hvalue
  rw [hv'] at hvalue'
  cases hget : form.get? name with
  | none =>
    rw [hget] at hvalue
    cases hvalue
  | some text =>
    cases hget' : form'.get? name with
    | none =>
      rw [hget'] at hvalue'
      cases hvalue'
    | some text' =>
      rw [hget] at hvalue
      rw [hget'] at hvalue'
      cases hvalue with
      | some hread =>
        cases hvalue' with
        | some hread' =>
          rw [Option.some.injEq]
          exact hread.eq_iff hread' hvalid hvalid'

/-- The bytes of some contents are those of the texts made of them exactly if all are UTF-8. -/
lemma map_bytes_eq_iff {fields : List (String × String)}
    (h : List.Forall₂ (fun content field => ReadAs content.1 field.1 ∧ ReadAs content.2 field.2)
      contents fields) :
    (fields.map fun field => (Utf8.bytes field.1, Utf8.bytes field.2)) = contents ↔
      ∀ content ∈ contents, Utf8.IsValid content.1 ∧ Utf8.IsValid content.2 := by
  induction h with
  | nil => simp
  | cons hread _ ih =>
    obtain ⟨hname, hvalue⟩ := hread
    rw [List.map_cons, List.cons.injEq, Prod.ext_iff, List.forall_mem_cons, ih, hname.exact,
      hvalue.exact]

/-- What is read of a body, against the contents that it has. -/
structure ReadsContents (body : List UInt8) : Prop where
  /-- Only what is written has to be UTF-8, not what it stands for. -/
  accepted : (∃ form, read body = .ok form) ↔
    Utf8.IsValid body ∧ ∃ contents, Contents contents body
  /-- Every refusal is for a malformed request. -/
  malformed (reported : ChatRelay.Fault) :
    read body = .error reported → ∃ reason, reported = .malformed reason
  /-- There are no other contents. -/
  unique (form : Form) : read body = .ok form → ∃! contents, Contents contents body
  shows (form : Form) (contents : List (List UInt8 × List UInt8)) :
    read body = .ok form → Contents contents body → form.Shows contents
  /-- Nothing is lost exactly if all contents are UTF-8. -/
  kept (form : Form) (contents : List (List UInt8 × List UInt8)) :
    read body = .ok form → Contents contents body →
      ((form.fields.map fun field => (Utf8.bytes field.1, Utf8.bytes field.2)) = contents ↔
        ∀ content ∈ contents, Utf8.IsValid content.1 ∧ Utf8.IsValid content.2)
  /-- The values of two bodies under one name are told apart if they are UTF-8. -/
  apart (body' : List UInt8) (form form' : Form)
    (contents contents' : List (List UInt8 × List UInt8)) (name : String) (v v' : List UInt8) :
    read body = .ok form → read body' = .ok form' →
      Contents contents body → Contents contents' body' → '\uFFFD' ∉ name.toList →
      contents.lookup (Utf8.bytes name) = some v → contents'.lookup (Utf8.bytes name) = some v' →
      Utf8.IsValid v → Utf8.IsValid v' → (form.get? name = form'.get? name ↔ v = v')

/-- A body is read by what is written in it: names and values that stand for UTF-8 are kept as
they are, and all others are read as well, but with something in their place. -/
theorem read_contents (body : List UInt8) : ReadsContents body where
  accepted := read_iff_contents
  malformed reported hread := by
    obtain ⟨fault, -, rfl⟩ := read_eq_error_iff.1 hread
    exact ⟨_, rfl⟩
  unique form := existsUnique_contents
  shows form contents := shows_of_read
  kept form contents hread h := map_bytes_eq_iff (shows_of_read hread h).fields
  apart body' form form' contents contents' name v v' hread hread' h h' hname hv hv' :=
    get?_eq_iff (shows_of_read hread h) (shows_of_read hread' h') hname hv hv'

/-! ## Values that are not UTF-8 -/

/-- A body with one escape in the value of its one name. -/
def escapedBody (h l : UInt8) : List UInt8 := [0x61, 0x3D, Percent.sign, h, l]

lemma contents_escapedBody {b h l : UInt8} (hhigh : Percent.IsDigitOf (b.toNat / 16) h)
    (hlow : Percent.IsDigitOf (b.toNat % 16) l) (hh : h ≠ 0x26) (hl : l ≠ 0x26) :
    Contents [(Utf8.bytes "a", [b])] (escapedBody h l) := by
  have hname : StandsFor [0x61] (Utf8.bytes "a") := .itself (by decide) (by decide) .nil
  have hvalue : StandsFor [Percent.sign, h, l] [b] := .escape hhigh hlow .nil
  have hampersand : 0x26 ∉ [Percent.sign, h, l] := by
    simp only [List.mem_cons, List.not_mem_nil, or_false, not_or]
    exact ⟨by decide, hh.symm, hl.symm⟩
  exact .field (.pair (by decide) (by decide) hampersand hname hvalue) (by simp) .nil

lemma not_isValid_of_decode {bs : List UInt8} {fault : Utf8.Fault}
    (h : Utf8.decode bs = .error fault) : ¬ Utf8.IsValid bs := by
  rintro ⟨s, hs⟩
  rw [Utf8.decode_eq_ok_iff.2 hs] at h
  cases h

/-- Two bodies with different values, neither of them UTF-8, are read as the same form. -/
theorem value_replaced :
    Contents [(Utf8.bytes "a", [0xFF])] (Utf8.bytes "a=%FF") ∧ ¬ Utf8.IsValid [0xFF] ∧
    Contents [(Utf8.bytes "a", [0xFE])] (Utf8.bytes "a=%FE") ∧
    read (Utf8.bytes "a=%FF") = .ok ⟨[("a", "\uFFFD")]⟩ ∧
    read (Utf8.bytes "a=%FE") = .ok ⟨[("a", "\uFFFD")]⟩ := by
  refine ⟨contents_escapedBody (by decide) (by decide) (by decide) (by decide),
    not_isValid_of_decode (by decide : Utf8.decode [0xFF] = .error ⟨0, some 1⟩),
    contents_escapedBody (by decide) (by decide) (by decide) (by decide), by decide, by decide⟩

end Form

end ChatRelay
