/-
# Forms and their writings

A form is written piece by piece, with at least one ampersand between any two of them.  A piece is
a name and a value with an equals sign between them, which may be left out if there is nothing
behind it.  A character stands for itself, unless it has a meaning of its own, or it is written
with an escape for each of its bytes; and a space may be a plus sign.

The pieces are separated before escapes are decoded, so that every writing is read as the fields
that it is made of.  Of the fields of a name the first one counts, also for the token.
-/
import ChatRelay.Proofs.Form.Content
import ChatRelay.Proofs.Verifier.Mode

namespace ChatRelay.Form

open Text

/-! ## Writings -/

/-- The characters with a meaning of their own. -/
def reserved : List Char := ['&', '=', '+', '%']

/-- There is an escape for each of some bytes, with digits of either case. -/
inductive Escapes : List UInt8 → List UInt8 → Prop
  | nil : Escapes [] []
  | cons {b h l : UInt8} {bs w : List UInt8} :
      Percent.IsDigitOf (b.toNat / 16) h → Percent.IsDigitOf (b.toNat % 16) l → Escapes bs w →
      Escapes (b :: bs) (Percent.sign :: h :: l :: w)

/-- The ways to write a character. -/
inductive WritesChar : Char → List UInt8 → Prop
  | literal {c : Char} : c ∉ reserved → WritesChar c (String.utf8EncodeChar c)
  | escaped {c : Char} {w : List UInt8} : Escapes (String.utf8EncodeChar c) w → WritesChar c w
  | plus : WritesChar ' ' [0x2B]

/-- The ways to write a text. -/
inductive WritesText : List Char → List UInt8 → Prop
  | nil : WritesText [] []
  | cons {c : Char} {s : List Char} {w ws : List UInt8} :
      WritesChar c w → WritesText s ws → WritesText (c :: s) (w ++ ws)

/-- The ways to write a name and a value. -/
inductive WritesField : String × String → List UInt8 → Prop
  /-- There is an equals sign between them. -/
  | pair {name value : String} {n v : List UInt8} : WritesText name.toList n →
      WritesText value.toList v → WritesField (name, value) (n ++ 0x3D :: v)
  /-- The value is empty, and the name is not. -/
  | bare {name : String} {n : List UInt8} : name ≠ "" → WritesText name.toList n →
      WritesField (name, "") n

/-- The ways to write the fields of a form: each of them is followed by an ampersand or by the end,
and besides them there are only ampersands. -/
inductive WritesFields : List (String × String) → List UInt8 → Prop
  | nil : WritesFields [] []
  | ampersand {fields : List (String × String)} {body : List UInt8} :
      WritesFields fields body → WritesFields fields (0x26 :: body)
  | field {field : String × String} {fields : List (String × String)} {w body : List UInt8} :
      WritesField field w → (∀ b ∈ body.head?, b = 0x26) → WritesFields fields body →
      WritesFields (field :: fields) (w ++ body)

/-- A value is the one in the first field of a name. -/
def IsFirst (fields : List (String × String)) (name value : String) : Prop :=
  ∃ before after, fields = before ++ (name, value) :: after ∧ ∀ field ∈ before, field.1 ≠ name

variable {fields : List (String × String)} {field : String × String} {name value : String}
  {c : Char} {s : List Char} {b : UInt8} {bs w ws x rest body : List UInt8}

/-! ## Bytes -/

/-- Bytes are written one after another: each as itself, or with an escape, or as a plus sign. -/
inductive Spells : List UInt8 → List UInt8 → Prop
  | nil : Spells [] []
  | itself {b : UInt8} {bs w : List UInt8} :
      (∀ c ∈ reserved, b ≠ UInt8.ofNat c.toNat) → Spells bs w → Spells (b :: bs) (b :: w)
  | escape {b h l : UInt8} {bs w : List UInt8} :
      Percent.escape? Percent.sign h l = some b → Spells bs w →
      Spells (b :: bs) (Percent.sign :: h :: l :: w)
  | plus {bs w : List UInt8} : Spells bs w → Spells (0x20 :: bs) (0x2B :: w)

namespace Spells

lemma itself_append (hx : ∀ b ∈ x, ∀ c ∈ reserved, b ≠ UInt8.ofNat c.toNat) (h : Spells bs w) :
    Spells (x ++ bs) (x ++ w) := by
  induction x with
  | nil => exact h
  | cons b x ih =>
    obtain ⟨hb, hx⟩ := List.forall_mem_cons.1 hx
    exact .itself hb (ih hx)

lemma escapes_append (hx : Escapes x ws) (h : Spells bs w) : Spells (x ++ bs) (ws ++ w) := by
  induction hx with
  | nil => exact h
  | cons hhigh hlow _ ih => exact .escape (Percent.escape?_eq_some_iff.2 ⟨hhigh, hlow⟩) ih

lemma standsFor (h : Spells bs w) : StandsFor w bs := by
  induction h with
  | nil => exact .nil
  | itself hb _ ih => exact .itself (hb '%' (by decide)) (hb '+' (by decide)) ih
  | escape hescape _ ih =>
    obtain ⟨hhigh, hlow⟩ := Percent.escape?_eq_some_iff.1 hescape
    exact .escape hhigh hlow ih
  | plus _ ih => exact .plus ih

/-- No separator is left in what is written. -/
lemma separators_notMem (h : Spells bs w) : 0x26 ∉ w ∧ 0x3D ∉ w := by
  have hother {y z : UInt8} {w : List UInt8} (hy : z ≠ y) (hw : y ∉ w) : y ∉ z :: w :=
    List.not_mem_cons_of_ne_of_not_mem hy.symm hw
  induction h with
  | nil => exact ⟨List.not_mem_nil, List.not_mem_nil⟩
  | itself hb _ ih => exact ⟨hother (hb '&' (by decide)) ih.1, hother (hb '=' (by decide)) ih.2⟩
  | escape hescape _ ih =>
    obtain ⟨hh, hl⟩ := Percent.isHexDigit_of_escape? hescape
    have hdigits {y : UInt8} (hy : ¬ Percent.IsHexDigit y) {w : List UInt8} (hw : y ∉ w) :=
      hother (Percent.ne_of_isHexDigit hh hy) (hother (Percent.ne_of_isHexDigit hl hy) hw)
    exact ⟨hother (by decide) (hdigits (by decide) ih.1),
      hother (by decide) (hdigits (by decide) ih.2)⟩
  | plus _ ih => exact ⟨hother (by decide) ih.1, hother (by decide) ih.2⟩

end Spells

/-! ## Texts -/

/-- The bytes of a character are none of those with a meaning of their own. -/
lemma ne_of_mem_utf8EncodeChar (hc : c ∉ reserved) (hb : b ∈ String.utf8EncodeChar c) :
    ∀ x ∈ reserved, b ≠ UInt8.ofNat x.toNat := by
  rintro x hx rfl
  have hascii : ∀ x ∈ reserved, x.toNat < 128 := by simp [reserved]
  have hmem : x ∈ [c] := by
    rw [← Utf8.mem_encode_iff (hascii x hx), Utf8.encode_cons]
    exact List.mem_append_left _ hb
  exact hc (List.mem_singleton.1 hmem ▸ hx)

lemma WritesChar.spells (hc : WritesChar c x) (h : Spells bs w) :
    Spells (String.utf8EncodeChar c ++ bs) (x ++ w) := by
  cases hc with
  | literal hc => exact h.itself_append fun b => ne_of_mem_utf8EncodeChar hc
  | escaped hx => exact h.escapes_append hx
  | plus => exact .plus h

lemma WritesText.spells (h : WritesText s w) : Spells (Utf8.encode s) w := by
  induction h with
  | nil => exact .nil
  | cons hc _ ih => exact hc.spells ih

lemma isValid_cons {b : UInt8} (hb : b < 0x80) (h : Utf8.IsValid bs) : Utf8.IsValid (b :: bs) :=
  (Utf8.isValid_singleton hb).append h

lemma Escapes.isValid (h : Escapes bs w) : Utf8.IsValid w := by
  induction h with
  | nil => exact ⟨[], rfl⟩
  | cons hhigh hlow _ ih =>
    obtain ⟨hh, hl⟩ := Percent.isHexDigit_of_escape?
      (Percent.escape?_eq_some_iff.2 ⟨hhigh, hlow⟩)
    exact isValid_cons (by decide) (isValid_cons (Percent.lt_of_isHexDigit hh)
      (isValid_cons (Percent.lt_of_isHexDigit hl) ih))

lemma WritesChar.isValid (h : WritesChar c w) : Utf8.IsValid w := by
  cases h with
  | literal => exact ⟨[c], by simp [Utf8.encode]⟩
  | escaped hw => exact hw.isValid
  | plus => exact Utf8.isValid_singleton (by decide)

lemma WritesText.isValid (h : WritesText s w) : Utf8.IsValid w := by
  induction h with
  | nil => exact ⟨[], rfl⟩
  | cons hc _ ih => exact hc.isValid.append ih

lemma WritesChar.ne_nil (h : WritesChar c w) : w ≠ [] := by
  cases h with
  | literal => exact String.utf8EncodeChar_ne_nil
  | escaped hw =>
    rintro rfl
    generalize hbytes : String.utf8EncodeChar c = bs at hw
    cases hw
    exact String.utf8EncodeChar_ne_nil hbytes
  | plus => exact List.cons_ne_nil _ _

lemma WritesText.ne_nil (h : WritesText s w) (hs : s ≠ []) : w ≠ [] := by
  cases h with
  | nil => exact absurd rfl hs
  | cons hc _ => exact List.append_ne_nil_of_left_ne_nil hc.ne_nil _

/-! ## Fields -/

/-- What is written for a field has the bytes of its name and of its value as contents. -/
lemma WritesField.fieldContent (h : WritesField field w) :
    FieldContent (Utf8.bytes field.1, Utf8.bytes field.2) w := by
  cases h with
  | pair hn hv =>
    obtain ⟨hampersand, hequals⟩ := hn.spells.separators_notMem
    exact .pair hequals hampersand hv.spells.separators_notMem.1 hn.spells.standsFor
      hv.spells.standsFor
  | bare hname hn =>
    obtain ⟨hampersand, hequals⟩ := hn.spells.separators_notMem
    have hne := hn.ne_nil fun hnil => hname (String.toList_inj.1 hnil)
    exact .bare hne hequals hampersand hn.spells.standsFor

lemma WritesField.isValid (h : WritesField field w) : Utf8.IsValid w := by
  cases h with
  | pair hn hv => exact hn.isValid.append (isValid_cons (by decide) hv.isValid)
  | bare _ hn => exact hn.isValid

/-! ## Forms -/

namespace WritesFields

lemma contents (h : WritesFields fields body) :
    Contents (fields.map fun field => (Utf8.bytes field.1, Utf8.bytes field.2)) body := by
  induction h with
  | nil => exact .nil
  | ampersand _ ih => exact .ampersand ih
  | field hw hbody _ ih => exact .field hw.fieldContent hbody ih

/-- The fields are read back from every way to write them, as they are what is made of the
contents. -/
lemma decodeFields_eq (h : WritesFields fields body) : decodeFields body = fields := by
  rw [Form.decodeFields_eq, h.contents.unescapeFields_eq, List.map_map]
  simp only [Function.comp_def, textOf_bytes, List.map_id']

lemma isValid (h : WritesFields fields body) : Utf8.IsValid body := by
  induction h with
  | nil => exact ⟨[], rfl⟩
  | ampersand _ ih => exact isValid_cons (by decide) ih
  | field hw _ _ ih => exact hw.isValid.append ih

lemma decode_eq (h : WritesFields fields body) : Form.decode body = .ok ⟨fields⟩ :=
  decode_eq_ok_iff.2 ⟨h.isValid, h.contents.not_isBroken, by rw [h.decodeFields_eq]⟩

end WritesFields

lemma exists_escapes (bs : List UInt8) : ∃ w, Escapes bs w := by
  induction bs with
  | nil => exact ⟨[], .nil⟩
  | cons b bs ih =>
    obtain ⟨w, hw⟩ := ih
    have hb : b.toNat < 256 := b.toNat_lt
    have hhigh := Percent.isDigitOf_toUpper (v := b.toNat / 16) (by omega)
    have hlow := Percent.isDigitOf_toUpper (v := b.toNat % 16) (by omega)
    exact ⟨_, .cons hhigh hlow hw⟩

lemma exists_writesText (s : List Char) : ∃ w, WritesText s w := by
  induction s with
  | nil => exact ⟨[], .nil⟩
  | cons c s ih =>
    obtain ⟨w, hw⟩ := exists_escapes (String.utf8EncodeChar c)
    obtain ⟨ws, hws⟩ := ih
    exact ⟨w ++ ws, .cons (.escaped hw) hws⟩

/-- Any fields can be written, whatever characters are in them, so there is a body for each form. -/
theorem exists_decode_eq (fields : List (String × String)) :
    ∃ body, WritesFields fields body ∧ decode body = .ok ⟨fields⟩ := by
  suffices h : ∃ body, WritesFields fields body ∧ ∀ b ∈ body.head?, b = 0x26 by
    obtain ⟨body, hbody, -⟩ := h
    exact ⟨body, hbody, hbody.decode_eq⟩
  induction fields with
  | nil => exact ⟨[], .nil, by simp⟩
  | cons field fields ih =>
    obtain ⟨n, hn⟩ := exists_writesText field.1.toList
    obtain ⟨v, hv⟩ := exists_writesText field.2.toList
    obtain ⟨body, hbody, hhead⟩ := ih
    -- an ampersand in front keeps the piece apart from what is written before
    exact ⟨_, .ampersand (.field (.pair hn hv) hhead hbody), by simp⟩

/-! ## What is read -/

/-- What is looked up is in the first field of the name. -/
lemma get?_eq_some_iff {form : Form} :
    form.get? name = some value ↔ IsFirst form.fields name value := by
  rw [get?, List.lookup_eq_some_iff, IsFirst]
  simp only [bne_iff_ne, ne_comm]

lemma get?_eq_none_iff {form : Form} :
    form.get? name = none ↔ ∀ value, (name, value) ∉ form.fields := by
  rw [get?, List.lookup_eq_none_iff]
  constructor
  · intro h value hmem
    exact absurd (h _ hmem) (by simp)
  · rintro h ⟨name', value⟩ hmem
    simpa using fun heq : name = name' => h value (heq ▸ hmem)

lemma value_eq_iff {form : Form} (hvalue : value ≠ "") :
    form.value name = value ↔ IsFirst form.fields name value := by
  rw [← get?_eq_some_iff, Form.value]
  cases form.get? name with
  | none => simp [hvalue.symm]
  | some other => simp

/-- A token that is not empty is the one of a form if it is in the first field for it. -/
lemma verify_eq_ok_iff {v : Verifier} {token : String} {r : SignedRequest} {now : Int}
    (hmode : v.mode = .legacyToken) (htoken : v.legacyToken = some token) (hne : token ≠ "")
    (hformat : r.format = .form) (hbody : WritesFields fields r.body) :
    v.verify r now = .ok () ↔ IsFirst fields "token" token := by
  have henforces : v.Enforces v.mode := Verifier.enforces_mode fun _ => by rw [htoken]; rfl
  rw [hmode] at henforces
  obtain ⟨token', htoken', hverify⟩ := henforces
  cases htoken.symm.trans htoken'
  rw [hverify, Verifier.checkToken_eq_ok_iff, Verifier.bodyToken, hformat, hbody.decode_eq]
  simp only [Except.ok.injEq]
  exact value_eq_iff hne

/-- Every writing of some fields is read, and what is looked up under a name is the value in the
first field of this name, or nothing if there is none.  So a relay that expects a token takes a
form if the first token in it is the one that it expects, in whatever way the form is written. -/
theorem first_field_counts {fields : List (String × String)} {body : List UInt8}
    (h : WritesFields fields body) :
    (∃ form, decode body = .ok form ∧ ∀ name,
      (∀ value, form.get? name = some value ↔ IsFirst fields name value) ∧
      (form.get? name = none ↔ ∀ value, (name, value) ∉ fields)) ∧
    ∀ (v : Verifier) (token : String) (r : SignedRequest) (now : Int),
      v.mode = .legacyToken → v.legacyToken = some token → token ≠ "" →
      r.format = .form → r.body = body →
      (v.verify r now = .ok () ↔ IsFirst fields "token" token) := by
  refine ⟨⟨⟨fields⟩, h.decode_eq, fun name => ?_⟩, ?_⟩
  · exact ⟨fun value => get?_eq_some_iff, get?_eq_none_iff⟩
  · rintro v token r now hmode htoken hne hformat rfl
    exact verify_eq_ok_iff hmode htoken hne hformat h

/-! ## A form with two tokens -/

/-- A text without characters that have a meaning of their own is one way to write it. -/
lemma writesText_encode (hs : ∀ c ∈ s, c ∉ reserved) : WritesText s (Utf8.encode s) := by
  induction s with
  | nil => exact .nil
  | cons c s ih =>
    obtain ⟨hc, hs⟩ := List.forall_mem_cons.1 hs
    exact .cons (.literal hc) (ih hs)

/-- Some fields, with two for the token. -/
def twoTokens : List (String × String) := [("token", "é&"), ("a b", ""), ("token", "x")]

/-- One way to write them: escapes have digits of either case, there is a plus sign for a space and
no equals sign behind it, and there are ampersands at the ends. -/
def twoTokensBody : List UInt8 := Utf8.bytes "&token=%C3%a9%26&a+b&&token=x&"

lemma writesFields_twoTokensBody : WritesFields twoTokens twoTokensBody := by
  have htoken : WritesText ("token").toList (Utf8.bytes "token") :=
    writesText_encode (by simp [reserved])
  have hlast : WritesText ("x").toList (Utf8.bytes "x") := writesText_encode (by simp [reserved])
  have hletter : WritesChar 'é' [0x25, 0x43, 0x33, 0x25, 0x61, 0x39] := by
    have hbytes : String.utf8EncodeChar 'é' = [0xC3, 0xA9] := by decide
    refine .escaped ?_
    rw [hbytes]
    exact .cons (by decide) (by decide) (.cons (by decide) (by decide) .nil)
  have hampersand : WritesChar '&' [0x25, 0x32, 0x36] := by
    have hbytes : String.utf8EncodeChar '&' = [0x26] := by decide
    refine .escaped ?_
    rw [hbytes]
    exact .cons (by decide) (by decide) .nil
  have hfirst : WritesText ("é&").toList [0x25, 0x43, 0x33, 0x25, 0x61, 0x39, 0x25, 0x32, 0x36] :=
    .cons hletter (.cons hampersand .nil)
  have hname : WritesText ("a b").toList [0x61, 0x2B, 0x62] :=
    .cons (.literal (by decide)) (.cons .plus (.cons (.literal (by decide)) .nil))
  have hbody : twoTokensBody = 0x26 :: (Utf8.bytes "token" ++
      0x3D :: [0x25, 0x43, 0x33, 0x25, 0x61, 0x39, 0x25, 0x32, 0x36] ++
      0x26 :: ([0x61, 0x2B, 0x62] ++
      0x26 :: 0x26 :: (Utf8.bytes "token" ++ 0x3D :: Utf8.bytes "x" ++ [0x26]))) := by
    decide +kernel
  have hhead (rest : List UInt8) : ∀ b ∈ (0x26 :: rest).head?, b = 0x26 := by simp
  rw [hbody]
  exact .ampersand <| .field (.pair htoken hfirst) (hhead _) <|
    .ampersand <| .field (.bare (by decide) hname) (hhead _) <|
    .ampersand <| .ampersand <| .field (.pair htoken hlast) (hhead _) (.ampersand .nil)

/-- A request with this form. -/
def twoTokensRequest : SignedRequest := ⟨none, none, twoTokensBody, .form⟩

/-- Of the two tokens, the first one is the one that is looked at. -/
theorem first_field_counts_twoTokens :
    WritesFields twoTokens twoTokensBody ∧
    (∃ form, decode twoTokensBody = .ok form ∧ ∀ name,
      (∀ value, form.get? name = some value ↔ IsFirst twoTokens name value) ∧
      (form.get? name = none ↔ ∀ value, (name, value) ∉ twoTokens)) ∧
    IsFirst twoTokens "token" "é&" ∧
    (⟨none, some "é&", false⟩ : Verifier).verify twoTokensRequest 0 = .ok () := by
  have h := first_field_counts writesFields_twoTokensBody
  have hfirst : IsFirst twoTokens "token" "é&" := ⟨[], _, rfl, by simp⟩
  refine ⟨writesFields_twoTokensBody, h.1, hfirst, ?_⟩
  exact (h.2 ⟨none, some "é&", false⟩ "é&" twoTokensRequest 0 rfl rfl (by decide) rfl rfl).2 hfirst

end ChatRelay.Form
