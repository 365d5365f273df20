/-
# Values that are written

The writer follows the grammar, without blanks as well as on indented lines: the tokens of a
value stand in what is written, one after another, with nothing but blanks between them.  So
both forms are read, and as the same document.
-/
import ChatRelay.Json.Basic
import ChatRelay.Proofs.Json.Literal
import ChatRelay.Proofs.Json.Reading
import ChatRelay.Proofs.Text.Decimal

namespace ChatRelay.Json

open Text (Decimal.digits)
open Text.Utf8

/-! ## The document of a value -/

/-- The inside of the literal of a text. -/
def literal (s : String) : List UInt8 := encode (s.toList.flatMap escape)

/-- The number literal of a natural number. -/
def natural (n : Nat) : Number := ⟨false, Decimal.digits n, [], none⟩

mutual

/-- The document that a value is written as. -/
def source : Json → Source
  | null => .null
  | bool b => .bool b
  | nat n => .number (natural n)
  | text s => .text (literal s)
  | array items => .array (itemSources items)
  | object members => .object (memberSources members)

/-- The documents of items. -/
def itemSources : List Json → List Source
  | [] => []
  | v :: rest => source v :: itemSources rest

/-- The documents of members, with the literals of their names. -/
def memberSources : List (String × Json) → List (List UInt8 × Source)
  | [] => []
  | (k, v) :: rest => (literal k, source v) :: memberSources rest

end

lemma itemSources_eq (items : List Json) : itemSources items = items.map source := by
  induction items with
  | nil => rfl
  | cons v rest ih => rw [itemSources, ih, List.map_cons]

lemma memberSources_eq (members : List (String × Json)) :
    memberSources members = members.map fun m => (literal m.1, source m.2) := by
  induction members with
  | nil => rfl
  | cons m rest ih => rw [memberSources, ih, List.map_cons]

@[simp] lemma source_array (items : List Json) :
    source (array items) = .array (items.map source) := by
  rw [source, itemSources_eq]

@[simp] lemma source_object (members : List (String × Json)) :
    source (object members) = .object (members.map fun m => (literal m.1, source m.2)) := by
  rw [source, memberSources_eq]

/-! ## Values by their parts -/

/-- A property holds of all values if it passes from the items of an array to the array, and
from the values in an object to the object. -/
@[elab_as_elim]
theorem induction {p : Json → Prop} (null : p null) (bool : ∀ b, p (bool b))
    (nat : ∀ n, p (nat n)) (text : ∀ s, p (text s))
    (array : ∀ items, (∀ v ∈ items, p v) → p (array items))
    (object : ∀ members, (∀ m ∈ members, p m.2) → p (object members)) (v : Json) : p v :=
  match v with
  | .null => null
  | .bool b => bool b
  | .nat n => nat n
  | .text s => text s
  | .array items => array items fun v _ => induction null bool nat text array object v
  | .object members =>
    object members fun m _ => induction null bool nat text array object m.2
termination_by sizeOf v
decreasing_by
  · rename_i hv
    have hlt := List.sizeOf_lt_of_mem hv
    rw [Json.array.sizeOf_spec]
    omega
  · rename_i hm
    have hlt := List.sizeOf_lt_of_mem hm
    rw [Json.object.sizeOf_spec]
    obtain ⟨k, v⟩ := m
    rw [Prod.mk.sizeOf_spec] at hlt
    show sizeOf v < _
    omega

/-! ## Lists with separators -/

lemma itemTokens_eq (items : List Source) :
    Source.itemTokens items = [Token.comma].intercalate (items.map Source.tokens) := by
  induction items with
  | nil => rfl
  | cons v rest ih =>
    cases rest with
    | nil => simp [Source.itemTokens]
    | cons w rest =>
      rw [Source.itemTokens_cons_cons, ih]
      simp

lemma memberTokens_eq (members : List (List UInt8 × Source)) :
    Source.memberTokens members =
      [Token.comma].intercalate (members.map fun m => .text m.1 :: .colon :: m.2.tokens) := by
  induction members with
  | nil => rfl
  | cons m rest ih =>
    cases rest with
    | nil => simp [Source.memberTokens]
    | cons m' rest =>
      rw [Source.memberTokens_cons_cons, ih]
      simp

lemma itemChars_eq (items : List Json) : itemChars items = [','].intercalate (items.map chars) := by
  induction items with
  | nil => rfl
  | cons v rest ih => cases rest <;> simp [itemChars, ih]

lemma memberChars_eq (members : List (String × Json)) :
    memberChars members =
      [','].intercalate (members.map fun m => quote m.1.toList ++ [':'] ++ chars m.2) := by
  induction members with
  | nil => rfl
  | cons m rest ih => cases rest <;> simp [memberChars, ih]

lemma prettyItems_eq (level : Nat) (items : List Json) :
    prettyItems level items =
      (',' :: newLine level).intercalate (items.map (prettyChars level)) := by
  induction items with
  | nil => rfl
  | cons v rest ih => cases rest <;> simp [prettyItems, ih]

lemma prettyMembers_eq (level : Nat) (members : List (String × Json)) :
    prettyMembers level members =
      (',' :: newLine level).intercalate
        (members.map fun m => quote m.1.toList ++ [':', ' '] ++ prettyChars level m.2) := by
  induction members with
  | nil => rfl
  | cons m rest ih => cases rest <;> simp [prettyMembers, ih]

/-! ## Tokens that are written -/

/-- Some tokens are what some characters are written for. -/
def Writes (ts : List Token) (s : List Char) : Prop := LaidOut ts (encode s)

namespace Writes

variable {ts ts' : List Token} {s s' : List Char}

lemma append (h : Writes ts s) (h' : Writes ts' s') : Writes (ts ++ ts') (s ++ s') := by
  rw [Writes, encode_append]
  exact LaidOut.append h h'

lemma of_token {t : Token} (ht : t.WrittenAs (encode s)) : Writes [t] s := by
  have hnone : IsBlanks [] := by simp [IsBlanks]
  have hlast := LaidOut.cons hnone ht (.nil hnone)
  rwa [List.nil_append, List.append_nil] at hlast

lemma of_blanks (hs : IsBlanks (encode s)) : Writes [] s := .nil hs

lemma intercalate {sep : List Token} {sepChars : List Char} (hsep : Writes sep sepChars)
    {α : Type} {tokens : α → List Token} {chars : α → List Char} {parts : List α}
    (hparts : ∀ a ∈ parts, Writes (tokens a) (chars a)) :
    Writes (sep.intercalate (parts.map tokens)) (sepChars.intercalate (parts.map chars)) := by
  induction parts with
  | nil => exact of_blanks (by simp [encode, IsBlanks])
  | cons a rest ih =>
    obtain ⟨hfirst, hrest⟩ := List.forall_mem_cons.1 hparts
    cases rest with
    | nil => simpa using hfirst
    | cons a' rest =>
      have hwrites := (hfirst.append hsep).append (ih hrest)
      simpa using hwrites

end Writes

/-! ## Single tokens -/

lemma isBlanks_encode {s : List Char} (hs : ∀ c ∈ s, c = ' ' ∨ c = '\n') :
    IsBlanks (encode s) := by
  intro b hb
  obtain ⟨c, hc, hb⟩ := List.mem_flatMap.1 hb
  have hlt : c.toNat < 128 := by rcases hs c hc with rfl | rfl <;> decide
  rw [utf8EncodeChar_of_lt hlt, List.mem_singleton] at hb
  rw [hb]
  rcases hs c hc with rfl | rfl <;> decide

lemma writes_newLine (level : Nat) : Writes [] (newLine level) := by
  refine .of_blanks (isBlanks_encode fun c hc => ?_)
  rcases List.mem_cons.1 hc with rfl | hc
  · exact .inr rfl
  · exact .inl (List.eq_of_mem_replicate hc)

/-- The bytes of ASCII characters are these characters. -/
lemma charsOf_encode {s : List Char} (hs : ∀ c ∈ s, c.toNat < 128) : charsOf (encode s) = s := by
  induction s with
  | nil => rfl
  | cons c s ih =>
    obtain ⟨hc, hrest⟩ := List.forall_mem_cons.1 hs
    rw [encode_cons, utf8EncodeChar_of_lt hc, List.singleton_append, charsOf, List.map_cons,
      charOf, ofNat_byte_of_lt hc]
    exact congrArg _ (ih hrest)

lemma natural_writtenAs (n : Nat) : (natural n).WrittenAs (Decimal.digits n) := by
  refine .plain rfl ⟨⟨Text.Decimal.digits_ne_nil n, fun c => Text.Decimal.isDigit_of_mem_digits⟩,
    fun hzero => ?_, [], [], .none, .none, by simp [natural]⟩
  by_cases hn : n = 0
  · rw [hn]
    rfl
  · exact absurd hzero (Text.Decimal.head?_digits hn)

lemma writes_nat (n : Nat) : Writes [.number (natural n)] (Decimal.digits n) := by
  refine .of_token (.number ?_)
  rw [charsOf_encode]
  · exact natural_writtenAs n
  · exact fun c => Text.Decimal.toNat_lt_of_mem_digits

lemma writes_quote (s : String) : Writes [.text (literal s)] (quote s.toList) := by
  refine .of_token ?_
  rw [quote, encode_append]
  exact .text (isLiteral_escape s.toList)

lemma writes_bool (b : Bool) : Writes [.bool b] (boolChars b) := by
  cases b
  · exact .of_token .false
  · exact .of_token .true

lemma writes_comma : Writes [.comma] [','] := .of_token .comma

lemma writes_colon : Writes [.colon] [':'] := .of_token .colon

/-! ## Whole values -/

namespace Writes

/-- What stands between brackets. -/
lemma array {items : List Source} {s : List Char} (h : Writes (Source.itemTokens items) s) :
    Writes (Source.array items).tokens ('[' :: s ++ [']']) := by
  rw [Source.tokens]
  exact ((of_token (s := ['[']) .openBracket).append h).append (of_token (s := [']']) .closeBracket)

/-- What stands between braces. -/
lemma object {members : List (List UInt8 × Source)} {s : List Char}
    (h : Writes (Source.memberTokens members) s) :
    Writes (Source.object members).tokens ('\x7b' :: s ++ ['\x7d']) := by
  rw [Source.tokens]
  exact ((of_token (s := ['\x7b']) .openBrace).append h).append
    (of_token (s := ['\x7d']) .closeBrace)

variable {sep colon : List Char} {write : Json → List Char}

/-- Items, each of which is written, with commas between them. -/
lemma items (hsep : Writes [.comma] sep) {items : List Json}
    (h : ∀ v ∈ items, Writes v.source.tokens (write v)) :
    Writes (Source.itemTokens (items.map source)) (sep.intercalate (items.map write)) := by
  rw [itemTokens_eq, List.map_map]
  exact intercalate hsep h

/-- Members, each of which is written behind its name, with commas between them. -/
lemma members (hsep : Writes [.comma] sep) (hcolon : Writes [.colon] colon)
    {members : List (String × Json)} (h : ∀ m ∈ members, Writes m.2.source.tokens (write m.2)) :
    Writes (Source.memberTokens (members.map fun m => (literal m.1, source m.2)))
      (sep.intercalate (members.map fun m => quote m.1.toList ++ colon ++ write m.2)) := by
  rw [memberTokens_eq, List.map_map]
  exact intercalate hsep fun m hm => ((writes_quote m.1).append hcolon).append (h m hm)

/-- New lines around what is written. -/
lemma onLines {ts : List Token} {s : List Char} (h : Writes ts s) (level level' : Nat) :
    Writes ts (newLine level ++ s ++ newLine level') := by
  have hlines := ((writes_newLine level).append h).append (writes_newLine level')
  rwa [List.nil_append, List.append_nil] at hlines

end Writes

/-- What is written without blanks are the tokens of the document. -/
lemma writes_chars (v : Json) : Writes v.source.tokens v.chars := by
  induction v using Json.induction with
  | null => exact .of_token .null
  | bool b => exact writes_bool b
  | nat n => exact writes_nat n
  | text s => exact writes_quote s
  | array items ih =>
    rw [source_array, chars, itemChars_eq]
    exact .array (.items writes_comma ih)
  | object members ih =>
    rw [source_object, chars, memberChars_eq]
    exact .object (.members writes_comma writes_colon ih)

/-- What is written on indented lines are the same tokens. -/
lemma writes_prettyChars (v : Json) (level : Nat) :
    Writes v.source.tokens (prettyChars level v) := by
  induction v using Json.induction generalizing level with
  | null => exact .of_token .null
  | bool b => exact writes_bool b
  | nat n => exact writes_nat n
  | text s => exact writes_quote s
  | array items ih =>
    have hcomma := writes_comma.append (writes_newLine (level + 1))
    have hitems := Writes.items hcomma fun v hv => ih v hv (level + 1)
    cases items with
    | nil => exact .array hitems
    | cons v rest =>
      rw [source_array, prettyChars, prettyItems_eq]
      · simpa using Writes.array (hitems.onLines (level + 1) level)
      · simp
  | object members ih =>
    have hcomma := writes_comma.append (writes_newLine (level + 1))
    have hcolon := writes_colon.append (.of_blanks (s := [' ']) (isBlanks_encode (by simp)))
    have hmembers := Writes.members hcomma hcolon fun m hm => ih m hm (level + 1)
    cases members with
    | nil => exact .object hmembers
    | cons m rest =>
      rw [source_object, prettyChars, prettyMembers_eq]
      · simpa using Writes.object (hmembers.onLines (level + 1) level)
      · simp

/-! ## Reading back -/

@[simp] lemma textOf?_literal (s : String) : textOf? (literal s) = some s := textOf?_escape s

/-- A value that is written without blanks is read as its document. -/
theorem read?_bytes (v : Json) : read? v.bytes = some v.source :=
  read?_eq_some_iff.2 (writes_chars v)

/-- A value that is written on indented lines is read as its document. -/
theorem read?_pretty (v : Json) : read? (Text.Utf8.bytes v.pretty) = some v.source := by
  rw [pretty, Text.Utf8.bytes, String.toList_ofList]
  exact read?_eq_some_iff.2 (writes_prettyChars v 0)

end ChatRelay.Json
