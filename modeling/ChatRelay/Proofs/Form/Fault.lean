/-
# The first fault of a form

A body is refused as a form if it is not UTF-8, and otherwise if a percent sign in it starts no
escape.  The refusal says where: behind the longest beginning that is UTF-8, or at the first such
percent sign.  Either way the request is malformed, both for the verifier and for the server.
-/
import ChatRelay.Proofs.Text.Decimal
import ChatRelay.Proofs.Text.Percent
import ChatRelay.Proofs.Text.Separator
import ChatRelay.Proofs.Text.Validity
import ChatRelay.Server.Basic

namespace ChatRelay.Form

open Text

/-! ## Reading -/

/-- Read a body; whatever is wrong with it makes the request malformed. -/
def read (body : List UInt8) : Except ChatRelay.Fault Form :=
  (decode body).mapError fun fault => .malformed fault.message

variable {body : List UInt8} {form : Form} {n m index : Nat} {reason text : String}
  {reported : ChatRelay.Fault}

lemma read_eq_error_iff : read body = .error reported ↔
    ∃ fault, decode body = .error fault ∧ reported = .malformed fault.message := by
  rw [read]
  cases decode body <;> simp [Except.mapError, eq_comm]

lemma read_eq_ok_iff : read body = .ok form ↔ decode body = .ok form := by
  rw [read]
  cases decode body <;> simp [Except.mapError]

lemma decode_eq_notUtf8_iff {fault : Utf8.Fault} :
    decode body = .error (.notUtf8 fault) ↔ Utf8.decode body = .error fault := by
  rw [decode]
  cases Utf8.decode body with
  | error fault' => simp
  | ok s => cases Percent.firstBad? body <;> simp

lemma decode_eq_badEscape_iff : decode body = .error (.badEscape index) ↔
    Utf8.IsValid body ∧ Percent.IsFirstBroken body index := by
  rw [decode, ← Percent.firstBad?_eq_some_iff, Utf8.IsValid]
  simp only [← Utf8.decode_eq_ok_iff]
  cases Utf8.decode body with
  | error fault' => simp
  | ok s => cases Percent.firstBad? body <;> simp

/-- A form is what the fields of a body give if nothing is wrong with it. -/
lemma decode_eq_ok_iff : decode body = .ok form ↔
    Utf8.IsValid body ∧ (∀ i, ¬ Percent.IsBroken body i) ∧ form = ⟨decodeFields body⟩ := by
  rw [decode, ← Percent.firstBad?_eq_none_iff, Utf8.IsValid]
  simp only [← Utf8.decode_eq_ok_iff]
  cases Utf8.decode body with
  | error fault' => simp
  | ok s => cases Percent.firstBad? body <;> simp [eq_comm]

/-! ## What is said -/

/-- A text says that a form is not UTF-8 from a position on. -/
inductive SaysNotUtf8 (index : Nat) : String → Prop
  /-- Some bytes there are part of no character. -/
  | broken (size : Nat) : SaysNotUtf8 index
      s!"form body is not UTF-8: invalid utf-8 sequence of {size} bytes from index {index}"
  /-- The body ends within a character. -/
  | cut : SaysNotUtf8 index
      s!"form body is not UTF-8: incomplete utf-8 byte sequence from index {index}"

/-- A text ends with a number, behind a blank. -/
def EndsWith (text : String) (n : Nat) : Prop :=
  ∃ before : String, text = before ++ toString n ∧ before.toList.getLast? = some ' '

lemma EndsWith.unique (hn : EndsWith text n) (hm : EndsWith text m) : n = m := by
  have hdigits (k : Nat) : ' ' ∉ (Decimal.digits k).reverse := by
    intro hmem
    have hdigit := Decimal.isDigit_of_mem_digits (List.mem_reverse.1 hmem)
    exact absurd hdigit (by decide)
  -- from the end, the digits are what stands before the first blank
  have hreverse {k : Nat} (hk : EndsWith text k) :
      ∃ before, text.toList.reverse = (Decimal.digits k).reverse ++ ' ' :: before := by
    obtain ⟨before, rfl, hlast⟩ := hk
    obtain ⟨front, hfront⟩ := List.getLast?_eq_some_iff.1 hlast
    refine ⟨front.reverse, ?_⟩
    rw [String.toList_append, hfront, Nat.toString_eq_repr, Nat.repr_eq_ofList_toDigits,
      String.toList_ofList, List.reverse_append, List.reverse_concat]
    rfl
  obtain ⟨before, hbefore⟩ := hreverse hn
  obtain ⟨before', hbefore'⟩ := hreverse hm
  have hsame := append_separator_inj (hdigits n) (hdigits m) (hbefore.symm.trans hbefore')
  rw [← Decimal.value_digits n, ← Decimal.value_digits m, List.reverse_injective hsame.1]

lemma SaysNotUtf8.endsWith (h : SaysNotUtf8 index reason) : EndsWith reason index := by
  cases h with
  | broken size =>
    refine ⟨_, rfl, ?_⟩
    rw [String.toList_append, List.getLast?_append]
    rfl
  | cut => exact ⟨_, rfl, rfl⟩

lemma endsWith_badEscape (index : Nat) :
    EndsWith s!"invalid percent escape at byte {index}" index :=
  ⟨_, rfl, rfl⟩

/-- The two kinds of refusal begin differently. -/
lemma not_saysNotUtf8_badEscape : ¬ SaysNotUtf8 n s!"invalid percent escape at byte {m}" := by
  have hhead : (s!"invalid percent escape at byte {m}").toList.head? = some 'i' := by
    rw [String.toList_append, List.head?_append]
    rfl
  have hhead' {reason : String} (h : SaysNotUtf8 n reason) : reason.toList.head? = some 'f' := by
    cases h with
    | broken size =>
      rw [String.append_assoc, String.append_assoc, String.toList_append, List.head?_append]
      rfl
    | cut =>
      rw [String.toList_append, List.head?_append]
      rfl
  intro h
  cases hhead.symm.trans (hhead' h)

/-- By the kind of the fault, with the text put together in another order. -/
lemma saysNotUtf8_message (index : Nat) (size : Option Nat) :
    SaysNotUtf8 index (Fault.message (.notUtf8 ⟨index, size⟩)) := by
  cases size with
  | none => exact .cut
  | some size =>
    have hmessage : Fault.message (.notUtf8 ⟨index, some size⟩) =
        s!"form body is not UTF-8: invalid utf-8 sequence of {size} bytes from index {index}" := by
      show "form body is not UTF-8: " ++ ("invalid utf-8 sequence of " ++ toString size ++
        " bytes from index " ++ toString index) = _
      rw [← String.append_assoc, ← String.append_assoc, ← String.append_assoc]
      rfl
    rw [hmessage]
    exact .broken size

/-! ## What is refused -/

/-- How a body that is no form is refused: as malformed, with what is wrong with it first. -/
structure ReportsFirstFault (body : List UInt8) : Prop where
  /-- A body that is not UTF-8 is refused as such, and no other body is. -/
  notUtf8 : (∃ index reason, SaysNotUtf8 index reason ∧ read body = .error (.malformed reason)) ↔
    ¬ Utf8.IsValid body
  /-- The position that is named then is the length of the longest beginning that is UTF-8. -/
  notUtf8_at (index : Nat) :
    (∃ reason, SaysNotUtf8 index reason ∧ read body = .error (.malformed reason)) ↔
      ¬ Utf8.IsValid body ∧ Utf8.IsLongestValid body index
  /-- A body that is UTF-8 is refused for the first percent sign in it that starts no escape, and
  for nothing else. -/
  badEscape_at (index : Nat) :
    read body = .error (.malformed s!"invalid percent escape at byte {index}") ↔
      Utf8.IsValid body ∧ Percent.IsFirstBroken body index
  /-- A body with neither fault is read. -/
  accepted : (∃ form, read body = .ok form) ↔
    Utf8.IsValid body ∧ ∀ i, ¬ Percent.IsBroken body i
  /-- There are no other refusals. -/
  malformed (reported : ChatRelay.Fault) : read body = .error reported → ∃ index reason,
    reported = .malformed reason ∧
      (SaysNotUtf8 index reason ∨ reason = s!"invalid percent escape at byte {index}")
  /-- The search for a percent sign that starts no escape passes over the escapes, but it finds
  the first position at which there is one. -/
  search (index : Nat) :
    Percent.firstBad? body = some index ↔ Percent.IsFirstBroken body index
  /-- It finds nothing exactly if there is no such position. -/
  search_none : Percent.firstBad? body = none ↔ ∀ i, ¬ Percent.IsBroken body i
  /-- The verifier refuses a request with such a body for the same reason. -/
  verifier (r : SignedRequest) (expected : String) (reported : ChatRelay.Fault) :
    r.format = .form → r.body = body → read body = .error reported →
      ∃ refusal, Verifier.checkToken expected r = .error refusal ∧ refusal.fault = reported
  /-- The server answers a command with such a body with the same reason. -/
  server {m : Type → Type} [Monad m] (s : Server) (x : Exchanges m) (reported : ChatRelay.Fault) :
    read body = .error reported →
      s.handleCommand x body = pure (Failure.ofFault reported).response

lemma exists_saysNotUtf8_iff :
    (∃ reason, SaysNotUtf8 index reason ∧ read body = .error (.malformed reason)) ↔
      ¬ Utf8.IsValid body ∧ Utf8.IsLongestValid body index := by
  rw [← Utf8.exists_decode_eq_error_iff]
  constructor
  · rintro ⟨reason, hsays, hread⟩
    obtain ⟨fault, hdecode, hreason⟩ := read_eq_error_iff.1 hread
    cases hreason
    cases fault with
    | notUtf8 fault =>
      obtain ⟨n, size⟩ := fault
      obtain rfl := hsays.endsWith.unique (saysNotUtf8_message n size).endsWith
      exact ⟨size, decode_eq_notUtf8_iff.1 hdecode⟩
    | badEscape n => exact absurd hsays not_saysNotUtf8_badEscape
  · rintro ⟨size, hdecode⟩
    exact ⟨_, saysNotUtf8_message index size,
      read_eq_error_iff.2 ⟨_, decode_eq_notUtf8_iff.2 hdecode, rfl⟩⟩

/-- Bytes that are not UTF-8 have a longest beginning that is. -/
lemma exists_index_iff :
    (∃ index reason, SaysNotUtf8 index reason ∧ read body = .error (.malformed reason)) ↔
      ¬ Utf8.IsValid body := by
  simp only [exists_saysNotUtf8_iff]
  refine ⟨fun ⟨_, hnot, _⟩ => hnot, fun hnot => ?_⟩
  cases hdecode : Utf8.decode body with
  | ok s => exact absurd ⟨s, Utf8.decode_eq_ok_iff.1 hdecode⟩ hnot
  | error fault => exact ⟨fault.index, Utf8.exists_decode_eq_error_iff.1 ⟨fault.size, hdecode⟩⟩

lemma exists_read_eq_ok_iff : (∃ form, read body = .ok form) ↔
    Utf8.IsValid body ∧ ∀ i, ¬ Percent.IsBroken body i := by
  simp only [read_eq_ok_iff, decode_eq_ok_iff]
  exact ⟨fun ⟨_, hvalid, hbroken, _⟩ => ⟨hvalid, hbroken⟩,
    fun ⟨hvalid, hbroken⟩ => ⟨_, hvalid, hbroken, rfl⟩⟩

lemma read_eq_badEscape_iff :
    read body = .error (.malformed s!"invalid percent escape at byte {index}") ↔
      Utf8.IsValid body ∧ Percent.IsFirstBroken body index := by
  rw [← decode_eq_badEscape_iff]
  constructor
  · intro hread
    obtain ⟨fault, hdecode, hreason⟩ := read_eq_error_iff.1 hread
    have hmessage := Fault.malformed.inj hreason
    cases fault with
    | notUtf8 fault =>
      have hsays := saysNotUtf8_message fault.index fault.size
      rw [← hmessage] at hsays
      exact absurd hsays not_saysNotUtf8_badEscape
    | badEscape n =>
      have hends := endsWith_badEscape index
      rw [hmessage] at hends
      obtain rfl := hends.unique (endsWith_badEscape n)
      exact hdecode
  · intro hdecode
    exact read_eq_error_iff.2 ⟨_, hdecode, rfl⟩

/-- A body is refused for the first thing that is wrong with it, and as malformed. -/
theorem read_reports_first_fault (body : List UInt8) : ReportsFirstFault body where
  notUtf8 := exists_index_iff
  notUtf8_at _ := exists_saysNotUtf8_iff
  badEscape_at _ := read_eq_badEscape_iff
  accepted := exists_read_eq_ok_iff
  malformed reported hread := by
    obtain ⟨fault, -, rfl⟩ := read_eq_error_iff.1 hread
    cases fault with
    | notUtf8 fault =>
      exact ⟨fault.index, _, rfl, .inl (saysNotUtf8_message fault.index fault.size)⟩
    | badEscape index => exact ⟨index, _, rfl, .inr rfl⟩
  search _ := Percent.firstBad?_eq_some_iff
  search_none := Percent.firstBad?_eq_none_iff
  verifier r expected reported hformat hbody hread := by
    obtain ⟨fault, hdecode, rfl⟩ := read_eq_error_iff.1 hread
    refine ⟨.invalidForm fault, ?_, rfl⟩
    rw [Verifier.checkToken, Verifier.bodyToken, hformat, hbody, hdecode]
    rfl
  server s x reported hread := by
    obtain ⟨fault, hdecode, rfl⟩ := read_eq_error_iff.1 hread
    rw [Server.handleCommand, hdecode]

/-- A percent sign in front of an escape is broken all the same. -/
example : read (Utf8.bytes "a=%%41") = .error (.malformed "invalid percent escape at byte 2") := by
  decide

end ChatRelay.Form
