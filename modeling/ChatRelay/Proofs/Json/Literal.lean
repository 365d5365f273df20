/-
# Literals that are written

Every character that the writer puts between quotes is one that the reader takes: it stands
for itself, or it is an escape, and the escape is read as the character.  So every text has a
literal of the grammar, and the literal stands for the text.
-/
import ChatRelay.Proofs.Json.Lexeme
import ChatRelay.Proofs.Text.Hex
import ChatRelay.Proofs.Text.Utf8

namespace ChatRelay.Json

open Text (Hex.digit Hex.value?)
open Text.Utf8

/-! ## Characters -/

/-- How a character is written: by an escape of one letter, by an escape of its code point, or as
it is. -/
inductive Escapes (c : Char) : List Char → Prop
  | letter {e : Char} : simpleEscape? e = some c → Escapes c ['\\', e]
  | point : c.toNat < 0x20 →
      Escapes c ['\\', 'u', '0', '0', Hex.digit (c.toNat / 16), Hex.digit (c.toNat % 16)]
  | plain : 0x20 ≤ c.toNat → c ≠ '"' → c ≠ '\\' → Escapes c [c]

lemma escapes_escape (c : Char) : Escapes c (escape c) := by
  unfold escape
  split_ifs with hquote hslash hback hfeed hline hreturn htab hlow
  · exact .letter (by rw [hquote]; rfl)
  · exact .letter (by rw [hslash]; rfl)
  · exact .letter (by rw [hback]; rfl)
  · exact .letter (by rw [hfeed]; rfl)
  · exact .letter (by rw [hline]; rfl)
  · exact .letter (by rw [hreturn]; rfl)
  · exact .letter (by rw [htab]; rfl)
  · exact .point hlow
  · exact .plain (Nat.not_lt.1 hlow) hquote hslash

/-! ## Reading them back -/

/-- The digits of a code point below the space are read as this code point. -/
lemma unit?_digits : ∀ n < 0x20,
    unit? '0' '0' (Hex.digit (n / 16)) (Hex.digit (n % 16)) = some n := by
  decide

lemma unescapeFrom_plain {c : Char} (hc : c ≠ '\\') (before rest : List Char) :
    unescapeFrom before (c :: rest) = unescapeFrom (c :: before) rest := by
  rw [unescapeFrom.eq_def]
  split <;> simp_all

lemma unescapeFrom_letter {c e : Char} (he : simpleEscape? e = some c) (before rest : List Char) :
    unescapeFrom before ('\\' :: e :: rest) = unescapeFrom (c :: before) rest := by
  have hu : e ≠ 'u' := by
    rintro rfl
    cases he
  simp [unescapeFrom, hu, he]

lemma unescapeFrom_point {n : Nat} (hn : n < 0x20) (before rest : List Char) :
    unescapeFrom before
        ('\\' :: 'u' :: '0' :: '0' :: Hex.digit (n / 16) :: Hex.digit (n % 16) :: rest) =
      unescapeFrom (Char.ofNat n :: before) rest := by
  have hhigh : isHigh n = false := by simp [isHigh]; omega
  have hlow : isLow n = false := by simp [isLow]; omega
  simp only [unescapeFrom, unit?_digits n hn, hhigh, hlow, Bool.false_eq_true, if_false]

lemma unescapeFrom_escapes {c : Char} {s : List Char} (h : Escapes c s) (before rest : List Char) :
    unescapeFrom before (s ++ rest) = unescapeFrom (c :: before) rest := by
  cases h with
  | letter he => exact unescapeFrom_letter he before rest
  | point hlow =>
    have hread := unescapeFrom_point hlow before rest
    rwa [Char.ofNat_toNat] at hread
  | plain _ _ hslash => exact unescapeFrom_plain hslash before rest

lemma unescapeFrom_flatMap (before s : List Char) :
    unescapeFrom before (s.flatMap escape) = some (before.reverse ++ s) := by
  -- each character that is read goes to what stands before
  induction s generalizing before with
  | nil => simp [unescapeFrom]
  | cons c s ih =>
    rw [List.flatMap_cons, unescapeFrom_escapes (escapes_escape c), ih]
    simp

/-- Every text is what the inside of its literal stands for. -/
theorem textOf?_escape (s : String) : textOf? (encode (s.toList.flatMap escape)) = some s := by
  rw [textOf?, decode_encode]
  simp only [unescape, unescapeFrom_flatMap]
  simp

/-! ## The grammar of literals -/

/-- Bytes that need no escape are the inside of a literal. -/
lemma isLiteral_of_plain {bs : List UInt8} (hbs : ∀ b ∈ bs, 0x20 ≤ b ∧ b ≠ 0x22 ∧ b ≠ 0x5C) :
    IsLiteral bs := by
  induction bs with
  | nil => exact .nil
  | cons b bs ih =>
    obtain ⟨⟨hlow, hquote, hslash⟩, hrest⟩ := List.forall_mem_cons.1 hbs
    exact .plain hlow hquote hslash (ih hrest)

lemma isLiteral_utf8EncodeChar {c : Char} (hlow : 0x20 ≤ c.toNat) (hquote : c ≠ '"')
    (hslash : c ≠ '\\') : IsLiteral (String.utf8EncodeChar c) := by
  apply isLiteral_of_plain
  intro b hb
  rcases Nat.lt_or_ge c.toNat 128 with hlt | hge
  · have hn : c.toNat < 256 := by omega
    rw [utf8EncodeChar_of_lt hlt, List.mem_singleton] at hb
    rw [hb, le_ofNat_iff hn, Ne, ofNat_eq_iff hn, Ne, ofNat_eq_iff hn]
    exact ⟨hlow, fun h => hquote (Char.toNat_inj.1 h), fun h => hslash (Char.toNat_inj.1 h)⟩
  · have hhigh := le_of_mem_utf8EncodeChar hge hb
    rw [UInt8.le_iff_toNat_le, Ne, ← UInt8.toNat_inj, Ne, ← UInt8.toNat_inj]
    exact ⟨Nat.le_trans (by decide) hhigh, fun h => by simp [h] at hhigh,
      fun h => by simp [h] at hhigh⟩

lemma toNat_lt_of_simpleEscape? {c e : Char} (he : simpleEscape? e = some c) : e.toNat < 128 := by
  unfold simpleEscape? at he
  split at he <;> first | decide | cases he

/-- The digits of a code point below the space are hexadecimal digits. -/
lemma isSome_value?_digits : ∀ n < 0x20,
    let digits := encode ['0', '0', Hex.digit (n / 16), Hex.digit (n % 16)]
    digits.length = 4 ∧ digits.all (fun b => (Hex.value? (charOf b)).isSome) = true := by
  decide +kernel

lemma Escapes.isLiteral {c : Char} {s : List Char} (h : Escapes c s) : IsLiteral (encode s) := by
  cases h with
  | @letter e he =>
    have hlt := toNat_lt_of_simpleEscape? he
    have hletter : UInt8.ofNat e.toNat ∈ Text.Utf8.bytes "\"\\/bfnrt" := by
      rw [← simpleEscape?_charOf, charOf, ofNat_byte_of_lt hlt, he]
      rfl
    rw [encode_cons, encode_cons, utf8EncodeChar_of_lt hlt]
    exact .escape hletter .nil
  | point hlow =>
    obtain ⟨hlength, hdigits⟩ := isSome_value?_digits c.toNat hlow
    have hliteral := IsLiteral.unicode hlength (List.all_eq_true.1 hdigits) .nil
    rwa [List.append_nil] at hliteral
  | plain hlow hquote hslash =>
    rw [encode_cons]
    exact (isLiteral_utf8EncodeChar hlow hquote hslash).append .nil

/-- What the writer puts between quotes is the inside of a literal. -/
theorem isLiteral_escape (s : List Char) : IsLiteral (encode (s.flatMap escape)) := by
  induction s with
  | nil => exact .nil
  | cons c s ih =>
    rw [List.flatMap_cons, encode_append]
    exact (escapes_escape c).isLiteral.append ih

end ChatRelay.Json
