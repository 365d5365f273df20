/-
# Tokens byte by byte

A mark is one byte.  A word goes on as long as the bytes may stand in a word, so that only the
byte behind it shows its end.  A literal is read to the quote that is not part of an escape,
and its bytes are kept as they are.
-/
import ChatRelay.Proofs.Json.Numeral

namespace ChatRelay.Json

open Text (Utf8.bytes Hex.value?)

/-! ## Bytes as characters -/

variable {b : UInt8}

lemma toNat_charOf (b : UInt8) : (charOf b).toNat = b.toNat := by
  have hvalid : b.toNat.isValidChar := .inl (by have := b.toNat_lt; omega)
  rw [charOf, Char.ofNat, dif_pos hvalid]
  rfl

lemma charOf_injective : Function.Injective charOf := by
  intro a b hab
  rw [← UInt8.toNat_inj, ← toNat_charOf, ← toNat_charOf, hab]

lemma charsOf_injective : Function.Injective charsOf := List.map_injective_iff.2 charOf_injective

lemma mem_iff_of_charsOf {bs : List UInt8} {s : List Char} (hs : charsOf bs = s) :
    charOf b ∈ s ↔ b ∈ bs := by
  rw [← hs, charsOf, List.mem_map_of_injective charOf_injective]

/-- The blanks are those of the grammar. -/
lemma isSpace_charOf : isSpace (charOf b) = true ↔ b ∈ Utf8.bytes " \t\n\r" := by
  have hs : charsOf (Utf8.bytes " \t\n\r") = [' ', '\t', '\n', '\r'] := by decide
  rw [← mem_iff_of_charsOf hs]
  simp [isSpace, or_assoc]

/-- The escapes of one letter are those of the grammar. -/
lemma simpleEscape?_charOf :
    (simpleEscape? (charOf b)).isSome ↔ b ∈ Utf8.bytes "\"\\/bfnrt" := by
  have hs : charsOf (Utf8.bytes "\"\\/bfnrt") = ['"', '\\', '/', 'b', 'f', 'n', 'r', 't'] := by
    decide
  rw [← mem_iff_of_charsOf hs]
  unfold simpleEscape?
  split <;> simp_all

/-! ## Words -/

/-- A token is a word or a number, whose end only the next byte shows. -/
def Token.isWord : Token → Bool
  | .null | .bool _ | .number _ => true
  | _ => false

/-- Two tokens may stand side by side without a blank between them. -/
def Token.Apart (s t : Token) : Prop := (s.isWord && t.isWord) = false

lemma isWordChar_eq_false_of_isSpace {c : Char} (hc : isSpace c = true) : isWordChar c = false := by
  simp only [isSpace, Bool.or_eq_true, beq_iff_eq] at hc
  rcases hc with ((rfl | rfl) | rfl) | rfl <;> decide

lemma start_of_isWordChar {c : Char} (hc : isWordChar c = true) (ts : List Token) :
    Lexer.start ts c = ⟨ts, .word [c]⟩ := by
  have hspace : ¬ isSpace c = true := fun hspace => by
    rw [isWordChar_eq_false_of_isSpace hspace] at hc
    cases hc
  have hquote : c ≠ '"' := by
    rintro rfl
    exact absurd hc (by decide)
  rw [Lexer.start, if_neg hspace, if_neg hquote, if_pos hc]

/-- By induction on the bytes, each of which is put to the word. -/
lemma foldl_feed_word {bs : List UInt8} (hbs : ∀ b ∈ bs, isWordChar (charOf b) = true)
    (ts : List Token) (s : List Char) :
    bs.foldl Lexer.feed ⟨ts, .word s⟩ = ⟨ts, .word ((charsOf bs).reverse ++ s)⟩ := by
  induction bs generalizing s with
  | nil => rfl
  | cons b bs ih =>
    obtain ⟨hb, hbs⟩ := List.forall_mem_cons.1 hbs
    have hfeed : Lexer.feed ⟨ts, .word s⟩ b = ⟨ts, .word (charOf b :: s)⟩ := if_pos hb
    rw [List.foldl_cons, hfeed, ih hbs]
    simp [charsOf]

/-- A word of the grammar is one of the lexer. -/
lemma ofWord?_of_writtenAs {t : Token} {bs : List UInt8} (hword : t.isWord = true)
    (h : t.WrittenAs bs) :
    bs ≠ [] ∧ (∀ b ∈ bs, isWordChar (charOf b) = true) ∧ Token.ofWord? (charsOf bs) = some t := by
  cases h with
  | null => exact ⟨by decide, List.all_eq_true.1 (by decide), by decide⟩
  | true => exact ⟨by decide, List.all_eq_true.1 (by decide), by decide⟩
  | false => exact ⟨by decide, List.all_eq_true.1 (by decide), by decide⟩
  | @number n _ hn =>
    have hparse := Number.parse?_eq_some_iff.2 hn
    refine ⟨?_, fun b hb => hn.isWordChar _ (List.mem_map_of_mem hb), ?_⟩
    · rintro rfl
      cases hparse
    · -- the other words are no numbers
      have hne (s : List Char) (hs : Number.parse? s = none) : charsOf bs ≠ s := by
        rintro rfl
        rw [hs] at hparse
        cases hparse
      rw [Token.ofWord?, if_neg (hne _ (by decide)), if_neg (hne _ (by decide)),
        if_neg (hne _ (by decide)), hparse]
      rfl
  | _ => cases hword

/-- A word of the lexer is one of the grammar. -/
lemma writtenAs_of_ofWord? {t : Token} {bs : List UInt8} (h : Token.ofWord? (charsOf bs) = some t) :
    t.isWord = true ∧ t.WrittenAs bs := by
  have hbytes (text : String) {s : List Char} (hs : charsOf bs = s)
      (htext : charsOf (Utf8.bytes text) = s) : bs = Utf8.bytes text :=
    charsOf_injective (hs.trans htext.symm)
  unfold Token.ofWord? at h
  split at h
  · rename_i hs
    cases h
    rw [hbytes "null" hs (by decide)]
    exact ⟨rfl, .null⟩
  · split at h
    · rename_i hs
      cases h
      rw [hbytes "true" hs (by decide)]
      exact ⟨rfl, .true⟩
    · split at h
      · rename_i hs
        cases h
        rw [hbytes "false" hs (by decide)]
        exact ⟨rfl, .false⟩
      · obtain ⟨n, hn, rfl⟩ := Option.map_eq_some_iff.1 h
        exact ⟨rfl, .number (Number.parse?_eq_some_iff.1 hn)⟩

/-! ## Marks -/

/-- The marks are those of the grammar. -/
lemma ofMark?_charOf {t : Token} (ht : Token.ofMark? (charOf b) = some t) : t.WrittenAs [b] := by
  have hmark (c : UInt8) {s : Token} (hb : charOf b = charOf c) (hc : s.WrittenAs [c])
      (hs : some s = some t) : t.WrittenAs [b] := by
    cases hs
    rwa [charOf_injective hb]
  unfold Token.ofMark? at ht
  split at ht
  · rename_i hb
    exact hmark 0x7B hb .openBrace ht
  · rename_i hb
    exact hmark 0x7D hb .closeBrace ht
  · rename_i hb
    exact hmark 0x5B hb .openBracket ht
  · rename_i hb
    exact hmark 0x5D hb .closeBracket ht
  · rename_i hb
    exact hmark 0x3A hb .colon ht
  · rename_i hb
    exact hmark 0x2C hb .comma ht
  · cases ht

/-! ## Literals -/

lemma not_isNone (hb : (Hex.value? (charOf b)).isSome) :
    ¬ (Hex.value? (charOf b)).isNone = true :=
  mt Option.isNone_iff_eq_none.1 (Option.isSome_iff_ne_none.1 hb)

lemma feed_digit (hb : (Hex.value? (charOf b)).isSome) (ts : List Token) (n : Nat)
    (acc : List UInt8) :
    Lexer.feed ⟨ts, .digits (n + 2) acc⟩ b = ⟨ts, .digits (n + 1) (b :: acc)⟩ :=
  (if_neg (not_isNone hb)).trans (if_neg (by omega))

lemma feed_lastDigit (hb : (Hex.value? (charOf b)).isSome) (ts : List Token) (acc : List UInt8) :
    Lexer.feed ⟨ts, .digits 1 acc⟩ b = ⟨ts, .literal (b :: acc)⟩ :=
  (if_neg (not_isNone hb)).trans (if_pos (Nat.le_refl 1))

/-- By induction on the digits that an escape still needs. -/
lemma foldl_feed_digits {ds : List UInt8} (hds : ∀ b ∈ ds, (Hex.value? (charOf b)).isSome)
    {n : Nat} (hn : ds.length = n + 1) (ts : List Token) (acc : List UInt8) :
    ds.foldl Lexer.feed ⟨ts, .digits (n + 1) acc⟩ = ⟨ts, .literal (ds.reverse ++ acc)⟩ := by
  induction ds generalizing n acc with
  | nil => cases hn
  | cons b ds ih =>
    obtain ⟨hb, hds⟩ := List.forall_mem_cons.1 hds
    rw [List.foldl_cons]
    cases n with
    | zero =>
      obtain rfl := List.length_eq_zero_iff.1 (Nat.succ.inj hn)
      exact feed_lastDigit hb ts acc
    | succ n =>
      rw [feed_digit hb, ih hds (Nat.succ.inj hn)]
      simp

lemma feed_plain (hlow : 0x20 ≤ b) (hquote : b ≠ 0x22) (hslash : b ≠ 0x5C) (ts : List Token)
    (acc : List UInt8) : Lexer.feed ⟨ts, .literal acc⟩ b = ⟨ts, .literal (b :: acc)⟩ := by
  have hquote' : charOf b ≠ '"' := fun h => hquote (charOf_injective h)
  have hslash' : charOf b ≠ '\\' := fun h => hslash (charOf_injective h)
  have hlow' : ¬ b < 0x20 := UInt8.not_lt.2 hlow
  exact (if_neg hquote').trans ((if_neg hslash').trans (if_neg hlow'))

lemma feed_letter (hletter : b ∈ Utf8.bytes "\"\\/bfnrt") (ts : List Token) (acc : List UInt8) :
    Lexer.feed ⟨ts, .escape acc⟩ b = ⟨ts, .literal (b :: acc)⟩ := by
  have hu : charOf b ≠ 'u' := fun h => by
    rw [show b = 0x75 from charOf_injective h] at hletter
    exact absurd hletter (by decide)
  exact (if_neg hu).trans (if_pos (simpleEscape?_charOf.2 hletter))

/-- By induction on the literal: its bytes are kept as they are. -/
lemma foldl_feed_literal {bs : List UInt8} (hbs : IsLiteral bs) (ts : List Token)
    (acc : List UInt8) :
    bs.foldl Lexer.feed ⟨ts, .literal acc⟩ = ⟨ts, .literal (bs.reverse ++ acc)⟩ := by
  have hslash (acc : List UInt8) :
      Lexer.feed ⟨ts, .literal acc⟩ 0x5C = ⟨ts, .escape (0x5C :: acc)⟩ := rfl
  have hu (acc : List UInt8) :
      Lexer.feed ⟨ts, .escape acc⟩ 0x75 = ⟨ts, .digits 4 (0x75 :: acc)⟩ := rfl
  induction hbs generalizing acc with
  | nil => rfl
  | plain hlow hquote hslash _ ih =>
    rw [List.foldl_cons, feed_plain hlow hquote hslash, ih]
    simp
  | escape hletter _ ih =>
    rw [List.foldl_cons, List.foldl_cons, hslash, feed_letter hletter, ih]
    simp
  | unicode hlength hdigits _ ih =>
    rw [List.cons_append, List.cons_append, List.foldl_cons, List.foldl_cons, hslash, hu,
      List.foldl_append, foldl_feed_digits hdigits hlength, ih]
    simp

lemma IsLiteral.append {bs bs' : List UInt8} (h : IsLiteral bs) (h' : IsLiteral bs') :
    IsLiteral (bs ++ bs') := by
  induction h with
  | nil => exact h'
  | plain hlow hquote hslash _ ih => exact .plain hlow hquote hslash ih
  | escape hletter _ ih => exact .escape hletter ih
  | @unicode digits _ hlength hdigits _ ih =>
    have happend := IsLiteral.unicode hlength hdigits ih
    rwa [← List.append_assoc] at happend

end ChatRelay.Json
