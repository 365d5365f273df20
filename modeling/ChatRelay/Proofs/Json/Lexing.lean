/-
# Documents and their tokens

The lexer stands between two tokens or in one of them, and in both cases the bytes that it has
read determine what it holds.  So the tokens of a document are laid out in it.  The other way
round, tokens that are laid out in a document are found again, unless two words stand side by
side without a blank between them.
-/
import ChatRelay.Proofs.Json.Lexeme
import Mathlib.Data.List.Chain

namespace ChatRelay.Json

open Text (Utf8.bytes Hex.value?)

variable {b : UInt8}

/-! ## Tokens one after another -/

/-- The lexer has read some tokens, given in reverse; the last of them may still go on. -/
inductive Lexer.HasRead : Lexer → List Token → Prop
  | between (ts : List Token) : HasRead ⟨ts, .between⟩ ts
  | word {ts : List Token} {t : Token} {bs : List UInt8} :
      Token.ofWord? (charsOf bs) = some t → HasRead ⟨ts, .word (charsOf bs).reverse⟩ (t :: ts)

namespace Lexer.HasRead

variable {l : Lexer} {ts : List Token}

lemma finish (h : l.HasRead ts) : l.finish = some ts.reverse := by
  cases h with
  | between => rfl
  | word hword => simp [Lexer.finish, hword]

/-- A byte that ends words is read as it is between two tokens. -/
lemma feed_eq (h : l.HasRead ts) (hb : isWordChar (charOf b) = false) :
    l.feed b = Lexer.start ts (charOf b) := by
  cases h with
  | between => rfl
  | @word ts t bs hword =>
    have hend : ¬ isWordChar (charOf b) = true := by simp [hb]
    rw [← List.reverse_reverse (charsOf bs)] at hword
    refine (if_neg hend).trans ?_
    simp only [hword]
    rfl

/-- Where no word has been read last, the lexer is between two tokens. -/
lemma eq_between (h : l.HasRead ts) (hlast : ∀ t ∈ ts.head?, t.isWord = false) :
    l = ⟨ts, .between⟩ := by
  cases h with
  | between => rfl
  | word hword =>
    have hnot := hlast _ rfl
    rw [(writtenAs_of_ofWord? hword).1] at hnot
    cases hnot

/-- By induction on the blanks. -/
lemma foldl_feed_blanks {bs : List UInt8} (h : l.HasRead ts) (hbs : IsBlanks bs) :
    (bs.foldl Lexer.feed l).HasRead ts := by
  induction bs generalizing l with
  | nil => exact h
  | cons b bs ih =>
    obtain ⟨hb, hbs⟩ := List.forall_mem_cons.1 hbs
    have hspace := isSpace_charOf.2 hb
    rw [List.foldl_cons, h.feed_eq (isWordChar_eq_false_of_isSpace hspace), Lexer.start,
      if_pos hspace]
    exact ih (.between ts) hbs

lemma foldl_feed_word {t : Token} {bs : List UInt8} (h : l.HasRead ts) (hword : t.isWord = true)
    (hbs : t.WrittenAs bs) (hapart : ∀ s ∈ ts.head?, s.Apart t) :
    (bs.foldl Lexer.feed l).HasRead (t :: ts) := by
  have hlast : ∀ s ∈ ts.head?, s.isWord = false := by
    intro s hs
    have hs := hapart s hs
    rwa [Token.Apart, hword, Bool.and_true] at hs
  obtain ⟨hne, hchars, hof⟩ := ofWord?_of_writtenAs hword hbs
  rw [h.eq_between hlast]
  cases bs with
  | nil => exact absurd rfl hne
  | cons b bs =>
    obtain ⟨hb, hbs⟩ := List.forall_mem_cons.1 hchars
    have hfeed : Lexer.feed ⟨ts, .between⟩ b = ⟨ts, .word [charOf b]⟩ := start_of_isWordChar hb ts
    have hchars : (charsOf bs).reverse ++ [charOf b] = (charsOf (b :: bs)).reverse := by
      simp [charsOf]
    rw [List.foldl_cons, hfeed, Json.foldl_feed_word hbs, hchars]
    exact .word hof

lemma feed_mark {t : Token} (h : l.HasRead ts) (hb : isWordChar (charOf b) = false)
    (hstart : Lexer.start ts (charOf b) = ⟨t :: ts, .between⟩) :
    ([b].foldl Lexer.feed l).HasRead (t :: ts) := by
  rw [List.foldl_cons, List.foldl_nil, h.feed_eq hb, hstart]
  exact .between _

lemma foldl_feed_text {bs : List UInt8} (h : l.HasRead ts) (hbs : IsLiteral bs) :
    ((0x22 :: bs ++ [0x22]).foldl Lexer.feed l).HasRead (.text bs :: ts) := by
  have hopen : l.feed 0x22 = ⟨ts, .literal []⟩ := h.feed_eq (by decide)
  have hclose : Lexer.feed ⟨ts, .literal bs.reverse⟩ 0x22 =
      ⟨.text bs.reverse.reverse :: ts, .between⟩ := rfl
  rw [List.cons_append, List.foldl_cons, hopen, List.foldl_append, foldl_feed_literal hbs,
    List.append_nil, List.foldl_cons, List.foldl_nil, hclose, List.reverse_reverse]
  exact .between _

/-- A token is read from its bytes, unless it is a word right after a word. -/
lemma foldl_feed_token {t : Token} {bs : List UInt8} (h : l.HasRead ts) (hbs : t.WrittenAs bs)
    (hapart : ∀ s ∈ ts.head?, s.Apart t) : (bs.foldl Lexer.feed l).HasRead (t :: ts) := by
  cases hbs with
  | openBrace => exact h.feed_mark (by decide) rfl
  | closeBrace => exact h.feed_mark (by decide) rfl
  | openBracket => exact h.feed_mark (by decide) rfl
  | closeBracket => exact h.feed_mark (by decide) rfl
  | colon => exact h.feed_mark (by decide) rfl
  | comma => exact h.feed_mark (by decide) rfl
  | null => exact h.foldl_feed_word rfl .null hapart
  | true => exact h.foldl_feed_word rfl .true hapart
  | false => exact h.foldl_feed_word rfl .false hapart
  | number hn => exact h.foldl_feed_word rfl (.number hn) hapart
  | text hliteral => exact h.foldl_feed_text hliteral

/-- By induction on the tokens: each is read behind its blanks. -/
lemma foldl_feed {later : List Token} {bs : List UInt8} (h : l.HasRead ts)
    (hbs : LaidOut later bs) (hapart : (ts.reverse ++ later).IsChain Token.Apart) :
    (bs.foldl Lexer.feed l).HasRead (later.reverse ++ ts) := by
  induction hbs generalizing l ts with
  | nil hblanks => exact h.foldl_feed_blanks hblanks
  | @cons t later blanks bs rest hblanks ht _ ih =>
    have hlast : ∀ s ∈ ts.head?, s.Apart t := by
      intro s hs
      rw [← List.getLast?_reverse] at hs
      exact (List.isChain_append.1 hapart).2.2 s hs t rfl
    rw [List.foldl_append, List.foldl_append]
    have hread := (h.foldl_feed_blanks hblanks).foldl_feed_token ht hlast
    have hstep := ih hread (by simpa using hapart)
    simpa using hstep

end Lexer.HasRead

/-! ## What has been read -/

lemma IsBlanks.append {bs bs' : List UInt8} (h : IsBlanks bs) (h' : IsBlanks bs') :
    IsBlanks (bs ++ bs') :=
  List.forall_mem_append.2 ⟨h, h'⟩

namespace LaidOut

variable {ts ts' : List Token} {bs bs' : List UInt8}

lemma append_of_isBlanks (hblanks : IsBlanks bs) (h : LaidOut ts bs') : LaidOut ts (bs ++ bs') := by
  cases h with
  | nil hblanks' => exact .nil (hblanks.append hblanks')
  | cons hblanks' ht hts =>
    have happend := cons (hblanks.append hblanks') ht hts
    rwa [List.append_assoc bs, List.append_assoc bs] at happend

/-- By induction on the tokens of the first part. -/
lemma append (h : LaidOut ts bs) (h' : LaidOut ts' bs') : LaidOut (ts ++ ts') (bs ++ bs') := by
  induction h with
  | nil hblanks => exact h'.append_of_isBlanks hblanks
  | cons hblanks ht _ ih =>
    have happend := cons hblanks ht ih
    rwa [← List.append_assoc] at happend

lemma concat {t : Token} (h : LaidOut ts bs) (ht : t.WrittenAs bs') :
    LaidOut (ts ++ [t]) (bs ++ bs') := by
  have hnone : IsBlanks [] := by simp [IsBlanks]
  have hlast := cons hnone ht (nil hnone)
  rw [List.nil_append, List.append_nil] at hlast
  exact h.append hlast

lemma append_blank (h : LaidOut ts bs) (hb : isSpace (charOf b) = true) :
    LaidOut ts (bs ++ [b]) := by
  have hblank : IsBlanks [b] := by
    intro c hc
    rw [List.mem_singleton.1 hc]
    exact isSpace_charOf.1 hb
  have happend := h.append (nil hblank)
  rwa [List.append_nil] at happend

end LaidOut

/-- The bytes that the lexer has read: those of its tokens, and then those of the token in
which it stands. -/
inductive Lexer.Covers : Lexer → List UInt8 → Prop
  | between {ts : List Token} {bs : List UInt8} :
      LaidOut ts.reverse bs → Covers ⟨ts, .between⟩ bs
  | word {ts : List Token} {bs word : List UInt8} :
      LaidOut ts.reverse bs → Covers ⟨ts, .word (charsOf word).reverse⟩ (bs ++ word)
  | literal {ts : List Token} {bs inside : List UInt8} :
      LaidOut ts.reverse bs → IsLiteral inside →
      Covers ⟨ts, .literal inside.reverse⟩ (bs ++ 0x22 :: inside)
  | escape {ts : List Token} {bs inside : List UInt8} :
      LaidOut ts.reverse bs → IsLiteral inside →
      Covers ⟨ts, .escape (0x5C :: inside.reverse)⟩ (bs ++ 0x22 :: inside ++ [0x5C])
  | digits {ts : List Token} {bs inside digits : List UInt8} {needed : Nat} :
      LaidOut ts.reverse bs → IsLiteral inside → digits.length + needed = 3 →
      (∀ b ∈ digits, (Hex.value? (charOf b)).isSome) →
      Covers ⟨ts, .digits (needed + 1) (digits.reverse ++ 0x75 :: 0x5C :: inside.reverse)⟩
        (bs ++ 0x22 :: inside ++ 0x5C :: 0x75 :: digits)
  | lost {ts : List Token} {bs : List UInt8} : Covers ⟨ts, .lost⟩ bs

namespace Lexer.Covers

variable {l : Lexer} {ts : List Token} {bs : List UInt8}

lemma start (h : LaidOut ts.reverse bs) (b : UInt8) :
    (Lexer.start ts (charOf b)).Covers (bs ++ [b]) := by
  unfold Lexer.start
  split
  · rename_i hspace
    exact .between (h.append_blank hspace)
  · split
    · rename_i hquote
      obtain rfl : b = 0x22 := charOf_injective hquote
      exact .literal h .nil
    · split
      · have hcovers : Covers ⟨ts, .word (charsOf [b]).reverse⟩ (bs ++ [b]) := .word h
        exact hcovers
      · split
        · rename_i hmark
          refine .between ?_
          rw [List.reverse_cons]
          exact h.concat (ofMark?_charOf hmark)
        · exact .lost

lemma feed_word {word : List UInt8} (h : LaidOut ts.reverse bs) (b : UInt8) :
    (Lexer.feed ⟨ts, .word (charsOf word).reverse⟩ b).Covers (bs ++ word ++ [b]) := by
  by_cases hb : isWordChar (charOf b) = true
  · have hfeed : Lexer.feed ⟨ts, .word (charsOf word).reverse⟩ b =
        ⟨ts, .word (charsOf (word ++ [b])).reverse⟩ := by
      have hword : (charsOf (word ++ [b])).reverse = charOf b :: (charsOf word).reverse := by
        simp [charsOf]
      rw [hword]
      exact if_pos hb
    rw [hfeed, List.append_assoc]
    exact .word h
  · cases hword : Token.ofWord? (charsOf word) with
    | none =>
      have hfeed : Lexer.feed ⟨ts, .word (charsOf word).reverse⟩ b = ⟨ts, .lost⟩ := by
        refine (if_neg hb).trans ?_
        simp only [List.reverse_reverse, hword]
      rw [hfeed]
      exact .lost
    | some t =>
      have hread : LaidOut (t :: ts).reverse (bs ++ word) := by
        rw [List.reverse_cons]
        exact h.concat (writtenAs_of_ofWord? hword).2
      have hb' : isWordChar (charOf b) = false := by simpa using hb
      rw [(HasRead.word hword).feed_eq hb']
      exact start hread b

lemma feed_literal {inside : List UInt8} (h : LaidOut ts.reverse bs) (hinside : IsLiteral inside)
    (b : UInt8) :
    (Lexer.feed ⟨ts, .literal inside.reverse⟩ b).Covers (bs ++ 0x22 :: inside ++ [b]) := by
  by_cases hquote : b = 0x22
  · subst hquote
    have htext : LaidOut (.text inside.reverse.reverse :: ts).reverse
        (bs ++ (0x22 :: inside ++ [0x22])) := by
      rw [List.reverse_reverse, List.reverse_cons]
      exact h.concat (.text hinside)
    rw [List.append_assoc]
    exact .between htext
  · by_cases hslash : b = 0x5C
    · subst hslash
      exact .escape h hinside
    · by_cases hlow : 0x20 ≤ b
      · rw [feed_plain hlow hquote hslash, List.append_assoc, List.cons_append,
          ← List.reverse_concat]
        exact .literal h (hinside.append (.plain hlow hquote hslash .nil))
      · have hquote' : charOf b ≠ '"' := charOf_injective.ne hquote
        have hslash' : charOf b ≠ '\\' := charOf_injective.ne hslash
        have hfeed : Lexer.feed ⟨ts, .literal inside.reverse⟩ b = ⟨ts, .lost⟩ :=
          (if_neg hquote').trans ((if_neg hslash').trans (if_pos (UInt8.not_le.1 hlow)))
        rw [hfeed]
        exact .lost

lemma feed_escape {inside : List UInt8} (h : LaidOut ts.reverse bs) (hinside : IsLiteral inside)
    (b : UInt8) :
    (Lexer.feed ⟨ts, .escape (0x5C :: inside.reverse)⟩ b).Covers
      (bs ++ 0x22 :: inside ++ [0x5C] ++ [b]) := by
  by_cases hu : b = 0x75
  · subst hu
    have hcovers := @digits ts bs inside [] 3 h hinside rfl (by simp)
    rw [List.append_assoc]
    exact hcovers
  · by_cases hletter : b ∈ Utf8.bytes "\"\\/bfnrt"
    · have hcovers := literal h (hinside.append (.escape hletter .nil))
      rw [feed_letter hletter]
      simpa using hcovers
    · have hu' : charOf b ≠ 'u' := charOf_injective.ne hu
      have hletter' : ¬ (simpleEscape? (charOf b)).isSome = true := fun hsome =>
        hletter (simpleEscape?_charOf.1 hsome)
      have hfeed : Lexer.feed ⟨ts, .escape (0x5C :: inside.reverse)⟩ b = ⟨ts, .lost⟩ :=
        (if_neg hu').trans (if_neg hletter')
      rw [hfeed]
      exact .lost

lemma feed_digits {inside digits : List UInt8} {needed : Nat} (h : LaidOut ts.reverse bs)
    (hinside : IsLiteral inside) (hlength : digits.length + needed = 3)
    (hdigits : ∀ b ∈ digits, (Hex.value? (charOf b)).isSome) (b : UInt8) :
    (Lexer.feed ⟨ts, .digits (needed + 1) (digits.reverse ++ 0x75 :: 0x5C :: inside.reverse)⟩
      b).Covers (bs ++ 0x22 :: inside ++ 0x5C :: 0x75 :: digits ++ [b]) := by
  by_cases hb : (Hex.value? (charOf b)).isSome = true
  · have hall : ∀ c ∈ digits ++ [b], (Hex.value? (charOf c)).isSome := by
      simpa [or_imp, forall_and] using ⟨hdigits, hb⟩
    have hmore : (digits ++ [b]).length = digits.length + 1 := by simp
    cases needed with
    | zero =>
      have hescape : IsLiteral (0x5C :: 0x75 :: (digits ++ [b]) ++ []) :=
        .unicode (by omega) hall .nil
      have hcovers := literal h (hinside.append hescape)
      rw [feed_lastDigit hb]
      simpa using hcovers
    | succ needed =>
      have hcovers := @Covers.digits ts bs inside (digits ++ [b]) needed h hinside (by omega) hall
      rw [feed_digit hb]
      simpa using hcovers
  · have hnone : (Hex.value? (charOf b)).isNone = true := by simpa using hb
    have hfeed : Lexer.feed ⟨ts, .digits (needed + 1)
        (digits.reverse ++ 0x75 :: 0x5C :: inside.reverse)⟩ b = ⟨ts, .lost⟩ := if_pos hnone
    rw [hfeed]
    exact .lost

/-- One more byte is read. -/
lemma feed (h : l.Covers bs) (b : UInt8) : (l.feed b).Covers (bs ++ [b]) := by
  cases h with
  | between hts => exact start hts b
  | word hts => exact feed_word hts b
  | literal hts hinside => exact feed_literal hts hinside b
  | escape hts hinside => exact feed_escape hts hinside b
  | digits hts hinside hlength hdigits => exact feed_digits hts hinside hlength hdigits b
  | lost => exact .lost

/-- By induction on the bytes, each of which is read by one step. -/
lemma foldl_feed {later : List UInt8} (h : l.Covers bs) :
    (later.foldl Lexer.feed l).Covers (bs ++ later) := by
  induction later generalizing l bs with
  | nil => simpa using h
  | cons b later ih =>
    have hrest := ih (h.feed b)
    rwa [List.append_assoc, List.singleton_append] at hrest

/-- When the input has ended, the tokens are laid out in it. -/
lemma laidOut_of_finish (h : l.Covers bs) (hfinish : l.finish = some ts) : LaidOut ts bs := by
  cases h with
  | between hts =>
    cases hfinish
    exact hts
  | word hts =>
    obtain ⟨t, ht, rfl⟩ := Option.map_eq_some_iff.1 hfinish
    rw [List.reverse_reverse] at ht
    rw [List.reverse_cons]
    exact hts.concat (writtenAs_of_ofWord? ht).2
  | literal => cases hfinish
  | escape => cases hfinish
  | digits => cases hfinish
  | lost => cases hfinish

end Lexer.Covers

/-- Tokens that are laid out in a document are the tokens of the document. -/
theorem tokens?_of_laidOut {ts : List Token} {bs : List UInt8} (hbs : LaidOut ts bs)
    (hapart : ts.IsChain Token.Apart) : tokens? bs = some ts := by
  have hread := (Lexer.HasRead.between []).foldl_feed hbs hapart
  rw [tokens?, hread.finish]
  simp

/-- The tokens of a document are laid out in it. -/
theorem laidOut_of_tokens? {ts : List Token} {bs : List UInt8} (h : tokens? bs = some ts) :
    LaidOut ts bs := by
  have hstart : Lexer.Covers ⟨[], .between⟩ [] := .between (.nil (by simp [IsBlanks]))
  have hcovers : (bs.foldl Lexer.feed ⟨[], .between⟩).Covers ([] ++ bs) := hstart.foldl_feed
  exact hcovers.laidOut_of_finish h

end ChatRelay.Json
