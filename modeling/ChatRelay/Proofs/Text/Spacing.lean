/-
# Texts made of words

A text is made of words if these stand in it in order, with at least one blank between any two
of them, and perhaps with blanks at its ends.  Cutting such a text gives exactly these words,
whatever the blanks are, and every text is made of the words that it is cut into.
-/
import ChatRelay.Proofs.Text.Blank

namespace ChatRelay.Text

/-- A word is not empty and holds no blank. -/
structure IsWord (w : String) : Prop where
  ne_empty : w ≠ ""
  noBlank : ∀ c ∈ w.toList, isBlank c = false

/-- A text is made of words: they stand in it in order, each of them followed by a blank or by
the end, and besides them there are only blanks. -/
inductive Spaced : List String → List Char → Prop
  | nil : Spaced [] []
  /-- There may be a blank before anything. -/
  | blank {c : Char} {ws : List String} {s : List Char} :
      isBlank c = true → Spaced ws s → Spaced ws (c :: s)
  /-- There may be a word before a blank and before the end. -/
  | word {w : String} {ws : List String} {s : List Char} :
      IsWord w → (∀ c ∈ s.head?, isBlank c = true) → Spaced ws s →
      Spaced (w :: ws) (w.toList ++ s)

/-! ## Cutting a text -/

lemma splitWords_blank {c : Char} (hc : isBlank c = true) (s : List Char) :
    splitWords (c :: s) = splitWords s :=
  filter_splitOnP_cons hc s

lemma splitWords_word {w s : List Char} (hne : w ≠ []) (hw : ∀ c ∈ w, isBlank c = false)
    (hs : ∀ c ∈ s.head?, isBlank c = true) : splitWords (w ++ s) = w :: splitWords s :=
  filter_splitOnP_append hne hw hs

namespace Spaced

variable {ws : List String} {s : List Char}

/-- A text that is made of words is cut into them, by induction on how it is made. -/
lemma splitWords_eq (h : Spaced ws s) : splitWords s = ws.map String.toList := by
  induction h with
  | nil => exact splitWords_nil
  | blank hc _ ih => rw [splitWords_blank hc, ih]
  | @word w ws s hw hs _ ih =>
    have hne : w.toList ≠ [] := fun hnil => hw.ne_empty (String.toList_inj.1 hnil)
    rw [splitWords_word hne hw.noBlank hs, ih, List.map_cons]

/-- A character before a text that is made of words begins a word of its own, or it belongs to
the first word. -/
lemma exists_cons {c : Char} (hc : isBlank c = false) (h : Spaced ws s) :
    ∃ ws', Spaced ws' (c :: s) := by
  have halone (hs : ∀ x ∈ s.head?, isBlank x = true) : ∃ ws', Spaced ws' (c :: s) := by
    have hw : IsWord (String.singleton c) := ⟨by simp, by simpa using hc⟩
    exact ⟨_, by simpa using Spaced.word hw hs h⟩
  cases h with
  | nil => exact halone (by simp)
  | blank hblank _ => exact halone (by simpa using hblank)
  | @word w ws s hw hs h =>
    have hlonger : IsWord (String.ofList (c :: w.toList)) := by
      refine ⟨by simp, ?_⟩
      rw [String.toList_ofList]
      exact List.forall_mem_cons.2 ⟨hc, hw.noBlank⟩
    exact ⟨_, by simpa using Spaced.word hlonger hs h⟩

/-- Blanks before a text are around its words, by induction on them. -/
lemma blanks_append {before : List Char} (hbefore : ∀ c ∈ before, isBlank c = true)
    (h : Spaced ws s) : Spaced ws (before ++ s) := by
  induction before with
  | nil => exact h
  | cons c before ih =>
    obtain ⟨hc, hbefore⟩ := List.forall_mem_cons.1 hbefore
    exact .blank hc (ih hbefore)

/-- Blanks behind a text are around its words, by induction on how it is made. -/
lemma append_blanks {after : List Char} (hafter : ∀ c ∈ after, isBlank c = true)
    (h : Spaced ws s) : Spaced ws (s ++ after) := by
  induction h with
  | nil => simpa using blanks_append hafter .nil
  | blank hc _ ih => exact .blank hc ih
  | @word w ws s hw hs _ ih =>
    rw [List.append_assoc]
    refine .word hw ?_ ih
    -- the word ends where it did, or at the first of the new blanks
    cases s with
    | nil => exact fun c hc => hafter c (List.mem_of_mem_head? hc)
    | cons c s => exact hs

/-- A text that is made of words holds no others, by induction on how it is made. -/
lemma isWord (h : Spaced ws s) : ∀ w ∈ ws, IsWord w := by
  induction h with
  | nil => simp
  | blank _ _ ih => exact ih
  | word hw _ _ ih => exact List.forall_mem_cons.2 ⟨hw, ih⟩

end Spaced

/-- Every text is made of words, by induction from its end. -/
lemma exists_spaced (s : List Char) : ∃ ws, Spaced ws s := by
  induction s with
  | nil => exact ⟨[], .nil⟩
  | cons c s ih =>
    obtain ⟨ws, h⟩ := ih
    cases hc : isBlank c with
    | true => exact ⟨ws, .blank hc h⟩
    | false => exact h.exists_cons hc

/-- Words can be written one after another, by induction on them. -/
lemma exists_spaced_of_isWord {ws : List String} (hws : ∀ w ∈ ws, IsWord w) :
    ∃ text : String, Spaced ws text.toList := by
  -- a blank in front keeps the words behind it apart from what is written before
  suffices h : ∃ s, Spaced ws s ∧ ∀ c ∈ s.head?, isBlank c = true by
    obtain ⟨s, hs, -⟩ := h
    exact ⟨String.ofList s, by rwa [String.toList_ofList]⟩
  induction ws with
  | nil => exact ⟨[], .nil, by simp⟩
  | cons w ws ih =>
    obtain ⟨hw, hws⟩ := List.forall_mem_cons.1 hws
    obtain ⟨s, hs, hhead⟩ := ih hws
    refine ⟨' ' :: (w.toList ++ s), .blank (by decide) (.word hw hhead hs), ?_⟩
    rintro c hc
    cases hc
    decide

/-- The words of a text are the ones that it is made of. -/
theorem words_eq_iff {text : String} {ws : List String} :
    words text = ws ↔ Spaced ws text.toList := by
  have hwords {ws : List String} (h : Spaced ws text.toList) : words text = ws := by
    rw [words, h.splitWords_eq, List.map_map]
    simp
  constructor
  · rintro rfl
    obtain ⟨ws, h⟩ := exists_spaced text.toList
    rwa [hwords h]
  · exact hwords

/-- The blanks at the ends of a text make no difference to its words. -/
lemma words_of_isTrimmed {text text' : String} (h : IsTrimmed text'.toList text.toList) :
    words text = words text' := by
  obtain ⟨before, after, htext, hbefore, hafter⟩ := h.between
  have hwords : Spaced (words text') text'.toList := words_eq_iff.1 rfl
  rw [words_eq_iff, htext]
  exact (hwords.blanks_append hbefore).append_blanks hafter

end ChatRelay.Text
