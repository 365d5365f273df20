/-
# Words hold no blanks

A text is cut at its blanks, so that no piece holds one, and the empty pieces are left out.
Trimming a text takes the blanks from its ends, all of them and nothing else.
-/
import ChatRelay.Proofs.Text.Separator
import ChatRelay.Text.Blank

namespace ChatRelay.Text

/-! ## Trimming -/

/-- A text is another one without the blanks at its ends. -/
structure IsTrimmed (t s : List Char) : Prop where
  /-- The other one is this text between blanks. -/
  between : ∃ before after, s = before ++ t ++ after ∧ (∀ c ∈ before, isBlank c = true) ∧
    ∀ c ∈ after, isBlank c = true
  first : ∀ c ∈ t.head?, isBlank c = false
  last : ∀ c ∈ t.getLast?, isBlank c = false

@[simp] lemma toList_trimmed (s : String) : (trimmed s).toList = trim s.toList :=
  String.toList_ofList

/-- What is trimmed at the end of a text are blanks. -/
lemma exists_eq_trimEnd (s : List Char) :
    ∃ after, s = trimEnd s ++ after ∧ ∀ c ∈ after, isBlank c = true := by
  refine ⟨(s.reverse.takeWhile isBlank).reverse, ?_, fun c hc => ?_⟩
  · rw [trimEnd, ← List.reverse_append, List.takeWhile_append_dropWhile, List.reverse_reverse]
  · exact List.mem_takeWhile_imp (List.mem_reverse.1 hc)

/-- A text is its trimmed form between blanks. -/
lemma exists_eq_trim (s : List Char) :
    ∃ before after, s = before ++ trim s ++ after ∧ (∀ c ∈ before, isBlank c = true) ∧
      ∀ c ∈ after, isBlank c = true := by
  obtain ⟨after, hs, hafter⟩ := exists_eq_trimEnd (trimStart s)
  refine ⟨s.takeWhile isBlank, after, ?_, fun c hc => List.mem_takeWhile_imp hc, hafter⟩
  rw [List.append_assoc, trim, ← hs, trimStart, List.takeWhile_append_dropWhile]

lemma isBlank_or_mem_trim {s : List Char} {c : Char} (hc : c ∈ s) :
    isBlank c = true ∨ c ∈ trim s := by
  obtain ⟨before, after, hs, hbefore, hafter⟩ := exists_eq_trim s
  rw [hs, List.mem_append, List.mem_append] at hc
  rcases hc with (hc | hc) | hc
  · exact .inl (hbefore c hc)
  · exact .inr hc
  · exact .inl (hafter c hc)

section

variable {before after s t : List Char}

lemma trimEnd_eq (s : List Char) : trimEnd s = (trimStart s.reverse).reverse := rfl

lemma trimStart_append (hbefore : ∀ c ∈ before, isBlank c = true) (s : List Char) :
    trimStart (before ++ s) = trimStart s :=
  List.dropWhile_append_of_pos hbefore

lemma trimStart_eq_self (ht : ∀ c ∈ t.head?, isBlank c = false) : trimStart t = t := by
  cases t with
  | nil => rfl
  | cons c t => exact List.dropWhile_cons_of_neg (by simp [ht c rfl])

lemma head?_trimStart : ∀ c ∈ (trimStart s).head?, isBlank c = false := by
  intro c hc
  rw [trimStart, ← List.find?_not_eq_head?_dropWhile] at hc
  simpa using List.find?_some hc

lemma trimEnd_append (hafter : ∀ c ∈ after, isBlank c = true) (s : List Char) :
    trimEnd (s ++ after) = trimEnd s := by
  have hreverse : ∀ c ∈ after.reverse, isBlank c = true :=
    fun c hc => hafter c (List.mem_reverse.1 hc)
  rw [trimEnd_eq, trimEnd_eq, List.reverse_append, trimStart_append hreverse]

lemma trimEnd_eq_self (ht : ∀ c ∈ t.getLast?, isBlank c = false) : trimEnd t = t := by
  rw [trimEnd_eq, trimStart_eq_self (by rwa [List.head?_reverse]), List.reverse_reverse]

lemma getLast?_trimEnd : ∀ c ∈ (trimEnd s).getLast?, isBlank c = false := by
  rw [trimEnd_eq, List.getLast?_reverse]
  exact head?_trimStart

/-- Trimming leaves exactly the text between the blanks at the ends. -/
theorem trim_eq_iff : trim s = t ↔ IsTrimmed t s := by
  constructor
  · rintro rfl
    refine ⟨exists_eq_trim s, fun c hc => ?_, getLast?_trimEnd⟩
    -- what is left starts like the text without the blanks at its start
    obtain ⟨after, hs, -⟩ := exists_eq_trimEnd (trimStart s)
    have hhead : c ∈ (trimStart s).head? := by
      rw [hs, ← trim, List.head?_append, hc, Option.some_or]
      rfl
    exact head?_trimStart c hhead
  · rintro ⟨⟨before, after, rfl, hbefore, hafter⟩, hfirst, hlast⟩
    rw [List.append_assoc, trim, trimStart_append hbefore]
    cases t with
    | nil =>
      have hblank := trimStart_append hafter []
      rw [List.append_nil] at hblank
      rw [List.nil_append, hblank]
      rfl
    | cons c t =>
      have hstart : trimStart (c :: t ++ after) = c :: t ++ after := trimStart_eq_self hfirst
      rw [hstart, trimEnd_append hafter, trimEnd_eq_self hlast]

end

/-! ## Cutting into words -/

variable {text w : String}

lemma mem_words_iff : w ∈ words text ↔ w.toList ∈ splitWords text.toList := by
  rw [words, List.mem_map]
  constructor
  · rintro ⟨l, hl, rfl⟩
    rwa [String.toList_ofList]
  · intro hw
    exact ⟨w.toList, hw, String.ofList_toList⟩

/-- A word holds no blank. -/
lemma isBlank_of_mem_words (hw : w ∈ words text) : ∀ c ∈ w.toList, isBlank c = false := by
  have hpiece := (List.mem_filter.1 (mem_words_iff.1 hw)).1
  exact eq_false_of_mem_splitOnP hpiece

end ChatRelay.Text
