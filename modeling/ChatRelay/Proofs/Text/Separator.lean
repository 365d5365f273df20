/-
# Lists cut at separators

A list is cut at the first element of a kind, or at all of them.  In a list that is put together
from parts without that element, the cuts are where the parts meet.
-/
import Mathlib.Data.List.TakeWhile
import Mathlib.Tactic.Lemma
import Mathlib.Tactic.Common

namespace ChatRelay.Text

variable {α : Type}

/-! ## The first separator -/

section First

variable {a b : α} {x x' y y' l : List α}

/-- What comes before and after the first separator is determined by the whole. -/
lemma append_separator_inj (hx : a ∉ x) (hx' : a ∉ x') (h : x ++ a :: y = x' ++ a :: y') :
    x = x' ∧ y = y' := by
  -- one of the two parts before a separator starts with the other one
  rcases List.append_eq_append_iff.1 h with ⟨more, hmore, hrest⟩ | ⟨more, hmore, hrest⟩
  · cases more with
    | nil =>
      rw [List.append_nil] at hmore
      exact ⟨hmore.symm, (List.cons.inj hrest).2⟩
    | cons b more =>
      obtain ⟨rfl, -⟩ := List.cons.inj hrest
      exact absurd (by simp [hmore]) hx'
  · cases more with
    | nil =>
      rw [List.append_nil] at hmore
      exact ⟨hmore, (List.cons.inj hrest).2.symm⟩
    | cons b more =>
      obtain ⟨rfl, -⟩ := List.cons.inj hrest
      exact absurd (by simp [hmore]) hx

variable [DecidableEq α]

lemma forall_ne_of_notMem (hx : a ∉ x) : ∀ c ∈ x, (c != a) = true := by
  intro c hc
  simpa using fun heq : c = a => hx (heq ▸ hc)

lemma takeWhile_ne_append_cons (hx : a ∉ x) : (x ++ a :: y).takeWhile (· != a) = x := by
  rw [List.takeWhile_append_of_pos (forall_ne_of_notMem hx), List.takeWhile_cons_of_neg (by simp),
    List.append_nil]

/-- The rest of a list from an element on, with what stands before the first such element. -/
lemma dropWhile_ne_eq_cons_iff :
    l.dropWhile (· != a) = b :: y ↔ b = a ∧ ∃ x, a ∉ x ∧ l = x ++ a :: y := by
  constructor
  · intro h
    have hb : b = a := by
      have hhead := List.find?_not_eq_head?_dropWhile (p := (· != a)) (l := l)
      rw [h] at hhead
      simpa using List.find?_some hhead
    subst hb
    refine ⟨rfl, l.takeWhile (· != b), fun hmem => ?_, ?_⟩
    · simpa using List.mem_takeWhile_imp hmem
    · rw [← h, List.takeWhile_append_dropWhile]
  · rintro ⟨rfl, x, hx, rfl⟩
    rw [List.dropWhile_append_of_pos (forall_ne_of_notMem hx)]
    exact List.dropWhile_cons_of_neg (by simp)

lemma drop_dropWhile_ne (hx : a ∉ x) : ((x ++ a :: y).dropWhile (· != a)).drop 1 = y := by
  rw [dropWhile_ne_eq_cons_iff.2 ⟨rfl, x, hx, rfl⟩]
  rfl

end First

/-! ## All separators -/

section All

variable {p : α → Bool} {c : α} {piece l : List α}

/-- No piece holds an element at which the list was cut.  By induction on the list, of which
the first piece is the one that grows. -/
lemma eq_false_of_mem_splitOnP (hpiece : piece ∈ l.splitOnP p) : ∀ x ∈ piece, p x = false := by
  induction l generalizing piece with
  | nil =>
    intro x hx
    rw [List.splitOnP_nil, List.mem_singleton] at hpiece
    simp [hpiece] at hx
  | cons a l ih =>
    intro x hx
    rw [List.splitOnP_cons_eq_if_modifyHead] at hpiece
    by_cases ha : p a = true
    · rw [if_pos ha] at hpiece
      rcases List.mem_cons.1 hpiece with rfl | hpiece
      · simp at hx
      · exact ih hpiece x hx
    · rw [if_neg ha] at hpiece
      obtain ⟨first, rest, hsplit⟩ := List.exists_cons_of_ne_nil (List.splitOnP_ne_nil p l)
      rw [hsplit] at hpiece ih
      rw [List.modifyHead_cons] at hpiece
      rcases List.mem_cons.1 hpiece with rfl | hpiece
      · rcases List.mem_cons.1 hx with rfl | hx
        · exact Bool.eq_false_iff.2 ha
        · exact ih (List.mem_cons_self ..) x hx
      · exact ih (List.mem_cons_of_mem first hpiece) x hx

/-- A separator at the start is in no piece. -/
lemma filter_splitOnP_cons (hc : p c = true) (l : List α) :
    ((c :: l).splitOnP p).filter (fun piece => !piece.isEmpty) =
      (l.splitOnP p).filter fun piece => !piece.isEmpty := by
  rw [List.splitOnP_cons_eq_if_modifyHead, if_pos hc]
  rfl

/-- What stands before a separator, or before the end, is a piece, if there is anything. -/
lemma filter_splitOnP_append (hne : piece ≠ []) (hpiece : ∀ x ∈ piece, p x = false)
    (hl : ∀ x ∈ l.head?, p x = true) :
    ((piece ++ l).splitOnP p).filter (fun piece => !piece.isEmpty) =
      piece :: (l.splitOnP p).filter fun piece => !piece.isEmpty := by
  have hkept : (!piece.isEmpty) = true := by simpa using hne
  cases l with
  | nil =>
    rw [List.append_nil, List.splitOnP_eq_singleton hpiece, List.filter_cons, if_pos hkept,
      List.splitOnP_nil]
    rfl
  | cons c l =>
    have hc : p c = true := hl c rfl
    rw [filter_splitOnP_cons hc, List.splitOnP_append_cons_of_forall_mem hpiece c hc,
      List.filter_cons, if_pos hkept]

end All

end ChatRelay.Text
