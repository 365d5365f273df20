/-
# Appending plain names

A name is plain if none of its characters is dropped or escaped, and if it does not mean the
place itself or the one above.  Plain names are appended to a path as they are, so an address
is at least as long as all the names that were appended to it.
-/
import ChatRelay.Url.Parse
import Mathlib.Tactic.Lemma
import Mathlib.Tactic.Common

namespace ChatRelay.Url

/-- Whether a name is appended as it is. -/
def isPlain (special : Bool) (s : List Char) : Bool :=
  (s.all fun c => !isIgnored c && !segmentSet special c) && !isSingleDot s && !isDoubleDot s

variable {special : Bool} {s p : List Char}

lemma encode_eq_self {set : Char → Bool} (h : ∀ c ∈ s, set c = false) : encode set s = s := by
  induction s with
  | nil => rfl
  | cons c s ih =>
    have hc := h c (List.mem_cons_self ..)
    have hs := ih fun d hd => h d (List.mem_cons_of_mem c hd)
    rw [encode, List.flatMap_cons, ← encode, hs, hc]
    rfl

lemma isPlain_iff : isPlain special s = true ↔
    (∀ c ∈ s, isIgnored c = false ∧ segmentSet special c = false) ∧ isSingleDot s = false ∧
      isDoubleDot s = false := by
  simp [isPlain, and_assoc]

/-- A text without characters that are dropped is appended as it is escaped, unless this means
the place itself or the one above. -/
lemma readSegment_of_kept {set : Char → Bool} (hkept : ∀ c ∈ s, isIgnored c = false)
    (hsingle : isSingleDot (encode set s) = false) (hdouble : isDoubleDot (encode set s) = false)
    (p : List Char) : readSegment false false set p s = p ++ encode set s := by
  have hsplit : s.splitOnP isIgnored = [s] := List.splitOnP_eq_singleton hkept
  simp only [readSegment, hsplit, List.map_cons, List.map_nil, List.foldl_cons, List.foldl_nil,
    PathReading.push, Bool.false_and, Bool.false_eq_true, if_false, PathReading.resolve,
    List.drop_left, hsingle, hdouble, List.append_nil]

lemma readSegment_of_plain (h : isPlain special s = true) (p : List Char) :
    readSegment false false (segmentSet special) p s = p ++ s := by
  obtain ⟨hkept, hsingle, hdouble⟩ := isPlain_iff.1 h
  have hencode : encode (segmentSet special) s = s := encode_eq_self fun c hc => (hkept c hc).2
  rw [readSegment_of_kept (fun c hc => (hkept c hc).1), hencode]
  · rwa [hencode]
  · rwa [hencode]

lemma appendSegment_of_plain (h : isPlain special s = true) (p : List Char) :
    appendSegment false special p s = (if p = ['/'] then p else p ++ ['/']) ++ s := by
  simp only [appendSegment, trimSlashes, Bool.false_eq_true, if_false, readSegment_of_plain h]

lemma length_le_appendSegment (h : isPlain special s = true) (p : List Char) :
    p.length ≤ (appendSegment false special p s).length ∧
      s.length ≤ (appendSegment false special p s).length := by
  rw [appendSegment_of_plain h, List.length_append]
  split
  · omega
  · rw [List.length_append]
    omega

/-- By induction on the segments: each makes the path longer. -/
lemma length_le_foldl_appendSegment (segments : List (List Char))
    (h : ∀ s ∈ segments, isPlain special s = true) (p : List Char) :
    p.length ≤ (segments.foldl (appendSegment false special) p).length ∧
      ∀ s ∈ segments, s.length ≤ (segments.foldl (appendSegment false special) p).length := by
  induction segments generalizing p with
  | nil => exact ⟨Nat.le_refl _, fun _ h => by cases h⟩
  | cons s segments ih =>
    obtain ⟨hp, hs⟩ := length_le_appendSegment (h s (List.mem_cons_self ..)) p
    obtain ⟨hrest, hsegments⟩ :=
      ih (fun t ht => h t (List.mem_cons_of_mem s ht)) (appendSegment false special p s)
    rw [List.foldl_cons]
    refine ⟨Nat.le_trans hp hrest, fun t ht => ?_⟩
    rcases List.mem_cons.1 ht with rfl | ht
    · exact Nat.le_trans hs hrest
    · exact hsegments t ht

/-- An address is at least as long as every plain name that was appended to it. -/
lemma length_le_append {u : Url} (hfile : isFile u.scheme = false) {names : List String}
    (h : ∀ n ∈ names, isPlain (isSpecial u.scheme) n.toList = true) {n : String}
    (hn : n ∈ names) : n.length ≤ (u.append names).chars.length := by
  -- plain names do not mean the place itself or the one above, so all are appended
  have hkept : (names.filter fun n => n != "." && n != "..") = names := by
    rw [List.filter_eq_self]
    intro n hn
    obtain ⟨-, hsingle, hdouble⟩ := isPlain_iff.1 (h n hn)
    have hone : n ≠ "." := by
      rintro rfl
      exact absurd hsingle (by decide)
    have htwo : n ≠ ".." := by
      rintro rfl
      exact absurd hdouble (by decide)
    simp [hone, htwo]
  obtain ⟨-, hpath⟩ := length_le_foldl_appendSegment (names.map String.toList) (by simpa using h)
    (dropTrailingSlash u.path)
  have hname := hpath n.toList (List.mem_map_of_mem hn)
  rw [String.length_toList] at hname
  have hchars : (u.append names).path.length ≤ (u.append names).chars.length := by
    simp only [chars, List.length_append]
    omega
  refine Nat.le_trans ?_ hchars
  simp only [append, hkept, hfile]
  split
  · simp only [List.length_cons]
    omega
  · exact hname

end ChatRelay.Url
