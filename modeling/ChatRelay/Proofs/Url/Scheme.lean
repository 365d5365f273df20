/-
# Schemes of addresses

An address has the scheme that stands before the first colon of its text, in lower case.  The
blanks before it do not matter, and neither does anything after the colon.  So two texts that
agree up to there are addresses of one scheme, if they are addresses at all.
-/
import ChatRelay.Url.Parse
import Mathlib.Data.List.DropRight
import Mathlib.Tactic.Lemma
import Mathlib.Tactic.Common

namespace ChatRelay.Url

/-- An address of the web. -/
def IsWeb (u : Url) : Prop := u.scheme = "http".toList ∨ u.scheme = "https".toList

lemma IsWeb.isSpecial {u : Url} (hweb : u.IsWeb) : isSpecial u.scheme = true := by
  rcases hweb with hweb | hweb <;> rw [hweb] <;> decide

lemma IsWeb.isFile {u : Url} (hweb : u.IsWeb) : isFile u.scheme = false := by
  rcases hweb with hweb | hweb <;> rw [hweb] <;> decide

/-- Whether a character is dropped at the ends of an address. -/
def isEdge (c : Char) : Bool := c.toNat ≤ 0x20

/-- Whether a character can stand before the colon of an address. -/
def isBeforeColon (c : Char) : Bool := isSchemeChar c || isIgnored c

/-! ## Before the colon -/

lemma isBeforeColon_colon : ¬ isBeforeColon ':' = true := by decide

lemma isBeforeColon_eq : isBeforeColon = fun c => isSchemeChar c || isIgnored c := rfl

lemma trimmed_eq (s : List Char) : trimmed s = (s.dropWhile isEdge).rdropWhile isEdge := rfl

/-- The scheme of a text is what its start says, up to the first colon. -/
lemma scheme?_eq_some_iff {s n rest : List Char} :
    scheme? s = some (n, rest) ↔
      ∃ w, s = w ++ ':' :: rest ∧ (∀ c ∈ w, isBeforeColon c = true) ∧
        (withoutIgnored w).head?.any Char.isAlpha = true ∧
        n = (withoutIgnored w).map Char.toLower := by
  constructor
  · intro h
    simp only [scheme?] at h
    split at h
    · rename_i rest' hdrop
      split at h
      · rename_i halpha
        cases h
        refine ⟨s.takeWhile isBeforeColon, ?_, fun c hc => List.mem_takeWhile_imp hc, halpha, rfl⟩
        rw [← hdrop]
        exact List.takeWhile_append_dropWhile.symm
      · exact absurd h (by simp)
    · exact absurd h (by simp)
  · rintro ⟨w, rfl, hw, halpha, rfl⟩
    have hdrop : (w ++ ':' :: rest).dropWhile isBeforeColon = ':' :: rest := by
      rw [List.dropWhile_append_of_pos hw, List.dropWhile_cons_of_neg isBeforeColon_colon]
    have htake : (w ++ ':' :: rest).takeWhile isBeforeColon = w := by
      rw [List.takeWhile_append_of_pos hw, List.takeWhile_cons_of_neg isBeforeColon_colon,
        List.append_nil]
    rw [isBeforeColon_eq] at hdrop htake
    simp only [scheme?, hdrop, htake, halpha, if_true]

/-! ## After the colon -/

lemma authority?_scheme {scheme s rest : List Char} {more : Bool} {u : Url}
    (h : authority? scheme s more = some (u, rest)) : u.scheme = scheme := by
  simp only [authority?] at h
  split at h
  · exact absurd h (by simp)
  · split at h
    · exact absurd h (by simp)
    · split at h <;>
      · obtain ⟨host, -, h⟩ := Option.bind_eq_some_iff.1 h
        obtain ⟨port, -, h⟩ := Option.bind_eq_some_iff.1 h
        cases h
        rfl

lemma withAuthority?_scheme {scheme s : List Char} {u : Url}
    (h : withAuthority? scheme s = some u) : u.scheme = scheme := by
  simp only [withAuthority?] at h
  obtain ⟨⟨v, rest⟩, hv, h⟩ := Option.bind_eq_some_iff.1 h
  have hscheme := authority?_scheme hv
  cases h
  exact hscheme

lemma file?_scheme {s : List Char} {u : Url} (h : file? s = some u) : u.scheme = fileScheme := by
  simp only [file?] at h
  split at h
  · obtain ⟨p, -, rfl⟩ := Option.map_eq_some_iff.1 h
    rfl
  · cases h
    rfl

lemma afterScheme?_scheme {scheme s : List Char} {u : Url} (h : afterScheme? scheme s = some u) :
    u.scheme = scheme := by
  simp only [afterScheme?] at h
  split at h
  · rename_i hfile
    rw [file?_scheme h]
    exact (beq_iff_eq.1 hfile).symm
  · split at h
    · exact withAuthority?_scheme h
    · split at h
      · exact withAuthority?_scheme h
      · cases h
        rfl

lemma parse?_eq_some_iff {t : String} {u : Url} :
    parse? t = some u ↔
      ∃ rest, scheme? (trimmed t.toList) = some (u.scheme, rest) ∧
        afterScheme? u.scheme rest = some u := by
  rw [parse?]
  simp only [Option.bind_eq_bind, Option.bind_eq_some_iff, Prod.exists]
  constructor
  · rintro ⟨scheme, rest, hscheme, hafter⟩
    cases afterScheme?_scheme hafter
    exact ⟨rest, hscheme, hafter⟩
  · rintro ⟨rest, hscheme, hafter⟩
    exact ⟨u.scheme, rest, hscheme, hafter⟩

/-! ## Texts that agree up to the colon -/

/-- A text starts with blanks and then, in front of a colon, with what can stand there. -/
structure Starts (t : List Char) (name : List Char) : Prop where
  /-- The text is blanks, the name, a colon, and more. -/
  eq : ∃ a rest, t = a ++ (name ++ ':' :: rest) ∧ ∀ c ∈ a, isEdge c = true
  head : ∀ c, name.head? = some c → ¬ isEdge c = true
  name : ∀ c ∈ name, isBeforeColon c = true

namespace Starts

variable {t t' w w' : List Char}

lemma dropWhile_eq {a rest : List Char} (ha : ∀ c ∈ a, isEdge c = true)
    (hhead : ∀ c, w.head? = some c → ¬ isEdge c = true) :
    (a ++ (w ++ ':' :: rest)).dropWhile isEdge = w ++ ':' :: rest := by
  rw [List.dropWhile_append_of_pos ha]
  cases w with
  | nil => exact List.dropWhile_cons_of_neg (by decide)
  | cons c w => exact List.dropWhile_cons_of_neg (hhead c rfl)

/-- A text starts in one way only. -/
lemma unique (h : Starts t w) (h' : Starts t w') : w = w' := by
  obtain ⟨a, rest, rfl, ha⟩ := h.eq
  obtain ⟨a', rest', heq, ha'⟩ := h'.eq
  -- without the blanks the two texts are equal, and the names end where no name goes on
  have hdrop : w ++ ':' :: rest = w' ++ ':' :: rest' := by
    rw [← dropWhile_eq ha h.head, heq, dropWhile_eq ha' h'.head]
  have htake : ∀ {v r : List Char}, (∀ c ∈ v, isBeforeColon c = true) →
      (v ++ ':' :: r).takeWhile isBeforeColon = v := fun hv => by
    rw [List.takeWhile_append_of_pos hv, List.takeWhile_cons_of_neg isBeforeColon_colon,
      List.append_nil]
  rw [← htake (r := rest) h.name, hdrop, htake h'.name]

/-- What is dropped at the end of a list is dropped behind any element that stays. -/
lemma reverse_dropWhile_append {p : Char → Bool} {x : Char} (hx : ¬ p x = true)
    (l r : List Char) :
    ((l ++ x :: r).reverse.dropWhile p).reverse = l ++ x :: (r.reverse.dropWhile p).reverse := by
  rw [List.reverse_append, List.reverse_cons, List.append_assoc, List.dropWhile_append]
  split
  · rename_i hempty
    rw [List.isEmpty_iff.1 hempty, List.singleton_append, List.dropWhile_cons_of_neg hx]
    simp
  · simp

/-- A text keeps its start when slashes are dropped at its end and more is appended. -/
lemma append (h : Starts t w) (more : List Char) :
    Starts ((t.reverse.dropWhile (· == '/')).reverse ++ more) w := by
  obtain ⟨a, rest, rfl, ha⟩ := h.eq
  refine ⟨⟨a, (rest.reverse.dropWhile (· == '/')).reverse ++ more, ?_, ha⟩, h.head, h.name⟩
  rw [← List.append_assoc a, reverse_dropWhile_append (by decide)]
  simp only [List.append_assoc, List.cons_append]

end Starts

/-- The text of an address starts with its scheme, as it is written. -/
lemma exists_starts_of_parse? {t : String} {u : Url} (h : parse? t = some u) :
    ∃ w, Starts t.toList w ∧ u.scheme = (withoutIgnored w).map Char.toLower := by
  obtain ⟨rest, hscheme, -⟩ := parse?_eq_some_iff.1 h
  obtain ⟨w, hw, hbefore, -, hname⟩ := scheme?_eq_some_iff.1 hscheme
  rw [trimmed_eq] at hw
  obtain ⟨b, hb⟩ := List.rdropWhile_prefix isEdge (t.toList.dropWhile isEdge)
  rw [hw, List.append_assoc] at hb
  -- what is dropped at the end of the text stands behind the colon
  refine ⟨w, ⟨⟨t.toList.takeWhile isEdge, rest ++ b, ?_, ?_⟩, ?_, hbefore⟩, hname⟩
  · rw [← List.cons_append, hb, List.takeWhile_append_dropWhile]
  · exact fun c hc => List.mem_takeWhile_imp hc
  · intro c hc
    have hnot := List.head?_dropWhile_not isEdge t.toList
    rw [← hb, List.head?_append, hc] at hnot
    simpa using hnot

/-- Two addresses whose texts start alike have one scheme. -/
lemma scheme_eq_of_starts {t t' : String} {u u' : Url} (h : parse? t = some u)
    (h' : parse? t' = some u') (hstarts : ∀ w, Starts t.toList w → Starts t'.toList w) :
    u'.scheme = u.scheme := by
  obtain ⟨w, hw, hscheme⟩ := exists_starts_of_parse? h
  obtain ⟨w', hw', hscheme'⟩ := exists_starts_of_parse? h'
  rw [hscheme, hscheme', hw'.unique (hstarts w hw)]

end ChatRelay.Url
