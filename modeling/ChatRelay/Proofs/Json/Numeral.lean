/-
# Number literals

The reader of number literals takes as many digits as there are and never goes back, so that
it could miss a number only where digits may be followed by more digits.  The grammar has no
such place, and the literals that are read are those of the grammar.
-/
import ChatRelay.Proofs.Json.Grammar
import ChatRelay.Proofs.Text.Decimal
import Mathlib.Data.List.TakeWhile

namespace ChatRelay.Json.Number

/-! ## Digits -/

/-- A text does not begin with a digit. -/
def EndsDigits (s : List Char) : Prop := ∀ c ∈ s.head?, ¬ c.isDigit

variable {s ds rest : List Char}

lemma isDigit_eq : isDigit = Char.isDigit := by
  funext c
  rw [Bool.eq_iff_iff, isDigit, Option.isSome_iff_exists]
  simp [Text.Decimal.digit?_eq_some_iff]

/-- All the digits at the start of a text are taken. -/
lemma digits?_eq_some_iff :
    digits? s = some (ds, rest) ↔ IsDigits ds ∧ EndsDigits rest ∧ s = ds ++ rest := by
  rw [digits?, isDigit_eq]
  constructor
  · intro h
    split at h
    · cases h
    · rename_i hne
      cases h
      refine ⟨⟨by simpa using hne, fun c hc => List.mem_takeWhile_imp hc⟩, fun c hc => ?_,
        List.takeWhile_append_dropWhile.symm⟩
      have hstop := List.head?_dropWhile_not Char.isDigit s
      rw [Option.mem_def.1 hc] at hstop
      simpa using hstop
  · rintro ⟨⟨hne, hall⟩, hend, rfl⟩
    have hrest : rest.takeWhile Char.isDigit = [] ∧ rest.dropWhile Char.isDigit = rest := by
      cases rest with
      | nil => exact ⟨rfl, rfl⟩
      | cons c rest =>
        have hc := hend c rfl
        exact ⟨List.takeWhile_cons_of_neg hc, List.dropWhile_cons_of_neg hc⟩
    rw [List.takeWhile_append_of_pos hall, List.dropWhile_append_of_pos hall, hrest.1, hrest.2,
      List.append_nil]
    simp [hne]

/-- A zero is taken for the whole part nowhere but alone. -/
lemma whole?_eq_some_iff :
    whole? s = some (ds, rest) ↔
      digits? s = some (ds, rest) ∧ (ds.head? = some '0' → ds = ['0']) := by
  rw [whole?]
  cases h : digits? s with
  | none => simp
  | some p =>
    obtain ⟨ds', rest'⟩ := p
    split
    · -- the digits go on after a zero
      rename_i hzero
      cases hzero
      constructor
      · intro hnone
        cases hnone
      · rintro ⟨hsome, halone⟩
        cases hsome
        exact absurd (halone rfl) (by simp)
    · rename_i hother
      refine ⟨fun hsome => ⟨hsome, fun hzero => ?_⟩, And.left⟩
      cases hsome
      obtain ⟨tail, rfl⟩ := List.head?_eq_some_iff.1 hzero
      cases tail with
      | nil => rfl
      | cons c tail => exact (hother c tail rest rfl).elim

/-! ## The parts of a number -/

lemma writesFraction_of_fraction? (h : fraction? s = some (ds, rest)) :
    ∃ text, WritesFraction ds text ∧ s = text ++ rest := by
  unfold fraction? at h
  split at h
  · obtain ⟨hds, -, rfl⟩ := digits?_eq_some_iff.1 h
    exact ⟨_, .some hds, rfl⟩
  · cases h
    exact ⟨[], .none, rfl⟩

lemma fraction?_of_writesFraction {text : List Char} (htext : WritesFraction ds text)
    (hend : EndsDigits rest) (hpoint : rest.head? ≠ some '.') :
    fraction? (text ++ rest) = some (ds, rest) := by
  cases htext with
  | none =>
    rw [List.nil_append, fraction?]
    rintro c rfl
    exact hpoint rfl
  | some hds =>
    exact digits?_eq_some_iff.2 ⟨hds, hend, rfl⟩

lemma digits?_eq_all_iff : digits? s = some (ds, []) ↔ IsDigits ds ∧ s = ds := by
  rw [digits?_eq_some_iff, List.append_nil]
  simp [EndsDigits]

/-- What comes last is an exponent or nothing. -/
lemma exponent?_eq_some_iff {e : Option (Bool × List Char)} :
    exponent? s = some e ↔ WritesExponent e s := by
  constructor
  · intro h
    unfold exponent? at h
    split at h
    · cases h
      exact .none
    · split at h
      · rename_i he
        split at h
        rename_i hsign
        split at h
        · rename_i hds
          cases h
          obtain ⟨hds, rfl⟩ := digits?_eq_all_iff.1 hds
          split at hsign
          · cases hsign
            exact .plus he hds
          · cases hsign
            exact .minus he hds
          · cases hsign
            exact .plain he hds
        · cases h
      · cases h
  · intro h
    cases h with
    | none => rfl
    | @plain c ds he hds =>
      have hdigits := digits?_eq_all_iff.2 ⟨hds, rfl⟩
      obtain ⟨d, tail, rfl⟩ := List.exists_cons_of_ne_nil hds.1
      have hd := hds.2 d (.head _)
      have hplus : d ≠ '+' := by
        rintro rfl
        exact Text.Decimal.not_isDigit_sign.1 hd
      have hminus : d ≠ '-' := by
        rintro rfl
        exact Text.Decimal.not_isDigit_sign.2 hd
      simp [exponent?, he, hdigits, hplus, hminus]
    | plus he hds =>
      have hdigits := digits?_eq_all_iff.2 ⟨hds, rfl⟩
      rw [exponent?, if_pos he]
      simp only [hdigits]
    | minus he hds =>
      have hdigits := digits?_eq_all_iff.2 ⟨hds, rfl⟩
      rw [exponent?, if_pos he]
      simp only [hdigits]

/-- The number that follows its sign. -/
def parts? (negative : Bool) (s : List Char) : Option Number := do
  let (whole, s) ← whole? s
  let (fraction, s) ← fraction? s
  let exponent ← exponent? s
  return ⟨negative, whole, fraction, exponent⟩

lemma WritesExponent.endsDigits {e : Option (Bool × List Char)} (h : WritesExponent e s) :
    EndsDigits s ∧ s.head? ≠ some '.' := by
  have hletter {c : Char} (hc : c = 'e' ∨ c = 'E') (t : List Char) :
      EndsDigits (c :: t) ∧ (c :: t).head? ≠ some '.' := by
    rcases hc with rfl | rfl <;> simp [EndsDigits]
  cases h with
  | none => simp [EndsDigits]
  | plain he _ => exact hletter he _
  | plus he _ => exact hletter he _
  | minus he _ => exact hletter he _

lemma WritesFraction.endsDigits (h : WritesFraction ds s) (hend : EndsDigits rest) :
    EndsDigits (s ++ rest) := by
  cases h with
  | none => exact hend
  | some _ => simp [EndsDigits]

lemma parts?_eq_some_iff {negative : Bool} {n : Number} :
    parts? negative s = some n ↔ n.negative = negative ∧ n.PartsWrittenAs s := by
  constructor
  · intro h
    obtain ⟨⟨whole, s₁⟩, hwhole, h⟩ := Option.bind_eq_some_iff.1 h
    obtain ⟨⟨fraction, s₂⟩, hfraction, h⟩ := Option.bind_eq_some_iff.1 h
    obtain ⟨exponent, hexponent, h⟩ := Option.bind_eq_some_iff.1 h
    cases h
    obtain ⟨hwhole, hzero⟩ := whole?_eq_some_iff.1 hwhole
    obtain ⟨hdigits, -, rfl⟩ := digits?_eq_some_iff.1 hwhole
    obtain ⟨text, htext, rfl⟩ := writesFraction_of_fraction? hfraction
    refine ⟨rfl, hdigits, hzero, text, s₂, htext, exponent?_eq_some_iff.1 hexponent, ?_⟩
    rw [List.append_assoc]
  · rintro ⟨rfl, hdigits, hzero, fraction, exponent, hfraction, hexponent, rfl⟩
    obtain ⟨hend, hpoint⟩ := hexponent.endsDigits
    have hwhole := whole?_eq_some_iff.2
      ⟨digits?_eq_some_iff.2 ⟨hdigits, hfraction.endsDigits hend, rfl⟩, hzero⟩
    rw [List.append_assoc, parts?, hwhole]
    simp only [Option.bind_eq_bind, Option.bind_some,
      fraction?_of_writesFraction hfraction hend hpoint, exponent?_eq_some_iff.2 hexponent]
    rfl

/-! ## Numbers -/

lemma parse?_minus (s : List Char) : parse? ('-' :: s) = parts? true s := rfl

lemma parse?_of_head? (hs : s.head? ≠ some '-') : parse? s = parts? false s := by
  rw [parse?]
  · rfl
  · rintro t rfl
    exact hs rfl

lemma PartsWrittenAs.head? {n : Number} (h : n.PartsWrittenAs s) : s.head? ≠ some '-' := by
  obtain ⟨hdigits, -, fraction, exponent, -, -, rfl⟩ := h
  obtain ⟨d, tail, hwhole⟩ := List.exists_cons_of_ne_nil hdigits.1
  have hd := hdigits.2 d (by simp [hwhole])
  rw [hwhole]
  rintro heq
  cases heq
  exact Text.Decimal.not_isDigit_sign.2 hd

/-- The number literals are those of the grammar. -/
theorem parse?_eq_some_iff {n : Number} : parse? s = some n ↔ n.WrittenAs s := by
  constructor
  · intro h
    by_cases hs : s.head? = some '-'
    · obtain ⟨t, rfl⟩ := List.head?_eq_some_iff.1 hs
      rw [parse?_minus] at h
      obtain ⟨hneg, hparts⟩ := parts?_eq_some_iff.1 h
      exact .minus hneg hparts
    · rw [parse?_of_head? hs] at h
      obtain ⟨hneg, hparts⟩ := parts?_eq_some_iff.1 h
      exact .plain hneg hparts
  · intro h
    cases h with
    | plain hneg hparts =>
      rw [parse?_of_head? hparts.head?]
      exact parts?_eq_some_iff.2 ⟨hneg, hparts⟩
    | minus hneg hparts =>
      rw [parse?_minus]
      exact parts?_eq_some_iff.2 ⟨hneg, hparts⟩

/-! ## The characters of a number -/

lemma IsDigits.isWordChar (h : IsDigits ds) : ∀ c ∈ ds, isWordChar c := by
  intro c hc
  simp [Json.isWordChar, Char.isAlphanum, h.2 c hc]

lemma WritesFraction.isWordChar (h : WritesFraction ds s) : ∀ c ∈ s, isWordChar c := by
  cases h with
  | none => simp
  | some hds => exact List.forall_mem_cons.2 ⟨by decide, hds.isWordChar⟩

lemma WritesExponent.isWordChar {e : Option (Bool × List Char)} (h : WritesExponent e s) :
    ∀ c ∈ s, isWordChar c := by
  have hletter {c : Char} (hc : c = 'e' ∨ c = 'E') : Json.isWordChar c := by
    rcases hc with rfl | rfl <;> decide
  cases h with
  | none => simp
  | plain he hds => exact List.forall_mem_cons.2 ⟨hletter he, hds.isWordChar⟩
  | plus he hds =>
    exact List.forall_mem_cons.2 ⟨hletter he, List.forall_mem_cons.2 ⟨by decide, hds.isWordChar⟩⟩
  | minus he hds =>
    exact List.forall_mem_cons.2 ⟨hletter he, List.forall_mem_cons.2 ⟨by decide, hds.isWordChar⟩⟩

lemma PartsWrittenAs.isWordChar {n : Number} (h : n.PartsWrittenAs s) :
    ∀ c ∈ s, isWordChar c := by
  obtain ⟨hdigits, -, fraction, exponent, hfraction, hexponent, rfl⟩ := h
  simp only [List.forall_mem_append]
  exact ⟨⟨hdigits.isWordChar, hfraction.isWordChar⟩, hexponent.isWordChar⟩

/-- A number holds nothing but letters, digits, signs and points. -/
lemma WrittenAs.isWordChar {n : Number} (h : n.WrittenAs s) : ∀ c ∈ s, isWordChar c := by
  cases h with
  | plain _ hparts => exact hparts.isWordChar
  | minus _ hparts => exact List.forall_mem_cons.2 ⟨by decide, hparts.isWordChar⟩

end ChatRelay.Json.Number
