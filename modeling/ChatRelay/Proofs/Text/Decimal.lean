/-
# What the readers of decimal numbers accept

The readers go from digit to digit and stop as soon as the value is over the bound.  Since
the value only grows, they accept exactly the numerals whose value is within the bound, and
they return that value: the digits weighted with powers of ten, with any number of zeros in
front.  A number that is written has no such zeros, and it is read back.
-/
import ChatRelay.Text.Decimal
import Mathlib.Data.Nat.Digits.Lemmas
import Mathlib.Tactic.Linarith

namespace ChatRelay.Text.Decimal

/-! ## Numerals -/

/-- The value of digits: each is weighted with the power of ten of its place. -/
def value (ds : List Char) : Nat := Nat.ofDigits 10 (ds.map fun c => c.toNat - '0'.toNat).reverse

/-- A text is a decimal numeral with at most one sign before its digits, and stands for an
integer. -/
inductive Numeral : List Char → Int → Prop
  | plain {ds : List Char} : ds ≠ [] → (∀ c ∈ ds, c.isDigit) → Numeral ds (value ds)
  | plus {ds : List Char} : ds ≠ [] → (∀ c ∈ ds, c.isDigit) → Numeral ('+' :: ds) (value ds)
  | minus {ds : List Char} : ds ≠ [] → (∀ c ∈ ds, c.isDigit) → Numeral ('-' :: ds) (-(value ds))

@[simp] lemma value_nil : value [] = 0 := rfl

lemma value_cons (c : Char) (ds : List Char) :
    value (c :: ds) = (c.toNat - '0'.toNat) * 10 ^ ds.length + value ds := by
  rw [value, value, List.map_cons, List.reverse_cons, Nat.ofDigits_append, List.length_reverse,
    List.length_map, Nat.ofDigits_singleton]
  ring

/-! ## Digits -/

lemma digit?_eq_some_iff {c : Char} {d : Nat} :
    digit? c = some d ↔ c.isDigit ∧ d = c.toNat - '0'.toNat := by
  have hdigit : c.isDigit = true ↔ '0' ≤ c ∧ c ≤ '9' := by
    simp [Char.isDigit, Char.le_def]
  rw [digit?]
  split
  · rename_i h
    simp [hdigit, h, eq_comm]
  · rename_i h
    simp [hdigit, h]

lemma push_eq_ok_iff {bound n v : Nat} {c : Char} :
    push bound n c = .ok v ↔
      c.isDigit ∧ v = 10 * n + (c.toNat - '0'.toNat) ∧ v ≤ bound := by
  rw [push]
  cases h : digit? c with
  | none =>
    have hc : ¬ c.isDigit := fun hc => by
      rw [digit?_eq_some_iff.2 ⟨hc, rfl⟩] at h
      exact absurd h (by simp)
    simp [hc]
  | some d =>
    obtain ⟨hc, rfl⟩ := digit?_eq_some_iff.1 h
    simp only [hc, true_and]
    split
    · rename_i hle
      constructor
      · intro he
        cases he
        exact ⟨rfl, hle⟩
      · rintro ⟨rfl, -⟩
        rfl
    · rename_i hlt
      simp only [reduceCtorEq, false_iff, not_and]
      rintro rfl
      exact hlt

/-- Reading goes on from a value `n`; the bound on the final value bounds all values on the way
there. -/
lemma foldlM_push_eq_ok_iff {bound n v : Nat} {s : List Char} (hn : n ≤ bound) :
    s.foldlM (push bound) n = .ok v ↔
      (∀ c ∈ s, c.isDigit) ∧ v = n * 10 ^ s.length + value s ∧ v ≤ bound := by
  induction s generalizing n with
  | nil =>
    simp only [List.foldlM_nil, List.not_mem_nil, false_implies, implies_true, List.length_nil,
      pow_zero, mul_one, value_nil, add_zero, true_and]
    constructor
    · intro he
      cases he
      exact ⟨rfl, hn⟩
    · rintro ⟨rfl, -⟩
      rfl
  | cons c s ih =>
    rw [List.foldlM_cons, value_cons, List.length_cons]
    have hweight : n * 10 ^ (s.length + 1) + ((c.toNat - '0'.toNat) * 10 ^ s.length + value s) =
        (10 * n + (c.toNat - '0'.toNat)) * 10 ^ s.length + value s := by ring
    rw [hweight]
    cases hp : push bound n c with
    | error e =>
      have hnot : ¬ (c.isDigit ∧ 10 * n + (c.toNat - '0'.toNat) ≤ bound) := fun h => by
        rw [push_eq_ok_iff.2 ⟨h.1, rfl, h.2⟩] at hp
        exact absurd hp (by simp)
      constructor
      · intro h
        exact absurd h (by simp [bind, Except.bind])
      · rintro ⟨hall, rfl, hle⟩
        refine absurd ⟨hall c (by simp), ?_⟩ hnot
        have hone : 1 ≤ 10 ^ s.length := Nat.one_le_pow _ _ (by norm_num)
        calc 10 * n + (c.toNat - '0'.toNat)
            ≤ (10 * n + (c.toNat - '0'.toNat)) * 10 ^ s.length := Nat.le_mul_of_pos_right _ hone
          _ ≤ bound := le_trans (Nat.le_add_right _ _) hle
    | ok n' =>
      obtain ⟨hc, rfl, hle⟩ := push_eq_ok_iff.1 hp
      have hstep := ih (n := 10 * n + (c.toNat - '0'.toNat)) hle
      simpa [bind, Except.bind, hc] using hstep

lemma readDigits_eq_ok_iff {bound n : Nat} {s : List Char} :
    readDigits bound s = .ok n ↔
      s ≠ [] ∧ (∀ c ∈ s, c.isDigit) ∧ n = value s ∧ n ≤ bound := by
  rw [readDigits]
  cases s with
  | nil => simp
  | cons c s =>
    have h : (c :: s).foldlM (push bound) 0 = .ok n ↔ _ := foldlM_push_eq_ok_iff (Nat.zero_le _)
    simpa using h

/-! ## Signed numbers -/

lemma map_readDigits_eq_ok_iff {bound : Nat} {s : List Char} {f : Nat → Int} {n : Int} :
    (readDigits bound s).map f = .ok n ↔
      s ≠ [] ∧ (∀ c ∈ s, c.isDigit) ∧ n = f (value s) ∧ value s ≤ bound := by
  cases h : readDigits bound s with
  | error e =>
    constructor
    · intro he
      exact absurd he (by simp [Except.map])
    · rintro ⟨hne, hall, -, hle⟩
      rw [readDigits_eq_ok_iff.2 ⟨hne, hall, rfl, hle⟩] at h
      exact absurd h (by simp)
  | ok v =>
    obtain ⟨hne, hall, rfl, hle⟩ := readDigits_eq_ok_iff.1 h
    simp only [Except.map, Except.ok.injEq]
    exact ⟨fun he => ⟨hne, hall, he.symm, hle⟩, fun he => he.2.2.1.symm⟩

lemma not_isDigit_sign : ¬ ('+').isDigit ∧ ¬ ('-').isDigit := by decide

/-- A signed word of 64 bits is read from exactly the numerals of the integers that fit into
it. -/
theorem readInt64_eq_ok_iff {s : List Char} {n : Int} :
    readInt64 s = .ok n ↔ Numeral s n ∧ -2 ^ 63 ≤ n ∧ n < 2 ^ 63 := by
  constructor
  · intro h
    rw [readInt64.eq_def] at h
    split at h
    · obtain ⟨hne, hall, rfl, hle⟩ := map_readDigits_eq_ok_iff.1 h
      simp only [maxInt64] at hle
      exact ⟨.minus hne hall, by omega, by omega⟩
    · obtain ⟨hne, hall, rfl, hle⟩ := map_readDigits_eq_ok_iff.1 h
      simp only [maxInt64] at hle
      exact ⟨.plus hne hall, by omega, by omega⟩
    · obtain ⟨hne, hall, rfl, hle⟩ := map_readDigits_eq_ok_iff.1 h
      simp only [maxInt64] at hle
      exact ⟨.plain hne hall, by omega, by omega⟩
  · rintro ⟨hnumeral, hlow, hhigh⟩
    cases hnumeral with
    | plus hne hall =>
      exact map_readDigits_eq_ok_iff.2 ⟨hne, hall, rfl, by simp only [maxInt64]; omega⟩
    | minus hne hall =>
      exact map_readDigits_eq_ok_iff.2 ⟨hne, hall, rfl, by simp only [maxInt64]; omega⟩
    | plain hne hall =>
      -- digits do not start with a sign, so that the last case of the reader applies
      have hread : readInt64 s = (readDigits maxInt64 s).map fun n : Nat => (n : Int) := by
        rw [readInt64.eq_def]
        split
        · exact absurd (hall '-' (by simp)) not_isDigit_sign.2
        · exact absurd (hall '+' (by simp)) not_isDigit_sign.1
        · rfl
      rw [hread]
      exact map_readDigits_eq_ok_iff.2 ⟨hne, hall, rfl, by simp only [maxInt64]; omega⟩

/-! ## Numbers without a minus sign -/

/-- A text is a decimal numeral with at most a plus sign before its digits, and stands for a
natural number. -/
inductive Unsigned : List Char → Nat → Prop
  | plain {ds : List Char} : ds ≠ [] → (∀ c ∈ ds, c.isDigit) → Unsigned ds (value ds)
  | plus {ds : List Char} : ds ≠ [] → (∀ c ∈ ds, c.isDigit) → Unsigned ('+' :: ds) (value ds)

/-- A natural number up to a bound is read from exactly its numerals without a minus sign. -/
theorem readNat_eq_ok_iff {bound n : Nat} {s : List Char} :
    readNat bound s = .ok n ↔ Unsigned s n ∧ n ≤ bound := by
  constructor
  · intro h
    rw [readNat.eq_def] at h
    split at h
    · obtain ⟨hne, hall, rfl, hle⟩ := readDigits_eq_ok_iff.1 h
      exact ⟨.plus hne hall, hle⟩
    · obtain ⟨hne, hall, rfl, hle⟩ := readDigits_eq_ok_iff.1 h
      exact ⟨.plain hne hall, hle⟩
  · rintro ⟨hnumeral, hle⟩
    cases hnumeral with
    | plus hne hall => exact readDigits_eq_ok_iff.2 ⟨hne, hall, rfl, hle⟩
    | plain hne hall =>
      have hread : readNat bound s = readDigits bound s := by
        rw [readNat.eq_def]
        split
        · exact absurd (hall '+' (by simp)) not_isDigit_sign.1
        · rfl
      rw [hread]
      exact readDigits_eq_ok_iff.2 ⟨hne, hall, rfl, hle⟩

/-- A numeral stands for one number only. -/
lemma Unsigned.unique {s : List Char} {n m : Nat} (hn : Unsigned s n) (hm : Unsigned s m) :
    n = m := by
  have hreadn := readNat_eq_ok_iff.2 ⟨hn, le_max_left n m⟩
  have hreadm := readNat_eq_ok_iff.2 ⟨hm, le_max_right n m⟩
  exact Except.ok.inj (hreadn.symm.trans hreadm)

/-! ## Numbers that are written -/

lemma value_concat (ds : List Char) (c : Char) :
    value (ds ++ [c]) = 10 * value ds + (c.toNat - '0'.toNat) := by
  rw [value, value, List.map_append, List.reverse_append, List.map_singleton,
    List.reverse_singleton, List.singleton_append, Nat.ofDigits_cons]
  exact Nat.add_comm _ _

/-- By induction from the last digit on. -/
lemma ofDigitChars_eq_value (ds : List Char) : Nat.ofDigitChars 10 ds 0 = value ds := by
  induction ds using List.reverseRecOn with
  | nil => rfl
  | append_singleton ds c ih =>
    rw [Nat.ofDigitChars_append, ih, value_concat, Nat.ofDigitChars_cons, Nat.ofDigitChars_nil]

lemma digits_ne_nil (n : Nat) : digits n ≠ [] := Nat.toDigits_ne_nil

lemma digits_of_lt {n : Nat} (hn : n < 10) : digits n = [n.digitChar] :=
  Nat.toDigits_of_lt_base hn

lemma digits_of_le {n : Nat} (hn : 10 ≤ n) : digits n = digits (n / 10) ++ [(n % 10).digitChar] :=
  Nat.toDigits_of_base_le (by decide) hn

lemma toNat_digitChar : ∀ d < 10, (Nat.digitChar d).toNat - '0'.toNat = d := by
  decide

lemma isDigit_of_mem_digits {n : Nat} {c : Char} (hc : c ∈ digits n) : c.isDigit :=
  Nat.isDigit_of_mem_toDigits (by decide) (by decide) hc

/-- Digits are ASCII characters. -/
lemma toNat_lt_of_mem_digits {n : Nat} {c : Char} (hc : c ∈ digits n) : c.toNat < 128 := by
  have hdigit := isDigit_of_mem_digits hc
  simp only [Char.isDigit, Bool.and_eq_true, decide_eq_true_eq, UInt32.le_iff_toNat_le] at hdigit
  exact Nat.lt_of_le_of_lt hdigit.2 (by decide)

/-- By induction on the number of digits. -/
lemma value_digits (n : Nat) : value (digits n) = n := by
  induction n using Nat.strongRecOn with
  | ind n ih =>
    rcases Nat.lt_or_ge n 10 with hlt | hge
    · have hlast := value_concat [] n.digitChar
      rw [digits_of_lt hlt, ← List.nil_append [n.digitChar], hlast, toNat_digitChar n hlt]
      simp
    · rw [digits_of_le hge, value_concat, ih (n / 10) (by omega), toNat_digitChar _ (by omega)]
      omega

/-- By induction on the number of digits: a zero stands in front of no other digit. -/
lemma head?_digits {n : Nat} (hn : n ≠ 0) : (digits n).head? ≠ some '0' := by
  induction n using Nat.strongRecOn with
  | ind n ih =>
    rcases Nat.lt_or_ge n 10 with hlt | hge
    · have hdigit : ∀ d < 10, d ≠ 0 → Nat.digitChar d ≠ '0' := by decide
      rw [digits_of_lt hlt]
      simpa using hdigit n hlt hn
    · have hrest := ih (n / 10) (by omega) (by omega)
      rw [digits_of_le hge, List.head?_append_of_ne_nil _ (digits_ne_nil _)]
      exact hrest

/-- A number within the bound is read back from its digits. -/
theorem readDigits_digits {bound n : Nat} (hn : n ≤ bound) :
    readDigits bound (digits n) = .ok n :=
  readDigits_eq_ok_iff.2
    ⟨digits_ne_nil n, fun _ => isDigit_of_mem_digits, (value_digits n).symm, hn⟩

end ChatRelay.Text.Decimal
