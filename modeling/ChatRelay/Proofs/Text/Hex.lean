/-
# What hexadecimal text stands for

A text of digit pairs stands for some bytes exactly when it is their written form up to the
case of its letters.  In particular no text stands for two byte sequences, and a text that is
odd in length or holds another character stands for none.
-/
import ChatRelay.Text.Hex
import Mathlib.Tactic.IntervalCases
import Mathlib.Data.List.Basic

namespace ChatRelay.Text.Hex

/-! ## Single digits -/

/-- The digits are ASCII, so that this is a check of a table. -/
lemma value?_table : ∀ n < 128, ∀ v < 16,
    value? (Char.ofNat n) = some v ↔ (Char.ofNat n).toLower = digit v := by
  decide +kernel

lemma value?_lt {c : Char} {v : Nat} (h : value? c = some v) : v < 16 ∧ c.toNat < 128 := by
  have hzero : ('0').toNat = 48 ∧ ('9').toNat = 57 := by decide
  have hlower : ('a').toNat = 97 ∧ ('f').toNat = 102 := by decide
  have hupper : ('A').toNat = 65 ∧ ('F').toNat = 70 := by decide
  simp only [value?, Char.le_def, UInt32.le_iff_toNat_le] at h
  change (if ('0').toNat ≤ c.toNat ∧ c.toNat ≤ ('9').toNat then _ else
    if ('a').toNat ≤ c.toNat ∧ c.toNat ≤ ('f').toNat then _ else
    if ('A').toNat ≤ c.toNat ∧ c.toNat ≤ ('F').toNat then _ else none) = _ at h
  split at h
  · cases h
    omega
  · split at h
    · cases h
      omega
    · split at h
      · cases h
        omega
      · exact absurd h (by simp)

lemma digit_toNat_lt {v : Nat} (h : v < 16) : (digit v).toNat < 128 := by
  interval_cases v <;> decide

/-- The lower case of a character beyond ASCII is the character itself. -/
lemma toNat_lt_of_toLower {c : Char} (h : c.toLower.toNat < 128) : c.toNat < 128 := by
  by_cases hupper : c.val ≥ ('A').val ∧ c.val ≤ ('Z').val
  · have hle : c.val.toNat ≤ ('Z').val.toNat := hupper.2
    have hz : ('Z').val.toNat = 90 := by decide
    have hc : c.toNat = c.val.toNat := rfl
    omega
  · have hlower : c.toLower = c := dif_neg hupper
    rwa [hlower] at h

lemma value?_eq_some_iff {c : Char} {v : Nat} (hv : v < 16) :
    value? c = some v ↔ c.toLower = digit v := by
  by_cases hc : c.toNat < 128
  · have h := value?_table c.toNat hc v hv
    rwa [Char.ofNat_toNat] at h
  · refine ⟨fun h => absurd (value?_lt h).2 hc, fun h => absurd ?_ hc⟩
    exact toNat_lt_of_toLower (h ▸ digit_toNat_lt hv)

/-! ## Bytes -/

lemma byte?_eq_some_iff {h l : Char} {b : UInt8} :
    byte? h l = some b ↔
      h.toLower = digit (b.toNat / 16) ∧ l.toLower = digit (b.toNat % 16) := by
  have hb : b.toNat < 256 := b.toNat_lt
  rw [← value?_eq_some_iff (by omega), ← value?_eq_some_iff (by omega), byte?]
  constructor
  · intro hbyte
    split at hbyte
    · rename_i x y hx hy
      have hx16 := (value?_lt hx).1
      have hy16 := (value?_lt hy).1
      have hval : b.toNat = 16 * x + y := by
        rw [← Option.some.inj hbyte, UInt8.toNat_ofNat']
        omega
      rw [hx, hy, hval]
      exact ⟨congrArg some (by omega), congrArg some (by omega)⟩
    · exact absurd hbyte (by simp)
  · rintro ⟨hx, hy⟩
    simp only [hx, hy, Nat.div_add_mod, UInt8.ofNat_toNat]

lemma encode_cons (b : UInt8) (bs : List UInt8) :
    encode (b :: bs) = digit (b.toNat / 16) :: digit (b.toNat % 16) :: encode bs := rfl

/-- Reading goes on behind the bytes of `before`. -/
lemma decodeFrom_eq_some_iff {before bs : List UInt8} {s : List Char} :
    decodeFrom before s = some bs ↔
      ∃ rest, bs = before.reverse ++ rest ∧ s.map Char.toLower = encode rest := by
  fun_induction decodeFrom before s generalizing bs with
  | case1 before =>
    constructor
    · intro h
      exact ⟨[], by simpa using (Option.some.inj h).symm, rfl⟩
    · rintro ⟨rest, rfl, hrest⟩
      cases rest with
      | nil => simp
      | cons b rest => exact absurd hrest (by simp [encode_cons])
  | case2 before c =>
    simp only [reduceCtorEq, false_iff, not_exists, not_and]
    rintro rest - hrest
    cases rest with
    | nil => exact absurd hrest (by simp [encode])
    | cons b rest => exact absurd hrest (by simp [encode_cons])
  | case3 before h l s b hbyte ih =>
    obtain ⟨hh, hl⟩ := byte?_eq_some_iff.1 hbyte
    rw [ih]
    constructor
    · rintro ⟨rest, rfl, hrest⟩
      refine ⟨b :: rest, by simp, ?_⟩
      simp [encode_cons, hh, hl, hrest]
    · rintro ⟨rest, rfl, hrest⟩
      cases rest with
      | nil => exact absurd hrest (by simp [encode])
      | cons b' rest =>
        simp only [List.map_cons, encode_cons, List.cons.injEq] at hrest
        obtain ⟨hh', hl', hrest⟩ := hrest
        have hb : b = b' := by
          have hbyte' := byte?_eq_some_iff.2 ⟨hh', hl'⟩
          exact Option.some.inj (hbyte.symm.trans hbyte')
        exact ⟨rest, by simp [hb], hrest⟩
  | case4 before h l s hbyte =>
    simp only [reduceCtorEq, false_iff, not_exists, not_and]
    rintro rest - hrest
    cases rest with
    | nil => exact absurd hrest (by simp [encode])
    | cons b rest =>
      simp only [List.map_cons, encode_cons, List.cons.injEq] at hrest
      rw [byte?_eq_some_iff.2 ⟨hrest.1, hrest.2.1⟩] at hbyte
      exact absurd hbyte (by simp)

/-- Bytes are read from exactly their written form, up to the case of its letters. -/
theorem decode_eq_some_iff {s : List Char} {bs : List UInt8} :
    decode s = some bs ↔ s.map Char.toLower = encode bs := by
  rw [decode, decodeFrom_eq_some_iff]
  simp

lemma toLower_digit : ∀ v < 16, (digit v).toLower = digit v := by
  decide

lemma decode_encode (bs : List UInt8) : decode (encode bs) = some bs := by
  rw [decode_eq_some_iff]
  induction bs with
  | nil => rfl
  | cons b bs ih =>
    have hb : b.toNat < 256 := b.toNat_lt
    rw [encode_cons, List.map_cons, List.map_cons, ih, toLower_digit _ (by omega),
      toLower_digit _ (by omega)]

end ChatRelay.Text.Hex
