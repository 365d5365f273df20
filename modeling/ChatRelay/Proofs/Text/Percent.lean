/-
# Escapes stand for their bytes

Percent decoding reads a byte at a time and never goes back: a byte other than the percent
sign stands for itself, and the escape of a byte stands for that byte, whatever comes after
it.  So a character that is written with escapes is decoded to its UTF-8 encoding.

The search for a broken escape passes over the digits of the others.  They are no percent signs,
so that it finds the first one of all.
-/
import ChatRelay.Proofs.Text.Hex
import ChatRelay.Proofs.Text.Utf8
import ChatRelay.Text.Percent

namespace ChatRelay.Text.Percent

/-! ## Bytes one after another -/

/-- What has been decoded before does not matter for the rest. -/
lemma decodeFrom_append (a before bs : List UInt8) :
    decodeFrom (a ++ before) bs = before.reverse ++ decodeFrom a bs := by
  fun_induction decodeFrom a bs with
  | case1 a b h l rest c hc ih =>
    rw [decodeFrom, hc]
    exact ih
  | case2 a b h l rest hc ih =>
    rw [decodeFrom, hc]
    exact ih
  | case3 a b rest hrest ih =>
    rw [decodeFrom.eq_2 _ _ _ hrest]
    exact ih
  | case4 a => simp [decodeFrom]

lemma decodeFrom_eq (before bs : List UInt8) :
    decodeFrom before bs = before.reverse ++ decode bs :=
  decodeFrom_append [] before bs

lemma decode_cons_of_ne {b : UInt8} (hb : b ≠ sign) (rest : List UInt8) :
    decode (b :: rest) = b :: decode rest := by
  rcases rest with _ | ⟨h, _ | ⟨l, rest⟩⟩
  · rfl
  · rfl
  · have hnone : escape? b h l = none := if_neg hb
    rw [decode, decodeFrom, hnone]
    exact decodeFrom_eq [b] (h :: l :: rest)

lemma decode_escape {b h l c : UInt8} (hc : escape? b h l = some c) (rest : List UInt8) :
    decode (b :: h :: l :: rest) = c :: decode rest := by
  rw [decode, decodeFrom, hc]
  exact decodeFrom_eq [c] rest

/-! ## Escapes -/

/-- A byte is the digit of a value, in either case. -/
def IsDigitOf (v : Nat) (d : UInt8) : Prop := (Char.ofNat d.toNat).toLower = Hex.digit v

instance (v : Nat) (d : UInt8) : Decidable (IsDigitOf v d) :=
  inferInstanceAs (Decidable (_ = _))

lemma escape?_eq_some_iff {b h l : UInt8} : escape? sign h l = some b ↔
    IsDigitOf (b.toNat / 16) h ∧ IsDigitOf (b.toNat % 16) l := by
  rw [escape?, if_pos rfl]
  exact Hex.byte?_eq_some_iff

/-- The digits of escapes are ASCII, and they are upper-case ones. -/
lemma digit_table : ∀ v < 16, (Hex.digit v).toUpper.toNat < 128 ∧
    (Hex.digit v).toUpper.toLower = Hex.digit v := by
  decide

lemma isDigitOf_toUpper {v : Nat} (hv : v < 16) :
    IsDigitOf v (UInt8.ofNat (Hex.digit v).toUpper.toNat) := by
  obtain ⟨hascii, hlower⟩ := digit_table v hv
  rw [IsDigitOf, Utf8.ofNat_byte_of_lt hascii]
  exact hlower

lemma decode_encodeByte (b : UInt8) (rest : List UInt8) :
    decode (Utf8.encode (encodeByte b) ++ rest) = b :: decode rest := by
  have hb : b.toNat < 256 := b.toNat_lt
  have hhigh : b.toNat / 16 < 16 := by omega
  have hlow : b.toNat % 16 < 16 := by omega
  have hbytes : Utf8.encode (encodeByte b) =
      [sign, UInt8.ofNat (Hex.digit (b.toNat / 16)).toUpper.toNat,
        UInt8.ofNat (Hex.digit (b.toNat % 16)).toUpper.toNat] := by
    rw [encodeByte, Utf8.encode_cons, Utf8.encode_cons, Utf8.encode_cons,
      Utf8.utf8EncodeChar_of_lt (digit_table _ hhigh).1,
      Utf8.utf8EncodeChar_of_lt (digit_table _ hlow).1]
    rfl
  rw [hbytes]
  exact decode_escape
    (escape?_eq_some_iff.2 ⟨isDigitOf_toUpper hhigh, isDigitOf_toUpper hlow⟩) rest

lemma decode_encodeChar (c : Char) (rest : List UInt8) :
    decode (Utf8.encode (encodeChar c) ++ rest) = String.utf8EncodeChar c ++ decode rest := by
  rw [encodeChar]
  induction String.utf8EncodeChar c with
  | nil => rfl
  | cons b bs ih =>
    rw [List.flatMap_cons, Utf8.encode_append, List.append_assoc, decode_encodeByte, ih]
    rfl

/-- The characters of escapes are percent signs and digits. -/
lemma mem_encodeChar {c x : Char} (hx : x ∈ encodeChar c) :
    x = '%' ∨ ∃ v < 16, x = (Hex.digit v).toUpper := by
  obtain ⟨b, -, hb⟩ := List.mem_flatMap.1 hx
  have hlt : b.toNat < 256 := b.toNat_lt
  rw [encodeByte] at hb
  rcases List.mem_cons.1 hb with rfl | hb
  · exact .inl rfl
  · rcases List.mem_cons.1 hb with rfl | hb
    · exact .inr ⟨_, by omega, rfl⟩
    · exact .inr ⟨_, by omega, List.mem_singleton.1 hb⟩

/-! ## Broken escapes -/

/-- A byte is an ASCII digit of either case. -/
def IsHexDigit (b : UInt8) : Prop :=
  0x30 ≤ b ∧ b ≤ 0x39 ∨ 0x41 ≤ b ∧ b ≤ 0x46 ∨ 0x61 ≤ b ∧ b ≤ 0x66

instance (b : UInt8) : Decidable (IsHexDigit b) := by
  unfold IsHexDigit
  infer_instance

/-- At a position there is a percent sign, and it is not followed by two digits. -/
structure IsBroken (bs : List UInt8) (i : Nat) : Prop where
  sign : bs[i]? = some sign
  digits : ¬ ∃ h l, bs[i + 1]? = some h ∧ bs[i + 2]? = some l ∧ IsHexDigit h ∧ IsHexDigit l

/-- A position is the first one of a broken escape. -/
def IsFirstBroken (bs : List UInt8) (i : Nat) : Prop :=
  IsBroken bs i ∧ ∀ j < i, ¬ IsBroken bs j

variable {bs rest : List UInt8} {b h l : UInt8} {i n : Nat}

/-- There are few bytes, so that this is a check of a table. -/
lemma value?_table : ∀ n < 256,
    (Hex.value? (Char.ofNat n)).isSome = decide (IsHexDigit (UInt8.ofNat n)) := by
  decide +kernel

lemma isSome_value?_iff : (Hex.value? (Char.ofNat b.toNat)).isSome ↔ IsHexDigit b := by
  rw [value?_table b.toNat b.toNat_lt, UInt8.ofNat_toNat, decide_eq_true_iff]

lemma isSome_escape?_iff : (escape? sign h l).isSome ↔ IsHexDigit h ∧ IsHexDigit l := by
  rw [escape?, if_pos rfl, Hex.byte?, ← isSome_value?_iff, ← isSome_value?_iff]
  cases Hex.value? (Char.ofNat h.toNat) <;> cases Hex.value? (Char.ofNat l.toNat) <;> simp

lemma isHexDigit_of_escape? {c : UInt8} (hc : escape? sign h l = some c) :
    IsHexDigit h ∧ IsHexDigit l :=
  isSome_escape?_iff.1 (Option.isSome_of_eq_some hc)

lemma ne_of_isHexDigit {x : UInt8} (hb : IsHexDigit b) (hx : ¬ IsHexDigit x) : b ≠ x :=
  fun heq => hx (heq ▸ hb)

lemma lt_of_isHexDigit (hb : IsHexDigit b) : b < 0x80 := by
  rcases hb with ⟨-, hle⟩ | ⟨-, hle⟩ | ⟨-, hle⟩ <;> exact UInt8.lt_of_le_of_lt hle (by decide)

lemma ne_sign_of_isHexDigit (hb : IsHexDigit b) : b ≠ sign := ne_of_isHexDigit hb (by decide)

lemma isBroken_nil : ¬ IsBroken [] i := fun hi => by cases hi.sign

lemma isBroken_succ_iff : IsBroken (b :: rest) (i + 1) ↔ IsBroken rest i :=
  ⟨fun ⟨hsign, hdigits⟩ => ⟨hsign, hdigits⟩, fun ⟨hsign, hdigits⟩ => ⟨hsign, hdigits⟩⟩

lemma isBroken_cons_iff_of_ne (hb : b ≠ sign) :
    IsBroken (b :: rest) i ↔ ∃ j, i = j + 1 ∧ IsBroken rest j := by
  cases i with
  | zero =>
    refine iff_of_false (fun hi => hb (Option.some.inj hi.sign)) ?_
    rintro ⟨j, hj, -⟩
    omega
  | succ i => simp [isBroken_succ_iff]

lemma isBroken_escape_iff (hh : IsHexDigit h) (hl : IsHexDigit l) :
    IsBroken (sign :: h :: l :: rest) i ↔ ∃ j, i = j + 3 ∧ IsBroken rest j := by
  cases i with
  | zero =>
    refine iff_of_false (fun hi => hi.digits ⟨h, l, rfl, rfl, hh, hl⟩) ?_
    rintro ⟨j, hj, -⟩
    omega
  | succ i =>
    rw [isBroken_succ_iff, isBroken_cons_iff_of_ne (ne_sign_of_isHexDigit hh)]
    simp only [isBroken_cons_iff_of_ne (ne_sign_of_isHexDigit hl)]
    constructor
    · rintro ⟨-, rfl, j, rfl, hj⟩
      exact ⟨j, rfl, hj⟩
    · rintro ⟨j, hi, hj⟩
      exact ⟨j + 1, by omega, j, rfl, hj⟩

lemma not_isBroken_cons (hb : b ≠ sign) (hrest : ∀ i, ¬ IsBroken rest i) :
    ∀ i, ¬ IsBroken (b :: rest) i := by
  rintro i hi
  obtain ⟨j, -, hj⟩ := (isBroken_cons_iff_of_ne hb).1 hi
  exact hrest j hj

lemma not_isBroken_escape (hh : IsHexDigit h) (hl : IsHexDigit l)
    (hrest : ∀ i, ¬ IsBroken rest i) : ∀ i, ¬ IsBroken (sign :: h :: l :: rest) i := by
  rintro i hi
  obtain ⟨j, -, hj⟩ := (isBroken_escape_iff hh hl).1 hi
  exact hrest j hj

/-- What is first in a list is first in the rest, if nothing is broken before it. -/
lemma isFirstBroken_iff_of_shift {d : Nat}
    (hshift : ∀ i, IsBroken bs i ↔ ∃ j, i = j + d ∧ IsBroken rest j) :
    IsFirstBroken bs i ↔ ∃ j, i = j + d ∧ IsFirstBroken rest j := by
  constructor
  · rintro ⟨hbroken, hfirst⟩
    obtain ⟨j, rfl, hj⟩ := (hshift i).1 hbroken
    refine ⟨j, rfl, hj, fun k hk hbroken' => ?_⟩
    exact hfirst (k + d) (by omega) ((hshift _).2 ⟨k, rfl, hbroken'⟩)
  · rintro ⟨j, rfl, hj, hfirst⟩
    refine ⟨(hshift _).2 ⟨j, rfl, hj⟩, fun k hk hbroken => ?_⟩
    obtain ⟨m, rfl, hm⟩ := (hshift k).1 hbroken
    exact hfirst m (by omega) hm

/-- At the head of the list, the first position is the first one of all. -/
lemma isFirstBroken_iff_eq_zero (hzero : IsBroken bs 0) : IsFirstBroken bs i ↔ i = 0 := by
  constructor
  · rintro ⟨-, hfirst⟩
    by_contra hi
    exact hfirst 0 (Nat.pos_of_ne_zero hi) hzero
  · rintro rfl
    exact ⟨hzero, fun j hj => absurd hj (Nat.not_lt_zero j)⟩

/-- By induction on how the search goes on: behind an escape with three bytes, and otherwise with
one. -/
lemma firstBadFrom_eq_some_iff :
    firstBadFrom n bs = some i ↔ ∃ j, i = n + j ∧ IsFirstBroken bs j := by
  have hshift {bs rest : List UInt8} {d n : Nat}
      (h : ∀ i, IsBroken bs i ↔ ∃ j, i = j + d ∧ IsBroken rest j) :
      (∃ j, i = n + d + j ∧ IsFirstBroken rest j) ↔ ∃ j, i = n + j ∧ IsFirstBroken bs j := by
    simp only [isFirstBroken_iff_of_shift h]
    constructor
    · rintro ⟨j, rfl, hj⟩
      exact ⟨j + d, by omega, j, rfl, hj⟩
    · rintro ⟨-, rfl, j, rfl, hj⟩
      exact ⟨j, by omega, hj⟩
  have hhere {bs : List UInt8} {n : Nat} (hzero : IsBroken bs 0) :
      some n = some i ↔ ∃ j, i = n + j ∧ IsFirstBroken bs j := by
    simp [isFirstBroken_iff_eq_zero hzero, eq_comm]
  fun_induction firstBadFrom n bs with
  | case1 n h l rest hescape ih =>
    obtain ⟨hh, hl⟩ := isSome_escape?_iff.1 hescape
    exact ih.trans <| hshift fun _ => isBroken_escape_iff hh hl
  | case2 n h l rest hescape =>
    refine hhere ⟨rfl, ?_⟩
    rintro ⟨h', l', hh', hl', hdigits⟩
    cases hh'
    cases hl'
    exact hescape (isSome_escape?_iff.2 hdigits)
  | case3 n b h l rest hb ih =>
    exact ih.trans <| hshift fun _ => isBroken_cons_iff_of_ne hb
  | case4 n rest hrest =>
    refine hhere ⟨rfl, ?_⟩
    rintro ⟨h, l, hh, hl, -⟩
    rcases rest with _ | ⟨h, _ | ⟨l, rest⟩⟩
    · cases hh
    · cases hl
    · exact hrest h l rest rfl
  | case5 n b rest hrest hb ih =>
    exact ih.trans <| hshift fun _ => isBroken_cons_iff_of_ne hb
  | case6 n =>
    refine iff_of_false nofun ?_
    rintro ⟨j, -, hbroken, -⟩
    exact isBroken_nil hbroken

/-- The search finds the first position at which any percent sign starts no escape. -/
theorem firstBad?_eq_some_iff : firstBad? bs = some i ↔ IsFirstBroken bs i := by
  rw [firstBad?, firstBadFrom_eq_some_iff]
  simp

/-- The search finds nothing if there is no such position. -/
theorem firstBad?_eq_none_iff : firstBad? bs = none ↔ ∀ i, ¬ IsBroken bs i := by
  rw [Option.eq_none_iff_forall_ne_some]
  simp only [ne_eq, firstBad?_eq_some_iff]
  constructor
  · intro hnone i hi
    classical
    have hex : ∃ i, IsBroken bs i := ⟨i, hi⟩
    exact hnone (Nat.find hex) ⟨Nat.find_spec hex, fun j hj => Nat.find_min hex hj⟩
  · rintro hnone i ⟨hi, -⟩
    exact hnone i hi

end ChatRelay.Text.Percent
