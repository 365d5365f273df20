/-
# Texts and their bytes

An ASCII character is one byte, the one of its code point, and this byte is part of no other
character.  No two texts have the same bytes, and every text is read back from its bytes.
-/
import ChatRelay.Text.Utf8
import Mathlib.Tactic.Lemma
import Mathlib.Tactic.Common

namespace ChatRelay.Text.Utf8

/-! ## ASCII -/

variable {c : Char}

lemma utf8EncodeChar_of_lt (hc : c.toNat < 128) :
    String.utf8EncodeChar c = [UInt8.ofNat c.toNat] := by
  have hsize : c.utf8Size = 1 := by
    rw [Char.utf8Size_eq_one_iff, UInt32.le_iff_toNat_le]
    exact Nat.le_of_lt_succ hc
  rw [String.utf8EncodeChar_eq_singleton hsize]
  rfl

lemma toNat_byte_of_lt (hc : c.toNat < 128) : (UInt8.ofNat c.toNat).toNat = c.toNat := by
  rw [UInt8.toNat_ofNat']
  omega

/-- The byte of an ASCII character gives the character back. -/
lemma ofNat_byte_of_lt (hc : c.toNat < 128) : Char.ofNat (UInt8.ofNat c.toNat).toNat = c := by
  rw [toNat_byte_of_lt hc, Char.ofNat_toNat]

/-! ## All texts -/

lemma encode_cons (c : Char) (s : List Char) :
    encode (c :: s) = String.utf8EncodeChar c ++ encode s := rfl

/-- The bytes of a character that is not ASCII are not ASCII either. -/
lemma le_of_mem_utf8EncodeChar {b : UInt8} (hc : 128 ≤ c.toNat)
    (hb : b ∈ String.utf8EncodeChar c) : 128 ≤ b.toNat := by
  have hpoint : ¬ c.val.toNat ≤ 127 := Nat.not_le.2 hc
  obtain ⟨n, hlow, hhigh, rfl⟩ : ∃ n, 128 ≤ n ∧ n < 256 ∧ b = UInt8.ofNat n := by
    simp only [String.utf8EncodeChar, hpoint, if_false] at hb
    -- the code point is written in two, three or four bytes
    split at hb
    · simp only [List.mem_cons, List.not_mem_nil, or_false] at hb
      rcases hb with rfl | rfl <;> exact ⟨_, by omega, by omega, rfl⟩
    · split at hb
      · simp only [List.mem_cons, List.not_mem_nil, or_false] at hb
        rcases hb with rfl | rfl | rfl <;> exact ⟨_, by omega, by omega, rfl⟩
      · simp only [List.mem_cons, List.not_mem_nil, or_false] at hb
        rcases hb with rfl | rfl | rfl | rfl <;> exact ⟨_, by omega, by omega, rfl⟩
  rw [UInt8.toNat_ofNat']
  omega

/-- The byte of an ASCII character is among the bytes of a text exactly if the character is in
the text. -/
lemma mem_encode_iff (hc : c.toNat < 128) {s : List Char} :
    UInt8.ofNat c.toNat ∈ encode s ↔ c ∈ s := by
  rw [encode, List.mem_flatMap]
  constructor
  · rintro ⟨x, hx, hmem⟩
    have hbyte := toNat_byte_of_lt hc
    rcases Nat.lt_or_ge x.toNat 128 with hlt | hge
    · rw [utf8EncodeChar_of_lt hlt, List.mem_singleton] at hmem
      have hsame : c.toNat = x.toNat := by
        rw [← hbyte, hmem, toNat_byte_of_lt hlt]
      rwa [Char.toNat_inj.1 hsame]
    · have hhigh := le_of_mem_utf8EncodeChar hge hmem
      omega
  · intro hmem
    refine ⟨c, hmem, ?_⟩
    rw [utf8EncodeChar_of_lt hc]
    exact List.mem_singleton.2 rfl

lemma encode_injective {s t : List Char} (h : encode s = encode t) : s = t := by
  have hbytes : s.utf8Encode = t.utf8Encode := congrArg List.toByteArray h
  have hstring : String.ofList s = String.ofList t := by
    rw [← String.toByteArray_inj, String.toByteArray_ofList, String.toByteArray_ofList, hbytes]
  exact String.ofList_injective hstring

/-! ## Reading back -/

section Feed

variable (ps : List Piece) {n : Nat}

lemma ofNat_lt_iff {k : UInt8} (hn : n < 256) : UInt8.ofNat n < k ↔ n < k.toNat := by
  rw [UInt8.lt_iff_toNat_lt, UInt8.toNat_ofNat', Nat.mod_eq_of_lt hn]

lemma le_ofNat_iff {k : UInt8} (hn : n < 256) : k ≤ UInt8.ofNat n ↔ k.toNat ≤ n := by
  rw [UInt8.le_iff_toNat_le, UInt8.toNat_ofNat', Nat.mod_eq_of_lt hn]

lemma ofNat_le_iff {k : UInt8} (hn : n < 256) : UInt8.ofNat n ≤ k ↔ n ≤ k.toNat := by
  rw [UInt8.le_iff_toNat_le, UInt8.toNat_ofNat', Nat.mod_eq_of_lt hn]

lemma ofNat_eq_iff {k : UInt8} (hn : n < 256) : UInt8.ofNat n = k ↔ n = k.toNat := by
  rw [← UInt8.toNat_inj, UInt8.toNat_ofNat', Nat.mod_eq_of_lt hn]

lemma feed_one (hn : n < 0x80) :
    Reader.feed ⟨ps, none⟩ (.ofNat n) = ⟨.char (Char.ofNat n) :: ps, none⟩ := by
  have hbyte : n < 256 := by omega
  simp [Reader.feed, Reader.start, ofNat_lt_iff hbyte, Nat.mod_eq_of_lt hbyte, hn]

lemma feed_two (hlow : 0xC2 ≤ n) (hhigh : n < 0xE0) :
    Reader.feed ⟨ps, none⟩ (.ofNat n) = ⟨ps, some ⟨1, 0x80, 0xBF, n - 0xC0, 1⟩⟩ := by
  have hn : n < 256 := by omega
  have hone : ¬ n < 128 := by omega
  have hbad : ¬ n < 194 := by omega
  simp [Reader.feed, Reader.start, ofNat_lt_iff hn, Nat.mod_eq_of_lt hn, hone, hbad, hhigh]

lemma feed_three (hlow : 0xE0 ≤ n) (hhigh : n < 0xF0) :
    Reader.feed ⟨ps, none⟩ (.ofNat n) =
      ⟨ps, some ⟨2, if n = 0xE0 then 0xA0 else 0x80, if n = 0xED then 0x9F else 0xBF,
        n - 0xE0, 1⟩⟩ := by
  have hn : n < 256 := by omega
  have hone : ¬ n < 128 := by omega
  have hbad : ¬ n < 194 := by omega
  have htwo : ¬ n < 224 := by omega
  simp [Reader.feed, Reader.start, ofNat_lt_iff hn, ofNat_eq_iff hn, Nat.mod_eq_of_lt hn, hone,
    hbad, htwo, hhigh]

lemma feed_four (hlow : 0xF0 ≤ n) (hhigh : n < 0xF5) :
    Reader.feed ⟨ps, none⟩ (.ofNat n) =
      ⟨ps, some ⟨3, if n = 0xF0 then 0x90 else 0x80, if n = 0xF4 then 0x8F else 0xBF,
        n - 0xF0, 1⟩⟩ := by
  have hn : n < 256 := by omega
  have hone : ¬ n < 128 := by omega
  have hbad : ¬ n < 194 := by omega
  have htwo : ¬ n < 224 := by omega
  have hthree : ¬ n < 240 := by omega
  simp [Reader.feed, Reader.start, ofNat_lt_iff hn, ofNat_eq_iff hn, Nat.mod_eq_of_lt hn, hone,
    hbad, htwo, hthree, hhigh]

lemma feed_bad (hn : n < 256) (hbad : 0x80 ≤ n ∧ n < 0xC2 ∨ 0xF5 ≤ n) :
    Reader.feed ⟨ps, none⟩ (.ofNat n) = ⟨.bad 1 :: ps, none⟩ := by
  have hone : ¬ n < 128 := by omega
  rcases hbad with ⟨-, hhigh⟩ | hlow
  · simp [Reader.feed, Reader.start, ofNat_lt_iff hn, hone, hhigh]
  · have hother (k : Nat) (hk : k ≤ 245) : ¬ n < k := by omega
    simp [Reader.feed, Reader.start, ofNat_lt_iff hn, hone, hother]

lemma feed_more {p : Partial} (hlow : p.low.toNat ≤ n) (hhigh : n ≤ p.high.toNat)
    (hneeded : p.needed ≠ 1) :
    Reader.feed ⟨ps, some p⟩ (.ofNat n) =
      ⟨ps, some ⟨p.needed - 1, 0x80, 0xBF, p.point * 64 + n % 64, p.seen + 1⟩⟩ := by
  have hn : n < 256 := Nat.lt_of_le_of_lt hhigh p.high.toNat_lt
  simp [Reader.feed, le_ofNat_iff hn, ofNat_le_iff hn, Nat.mod_eq_of_lt hn, hlow, hhigh, hneeded]

lemma feed_last {p : Partial} (hlow : p.low.toNat ≤ n) (hhigh : n ≤ p.high.toNat)
    (hneeded : p.needed = 1) :
    Reader.feed ⟨ps, some p⟩ (.ofNat n) =
      ⟨.char (Char.ofNat (p.point * 64 + n % 64)) :: ps, none⟩ := by
  have hn : n < 256 := Nat.lt_of_le_of_lt hhigh p.high.toNat_lt
  simp [Reader.feed, le_ofNat_iff hn, ofNat_le_iff hn, Nat.mod_eq_of_lt hn, hlow, hhigh, hneeded]

lemma feed_other {p : Partial} {b : UInt8}
    (hb : ¬ (p.low.toNat ≤ b.toNat ∧ b.toNat ≤ p.high.toNat)) :
    Reader.feed ⟨ps, some p⟩ b = Reader.start (.bad p.seen :: ps) b := by
  have hrange : ¬ (p.low ≤ b ∧ b ≤ p.high) := by
    rwa [UInt8.le_iff_toNat_le, UInt8.le_iff_toNat_le]
  simp [Reader.feed, hrange]

end Feed

/-- A character is read from its bytes. -/
lemma foldl_feed_char (ps : List Piece) (c : Char) :
    (String.utf8EncodeChar c).foldl Reader.feed ⟨ps, none⟩ = ⟨.char c :: ps, none⟩ := by
  have hvalid : c.toNat < 0xD800 ∨ 0xDFFF < c.toNat ∧ c.toNat < 0x110000 := c.valid
  have hc : Char.ofNat c.toNat = c := Char.ofNat_toNat c
  generalize hv : c.toNat = v at hvalid hc
  have hval : c.val.toNat = v := hv
  simp only [String.utf8EncodeChar, hval]
  have hlow (k : Nat) : 0x80 ≤ k % 64 + 128 := Nat.le_add_left 128 _
  have hhigh (k : Nat) : k % 64 + 128 ≤ 0xBF := by omega
  -- each character has as many bytes as its code point needs
  by_cases hone : v ≤ 0x7F
  · rw [if_pos hone, List.foldl_cons, List.foldl_nil, feed_one ps (by omega), hc]
  rw [if_neg hone]
  by_cases htwo : v ≤ 0x7FF
  · have hpoint : (v / 64 % 32 + 192 - 192) * 64 + (v % 64 + 128) % 64 = v := by omega
    rw [if_pos htwo, List.foldl_cons, List.foldl_cons, List.foldl_nil,
      feed_two ps (by omega) (by omega), feed_last ps (hlow v) (hhigh v) rfl, hpoint, hc]
  rw [if_neg htwo]
  by_cases hthree : v ≤ 0xFFFF
  · have hpoint : ((v / 4096 % 16 + 224 - 224) * 64 + (v / 64 % 64 + 128) % 64) * 64 +
        (v % 64 + 128) % 64 = v := by omega
    rw [if_pos hthree, List.foldl_cons, List.foldl_cons, List.foldl_cons, List.foldl_nil,
      feed_three ps (by omega) (by omega), feed_more ps ?least ?greatest (by simp),
      feed_last ps (hlow v) (hhigh v) rfl, hpoint, hc]
    case least =>
      dsimp only
      split <;> simp
      omega
    case greatest =>
      dsimp only
      split <;> simp <;> omega
  · have hpoint : (((v / 262144 % 8 + 240 - 240) * 64 + (v / 4096 % 64 + 128) % 64) * 64 +
        (v / 64 % 64 + 128) % 64) * 64 + (v % 64 + 128) % 64 = v := by omega
    rw [if_neg hthree, List.foldl_cons, List.foldl_cons, List.foldl_cons, List.foldl_cons,
      List.foldl_nil, feed_four ps (by omega) (by omega), feed_more ps ?least ?greatest (by simp),
      feed_more ps (hlow _) (hhigh _) (by simp), feed_last ps (hlow v) (hhigh v) rfl, hpoint, hc]
    case least =>
      dsimp only
      split <;> simp
      omega
    case greatest =>
      dsimp only
      split <;> simp <;> omega

lemma foldl_feed_encode (s : List Char) (ps : List Piece) :
    (encode s).foldl Reader.feed ⟨ps, none⟩ = ⟨(s.map Piece.char).reverse ++ ps, none⟩ := by
  induction s generalizing ps with
  | nil => rfl
  | cons c s ih =>
    rw [encode_cons, List.foldl_append, foldl_feed_char, ih]
    simp

lemma collect_append (s before : List Char) (index : Nat) (ps : List Piece) :
    collect before index (s.map Piece.char ++ ps) =
      collect (s.reverse ++ before) (index + (encode s).length) ps := by
  induction s generalizing before index with
  | nil => rfl
  | cons c s ih =>
    rw [List.map_cons, List.cons_append, collect, ih, encode_cons, List.length_append,
      List.reverse_cons, List.append_assoc, Piece.size, Nat.add_assoc]
    rfl

/-- The bytes of a text are cut into its characters. -/
lemma pieces_encode (s : List Char) : pieces (encode s) = s.map Piece.char := by
  rw [pieces, foldl_feed_encode, Reader.finish]
  simp

/-- Every text is read back from its bytes. -/
theorem decode_encode (s : List Char) : decode (encode s) = .ok s := by
  have hread := collect_append s [] 0 []
  rw [List.append_nil, List.append_nil] at hread
  rw [decode, pieces_encode, hread, collect, List.reverse_reverse]

/-- The lenient reader changes nothing in a text. -/
theorem decodeLossy_encode (s : List Char) : decodeLossy (encode s) = s := by
  rw [decodeLossy, pieces_encode, List.map_map]
  exact List.map_id s

end ChatRelay.Text.Utf8
