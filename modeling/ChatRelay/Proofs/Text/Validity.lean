/-
# Valid UTF-8

Bytes are valid if they encode a text.  The reader takes a character from the start of some
bytes exactly if the bytes begin with one, so the decoder reads the bytes that are valid and
no others; and what it reads before it finds a fault is the longest valid beginning.
-/
import ChatRelay.Proofs.Text.Utf8

namespace ChatRelay.Text.Utf8

/-! ## Valid bytes -/

/-- Bytes are the encoding of a text. -/
def IsValid (bs : List UInt8) : Prop := ∃ s, encode s = bs

/-- So many bytes at the start are valid, and no more of them. -/
structure IsLongestValid (bs : List UInt8) (n : Nat) : Prop where
  le : n ≤ bs.length
  valid : IsValid (bs.take n)
  /-- No longer beginning is. -/
  longest : ∀ k, n < k → k ≤ bs.length → ¬ IsValid (bs.take k)

variable {bs rest : List UInt8} {s : List Char} {c : Char} {n m k l : Nat}

lemma IsLongestValid.unique (hn : IsLongestValid bs n) (hm : IsLongestValid bs m) : n = m := by
  rcases Nat.lt_trichotomy n m with hlt | heq | hgt
  · exact absurd hm.valid (hn.longest m hlt hm.le)
  · exact heq
  · exact absurd hn.valid (hm.longest n hgt hn.le)

lemma IsValid.append {as : List UInt8} (ha : IsValid as) (hb : IsValid bs) :
    IsValid (as ++ bs) := by
  obtain ⟨s, rfl⟩ := ha
  obtain ⟨t, rfl⟩ := hb
  exact ⟨s ++ t, encode_append s t⟩

/-! ## Reading on

What has been read does not matter for the pieces that are still to come.
-/

/-- A reader that has read some pieces before, given with the last one first. -/
def Reader.behind (ps : List Piece) (r : Reader) : Reader := ⟨r.pieces ++ ps, r.pending⟩

/-- The pieces that some bytes are cut into behind the bytes of a character, if some have been
read. -/
def piecesFrom (pending : Option Partial) (bs : List UInt8) : List Piece :=
  (bs.foldl Reader.feed ⟨[], pending⟩).finish

lemma start_behind (ps qs : List Piece) (b : UInt8) :
    Reader.start (qs ++ ps) b = (Reader.start qs b).behind ps := by
  simp only [Reader.start]
  split_ifs <;> rfl

lemma feed_behind (ps : List Piece) (r : Reader) (b : UInt8) :
    Reader.feed (r.behind ps) b = (Reader.feed r b).behind ps := by
  obtain ⟨qs, pending⟩ := r
  cases pending with
  | none => exact start_behind ps qs b
  | some p =>
    simp only [Reader.feed, Reader.behind]
    split_ifs
    · rfl
    · rfl
    · exact start_behind ps (.bad p.seen :: qs) b

lemma foldl_feed_behind (ps : List Piece) (r : Reader) (bs : List UInt8) :
    bs.foldl Reader.feed (r.behind ps) = (bs.foldl Reader.feed r).behind ps := by
  induction bs generalizing r with
  | nil => rfl
  | cons b bs ih => rw [List.foldl_cons, List.foldl_cons, feed_behind, ih]

lemma finish_behind (ps : List Piece) (r : Reader) :
    (r.behind ps).finish = ps.reverse ++ r.finish := by
  obtain ⟨qs, pending⟩ := r
  cases pending <;> simp [Reader.finish, Reader.behind]

lemma finish_foldl_feed (ps : List Piece) (pending : Option Partial) (bs : List UInt8) :
    (bs.foldl Reader.feed ⟨ps, pending⟩).finish = ps.reverse ++ piecesFrom pending bs := by
  have hbehind := foldl_feed_behind ps ⟨[], pending⟩ bs
  rw [piecesFrom, ← finish_behind, ← hbehind]
  rfl

lemma piecesFrom_cons (pending : Option Partial) (b : UInt8) (bs : List UInt8) :
    piecesFrom pending (b :: bs) = (Reader.feed ⟨[], pending⟩ b).pieces.reverse ++
      piecesFrom (Reader.feed ⟨[], pending⟩ b).pending bs := by
  rw [piecesFrom, List.foldl_cons]
  exact finish_foldl_feed _ _ bs

/-- The pieces of a text with some bytes behind it. -/
lemma pieces_encode_append (s : List Char) (rest : List UInt8) :
    pieces (encode s ++ rest) = s.map Piece.char ++ pieces rest := by
  rw [pieces, List.foldl_append, foldl_feed_encode, finish_foldl_feed]
  simp [pieces, piecesFrom]

/-- Whatever has been read is a piece, or the beginning of one. -/
lemma finish_feed_ne_nil (r : Reader) (b : UInt8) : (Reader.feed r b).finish ≠ [] := by
  have hstart (ps : List Piece) : (Reader.start ps b).finish ≠ [] := by
    simp only [Reader.start]
    split_ifs <;> simp [Reader.finish]
  obtain ⟨ps, pending⟩ := r
  cases pending with
  | none => exact hstart ps
  | some p =>
    simp only [Reader.feed]
    split_ifs
    · simp [Reader.finish]
    · simp [Reader.finish]
    · exact hstart _

lemma pieces_ne_nil (hbs : bs ≠ []) : pieces bs ≠ [] := by
  obtain rfl | ⟨before, b, rfl⟩ := List.eq_nil_or_concat bs
  · exact absurd rfl hbs
  · rw [pieces, List.concat_eq_append, List.foldl_append]
    exact finish_feed_ne_nil _ b

/-! ## Characters by the number of their bytes -/

lemma toNat_ofNat_of_valid (hn : n < 0xD800 ∨ 0xDFFF < n ∧ n < 0x110000) :
    (Char.ofNat n).val.toNat = n := by
  rw [Char.ofNat, dif_pos hn]
  rfl

lemma utf8EncodeChar_one (hn : n < 0x80) : String.utf8EncodeChar (Char.ofNat n) = [.ofNat n] := by
  have hpoint : (Char.ofNat n).toNat = n := toNat_ofNat_of_valid (by omega)
  rw [utf8EncodeChar_of_lt (by rwa [hpoint]), hpoint]

/-- An ASCII byte is the encoding of a character. -/
lemma isValid_singleton {b : UInt8} (hb : b < 0x80) : IsValid [b] := by
  have hascii : b.toNat < 0x80 := UInt8.lt_iff_toNat_lt.1 hb
  refine ⟨[Char.ofNat b.toNat], ?_⟩
  rw [encode_cons, utf8EncodeChar_one hascii, UInt8.ofNat_toNat]
  rfl

lemma utf8EncodeChar_two {v : Nat} (hv : v = (n - 0xC0) * 64 + m % 64)
    (hn : 0xC2 ≤ n) (hn' : n < 0xE0) (hm : 0x80 ≤ m) (hm' : m ≤ 0xBF) :
    String.utf8EncodeChar (Char.ofNat v) = [.ofNat n, .ofNat m] := by
  have hone : ¬ v ≤ 0x7F := by omega
  have htwo : v ≤ 0x7FF := by omega
  have hfirst : v / 64 % 32 + 192 = n := by omega
  have hsecond : v % 64 + 128 = m := by omega
  simp only [String.utf8EncodeChar, toNat_ofNat_of_valid (n := v) (by omega)]
  rw [if_neg hone, if_pos htwo, hfirst, hsecond]

lemma utf8EncodeChar_three {v : Nat} (hv : v = ((n - 0xE0) * 64 + m % 64) * 64 + k % 64)
    (hn : 0xE0 ≤ n) (hn' : n < 0xF0) (hm : (if n = 0xE0 then 0xA0 else 0x80) ≤ m)
    (hm' : m ≤ if n = 0xED then 0x9F else 0xBF) (hk : 0x80 ≤ k) (hk' : k ≤ 0xBF) :
    String.utf8EncodeChar (Char.ofNat v) = [.ofNat n, .ofNat m, .ofNat k] := by
  have hlow : 0x80 ≤ m := by split at hm <;> omega
  have hhigh : m ≤ 0xBF := by split at hm' <;> omega
  -- the bounds of the second byte exclude short characters and surrogates
  have htwo : 0x7FF < v := by split at hm <;> omega
  have hvalid : v < 0xD800 ∨ 0xDFFF < v ∧ v < 0x110000 := by split at hm' <;> omega
  have hone : ¬ v ≤ 0x7F := by omega
  have hthree : v ≤ 0xFFFF := by omega
  have hfirst : v / 4096 % 16 + 224 = n := by omega
  have hsecond : v / 64 % 64 + 128 = m := by omega
  have hthird : v % 64 + 128 = k := by omega
  simp only [String.utf8EncodeChar, toNat_ofNat_of_valid hvalid]
  rw [if_neg hone, if_neg (Nat.not_le.2 htwo), if_pos hthree, hfirst, hsecond, hthird]

lemma utf8EncodeChar_four {v : Nat}
    (hv : v = (((n - 0xF0) * 64 + m % 64) * 64 + k % 64) * 64 + l % 64)
    (hn : 0xF0 ≤ n) (hn' : n < 0xF5) (hm : (if n = 0xF0 then 0x90 else 0x80) ≤ m)
    (hm' : m ≤ if n = 0xF4 then 0x8F else 0xBF) (hk : 0x80 ≤ k) (hk' : k ≤ 0xBF)
    (hl : 0x80 ≤ l) (hl' : l ≤ 0xBF) :
    String.utf8EncodeChar (Char.ofNat v) = [.ofNat n, .ofNat m, .ofNat k, .ofNat l] := by
  have hlow : 0x80 ≤ m := by split at hm <;> omega
  have hhigh : m ≤ 0xBF := by split at hm' <;> omega
  -- the bounds of the second byte exclude short characters and those that do not exist
  have hthree : 0xFFFF < v := by split at hm <;> omega
  have hlast : v < 0x110000 := by split at hm' <;> omega
  have hone : ¬ v ≤ 0x7F := by omega
  have htwo : ¬ v ≤ 0x7FF := by omega
  have hfirst : v / 262144 % 8 + 240 = n := by omega
  have hsecond : v / 4096 % 64 + 128 = m := by omega
  have hthird : v / 64 % 64 + 128 = k := by omega
  have hfourth : v % 64 + 128 = l := by omega
  simp only [String.utf8EncodeChar, toNat_ofNat_of_valid (n := v) (by omega)]
  rw [if_neg hone, if_neg htwo, if_neg (Nat.not_le.2 hthree), hfirst, hsecond, hthird, hfourth]

/-! ## The first character -/

/-- If a character is what is read next, the bytes go on with one that belongs to it. -/
lemma exists_cons_of_head?_piecesFrom {p : Partial}
    (h : (piecesFrom (some p) bs).head? = some (.char c)) :
    ∃ n rest, bs = .ofNat n :: rest ∧ p.low.toNat ≤ n ∧ n ≤ p.high.toNat := by
  cases bs with
  | nil => cases h
  | cons b rest =>
    refine ⟨b.toNat, rest, by rw [UInt8.ofNat_toNat], ?_⟩
    by_contra hrange
    -- another byte ends a faulty piece
    have hbad := start_behind [.bad p.seen] [] b
    rw [piecesFrom_cons, feed_other [] hrange, ← List.nil_append [Piece.bad p.seen], hbad] at h
    simp [Reader.behind] at h

/-- The byte completes the character if it is the last one that is needed. -/
lemma eq_of_head?_piecesFrom {low high : UInt8} {point seen : Nat}
    (h : (piecesFrom (some ⟨1, low, high, point, seen⟩) bs).head? = some (.char c)) :
    ∃ n rest, bs = .ofNat n :: rest ∧ low.toNat ≤ n ∧ n ≤ high.toNat ∧
      c = Char.ofNat (point * 64 + n % 64) := by
  obtain ⟨n, rest, rfl, hlow, hhigh⟩ := exists_cons_of_head?_piecesFrom h
  rw [piecesFrom_cons, feed_last [] hlow hhigh rfl] at h
  cases h
  exact ⟨n, rest, rfl, hlow, hhigh, rfl⟩

/-- Otherwise the character is read on. -/
lemma head?_piecesFrom_of_head?_piecesFrom {low high : UInt8} {needed point seen : Nat}
    (h : (piecesFrom (some ⟨needed + 2, low, high, point, seen⟩) bs).head? = some (.char c)) :
    ∃ n rest, bs = .ofNat n :: rest ∧ low.toNat ≤ n ∧ n ≤ high.toNat ∧
      (piecesFrom (some ⟨needed + 1, 0x80, 0xBF, point * 64 + n % 64, seen + 1⟩) rest).head? =
        some (.char c) := by
  obtain ⟨n, rest, rfl, hlow, hhigh⟩ := exists_cons_of_head?_piecesFrom h
  rw [piecesFrom_cons, feed_more [] hlow hhigh (by simp)] at h
  exact ⟨n, rest, rfl, hlow, hhigh, h⟩

/-- If a character is what is read first, the bytes begin with its encoding. -/
lemma prefix_of_head?_pieces (h : (pieces bs).head? = some (.char c)) :
    String.utf8EncodeChar c <+: bs := by
  cases bs with
  | nil => cases h
  | cons b rest =>
  obtain ⟨n, hn, rfl⟩ : ∃ n, n < 256 ∧ b = .ofNat n := ⟨b.toNat, b.toNat_lt, by simp⟩
  have hread : (piecesFrom none (.ofNat n :: rest)).head? = some (.char c) := h
  rw [piecesFrom_cons] at hread
  -- the first byte says how many are to come
  by_cases hone : n < 0x80
  · rw [feed_one [] hone] at hread
    cases hread
    rw [utf8EncodeChar_one hone]
    exact ⟨rest, rfl⟩
  by_cases hbad : n < 0xC2 ∨ 0xF5 ≤ n
  · rw [feed_bad [] hn (by omega)] at hread
    cases hread
  by_cases htwo : n < 0xE0
  · rw [feed_two [] (by omega) htwo] at hread
    obtain ⟨m, rest, rfl, hm, hm', rfl⟩ := eq_of_head?_piecesFrom hread
    rw [utf8EncodeChar_two rfl (by omega) htwo hm hm']
    exact ⟨rest, rfl⟩
  by_cases hthree : n < 0xF0
  · rw [feed_three [] (by omega) hthree] at hread
    obtain ⟨m, rest, rfl, hm, hm', hread⟩ := head?_piecesFrom_of_head?_piecesFrom hread
    obtain ⟨k, rest, rfl, hk, hk', rfl⟩ := eq_of_head?_piecesFrom hread
    rw [apply_ite UInt8.toNat] at hm hm'
    rw [utf8EncodeChar_three rfl (by omega) hthree hm hm' hk hk']
    exact ⟨rest, rfl⟩
  · rw [feed_four [] (by omega) (by omega)] at hread
    obtain ⟨m, rest, rfl, hm, hm', hread⟩ := head?_piecesFrom_of_head?_piecesFrom hread
    obtain ⟨k, rest, rfl, hk, hk', hread⟩ := head?_piecesFrom_of_head?_piecesFrom hread
    obtain ⟨l, rest, rfl, hl, hl', rfl⟩ := eq_of_head?_piecesFrom hread
    rw [apply_ite UInt8.toNat] at hm hm'
    rw [utf8EncodeChar_four rfl (by omega) (by omega) hm hm' hk hk' hl hl']
    exact ⟨rest, rfl⟩

/-! ## What is decoded -/

/-- All bytes are those of a text with others behind it that begin with no character, by
induction on their number. -/
lemma exists_encode_append (bs : List UInt8) :
    ∃ s rest, bs = encode s ++ rest ∧ ∀ c, ¬ String.utf8EncodeChar c <+: rest := by
  induction hlength : bs.length using Nat.strongRecOn generalizing bs with
  | ind length ih =>
    by_cases hfirst : ∃ c, String.utf8EncodeChar c <+: bs
    · obtain ⟨c, behind, rfl⟩ := hfirst
      have hpos : 0 < (String.utf8EncodeChar c).length :=
        List.length_pos_iff.2 String.utf8EncodeChar_ne_nil
      rw [List.length_append] at hlength
      obtain ⟨s, rest, rfl, hrest⟩ := ih behind.length (by omega) behind rfl
      exact ⟨c :: s, rest, by rw [encode_cons, List.append_assoc], hrest⟩
    · exact ⟨[], bs, rfl, fun c hc => hfirst ⟨c, hc⟩⟩

/-- Where no character begins, the first piece is not a character. -/
lemma exists_pieces_eq_cons (hne : rest ≠ [])
    (hrest : ∀ c, ¬ String.utf8EncodeChar c <+: rest) :
    ∃ piece ps, pieces rest = piece :: ps ∧ ∀ c, piece ≠ .char c := by
  obtain ⟨piece, ps, hpieces⟩ := List.exists_cons_of_ne_nil (pieces_ne_nil hne)
  refine ⟨piece, ps, hpieces, ?_⟩
  rintro c rfl
  exact hrest c (prefix_of_head?_pieces (by rw [hpieces]; rfl))

/-- Where no character begins, none is read. -/
lemma exists_fault (hne : rest ≠ []) (hrest : ∀ c, ¬ String.utf8EncodeChar c <+: rest)
    (s : List Char) : ∃ size, decode (encode s ++ rest) = .error ⟨(encode s).length, size⟩ := by
  obtain ⟨piece, ps, hpieces, hfault⟩ := exists_pieces_eq_cons hne hrest
  rw [decode, pieces_encode_append, collect_append, Nat.zero_add, hpieces]
  cases piece with
  | char c => exact absurd rfl (hfault c)
  | bad size => exact ⟨some size, rfl⟩
  | cut size => exact ⟨none, rfl⟩

/-- The bytes of a text are read as the text, and no others are read. -/
theorem decode_eq_ok_iff : decode bs = .ok s ↔ encode s = bs := by
  constructor
  · intro h
    obtain ⟨t, rest, rfl, hrest⟩ := exists_encode_append bs
    rcases eq_or_ne rest [] with rfl | hne
    · rw [List.append_nil, decode_encode] at h
      cases h
      rw [List.append_nil]
    · obtain ⟨size, hfault⟩ := exists_fault hne hrest t
      cases h.symm.trans hfault
  · rintro rfl
    exact decode_encode s

/-- A text does not go on where no character begins. -/
lemma isLongestValid_of_append (hrest : ∀ c, ¬ String.utf8EncodeChar c <+: rest) (s : List Char) :
    IsLongestValid (encode s ++ rest) (encode s).length where
  le := by simp
  valid := ⟨s, by simp⟩
  longest k hlt hle := by
    rintro ⟨t, ht⟩
    have htake : (encode s ++ rest).take k = encode s ++ rest.take (k - (encode s).length) := by
      rw [List.take_append, List.take_of_length_le (by omega)]
    have hne : rest.take (k - (encode s).length) ≠ [] := by
      rw [List.length_append] at hle
      refine List.ne_nil_of_length_pos ?_
      rw [List.length_take]
      omega
    have hother (c : Char) : ¬ String.utf8EncodeChar c <+: rest.take (k - (encode s).length) :=
      fun hc => hrest c (hc.trans (List.take_prefix _ _))
    obtain ⟨size, hfault⟩ := exists_fault hne hother s
    rw [← htake, ← ht, decode_encode] at hfault
    cases hfault

/-- Other bytes have a fault, and it is behind their longest valid beginning. -/
theorem exists_decode_eq_error_iff :
    (∃ size, decode bs = .error ⟨n, size⟩) ↔ ¬ IsValid bs ∧ IsLongestValid bs n := by
  constructor
  · rintro ⟨size, h⟩
    refine ⟨fun ⟨t, ht⟩ => ?_, ?_⟩
    · rw [decode_eq_ok_iff.2 ht] at h
      cases h
    · obtain ⟨s, rest, rfl, hrest⟩ := exists_encode_append bs
      rcases eq_or_ne rest [] with rfl | hne
      · rw [List.append_nil, decode_encode] at h
        cases h
      · obtain ⟨size', hfault⟩ := exists_fault hne hrest s
        cases h.symm.trans hfault
        exact isLongestValid_of_append hrest s
  · rintro ⟨hnot, hlongest⟩
    obtain ⟨s, rest, rfl, hrest⟩ := exists_encode_append bs
    have hne : rest ≠ [] := by
      rintro rfl
      exact hnot ⟨s, by simp⟩
    rw [hlongest.unique (isLongestValid_of_append hrest s)]
    exact exists_fault hne hrest s

end ChatRelay.Text.Utf8
