/-
# Names as segments of a path

A name is appended to a path as one segment, in which every character that could end the
segment is escaped, and so is the percent sign.  So the segment holds no character that
separates it from what comes after it, and its escapes are decoded to the name.  The two names
for the place itself and the one above are passed over instead; no other name becomes a
segment that means one of these places.
-/
import ChatRelay.Proofs.Text.Percent
import ChatRelay.Proofs.Url.Append
import ChatRelay.Proofs.Url.Host

namespace ChatRelay.Url

open Text

/-! ## Segments for names -/

/-- A visible ASCII character that ends neither a segment nor a path. -/
def IsSegmentChar (c : Char) : Prop :=
  0x20 < c.toNat ∧ c.toNat < 0x7F ∧ c ∉ ['/', '\\', '?', '#']

instance (c : Char) : Decidable (IsSegmentChar c) :=
  inferInstanceAs (Decidable (0x20 < c.toNat ∧ c.toNat < 0x7F ∧ c ∉ ['/', '\\', '?', '#']))

/-- A text is one segment of a path, and its escapes are decoded to a name. -/
structure Spells (name : String) (s : List Char) : Prop where
  inside : ∀ c ∈ s, IsSegmentChar c
  /-- It stands for the bytes of the name. -/
  decoded : Percent.decode (Utf8.encode s) = Utf8.bytes name

/-- A name that is passed over when it is appended. -/
def IsDotName (name : String) : Prop := name = "." ∨ name = ".."

instance (name : String) : Decidable (IsDotName name) :=
  inferInstanceAs (Decidable (name = "." ∨ name = ".."))

/-! ## Characters that are kept or escaped -/

variable {c : Char} {s : List Char}

/-- The segment that a name becomes. -/
def segment (name : String) : List Char := encode (segmentSet true) name.toList

lemma isSegmentChar_of_kept (hc : segmentSet true c = false) : IsSegmentChar c ∧ c ≠ '%' := by
  simp only [segmentSet, pathSet, fragmentSet, isControl, Bool.or_eq_false_iff,
    decide_eq_false_iff_not, List.mem_cons, List.not_mem_nil, or_false, not_or, Bool.true_and,
    beq_eq_false_iff_ne] at hc
  obtain ⟨⟨⟨⟨⟨⟨hlow, hhigh⟩, hspace, -⟩, hhash, hquery, -⟩, hslash⟩, hpercent⟩, hback⟩ := hc
  -- a space is the one character of its code point
  have hne : c.toNat ≠ 0x20 := by
    intro h
    apply hspace
    rw [← Char.ofNat_toNat c, h]
  exact ⟨⟨by omega, by omega, by simp [hslash, hback, hquery, hhash]⟩, hpercent⟩

lemma isSegmentChar_digit : ∀ v < 16, IsSegmentChar (Hex.digit v).toUpper := by decide

lemma isSegmentChar_of_escape {x : Char} (hx : x ∈ Percent.encodeChar c) : IsSegmentChar x := by
  rcases Percent.mem_encodeChar hx with rfl | ⟨v, hv, rfl⟩
  · decide
  · exact isSegmentChar_digit v hv

lemma encode_cons (set : Char → Bool) (c : Char) (s : List Char) :
    encode set (c :: s) = (if set c then Percent.encodeChar c else [c]) ++ encode set s := rfl

lemma isSegmentChar_of_mem_encode {x : Char} (hx : x ∈ encode (segmentSet true) s) :
    IsSegmentChar x := by
  obtain ⟨c, -, hc⟩ := List.mem_flatMap.1 hx
  split at hc
  · exact isSegmentChar_of_escape hc
  · rename_i hkept
    rw [List.mem_singleton.1 hc]
    exact (isSegmentChar_of_kept (Bool.eq_false_iff.2 hkept)).1

/-- By induction on the text: an escape is decoded to the bytes of its character, and a
character that is kept is a byte that is no percent sign. -/
lemma decode_encode (s : List Char) :
    Percent.decode (Utf8.encode (encode (segmentSet true) s)) = Utf8.encode s := by
  induction s with
  | nil => rfl
  | cons c s ih =>
    rw [encode_cons, Utf8.encode_append, Utf8.encode_cons]
    by_cases hset : segmentSet true c = true
    · rw [if_pos hset, Percent.decode_encodeChar, ih]
    · obtain ⟨⟨-, hhigh, -⟩, hpercent⟩ := isSegmentChar_of_kept (Bool.eq_false_iff.2 hset)
      have hlt : c.toNat < 128 := by omega
      have hne : UInt8.ofNat c.toNat ≠ Percent.sign := by
        intro h
        apply hpercent
        rw [← Utf8.ofNat_byte_of_lt hlt, h]
        rfl
      rw [if_neg hset, Utf8.encode_cons, Utf8.utf8EncodeChar_of_lt hlt]
      show Percent.decode (UInt8.ofNat c.toNat :: Utf8.encode (encode (segmentSet true) s)) = _
      rw [Percent.decode_cons_of_ne hne, ih]
      rfl

lemma spells_segment (name : String) : Spells name (segment name) where
  inside := fun _ hx => isSegmentChar_of_mem_encode hx
  decoded := decode_encode name.toList

/-- What a segment is decoded to tells its name. -/
lemma Spells.eq_of_decode {name other : String} {t : List Char} (ht : Spells name t)
    (hother : Percent.decode (Utf8.encode t) = Utf8.bytes other) : name = other :=
  String.toList_inj.1 (Utf8.encode_injective (ht.decoded.symm.trans hother))

lemma segment_ne_nil {name : String} (hname : name ≠ "") : segment name ≠ [] := by
  intro hnil
  have hspells := spells_segment name
  rw [hnil] at hspells
  exact hname (hspells.eq_of_decode rfl)

/-! ## Segments that mean another place -/

/-- The characters of such segments. -/
def placeChars : List Char := ['.', '%', '2', 'e']

/-- These characters have no other upper case than themselves, but for the letter. -/
lemma toLower_table : ∀ n < 128, (placeChars.all fun d =>
    (Char.ofNat n).toLower ≠ d || Char.ofNat n = d || (d = 'e' && Char.ofNat n = 'E')) = true := by
  decide

lemma eq_or_eq_of_toLower {d : Char} (hc : c.toLower = d) (hd : d ∈ placeChars) :
    c = d ∨ d = 'e' ∧ c = 'E' := by
  have hascii : (placeChars.all fun d => d.toNat < 128) = true := by decide
  have hlt : c.toLower.toNat < 128 := by simpa [hc] using List.all_eq_true.1 hascii d hd
  have htable := List.all_eq_true.1 (toLower_table c.toNat (Hex.toNat_lt_of_toLower hlt)) d hd
  rw [Char.ofNat_toNat] at htable
  simpa [hc, or_assoc] using htable

/-- The two ways to write a dot: as itself, and as an escape with either case of its letter. -/
def dotTexts : List (List Char) := [['.'], ['%', '2', 'e']]

/-- However a dot is written, it is decoded to a dot. -/
lemma decode_dot {t l d : List Char} (hd : d ∈ dotTexts) (ht : t.map Char.toLower = d ++ l) :
    ∃ r, r.map Char.toLower = l ∧
      Percent.decode (Utf8.encode t) = 0x2E :: Percent.decode (Utf8.encode r) := by
  rw [dotTexts, List.mem_cons, List.mem_singleton] at hd
  rcases hd with rfl | rfl
  · obtain ⟨a, r, rfl, ha, hr⟩ := List.map_eq_cons_iff.1 ht
    refine ⟨r, hr, ?_⟩
    rcases eq_or_eq_of_toLower ha (by decide) with rfl | ⟨h, -⟩
    · exact Percent.decode_cons_of_ne (by decide) (Utf8.encode r)
    · exact absurd h (by decide)
  · obtain ⟨a, _, rfl, ha, ht⟩ := List.map_eq_cons_iff.1 ht
    obtain ⟨b, _, rfl, hb, ht⟩ := List.map_eq_cons_iff.1 ht
    obtain ⟨e, r, rfl, he, hr⟩ := List.map_eq_cons_iff.1 ht
    refine ⟨r, hr, ?_⟩
    rcases eq_or_eq_of_toLower ha (by decide) with rfl | ⟨h, -⟩
    · rcases eq_or_eq_of_toLower hb (by decide) with rfl | ⟨h, -⟩
      · rcases eq_or_eq_of_toLower he (by decide) with rfl | ⟨-, rfl⟩
        · exact Percent.decode_escape (by decide) (Utf8.encode r)
        · exact Percent.decode_escape (by decide) (Utf8.encode r)
      · exact absurd h (by decide)
    · exact absurd h (by decide)

/-- A segment that means the place itself stands for a dot. -/
lemma decode_of_isSingleDot {t : List Char} (ht : isSingleDot t = true) :
    Percent.decode (Utf8.encode t) = Utf8.bytes "." := by
  have hlower : ∃ d ∈ dotTexts, t.map Char.toLower = d ++ [] := by
    rw [isSingleDot, decide_eq_true_eq, List.mem_cons, List.mem_singleton] at ht
    rcases ht with ht | ht
    · exact ⟨_, .head _, String.ofList_injective ht⟩
    · exact ⟨_, .tail _ (.head _), String.ofList_injective ht⟩
  obtain ⟨d, hd, hlower⟩ := hlower
  obtain ⟨r, hr, hdecode⟩ := decode_dot hd hlower
  rw [hdecode, List.map_eq_nil_iff.1 hr]
  rfl

/-- A segment that means the place above stands for two dots. -/
lemma decode_of_isDoubleDot {t : List Char} (ht : isDoubleDot t = true) :
    Percent.decode (Utf8.encode t) = Utf8.bytes ".." := by
  have hlower : ∃ d ∈ dotTexts, ∃ d' ∈ dotTexts, t.map Char.toLower = d ++ (d' ++ []) := by
    rw [isDoubleDot, decide_eq_true_eq] at ht
    simp only [List.mem_cons, List.not_mem_nil, or_false] at ht
    rcases ht with ht | ht | ht | ht
    · exact ⟨_, .head _, _, .head _, String.ofList_injective ht⟩
    · exact ⟨_, .tail _ (.head _), _, .head _, String.ofList_injective ht⟩
    · exact ⟨_, .head _, _, .tail _ (.head _), String.ofList_injective ht⟩
    · exact ⟨_, .tail _ (.head _), _, .tail _ (.head _), String.ofList_injective ht⟩
  obtain ⟨d, hd, d', hd', hlower⟩ := hlower
  obtain ⟨r, hr, hdecode⟩ := decode_dot hd hlower
  obtain ⟨r', hr', hdecode'⟩ := decode_dot hd' hr
  rw [hdecode, hdecode', List.map_eq_nil_iff.1 hr']
  rfl

/-- The segment of a name means another place only if the name itself is one of dots. -/
lemma segment_isPlace {name : String} (hname : ¬ IsDotName name) :
    isSingleDot (segment name) = false ∧ isDoubleDot (segment name) = false := by
  constructor
  · rw [Bool.eq_false_iff]
    intro hdot
    exact hname (.inl ((spells_segment name).eq_of_decode (decode_of_isSingleDot hdot)))
  · rw [Bool.eq_false_iff]
    intro hdot
    exact hname (.inr ((spells_segment name).eq_of_decode (decode_of_isDoubleDot hdot)))

/-! ## Appending -/

/-- The path of an address to which names are appended: without a slash at its end, and empty
if it is then one slash. -/
def ownPath (p : List Char) : List Char :=
  let q := if p.getLast? = some '/' then p.dropLast else p
  if q = ['/'] then [] else q

/-- Segments, each behind a slash. -/
def slashed (segments : List (List Char)) : List Char := segments.flatMap ('/' :: ·)

lemma slashed_cons (t : List Char) (segments : List (List Char)) :
    slashed (t :: segments) = '/' :: t ++ slashed segments := rfl

/-- A name is kept if nothing in it is dropped and it is not one of dots. -/
def IsKept (name : String) : Prop :=
  (∀ c ∈ name.toList, isIgnored c = false) ∧ ¬ IsDotName name

lemma appendSegment_of_isKept {name : String} (hname : IsKept name) (p : List Char) :
    appendSegment false true p name.toList =
      (if p = ['/'] then p else p ++ ['/']) ++ segment name := by
  obtain ⟨hkept, hdot⟩ := hname
  obtain ⟨hsingle, hdouble⟩ := segment_isPlace hdot
  simp only [appendSegment, trimSlashes, Bool.false_eq_true, if_false]
  exact readSegment_of_kept hkept hsingle hdouble _

/-- By induction on the names: behind a path of two characters or more, every name comes after
a slash of its own. -/
lemma foldl_appendSegment (names : List String) (hnames : ∀ n ∈ names, IsKept n) (p : List Char)
    (hp : 2 ≤ p.length) :
    (names.map String.toList).foldl (appendSegment false true) p =
      p ++ slashed (names.map segment) := by
  induction names generalizing p with
  | nil => simp [slashed]
  | cons n names ih =>
    have hne : p ≠ ['/'] := by
      rintro rfl
      simp at hp
    have hlength : 2 ≤ (p ++ ['/'] ++ segment n).length := by
      simp only [List.length_append, List.length_cons, List.length_nil]
      omega
    rw [List.map_cons, List.foldl_cons, appendSegment_of_isKept (hnames n (by simp)), if_neg hne,
      ih (fun m hm => hnames m (List.mem_cons_of_mem n hm)) _ hlength, List.map_cons,
      slashed_cons]
    simp

/-- However a path ends, the first name comes after one slash. -/
lemma slash_dropTrailingSlash (p : List Char) :
    (if dropTrailingSlash p = ['/'] then dropTrailingSlash p else dropTrailingSlash p ++ ['/']) =
      ownPath p ++ ['/'] := by
  by_cases hlast : p.getLast? = some '/'
  · by_cases hlength : p.length = 1
    · -- the path is one slash
      obtain ⟨c, rfl⟩ := List.length_eq_one_iff.1 hlength
      cases Option.some.inj hlast
      rfl
    · have hdrop : dropTrailingSlash p = p.dropLast := by simp [dropTrailingSlash, hlast, hlength]
      have hown : ownPath p = if p.dropLast = ['/'] then [] else p.dropLast := by
        simp [ownPath, hlast]
      rw [hdrop, hown]
      split <;> simp_all
  · have hdrop : dropTrailingSlash p = p := by simp [dropTrailingSlash, hlast]
    have hne : p ≠ ['/'] := by
      rintro rfl
      exact hlast rfl
    rw [hdrop, ownPath, if_neg hne]
    simp [hlast, hne]

/-- Names are appended to the path of a web address one after another, each as a segment of its
own; only the names of dots are passed over. -/
lemma append_path {u : Url} (hweb : u.IsWeb) (hhost : u.host.isSome) {first : String}
    (hfirst : first ≠ "" ∧ ¬ IsDotName first) {rest : List String}
    (hkept : ∀ n ∈ first :: rest, ∀ c ∈ n.toList, isIgnored c = false) :
    (u.append (first :: rest)).path =
      ownPath u.path ++ slashed (((first :: rest).filter fun n => ¬ IsDotName n).map segment) := by
  have hfilter : ((first :: rest).filter fun n => n != "." && n != "..") =
      (first :: rest).filter fun n => ¬ IsDotName n := by
    refine List.filter_congr fun n _ => ?_
    rw [Bool.eq_iff_iff]
    simp [IsDotName, not_or]
  have hhost' : u.host.isNone = false := by simpa using hhost
  have hrest : ∀ n ∈ rest.filter fun n => ¬ IsDotName n, IsKept n := by
    intro n hn
    obtain ⟨hmem, hdot⟩ := List.mem_filter.1 hn
    exact ⟨hkept n (List.mem_cons_of_mem first hmem), by simpa using hdot⟩
  have hcons : ((first :: rest).filter fun n => ¬ IsDotName n) =
      first :: rest.filter fun n => ¬ IsDotName n :=
    List.filter_cons_of_pos (by simpa using hfirst.2)
  have hlength : 2 ≤ (ownPath u.path ++ ['/'] ++ segment first).length := by
    have hpos := List.length_pos_iff.2 (segment_ne_nil hfirst.1)
    simp only [List.length_append, List.length_cons, List.length_nil]
    omega
  simp only [append, hfilter, hcons, hweb.isFile, hweb.isSpecial, hhost', Bool.false_and,
    Bool.false_eq_true, if_false, List.map_cons, List.foldl_cons]
  rw [appendSegment_of_isKept ⟨hkept first (List.mem_cons_self ..), hfirst.2⟩,
    slash_dropTrailingSlash, foldl_appendSegment _ hrest _ hlength, slashed_cons]
  simp

end ChatRelay.Url
