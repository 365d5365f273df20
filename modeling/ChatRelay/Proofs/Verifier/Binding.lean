/-
# What a signature binds

What is signed is the version, the timestamp and the body, with colons between them.  A body
may hold colons too, but a timestamp that is accepted holds none, so the first colon behind the
version ends the timestamp, and the message can be read in one way only.  So a signature that
is accepted twice belongs to one timestamp and one body, unless two messages have the same
digest.  And since a request keeps its timestamp, it is accepted for ten minutes at most.
-/
import ChatRelay.Proofs.Text.Blank
import ChatRelay.Proofs.Text.Utf8
import ChatRelay.Proofs.Verifier.Signature

namespace ChatRelay

open Text

/-! ## Timestamps hold no colons -/

lemma Text.Decimal.Numeral.colon_notMem {s : List Char} {n : Int} (h : Decimal.Numeral s n) :
    ':' ∉ s := by
  have hdigits : ∀ ds : List Char, (∀ c ∈ ds, c.isDigit = true) → ':' ∉ ds := by
    intro ds hds hmem
    exact absurd (hds ':' hmem) (by decide)
  cases h with
  | plain _ hall => exact hdigits s hall
  | plus _ hall =>
    rw [List.mem_cons, not_or]
    exact ⟨by decide, hdigits _ hall⟩
  | minus _ hall =>
    rw [List.mem_cons, not_or]
    exact ⟨by decide, hdigits _ hall⟩

namespace Verifier

variable {secret timestamp timestamp' : String} {body body' : List UInt8}
  {r r' : SignedRequest} {now now' : Int}

/-- Blanks and a number, of which a timestamp consists, hold no colon. -/
lemma InWindow.colon_notMem (h : InWindow now timestamp) : ':' ∉ timestamp.toList := by
  obtain ⟨sentAt, hnumeral, -, -⟩ := h
  intro hmem
  rcases isBlank_or_mem_trim hmem with hblank | htrim
  · exact absurd hblank (by decide)
  · exact hnumeral.colon_notMem htrim

lemma InWindow.colon_notMem_bytes (h : InWindow now timestamp) :
    (0x3A : UInt8) ∉ Utf8.bytes timestamp := by
  have hbyte : (0x3A : UInt8) = UInt8.ofNat (':').toNat := by decide
  rw [hbyte, Utf8.bytes, Utf8.mem_encode_iff (by decide)]
  exact h.colon_notMem

/-! ## Messages -/

/-- Where timestamps hold no colons, a message has one timestamp and one body. -/
lemma signedMessage_inj (ht : (0x3A : UInt8) ∉ Utf8.bytes timestamp)
    (ht' : (0x3A : UInt8) ∉ Utf8.bytes timestamp')
    (h : signedMessage timestamp body = signedMessage timestamp' body') :
    timestamp = timestamp' ∧ body = body' := by
  rw [signedMessage, signedMessage, List.append_assoc, List.append_assoc,
    List.append_cancel_left_eq] at h
  obtain ⟨hbytes, hbody⟩ := append_separator_inj ht ht' (List.cons.inj h).2
  exact ⟨String.toList_inj.1 (Utf8.encode_injective hbytes), hbody⟩

/-- The message that the signature of a request is for, if it has a timestamp. -/
def message? (r : SignedRequest) : Option (List UInt8) :=
  r.timestamp.map fun timestamp => signedMessage timestamp r.body

/-- The bytes that a request presents as its signature, if they can be read. -/
def presented? (r : SignedRequest) : Option (List UInt8) := do
  let signature ← r.signature
  let digits ← signatureDigits? signature
  Hex.decode digits

/-- The messages of two requests are different, and have the same digest. -/
def Collide (secret : String) (r r' : SignedRequest) : Prop :=
  ∃ m m', message? r = some m ∧ message? r' = some m' ∧ m ≠ m' ∧
    Digest.Hmac.mac (Utf8.bytes secret) m = Digest.Hmac.mac (Utf8.bytes secret) m'

/-! ## Requests that are accepted -/

lemma verify_signed_eq_ok_iff {token : Option String} :
    (⟨some secret, token, false⟩ : Verifier).verify r now = .ok () ↔ Carries secret now r := by
  have hverify : (⟨some secret, token, false⟩ : Verifier).verify r now =
      checkSignature secret r now := rfl
  rw [hverify]
  rcases checkSignature_cases secret now r with
    ⟨hlacks, refusal, reason, herror, -⟩ | ⟨-, hcarries, refusal, reason, herror, -⟩ |
    ⟨hcarries, hok⟩
  · have hnot : ¬ Carries secret now r := fun h => not_lacks_of_carries h hlacks
    simp [herror, hnot]
  · simp [herror, hcarries]
  · simp [hok, hcarries]

/-- A request that carries its signature presents the digest of its message. -/
lemma Carries.presented? (h : Carries secret now r) :
    ∃ m, message? r = some m ∧
      Verifier.presented? r = some (Digest.Hmac.mac (Utf8.bytes secret) m) := by
  obtain ⟨timestamp, signature, ht, hs, -, hsigns⟩ := h
  obtain ⟨digits, hdigits, hdecode⟩ := signs_iff.1 hsigns
  refine ⟨signedMessage timestamp r.body, by rw [message?, ht]; rfl, ?_⟩
  simp only [Verifier.presented?, hs, Option.bind_eq_bind, Option.bind_some, hdigits, hdecode]
  rfl

/-- Two requests that are carried with one message are one timestamp and one body. -/
lemma Carries.eq_of_message? (h : Carries secret now r) (h' : Carries secret now' r')
    (hmessage : message? r = message? r') : r.timestamp = r'.timestamp ∧ r.body = r'.body := by
  obtain ⟨timestamp, -, ht, -, hwindow, -⟩ := h
  obtain ⟨timestamp', -, ht', -, hwindow', -⟩ := h'
  rw [message?, message?, ht, ht'] at hmessage
  obtain ⟨htimestamp, hbody⟩ := signedMessage_inj hwindow.colon_notMem_bytes
    hwindow'.colon_notMem_bytes (Option.some.inj hmessage)
  exact ⟨by rw [ht, ht', htimestamp], hbody⟩

/-- A timestamp is near two times only if these are near each other. -/
lemma InWindow.abs_sub_le (h : InWindow now timestamp) (h' : InWindow now' timestamp) :
    |now - now'| ≤ 600 := by
  obtain ⟨sentAt, hread, hnear⟩ := inWindow_iff.1 h
  obtain ⟨sentAt', hread', hnear'⟩ := inWindow_iff.1 h'
  cases hread.symm.trans hread'
  rw [maxSkew] at hnear hnear'
  rw [Int.abs_eq_natAbs]
  omega

lemma Carries.abs_sub_le (h : Carries secret now r) (h' : Carries secret now' r) :
    |now - now'| ≤ 600 := by
  obtain ⟨timestamp, -, ht, -, hwindow, -⟩ := h
  obtain ⟨timestamp', -, ht', -, hwindow', -⟩ := h'
  cases ht.symm.trans ht'
  exact hwindow.abs_sub_le hwindow'

/-- Two requests that are accepted with a signing secret, at any two times, and that present
the same signature, have the same timestamp and the same body, unless their messages are
different ones with the same digest.  Their messages determine timestamps and bodies.  And one
request is accepted only at times that are at most ten minutes apart. -/
theorem verify_binds_request (secret : String) (token : Option String) {r r' : SignedRequest}
    {now now' : Int} (h : (⟨some secret, token, false⟩ : Verifier).verify r now = .ok ())
    (h' : (⟨some secret, token, false⟩ : Verifier).verify r' now' = .ok ()) :
    (presented? r = presented? r' →
      (r.timestamp = r'.timestamp ∧ r.body = r'.body) ∨ Collide secret r r') ∧
    (message? r = message? r' → r.timestamp = r'.timestamp ∧ r.body = r'.body) ∧
    (r = r' → |now - now'| ≤ 600) := by
  have hcarries := verify_signed_eq_ok_iff.1 h
  have hcarries' := verify_signed_eq_ok_iff.1 h'
  refine ⟨fun hpresented => ?_, hcarries.eq_of_message? hcarries', ?_⟩
  · obtain ⟨m, hm, hmac⟩ := hcarries.presented?
    obtain ⟨m', hm', hmac'⟩ := hcarries'.presented?
    by_cases hsame : m = m'
    · exact .inl (hcarries.eq_of_message? hcarries' (by rw [hm, hm', hsame]))
    · rw [hmac, hmac', Option.some.injEq] at hpresented
      exact .inr ⟨m, m', hm, hm', hsame, hpresented⟩
  · rintro rfl
    exact hcarries.abs_sub_le hcarries'

/-! ## A request that is accepted for ten minutes -/

/-- A signed request with a blank before its timestamp and colons in its body. -/
def signedAtSeven (format : BodyFormat) : SignedRequest where
  timestamp := some " 7"
  signature := some (sign "k" " 7" (Utf8.bytes ":a:"))
  body := Utf8.bytes ":a:"
  format := format

lemma verify_signedAtSeven (format : BodyFormat) (hnow : (now - 7).natAbs ≤ 300) :
    (⟨some "k", none, false⟩ : Verifier).verify (signedAtSeven format) now = .ok () := by
  refine verify_signed_eq_ok_iff.2 ⟨" 7", _, rfl, rfl, ?_, ?_⟩
  · exact inWindow_iff.2 ⟨7, by decide, Nat.not_lt.2 hnow⟩
  · exact signs_iff.2 ⟨_, signatureDigits?_eq_some_iff.2 rfl, Hex.decode_encode _⟩

/-- The request is accepted on both routes, and for all of ten minutes. -/
theorem verify_binds_request_atSeven :
    (⟨some "k", none, false⟩ : Verifier).verify (signedAtSeven .form) (-293) = .ok () ∧
    (⟨some "k", none, false⟩ : Verifier).verify (signedAtSeven .form) 307 = .ok () ∧
    (⟨some "k", none, false⟩ : Verifier).verify (signedAtSeven .json) 307 = .ok () ∧
    presented? (signedAtSeven .form) = presented? (signedAtSeven .json) ∧
    (((signedAtSeven .form).timestamp = (signedAtSeven .json).timestamp ∧
      (signedAtSeven .form).body = (signedAtSeven .json).body) ∨
      Collide "k" (signedAtSeven .form) (signedAtSeven .json)) ∧
    |(-293 : Int) - 307| ≤ 600 := by
  have hfirst := verify_signedAtSeven .form (by decide : ((-293 : Int) - 7).natAbs ≤ 300)
  have hlast := verify_signedAtSeven .form (by decide : ((307 : Int) - 7).natAbs ≤ 300)
  have hother := verify_signedAtSeven .json (by decide : ((307 : Int) - 7).natAbs ≤ 300)
  refine ⟨hfirst, hlast, hother, rfl, ?_, ?_⟩
  · exact (verify_binds_request "k" none hfirst hother).1 rfl
  · exact (verify_binds_request "k" none hfirst hlast).2.2 rfl

end Verifier

end ChatRelay
