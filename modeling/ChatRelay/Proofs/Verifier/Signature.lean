/-
# Verification by signature

With a signing secret a request is accepted exactly if it carries a timestamp near the present
and the signature of that timestamp and its body, and each refusal is put down to the right
side: a request without a usable timestamp and signature is malformed, one whose signature is
another one fails the verification.  The timestamp is trimmed before it is read as a number,
but it is signed as it was received.
-/
import ChatRelay.Proofs.Text.Decimal
import ChatRelay.Proofs.Text.Hex
import ChatRelay.Verifier

namespace ChatRelay.Verifier

open Text

/-! ## What a request has to carry -/

/-- A timestamp is a number of seconds at most five minutes before or after the present. -/
def InWindow (now : Int) (timestamp : String) : Prop :=
  ∃ sentAt : Int, Decimal.Numeral (trim timestamp.toList) sentAt ∧
    (-2 ^ 63 ≤ sentAt ∧ sentAt < 2 ^ 63) ∧ |now - sentAt| ≤ 300

/-- A text is the signature of a timestamp and a body, up to the case of its digits. -/
def Signs (secret timestamp : String) (body : List UInt8) (signature : String) : Prop :=
  ∃ digits : List Char, signature = "v0=" ++ String.ofList digits ∧
    "v0=" ++ String.ofList (digits.map Char.toLower) = sign secret timestamp body

/-- A request carries a timestamp near the present and its own signature. -/
def Carries (secret : String) (now : Int) (r : SignedRequest) : Prop :=
  ∃ timestamp signature, r.timestamp = some timestamp ∧ r.signature = some signature ∧
    InWindow now timestamp ∧ Signs secret timestamp r.body signature

/-- A request lacks a timestamp or a signature, or its timestamp is not a number near the
present. -/
def Lacks (now : Int) (r : SignedRequest) : Prop :=
  r.timestamp = none ∨ r.signature = none ∨
    ∃ timestamp, r.timestamp = some timestamp ∧ ¬ InWindow now timestamp

/-! ## The checks one by one -/

lemma not_lacks {now : Int} {r : SignedRequest} {timestamp signature : String}
    (ht : r.timestamp = some timestamp) (hs : r.signature = some signature)
    (hwindow : InWindow now timestamp) : ¬ Lacks now r := by
  rintro (hnone | hnone | ⟨timestamp', ht', hnot⟩)
  · exact absurd (ht.symm.trans hnone) (by simp)
  · exact absurd (hs.symm.trans hnone) (by simp)
  · cases ht.symm.trans ht'
    exact hnot hwindow

lemma not_lacks_of_carries {secret : String} {now : Int} {r : SignedRequest}
    (h : Carries secret now r) : ¬ Lacks now r := by
  obtain ⟨timestamp, signature, ht, hs, hwindow, -⟩ := h
  exact not_lacks ht hs hwindow

lemma inWindow_iff {now : Int} {timestamp : String} :
    InWindow now timestamp ↔
      ∃ sentAt, Decimal.readInt64 (trim timestamp.toList) = .ok sentAt ∧
        ¬ (now - sentAt).natAbs > maxSkew := by
  simp only [InWindow, Decimal.readInt64_eq_ok_iff, maxSkew, and_assoc]
  refine exists_congr fun sentAt => and_congr_right fun _ => and_congr_right fun _ =>
    and_congr_right fun _ => ?_
  rw [Int.abs_eq_natAbs]
  omega

lemma signatureDigits?_eq_some_iff {signature : String} {digits : List Char} :
    signatureDigits? signature = some digits ↔ signature = "v0=" ++ String.ofList digits := by
  have hlist : ("v0=" ++ String.ofList digits).toList = 'v' :: '0' :: '=' :: digits := by
    simp only [String.toList_append, String.toList_ofList]
    rfl
  rw [signatureDigits?, ← String.toList_inj, hlist]
  constructor
  · intro h
    split at h
    · rename_i rest hlist
      cases h
      exact hlist
    · exact absurd h (by simp)
  · intro h
    rw [h]
    rfl

lemma sign_eq_iff {secret timestamp : String} {body : List UInt8} {digits : List Char} :
    "v0=" ++ String.ofList digits = sign secret timestamp body ↔
      digits = Hex.encode (signatureBytes secret timestamp body) := by
  have hsign : sign secret timestamp body =
      "v0=" ++ String.ofList (Hex.encode (signatureBytes secret timestamp body)) := rfl
  rw [hsign, ← String.toList_inj]
  simp only [String.toList_append, String.toList_ofList, List.append_cancel_left_eq]

lemma signs_iff {secret timestamp : String} {body : List UInt8} {signature : String} :
    Signs secret timestamp body signature ↔
      ∃ digits, signatureDigits? signature = some digits ∧
        Hex.decode digits = some (signatureBytes secret timestamp body) := by
  simp only [Signs, sign_eq_iff, signatureDigits?_eq_some_iff, Hex.decode_eq_some_iff]

/-! ## The verdict -/

/-- What comes of checking a signature, and when: the three cases exclude each other. -/
lemma checkSignature_cases (secret : String) (now : Int) (r : SignedRequest) :
    (Lacks now r ∧ ∃ refusal reason, checkSignature secret r now = .error refusal ∧
      refusal.fault = .malformed reason) ∨
    (¬ Lacks now r ∧ ¬ Carries secret now r ∧ ∃ refusal reason,
      checkSignature secret r now = .error refusal ∧ refusal.fault = .verification reason) ∨
    (Carries secret now r ∧ checkSignature secret r now = .ok ()) := by
  cases ht : r.timestamp with
  | none =>
    refine .inl ⟨.inl ht, .missingTimestamp, _, ?_, rfl⟩
    rw [checkSignature, ht]
    rfl
  | some timestamp =>
  cases hs : r.signature with
  | none =>
    refine .inl ⟨.inr (.inl hs), .missingSignature, _, ?_, rfl⟩
    rw [checkSignature, ht, hs]
    rfl
  | some signature =>
  cases hread : Decimal.readInt64 (trim timestamp.toList) with
  | error fault =>
    have hnot : ¬ InWindow now timestamp := fun h => by
      obtain ⟨sentAt, hok, -⟩ := inWindow_iff.1 h
      exact absurd (hread.symm.trans hok) (by simp)
    refine .inl ⟨.inr (.inr ⟨timestamp, ht, hnot⟩), .invalidTimestamp timestamp, _, ?_, rfl⟩
    simp only [checkSignature, ht, hs, hread]
    rfl
  | ok sentAt =>
  by_cases hskew : (now - sentAt).natAbs > maxSkew
  · have hnot : ¬ InWindow now timestamp := fun h => by
      obtain ⟨sentAt', hok, hnear⟩ := inWindow_iff.1 h
      cases hread.symm.trans hok
      exact hnear hskew
    refine .inl ⟨.inr (.inr ⟨timestamp, ht, hnot⟩), .staleTimestamp, _, ?_, rfl⟩
    simp only [checkSignature, ht, hs, hread, hskew, if_true]
    rfl
  -- from here on the timestamp is good, and only the signature is left to check
  have hwindow : InWindow now timestamp := inWindow_iff.2 ⟨sentAt, hread, hskew⟩
  have hlacks : ¬ Lacks now r := not_lacks ht hs hwindow
  have hcarries : Carries secret now r ↔ Signs secret timestamp r.body signature := by
    constructor
    · rintro ⟨timestamp', signature', ht', hs', -, hsigns⟩
      cases ht.symm.trans ht'
      cases hs.symm.trans hs'
      exact hsigns
    · exact fun hsigns => ⟨timestamp, signature, ht, hs, hwindow, hsigns⟩
  rw [hcarries, signs_iff]
  right
  cases hdigits : signatureDigits? signature with
  | none =>
    refine .inl ⟨hlacks, by simp, .unsupportedVersion, _, ?_, rfl⟩
    simp only [checkSignature, ht, hs, hread, hskew, if_false, hdigits]
    rfl
  | some digits =>
  cases hdecode : Hex.decode digits with
  | none =>
    refine .inl ⟨hlacks, by simp [hdecode], .invalidHex, _, ?_, rfl⟩
    simp only [checkSignature, ht, hs, hread, hskew, if_false, hdigits, hdecode]
    rfl
  | some provided =>
  by_cases hsame : provided = signatureBytes secret timestamp r.body
  · refine .inr ⟨⟨digits, rfl, by rw [hdecode, hsame]⟩, ?_⟩
    simp only [checkSignature, ht, hs, hread, hskew, if_false, hdigits, hdecode, hsame, ne_eq,
      not_true_eq_false]
    rfl
  · refine .inl ⟨hlacks, by simp [hdecode, hsame], .signatureMismatch, _, ?_, rfl⟩
    simp only [checkSignature, ht, hs, hread, hskew, if_false, hdigits, hdecode, hsame, ne_eq,
      not_false_eq_true, if_true]
    rfl

/-- With a signing secret, and whatever the legacy token and the form of the body, a request is
accepted exactly if it carries a timestamp near the present and its own signature.  It is
malformed exactly if it lacks a usable timestamp or a signature, and it fails the verification
in all other cases. -/
theorem verify_signed_iff (secret : String) (token : Option String) (r : SignedRequest)
    (now : Int) :
    ((⟨some secret, token, false⟩ : Verifier).verify r now = .ok () ↔ Carries secret now r) ∧
    ((∃ refusal reason, (⟨some secret, token, false⟩ : Verifier).verify r now = .error refusal ∧
      refusal.fault = .malformed reason) ↔ Lacks now r) ∧
    ((∃ refusal reason, (⟨some secret, token, false⟩ : Verifier).verify r now = .error refusal ∧
      refusal.fault = .verification reason) ↔ ¬ Carries secret now r ∧ ¬ Lacks now r) := by
  have hverify : (⟨some secret, token, false⟩ : Verifier).verify r now =
      checkSignature secret r now := rfl
  rw [hverify]
  rcases checkSignature_cases secret now r with
    ⟨hlacks, refusal, reason, herror, hfault⟩ |
    ⟨hlacks, hcarries, refusal, reason, herror, hfault⟩ | ⟨hcarries, hok⟩
  · have hnot : ¬ Carries secret now r := fun h => not_lacks_of_carries h hlacks
    simp [herror, hfault, hlacks, hnot]
  · simp [herror, hfault, hlacks, hcarries]
  · have hnot := not_lacks_of_carries hcarries
    simp [hok, hnot, hcarries]

end ChatRelay.Verifier
