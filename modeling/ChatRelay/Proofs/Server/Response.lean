/-
# What an answer says

An answer that says something holds a JSON object with one member, a text, and an answer that
only acknowledges holds nothing.  Status, type and content are stated one by one.  What a reader
of JSON finds in the content is the text again, whatever characters are in it.
-/
import ChatRelay.Proofs.Json.Writing
import ChatRelay.Server.Response

namespace ChatRelay

namespace Response

/-- An answer has a status, and nothing else. -/
structure IsBare (r : Response) (status : Nat) : Prop where
  status_eq : r.status = status
  contentType_eq : r.contentType = none
  allow_eq : r.allow = none
  body_eq : r.body = ""

lemma isBare_empty (status : Nat) : (empty status).IsBare status := ⟨rfl, rfl, rfl, rfl⟩

/-- An answer has a status, and a text under a name for its content. -/
structure Says (r : Response) (status : Nat) (name text : String) : Prop where
  status_eq : r.status = status
  contentType_eq : r.contentType = some "application/json"
  allow_eq : r.allow = none
  body_eq : r.body = String.ofList
    ('\x7b' :: Json.quote name.toList ++ ':' :: Json.quote text.toList ++ ['\x7d'])
  /-- What is read in the content is the text, and there is nothing else. -/
  reads : ∃ n t, Json.read? (Text.Utf8.bytes r.body) = some (.object [(n, .text t)]) ∧
    Json.textOf? n = some name ∧ Json.textOf? t = some text

lemma says_ofJson (status : Nat) (name text : String) :
    (ofJson status (.object [(name, .text text)])).Says status name text where
  status_eq := rfl
  contentType_eq := rfl
  allow_eq := rfl
  body_eq := rfl
  reads := by
    have hbytes : Text.Utf8.bytes (Json.object [(name, .text text)]).compact =
        (Json.object [(name, .text text)]).bytes := by
      rw [Json.compact, Json.bytes, Text.Utf8.bytes, String.toList_ofList]
    refine ⟨Json.literal name, Json.literal text, ?_, Json.textOf?_literal name,
      Json.textOf?_literal text⟩
    rw [ofJson, hbytes, Json.read?_bytes, Json.source_object]
    rfl

end Response

end ChatRelay
