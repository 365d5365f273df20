/-
# Deliveries that are final, and drafts that can be written

An answer asks for another request only with one of five statuses, and without these what comes of
the first request is the result of the call.  A draft for an address of the web, with a token that
can be in a header, fails to be written for one reason alone: its address is too long, or its host
holds a character that cannot be in a request.
-/
import ChatRelay.Proofs.Url.Host
import ChatRelay.Web.Exchange

namespace ChatRelay.Web

/-! ## Deliveries that are final -/

/-- An answer asks for another request. -/
def Response.IsRedirect (r : Response) : Prop := r.status ∈ [301, 302, 303, 307, 308]

instance (r : Response) : Decidable r.IsRedirect :=
  inferInstanceAs (Decidable (r.status ∈ [301, 302, 303, 307, 308]))

/-- What comes of a request does not ask for another one. -/
def Delivery.IsFinal (d : Delivery) : Prop := ∀ r, d = .answered r → ¬ r.IsRedirect

/-- The result of a call that sends one request. -/
def Request.result (q : Request) : Delivery → Except Error Response
  | .answered r => .ok r
  | .dropped causes => .error (.unanswered q.url.text causes)
  | .unreachable causes => .error (.unanswered q.url.text causes)

/-! ## Drafts that can be written -/

/-- The request that a draft is written as. -/
def Draft.request (d : Draft) : Request :=
  ⟨d.method, (takeCredentials d.url).1, (takeCredentials d.url).2 ++ ["Bearer " ++ d.token],
    d.accept, d.userAgent, d.body⟩

/-- A draft is written as its request, or it fails to be written for its token or its address. -/
lemma Draft.write_cases (d : Draft) :
    d.write = .ok d.request ∨ ∃ url cause, d.write = .error (.unwritable url cause) := by
  rw [Draft.write]
  split
  · exact .inr ⟨_, _, rfl⟩
  · split
    · exact .inr ⟨_, _, rfl⟩
    · simp only
      split
      · exact .inr ⟨_, _, rfl⟩
      · split
        · exact .inr ⟨_, _, rfl⟩
        · exact .inl rfl

/-- There is one request that a draft can be written as. -/
lemma Draft.request_of_write {d : Draft} {q : Request} (hwrite : d.write = .ok q) :
    q = d.request := by
  obtain hok | ⟨url, cause, herror⟩ := d.write_cases
  · exact Except.ok.inj (hwrite.symm.trans hok)
  · cases hwrite.symm.trans herror

lemma Draft.unwritable_of_write {d : Draft} {e : Error} (hwrite : d.write = .error e) :
    ∃ url cause, e = .unwritable url cause := by
  obtain hok | ⟨url, cause, herror⟩ := d.write_cases
  · cases hwrite.symm.trans hok
  · exact ⟨url, cause, Except.error.inj (hwrite.symm.trans herror)⟩

/-- What a draft is written as has its content, and whether it is written does not depend on
the content. -/
lemma Draft.write_withBody (d : Draft) (body : Option Json) :
    { d with body }.write = d.write.map fun q => { q with body } := by
  rw [write, write]
  split
  · rfl
  · split
    · rfl
    · simp only
      split
      · rfl
      · split <;> rfl

/-- Why a draft is not written if its address cannot be in a request. -/
def Draft.unwritable (d : Draft) : Error :=
  .unwritable (some d.request.url.text) "Parsed Url is not a valid Uri"

/-- A draft is for a host of the web, with a token that can be in a header. -/
structure Draft.IsProper (d : Draft) : Prop where
  web : d.url.IsWeb
  host : ∃ host, host ≠ [] ∧ d.url.host = some host
  token : isHeaderText d.token = true

lemma namesHost_eq_true {u : Url} (h : ∃ host, host ≠ [] ∧ u.host = some host) :
    namesHost u = true := by
  obtain ⟨host, hne, hhost⟩ := h
  rw [namesHost, hhost]
  simpa using hne

/-- The scheme stays when user name and password are taken out of an address. -/
@[simp] lemma takeCredentials_scheme (u : Url) : (takeCredentials u).1.scheme = u.scheme := by
  rw [takeCredentials]
  split
  · rfl
  · simp only
    split <;> rfl

/-- A proper draft is written unless its address cannot be. -/
lemma Draft.IsProper.write_eq {d : Draft} (h : d.IsProper) :
    d.write = if isWritable d.request.url = true then .ok d.request else .error d.unwritable := by
  have hscheme : ¬ ((takeCredentials d.url).1.scheme ≠ "http".toList ∧
      (takeCredentials d.url).1.scheme ≠ "https".toList) := by
    rw [takeCredentials_scheme]
    rintro ⟨hhttp, hhttps⟩
    exact h.web.elim hhttp hhttps
  -- the first three checks of a draft pass, and the last one is left
  simp only [Draft.write, namesHost_eq_true h.host, h.token, hscheme, Bool.not_true,
    Bool.false_eq_true, if_false, Bool.not_eq_true']
  by_cases hw : isWritable (takeCredentials d.url).1 = true
  · simp only [hw, Draft.request, Bool.true_eq_false, if_false, if_true]
  · simp only [Bool.not_eq_true] at hw
    simp only [hw, Draft.request, Draft.unwritable, Bool.false_eq_true, if_false, if_true]

end ChatRelay.Web
