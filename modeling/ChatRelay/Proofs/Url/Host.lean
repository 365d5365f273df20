/-
# Web addresses name a host

The schemes of the web are special: an address of such a scheme is read with an authority,
whose host is not empty.  So every web address that can be read has a host, whatever else it
holds.
-/
import ChatRelay.Proofs.Url.Scheme

namespace ChatRelay.Url

/-! ## Hosts of special schemes -/

lemma ipv4Text_ne_nil (n : Nat) : ipv4Text n ≠ [] := by
  simp [ipv4Text, List.intercalate, List.intersperse]

lemma bracketed?_ne_nil {s h : List Char} (hs : bracketed? s = some h) : h ≠ [] := by
  rw [bracketed?] at hs
  split at hs
  · obtain ⟨ps, -, rfl⟩ := Option.map_eq_some_iff.1 hs
    simp
  · exact absurd hs (by simp)

lemma domain?_ne_nil {s h : List Char} (hs : domain? s = some h) : h ≠ [] := by
  rw [domain?] at hs
  split at hs
  · exact absurd hs (by simp)
  · obtain ⟨-, hne⟩ := Option.filter_eq_some_iff.1 hs
    rintro rfl
    exact absurd hne (by simp)

lemma specialHost?_ne_nil {s h : List Char} (hs : specialHost? s = some h) : h ≠ [] := by
  rw [specialHost?] at hs
  split at hs
  · exact bracketed?_ne_nil hs
  · obtain ⟨d, hd, hd'⟩ := Option.bind_eq_some_iff.1 hs
    split at hd'
    · obtain ⟨ns, -, hns⟩ := Option.bind_eq_some_iff.1 hd'
      obtain ⟨n, -, rfl⟩ := Option.map_eq_some_iff.1 hns
      exact ipv4Text_ne_nil n
    · cases hd'
      exact domain?_ne_nil hd

/-! ## Addresses with an authority -/

lemma authority?_host {scheme s rest : List Char} {more : Bool} {u : Url}
    (hspecial : isSpecial scheme = true) (h : authority? scheme s more = some (u, rest)) :
    ∃ host, host ≠ [] ∧ u.host = some host := by
  simp only [authority?, hspecial, if_true] at h
  split at h
  · exact absurd h (by simp)
  · split at h
    · exact absurd h (by simp)
    · obtain ⟨host, hhost, h⟩ := Option.bind_eq_some_iff.1 h
      obtain ⟨port, -, h⟩ := Option.bind_eq_some_iff.1 h
      cases h
      exact ⟨host, specialHost?_ne_nil hhost, rfl⟩

lemma withAuthority?_host {scheme s : List Char} {u : Url} (hspecial : isSpecial scheme = true)
    (h : withAuthority? scheme s = some u) : ∃ host, host ≠ [] ∧ u.host = some host := by
  simp only [withAuthority?] at h
  obtain ⟨⟨v, rest⟩, hv, h⟩ := Option.bind_eq_some_iff.1 h
  have hhost := authority?_host hspecial hv
  cases h
  exact hhost

/-- A web address names a host. -/
theorem host_of_parse? {t : String} {u : Url} (h : parse? t = some u) (hweb : u.IsWeb) :
    ∃ host, host ≠ [] ∧ u.host = some host := by
  obtain ⟨rest, -, hafter⟩ := parse?_eq_some_iff.1 h
  simp only [afterScheme?, hweb.isFile, hweb.isSpecial, if_true] at hafter
  exact withAuthority?_host hweb.isSpecial hafter

end ChatRelay.Url
