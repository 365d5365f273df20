/-
# The addresses of the calls

The address of a call is the root of the service with another path: names are appended to the
path of the root, each as a segment of its own, and nothing else of the root changes.  The names
can be told from the address.  A segment holds no slash, so the slashes of the path say where
one segment ends and the next one starts, and a segment is decoded to its name.  So dispatches
to different places have different addresses, and none has the address of a list of workflows.
-/
import ChatRelay.Proofs.Github.Address

namespace ChatRelay

/-! ## Segments of a path -/

namespace Url

variable {s t : List Char} {ss ts : List (List Char)}

lemma segment_injective : Function.Injective segment := by
  intro name other h
  have hother := (spells_segment other).decoded
  rw [← h] at hother
  exact (spells_segment name).eq_of_decode hother

lemma slash_notMem_segment (name : String) : '/' ∉ segment name := by
  intro hmem
  obtain ⟨-, -, hslash⟩ := (spells_segment name).inside '/' hmem
  exact hslash (by simp)

/-- A segment ends at the next slash. -/
lemma takeWhile_append_slashed (hs : '/' ∉ s) (ss : List (List Char)) :
    (s ++ slashed ss).takeWhile (· != '/') = s := by
  have hall : ∀ c ∈ s, (c != '/') = true := by
    intro c hc
    rw [bne_iff_ne]
    rintro rfl
    exact hs hc
  rw [List.takeWhile_append_of_pos hall]
  cases ss with
  | nil => simp [slashed]
  | cons u us => simp [slashed_cons]

/-- By induction on the segments: the first ones are told by the slash after them. -/
lemma slashed_inj (hss : ∀ s ∈ ss, '/' ∉ s) (hts : ∀ t ∈ ts, '/' ∉ t)
    (h : slashed ss = slashed ts) : ss = ts := by
  induction ss generalizing ts with
  | nil =>
    cases ts with
    | nil => rfl
    | cons t ts => exact absurd h (by simp [slashed])
  | cons s ss ih =>
    cases ts with
    | nil => exact absurd h (by simp [slashed])
    | cons t ts =>
      obtain ⟨hs, hss⟩ := List.forall_mem_cons.1 hss
      obtain ⟨ht, hts⟩ := List.forall_mem_cons.1 hts
      rw [slashed_cons, slashed_cons] at h
      have htail : s ++ slashed ss = t ++ slashed ts := (List.cons.inj h).2
      have hhead : s = t := by
        rw [← takeWhile_append_slashed hs ss, htail, takeWhile_append_slashed ht]
      rw [hhead] at htail ⊢
      rw [ih hss hts (List.append_cancel_left htail)]

/-! ## Texts of addresses -/

/-- The text of an address with a host tells its path, given all its other parts. -/
lemma text_withPath_inj {u : Url} (hhost : u.host.isSome) {p p' : List Char} :
    ({ u with path := p } : Url).text = ({ u with path := p' } : Url).text ↔ p = p' := by
  refine ⟨fun h => ?_, fun h => by rw [h]⟩
  obtain ⟨host, hhost⟩ := Option.isSome_iff_exists.1 hhost
  -- with a host, nothing before the path depends on it
  have hauthority : ∀ p, ({ u with path := p } : Url).authorityChars =
      '/' :: '/' :: u.userinfoChars ++ u.hostChars := by
    intro p
    simp only [authorityChars, userinfoChars, hostChars, hhost]
  have hchars := String.ofList_injective h
  simp only [chars, hauthority, List.append_assoc, List.append_cancel_left_eq,
    List.cons_append, List.cons.injEq, true_and] at hchars
  exact List.append_cancel_right hchars

/-- A name without tabs and line breaks. -/
def IsUnbroken (name : String) : Prop := ∀ c ∈ name.toList, c ∉ ['\t', '\n', '\r']

instance (name : String) : Decidable (IsUnbroken name) :=
  List.decidableBAll (fun c => c ∉ ['\t', '\n', '\r']) name.toList

lemma IsUnbroken.isIgnored {name : String} (h : IsUnbroken name) :
    ∀ c ∈ name.toList, isIgnored c = false := by
  intro c hc
  simpa [Url.isIgnored, and_assoc] using h c hc

end Url

/-! ## Addresses below the root -/

/-- The names of a dispatch that are not the same for all. -/
def DispatchRequest.names (q : DispatchRequest) : List String :=
  [q.organization, q.repository, q.workflow]

namespace Github

/-- The names that lead to the list of the workflows of a repository. -/
def listPlace (organization repository : String) : List String :=
  ["repos", organization, repository, "actions", "workflows"]

namespace Client

variable {c : Client} {token url : String} {u : Url} {names names' : List String}

/-- An address is the root of the service but for its path, which is the one of the root with
one segment for each name that is not one of dots. -/
structure Confines (c : Client) (names : List String) (u : Url) : Prop where
  /-- Scheme, user, host, port, query and fragment are those of the root. -/
  root : u = { c.base with path := u.path }
  path : ∃ segments, u.path = Url.ownPath c.base.path ++ Url.slashed segments ∧
    List.Forall₂ Url.Spells (names.filter fun n => ¬ Url.IsDotName n) segments

/-- Names can be appended to the root of every client. -/
lemma isBase_of_create (hc : create token url = .ok c) : c.base.isBase = true := by
  rw [create] at hc
  cases hurl : Url.parse? url with
  | none =>
    rw [hurl] at hc
    cases hc
  | some base =>
    simp only [hurl] at hc
    split at hc
    · next hbase =>
      cases hc
      exact hbase
    · cases hc

lemma host_isSome (hc : create token url = .ok c) (hweb : c.base.IsWeb) :
    c.base.host.isSome := by
  obtain ⟨host, -, hhost⟩ := Url.host_of_parse? (eq_of_create hc).2 hweb
  rw [hhost]
  rfl

lemma append_eq (hc : create token url = .ok c) (hweb : c.base.IsWeb)
    (hnames : ∀ n ∈ names, Url.IsUnbroken n) :
    c.base.append ("repos" :: names) = { c.base with
      path := Url.ownPath c.base.path ++
        Url.slashed ((("repos" :: names).filter fun n => ¬ Url.IsDotName n).map Url.segment) } := by
  have hkept : ∀ n ∈ "repos" :: names, ∀ ch ∈ n.toList, Url.isIgnored ch = false := by
    rw [List.forall_mem_cons]
    exact ⟨Url.IsUnbroken.isIgnored (by decide), fun n hn => (hnames n hn).isIgnored⟩
  rw [← Url.append_path hweb (host_isSome hc hweb) (by decide) hkept]
  rfl

/-- Names stay below the root of the service. -/
lemma confines_append (hc : create token url = .ok c) (hweb : c.base.IsWeb)
    (hnames : ∀ n ∈ names, Url.IsUnbroken n) :
    c.Confines ("repos" :: names) (c.base.append ("repos" :: names)) := by
  rw [append_eq hc hweb hnames]
  refine ⟨rfl, _, rfl, ?_⟩
  rw [List.forall₂_map_right_iff]
  exact List.forall₂_same.2 fun n _ => Url.spells_segment n

/-- The text of an address tells the names that it leads along. -/
lemma append_text_inj (hc : create token url = .ok c) (hweb : c.base.IsWeb)
    (hnames : ∀ n ∈ names, Url.IsUnbroken n) (hnames' : ∀ n ∈ names', Url.IsUnbroken n) :
    (c.base.append ("repos" :: names)).text = (c.base.append ("repos" :: names')).text ↔
      (("repos" :: names).filter fun n => ¬ Url.IsDotName n) =
        ("repos" :: names').filter fun n => ¬ Url.IsDotName n := by
  have hslash : ∀ l : List String, ∀ s ∈ l.map Url.segment, '/' ∉ s := by
    intro l s hs
    obtain ⟨n, -, rfl⟩ := List.mem_map.1 hs
    exact Url.slash_notMem_segment n
  rw [append_eq hc hweb hnames, append_eq hc hweb hnames',
    Url.text_withPath_inj (host_isSome hc hweb), List.append_cancel_left_eq]
  constructor
  · intro h
    exact List.map_injective_iff.2 Url.segment_injective
      (Url.slashed_inj (hslash _) (hslash _) h)
  · intro h
    rw [h]

lemma isUnbroken_place {q : DispatchRequest}
    (hq : ∀ n ∈ q.names, Url.IsUnbroken n) :
    ∀ n ∈ q.place.tail, Url.IsUnbroken n := by
  have hfixed : ∀ n ∈ ["actions", "workflows", "dispatches"], Url.IsUnbroken n := by decide
  simp only [DispatchRequest.names, DispatchRequest.place, List.tail_cons,
    List.forall_mem_cons] at hq hfixed ⊢
  tauto

lemma isUnbroken_listPlace {organization repository : String}
    (hlist : ∀ n ∈ [organization, repository], Url.IsUnbroken n) :
    ∀ n ∈ (listPlace organization repository).tail, Url.IsUnbroken n := by
  have hfixed : ∀ n ∈ ["actions", "workflows"], Url.IsUnbroken n := by decide
  simp only [listPlace, List.tail_cons, List.forall_mem_cons] at hlist hfixed ⊢
  tauto

/-- A place without names of dots is kept as a whole. -/
lemma filter_place {q : DispatchRequest} (hq : ∀ n ∈ q.names, ¬ Url.IsDotName n) :
    (q.place.filter fun n => ¬ Url.IsDotName n) = q.place := by
  have hlength : (q.place.filter fun n => ¬ Url.IsDotName n).length = q.place.length :=
    length_filter_place.2 hq
  exact List.filter_eq_self.2 (List.length_filter_eq_length_iff.1 hlength)

/-- The addresses of two dispatches are the same only if they are for the same workflow. -/
lemma dispatchUrl_text_inj (hc : create token url = .ok c) (hweb : c.base.IsWeb)
    {q q' : DispatchRequest} (hq : ∀ n ∈ q.names, Url.IsUnbroken n ∧ ¬ Url.IsDotName n)
    (hq' : ∀ n ∈ q'.names, Url.IsUnbroken n ∧ ¬ Url.IsDotName n) :
    (c.dispatchUrl q).text = (c.dispatchUrl q').text ↔ q.names = q'.names := by
  have hinj := append_text_inj hc hweb (isUnbroken_place fun n hn => (hq n hn).1)
    (isUnbroken_place fun n hn => (hq' n hn).1)
  have hplace : (c.dispatchUrl q).text = (c.dispatchUrl q').text ↔
      (q.place.filter fun n => ¬ Url.IsDotName n) =
        q'.place.filter fun n => ¬ Url.IsDotName n := hinj
  rw [hplace, filter_place fun n hn => (hq n hn).2, filter_place fun n hn => (hq' n hn).2]
  simp [DispatchRequest.place, DispatchRequest.names]

/-- The address of a dispatch leads on where the one of a list ends. -/
lemma dispatchUrl_text_ne_listUrl_text (hc : create token url = .ok c) (hweb : c.base.IsWeb)
    {q : DispatchRequest} (hq : ∀ n ∈ q.names, Url.IsUnbroken n) {organization repository : String}
    (hlist : ∀ n ∈ [organization, repository], Url.IsUnbroken n) :
    (c.dispatchUrl q).text ≠ (c.listUrl organization repository).text := by
  intro h
  have hnames := (append_text_inj hc hweb (isUnbroken_place hq) (isUnbroken_listPlace hlist)).1 h
  have hdispatch : "repos" :: q.place.tail =
      ["repos", q.organization, q.repository, "actions", "workflows", q.workflow] ++
        ["dispatches"] := rfl
  have hworkflows : "repos" :: (listPlace organization repository).tail =
      ["repos", organization, repository, "actions"] ++ ["workflows"] := rfl
  rw [hdispatch, hworkflows, List.filter_append, List.filter_append] at hnames
  -- the last names are not those of dots, so they are kept, and they are different
  have hlast : (["dispatches"].filter fun n => ¬ Url.IsDotName n) =
      ["workflows"].filter fun n => ¬ Url.IsDotName n :=
    List.append_inj_right' hnames rfl
  exact absurd hlast (by decide)

/-- The calls of a client are confined to the place below its root that their names lead to,
and their addresses are told apart by the names.  This holds for every root on the web, and for
all names without tabs and line breaks: names can always be appended to the root, nothing but
its path changes, two dispatches without names of dots have one address only if they are for the
same workflow of the same repository and organization, and no dispatch has the address of a
list. -/
theorem endpoint_confined (hc : create token url = .ok c) (hweb : c.base.IsWeb)
    (q q' : DispatchRequest) (hq : ∀ n ∈ q.names, Url.IsUnbroken n)
    (hq' : ∀ n ∈ q'.names, Url.IsUnbroken n) (organization repository : String)
    (hlist : ∀ n ∈ [organization, repository], Url.IsUnbroken n) :
    c.base.isBase = true ∧
    c.Confines q.place (c.dispatchUrl q) ∧
    c.Confines (listPlace organization repository) (c.listUrl organization repository) ∧
    ((∀ n ∈ q.names ++ q'.names, ¬ Url.IsDotName n) →
      ((c.dispatchUrl q).text = (c.dispatchUrl q').text ↔
        q.organization = q'.organization ∧ q.repository = q'.repository ∧
          q.workflow = q'.workflow)) ∧
    (c.dispatchUrl q).text ≠ (c.listUrl organization repository).text := by
  refine ⟨isBase_of_create hc, confines_append hc hweb (isUnbroken_place hq),
    confines_append hc hweb (isUnbroken_listPlace hlist), fun hdots => ?_,
    dispatchUrl_text_ne_listUrl_text hc hweb hq hlist⟩
  rw [dispatchUrl_text_inj hc hweb
    (fun n hn => ⟨hq n hn, hdots n (List.mem_append_left _ hn)⟩)
    (fun n hn => ⟨hq' n hn, hdots n (List.mem_append_right _ hn)⟩)]
  simp [DispatchRequest.names]

/-- A repository with a slash in its name, and one whose name looks like the segment of this
name, have different addresses. -/
theorem endpoint_confined_slash :
    create "g" "http://[::1]" = .ok ⟨"g", Server.loopback⟩ ∧ Server.loopback.IsWeb ∧
    Server.loopback.isBase = true ∧
    (⟨"g", Server.loopback⟩ : Client).Confines (slashDispatch "a/b" "w").place
      ((⟨"g", Server.loopback⟩ : Client).dispatchUrl (slashDispatch "a/b" "w")) ∧
    (⟨"g", Server.loopback⟩ : Client).Confines (listPlace "o" "a?")
      ((⟨"g", Server.loopback⟩ : Client).listUrl "o" "a?") ∧
    ((⟨"g", Server.loopback⟩ : Client).dispatchUrl (slashDispatch "a/b" "w")).text ≠
      ((⟨"g", Server.loopback⟩ : Client).dispatchUrl (slashDispatch "a%2Fb" "w")).text ∧
    ((⟨"g", Server.loopback⟩ : Client).dispatchUrl (slashDispatch "a/b" "w")).text ≠
      ((⟨"g", Server.loopback⟩ : Client).listUrl "o" "a?").text := by
  obtain ⟨hbase, hdispatch, hlist, hinj, hne⟩ := endpoint_confined create_loopback
    Server.loopback_isWeb (slashDispatch "a/b" "w") (slashDispatch "a%2Fb" "w") (by decide)
    (by decide) "o" "a?" (by decide)
  refine ⟨create_loopback, Server.loopback_isWeb, hbase, hdispatch, hlist, fun h => ?_, hne⟩
  exact absurd ((hinj (by decide)).1 h).2.1 (by decide)

end Client

end Github

end ChatRelay
