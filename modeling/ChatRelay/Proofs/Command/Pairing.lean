/-
# Inputs from pairs of tokens

The tokens behind a repository and a workflow are taken two by two: a token at an even position
is a name, and the one behind it is its value.  So whether a token is a name depends on where it
stands alone, a name that is repeated has its last value, and a name at the end without a value is
none.  Since an even number of tokens leaves nothing open, further tokens are as if they were put
over the others.
-/
import ChatRelay.Command.Action
import ChatRelay.Proofs.Text.Spacing
import Mathlib.Algebra.Group.Nat.Even
import Mathlib.Data.List.Induction
import Mathlib.Data.String.Basic

namespace ChatRelay

open Text (Spaced words words_eq_iff)

namespace Inputs

/-! ## Pairs -/

/-- A token at an even position is a name, and the one behind it is its value. -/
structure IsPair (tokens : List String) (i : Nat) (name value : String) : Prop where
  even : Even i
  name : tokens[i]? = some name
  value : tokens[i + 1]? = some value

/-- A value is in the last pair of a name. -/
def IsLast (tokens : List String) (name value : String) : Prop :=
  ∃ i, IsPair tokens i name value ∧ ∀ j v, IsPair tokens j name v → j ≤ i

variable {tokens rest : List String} {name value a b v w : String} {i : Nat} {m m' : Inputs}

lemma isPair_zero_iff : IsPair (a :: b :: rest) 0 name value ↔ name = a ∧ value = b := by
  constructor
  · rintro ⟨-, hname, hvalue⟩
    cases hname
    cases hvalue
    exact ⟨rfl, rfl⟩
  · rintro ⟨rfl, rfl⟩
    exact ⟨.zero, rfl, rfl⟩

lemma isPair_add_two_iff :
    IsPair (a :: b :: rest) (i + 2) name value ↔ IsPair rest i name value := by
  have heven : Even (i + 2) ↔ Even i := by
    rw [Nat.even_iff, Nat.even_iff, Nat.add_mod_right]
  constructor
  · rintro ⟨hi, hname, hvalue⟩
    exact ⟨heven.1 hi, hname, hvalue⟩
  · rintro ⟨hi, hname, hvalue⟩
    exact ⟨heven.2 hi, hname, hvalue⟩

/-- A pair is the first one, or it is a pair of the tokens behind the first one. -/
lemma isPair_cons_cons_iff : IsPair (a :: b :: rest) i name value ↔
    (i = 0 ∧ name = a ∧ value = b) ∨ ∃ j, i = j + 2 ∧ IsPair rest j name value := by
  rcases i with _ | _ | i
  · simp [isPair_zero_iff]
  · refine iff_of_false (fun h => Nat.not_even_one h.even) ?_
    rintro (⟨hi, -⟩ | ⟨j, hj, -⟩) <;> omega
  · simp [isPair_add_two_iff]

lemma not_isPair_of_length_lt (h : tokens.length < 2) : ¬ IsPair tokens i name value := by
  rintro ⟨-, -, hvalue⟩
  have hlt := (List.getElem?_eq_some_iff.1 hvalue).1
  omega

/-- The last pair of a name is behind the first pair, unless the name occurs there only. -/
lemma isLast_cons_cons_iff : IsLast (a :: b :: rest) name value ↔
    IsLast rest name value ∨ (∀ i v, ¬ IsPair rest i name v) ∧ name = a ∧ value = b := by
  constructor
  · rintro ⟨i, hpair, hlast⟩
    rcases isPair_cons_cons_iff.1 hpair with ⟨rfl, hfirst⟩ | ⟨j, rfl, hbehind⟩
    · refine .inr ⟨fun j v h => ?_, hfirst⟩
      have hle := hlast (j + 2) v (isPair_add_two_iff.2 h)
      omega
    · refine .inl ⟨j, hbehind, fun k v h => ?_⟩
      have hle := hlast (k + 2) v (isPair_add_two_iff.2 h)
      omega
  · rintro (⟨j, hpair, hlast⟩ | ⟨hnone, hfirst⟩)
    · refine ⟨j + 2, isPair_add_two_iff.2 hpair, fun k v h => ?_⟩
      rcases isPair_cons_cons_iff.1 h with ⟨rfl, -⟩ | ⟨k, rfl, hbehind⟩
      · omega
      · have hle := hlast k v hbehind
        omega
    · refine ⟨0, isPair_zero_iff.2 hfirst, fun k v h => ?_⟩
      rcases isPair_cons_cons_iff.1 h with ⟨rfl, -⟩ | ⟨k, rfl, hbehind⟩
      · exact Nat.le_refl 0
      · exact absurd hbehind (hnone k v)

/-! ## Looking up names -/

lemma lookup_cons_eq_ite (p : String × String) (es : List (String × String)) :
    (p :: es).lookup name = if name = p.1 then some p.2 else es.lookup name := by
  rw [List.lookup_cons]
  by_cases h : name = p.1
  · rw [if_pos h, h, beq_self_eq_true]
  · rw [if_neg h, beq_false_of_ne h]

/-- The value that is put counts, and those of the other names stay. -/
lemma lookup_put (es : List (String × String)) :
    (put a b es).lookup name = if name = a then some b else es.lookup name := by
  induction es with
  | nil => exact lookup_cons_eq_ite (a, b) []
  | cons p rest ih =>
    simp only [put]
    split
    · rw [lookup_cons_eq_ite]
    · split
      · rename_i heq
        rw [lookup_cons_eq_ite, lookup_cons_eq_ite p, ← heq]
        split_ifs <;> rfl
      · rename_i hne
        rw [lookup_cons_eq_ite, lookup_cons_eq_ite, ih]
        -- the name is not both the one that is put and the first one that is there
        split_ifs with hfirst hput
        · exact absurd (hput.symm.trans hfirst) hne
        all_goals rfl

lemma get?_insert : (m.insert a b).get? name = if name = a then some b else m.get? name :=
  lookup_put m.entries

/-- The entries are the names with their values. -/
lemma mem_entries_iff : (name, value) ∈ m.entries ↔ m.get? name = some value := by
  rw [get?, List.lookup_eq_some_iff]
  constructor
  · intro h
    obtain ⟨before, after, hsplit⟩ := List.append_of_mem h
    refine ⟨before, after, hsplit, fun p hp => ?_⟩
    -- the names before the entry are less than its own
    have hordered : Ordered (before ++ (name, value) :: after) := hsplit ▸ m.ordered
    have hlt : p.1 < name := (List.pairwise_append.1 hordered).2.2 p hp _ (.head after)
    simpa using fun heq : name = p.1 => String.lt_irrefl p.1 (heq ▸ hlt)
  · rintro ⟨before, after, hsplit, -⟩
    rw [hsplit]
    simp

/-- Inputs with the same values are the same. -/
lemma eq_of_get? (h : ∀ name, m.get? name = m'.get? name) : m = m' := by
  have hnodup (m : Inputs) : m.entries.Nodup := by
    refine m.ordered.imp ?_
    rintro p q hlt rfl
    exact String.lt_irrefl _ hlt
  have hperm : m.entries.Perm m'.entries := by
    rw [List.perm_ext_iff_of_nodup (hnodup m) (hnodup m')]
    rintro ⟨name, value⟩
    rw [mem_entries_iff, mem_entries_iff, h]
  refine eq_of_entries (hperm.eq_of_pairwise ?_ m.ordered m'.ordered)
  intro p q _ _ hlt hlt'
  exact absurd (String.lt_trans hlt hlt') (String.lt_irrefl p.1)

/-! ## Tokens -/

lemma get?_addTokens (tokens : List String) (m : Inputs) (name : String) :
    (m.addTokens tokens).get? name = ((ofTokens tokens).get? name).or (m.get? name) := by
  -- two tokens at a time: the values behind the first pair come before it, and it before `m`
  induction tokens using List.twoStepInduction generalizing m with
  | nil => rfl
  | singleton a => rfl
  | cons_cons a b rest ih _ =>
    have hone : (ofTokens (a :: b :: rest)).get? name = _ := ih (empty.insert a b)
    rw [hone, addTokens, ih, get?_insert, get?_insert, Option.or_assoc]
    split_ifs <;> rfl

lemma get?_ofTokens_cons_cons : (ofTokens (a :: b :: rest)).get? name =
    ((ofTokens rest).get? name).or (if name = a then some b else none) := by
  have hone := get?_addTokens rest (empty.insert a b) name
  rwa [get?_insert] at hone

/-- An even number of tokens leaves no name without a value. -/
lemma addTokens_append (h : Even tokens.length) (m : Inputs) (rest : List String) :
    m.addTokens (tokens ++ rest) = (m.addTokens tokens).addTokens rest := by
  induction tokens using List.twoStepInduction generalizing m with
  | nil => rfl
  | singleton a => exact absurd h Nat.not_even_one
  | cons_cons a b tokens ih _ =>
    refine ih ?_ (m.insert a b)
    rw [List.length_cons, List.length_cons, Nat.even_iff, Nat.add_assoc, Nat.add_mod_right] at h
    exact Nat.even_iff.2 h

/-- By induction on the tokens, two at a time. -/
lemma get?_ofTokens_eq_none_iff : (ofTokens tokens).get? name = none ↔
    ∀ i v, ¬ IsPair tokens i name v := by
  induction tokens using List.twoStepInduction with
  | nil => exact iff_of_true rfl fun _ _ => not_isPair_of_length_lt (by decide)
  | singleton a => exact iff_of_true rfl fun _ _ => not_isPair_of_length_lt Nat.one_lt_two
  | cons_cons a b rest ih _ =>
    rw [get?_ofTokens_cons_cons, Option.or_eq_none_iff, ih]
    constructor
    · rintro ⟨hrest, hfirst⟩ i v h
      rcases isPair_cons_cons_iff.1 h with ⟨-, rfl, -⟩ | ⟨j, -, hbehind⟩
      · simp at hfirst
      · exact hrest j v hbehind
    · intro h
      refine ⟨fun i v hbehind => h (i + 2) v (isPair_add_two_iff.2 hbehind), if_neg ?_⟩
      rintro rfl
      exact h 0 b (isPair_zero_iff.2 ⟨rfl, rfl⟩)

/-- By induction on the tokens, two at a time. -/
lemma get?_ofTokens_eq_some_iff : (ofTokens tokens).get? name = some value ↔
    IsLast tokens name value := by
  have hshort {tokens : List String} (hlt : tokens.length < 2) : ¬ IsLast tokens name value := by
    rintro ⟨i, hpair, -⟩
    exact not_isPair_of_length_lt hlt hpair
  induction tokens using List.twoStepInduction with
  | nil => exact iff_of_false nofun (hshort (by decide))
  | singleton a => exact iff_of_false nofun (hshort Nat.one_lt_two)
  | cons_cons a b rest ih _ =>
    have hfirst : (if name = a then some b else none) = some value ↔ name = a ∧ value = b := by
      split_ifs with h <;> simp [h, eq_comm]
    rw [get?_ofTokens_cons_cons, isLast_cons_cons_iff, Option.or_eq_some_iff,
      get?_ofTokens_eq_none_iff, hfirst]
    exact or_congr_left ih

end Inputs

/-! ## The words of the slash command -/

namespace ActionCommand

variable {ws : List String} {repository workflow : String} {inputs : Inputs}

lemma ofWords?_eq_none_iff : ofWords? ws = none ↔ ws.length < 2 := by
  rcases ws with _ | ⟨repository, _ | ⟨workflow, tokens⟩⟩ <;> simp [ofWords?]

lemma ofWords?_eq_some_iff : ofWords? ws = some ⟨repository, workflow, inputs⟩ ↔
    ∃ tokens, ws = repository :: workflow :: tokens ∧ inputs = .ofTokens tokens := by
  constructor
  · intro h
    unfold ofWords? at h
    split at h <;> cases h
    exact ⟨_, rfl, rfl⟩
  · rintro ⟨tokens, rfl, rfl⟩
    rfl

end ActionCommand

/-! ## What tokens stand for -/

namespace Inputs

/-- What is made of some tokens. -/
structure Pairs (tokens : List String) : Prop where
  /-- A name has the value of its last pair. -/
  some_iff : ∀ name value, (ofTokens tokens).get? name = some value ↔ IsLast tokens name value
  /-- Without a pair it has none. -/
  none_iff : ∀ name, (ofTokens tokens).get? name = none ↔ ∀ i v, ¬ IsPair tokens i name v
  /-- There is an entry for each name with a value, and no other. -/
  entries : ∀ name value, (name, value) ∈ (ofTokens tokens).entries ↔
    (ofTokens tokens).get? name = some value
  /-- The names increase strictly, character by character in the order of their code points. -/
  increasing : (ofTokens tokens).entries.Pairwise fun p q =>
    p.1.toList.map Char.toNat < q.1.toList.map Char.toNat
  /-- Behind an even number of tokens, one more makes no difference. -/
  unpaired : Even tokens.length → ∀ token, ofTokens (tokens ++ [token]) = ofTokens tokens
  /-- Behind an even number of tokens, further ones are as if they were put over the others. -/
  further : Even tokens.length → ∀ rest m, m = ofTokens (tokens ++ rest) ↔
    ∀ name, m.get? name = ((ofTokens rest).get? name).or ((ofTokens tokens).get? name)

lemma points_lt_of_lt {a b : String} (h : a < b) :
    a.toList.map Char.toNat < b.toList.map Char.toNat :=
  List.map_lt (fun _ _ hlt => hlt) (String.lt_iff_toList_lt.1 h)

/-- The arguments of the slash command are its words: the first two name a repository and a
workflow, and the others are taken in pairs. -/
theorem arguments_paired :
    (∀ tokens, Pairs tokens) ∧
    (∀ text, ActionCommand.parse? text = none ↔ ∃ ws, Spaced ws text.toList ∧ ws.length < 2) ∧
    ∀ text repository workflow inputs,
      ActionCommand.parse? text = some ⟨repository, workflow, inputs⟩ ↔
        ∃ tokens, Spaced (repository :: workflow :: tokens) text.toList ∧
          inputs = ofTokens tokens := by
  refine ⟨fun tokens => ?_, fun text => ?_, fun text repository workflow inputs => ?_⟩
  · refine ⟨fun _ _ => get?_ofTokens_eq_some_iff, fun _ => get?_ofTokens_eq_none_iff,
      fun _ _ => mem_entries_iff, (ofTokens tokens).ordered.imp points_lt_of_lt,
      fun heven token => addTokens_append heven empty [token], fun heven rest m => ?_⟩
    have hget (name : String) : (ofTokens (tokens ++ rest)).get? name =
        ((ofTokens rest).get? name).or ((ofTokens tokens).get? name) := by
      rw [ofTokens, addTokens_append heven, get?_addTokens]
      rfl
    refine ⟨?_, fun h => eq_of_get? fun name => (h name).trans (hget name).symm⟩
    rintro rfl
    exact hget
  · simp only [← words_eq_iff, exists_eq_left']
    exact ActionCommand.ofWords?_eq_none_iff
  · simp only [← words_eq_iff]
    exact ActionCommand.ofWords?_eq_some_iff

/-- A value is no name, even if it is written like one. -/
example : (ofTokens ["a", "b", "b", "c", "a", "a", "b"]).entries = [("a", "a"), ("b", "c")] := by
  decide

end Inputs

end ChatRelay
