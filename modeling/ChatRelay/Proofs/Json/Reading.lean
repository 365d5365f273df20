/-
# Documents and their values

Each state of the reader says which tokens have led to it, so that a document that is read has
the tokens of its value.  The other way round, the tokens of a value are read as this value
wherever a value may stand, by induction on the value.  Together with the lexer this makes the
reader one for exactly the documents of the grammar.
-/
import ChatRelay.Proofs.Json.Lexing

namespace ChatRelay.Json

/-! ## Items and members in a row -/

namespace Source

lemma itemTokens_cons_cons (v w : Source) (rest : List Source) :
    itemTokens (v :: w :: rest) = v.tokens ++ .comma :: itemTokens (w :: rest) := by
  rw [itemTokens]
  simp

lemma memberTokens_cons_cons (m m' : List UInt8 × Source) (rest : List (List UInt8 × Source)) :
    memberTokens (m :: m' :: rest) =
      .text m.1 :: .colon :: m.2.tokens ++ .comma :: memberTokens (m' :: rest) := by
  obtain ⟨name, v⟩ := m
  rw [memberTokens]
  simp

/-- The tokens of items and a comma behind each of them. -/
def itemsBefore (items : List Source) : List Token :=
  items.flatMap fun v => v.tokens ++ [.comma]

/-- The tokens of members and a comma behind each of them. -/
def membersBefore (members : List (List UInt8 × Source)) : List Token :=
  members.flatMap fun m => .text m.1 :: .colon :: m.2.tokens ++ [.comma]

@[simp] lemma itemsBefore_nil : itemsBefore [] = [] := rfl

@[simp] lemma itemsBefore_concat (items : List Source) (v : Source) :
    itemsBefore (items ++ [v]) = itemsBefore items ++ (v.tokens ++ [.comma]) := by
  simp [itemsBefore]

@[simp] lemma membersBefore_nil : membersBefore [] = [] := rfl

@[simp] lemma membersBefore_concat (members : List (List UInt8 × Source)) (name : List UInt8)
    (v : Source) :
    membersBefore (members ++ [(name, v)]) =
      membersBefore members ++ (.text name :: .colon :: v.tokens ++ [.comma]) := by
  simp [membersBefore]

/-- By induction on the items before the last one. -/
lemma itemTokens_concat (items : List Source) (v : Source) :
    itemTokens (items ++ [v]) = itemsBefore items ++ v.tokens := by
  induction items with
  | nil => rfl
  | cons w items ih =>
    have hrest : items ++ [v] ≠ [] := by simp
    obtain ⟨x, rest, hrest⟩ := List.exists_cons_of_ne_nil hrest
    rw [List.cons_append, hrest, itemTokens_cons_cons, ← hrest, ih]
    simp [itemsBefore]

/-- By induction on the members before the last one. -/
lemma memberTokens_concat (members : List (List UInt8 × Source)) (name : List UInt8)
    (v : Source) :
    memberTokens (members ++ [(name, v)]) =
      membersBefore members ++ .text name :: .colon :: v.tokens := by
  induction members with
  | nil => rfl
  | cons m members ih =>
    have hrest : members ++ [(name, v)] ≠ [] := by simp
    obtain ⟨x, rest, hrest⟩ := List.exists_cons_of_ne_nil hrest
    rw [List.cons_append, hrest, memberTokens_cons_cons, ← hrest, ih]
    simp [membersBefore]

end Source

open Source (itemTokens memberTokens itemsBefore membersBefore)

/-! ## What has been read -/

/-- The tokens of an open array or object up to the item or member that is being read. -/
def Frame.tokens : Frame → List Token
  | .array done => .openBracket :: itemsBefore done.reverse
  | .object done name => .openBrace :: membersBefore done.reverse ++ [.text name, .colon]

/-- The tokens of the open arrays and objects of a stack. -/
def stackTokens (stack : List Frame) : List Token := stack.reverse.flatMap Frame.tokens

@[simp] lemma stackTokens_cons (f : Frame) (stack : List Frame) :
    stackTokens (f :: stack) = stackTokens stack ++ f.tokens := by
  simp [stackTokens]

namespace Reading

/-- The tokens that have led to a state of the reader. -/
def tokens : Reading → List Token
  | value stack => stackTokens stack
  | firstItem stack => stackTokens stack ++ [.openBracket]
  | firstName stack => stackTokens stack ++ [.openBrace]
  | .name done stack => stackTokens stack ++ .openBrace :: membersBefore done.reverse
  | colon done k stack =>
    stackTokens stack ++ .openBrace :: membersBefore done.reverse ++ [.text k]
  | after v stack => stackTokens stack ++ v.tokens

lemma tokens_begin {stack : List Frame} {t : Token} {r : Reading}
    (hbegin : begin stack t = some r) :
    r.tokens = (value stack).tokens ++ [t] := by
  cases t <;> cases hbegin <;> rfl

/-- One step reads one token. -/
lemma tokens_step {r r' : Reading} {t : Token} (hstep : r.step t = some r') :
    r'.tokens = r.tokens ++ [t] := by
  cases r with
  | value stack => exact tokens_begin hstep
  | firstItem stack =>
    by_cases hclose : t = .closeBracket
    · subst hclose
      cases hstep
      simp [Reading.tokens, Source.tokens, itemTokens]
    · have hbegin : begin (.array [] :: stack) t = some r' := by
        rwa [step] at hstep
        exact hclose
      rw [tokens_begin hbegin]
      simp [Reading.tokens, Frame.tokens]
  | firstName stack =>
    cases t <;> cases hstep <;> simp [Reading.tokens, Source.tokens, memberTokens]
  | name done stack =>
    cases t <;> cases hstep
    simp [Reading.tokens]
  | colon done k stack =>
    cases t <;> cases hstep
    simp [Reading.tokens, Frame.tokens]
  | after v stack =>
    cases stack with
    | nil => cases hstep
    | cons f stack =>
      cases f with
      | array done =>
        cases t <;> cases hstep <;>
          simp [Reading.tokens, Frame.tokens, Source.tokens, Source.itemTokens_concat]
      | object done k =>
        cases t <;> cases hstep <;>
          simp [Reading.tokens, Frame.tokens, Source.tokens, Source.memberTokens_concat]

/-- By induction on the tokens, each of which is read by one step. -/
lemma tokens_foldlM {r r' : Reading} {ts : List Token}
    (hrun : ts.foldlM Reading.step r = some r') : r'.tokens = r.tokens ++ ts := by
  induction ts generalizing r with
  | nil =>
    cases hrun
    simp
  | cons t ts ih =>
    rw [List.foldlM_cons] at hrun
    obtain ⟨next, hstep, hrun⟩ := Option.bind_eq_some_iff.1 hrun
    rw [ih hrun, tokens_step hstep]
    simp

/-! ## Reading the tokens of a value -/

/-- The tokens of a value are read as this value, wherever a value may stand. -/
def ReadsBack (v : Source) : Prop :=
  ∀ stack, v.tokens.foldlM step (value stack) = some (after v stack)

lemma ReadsBack.append {v : Source} (hv : ReadsBack v) (stack : List Frame) (ts : List Token) :
    (v.tokens ++ ts).foldlM step (value stack) = ts.foldlM step (after v stack) := by
  rw [List.foldlM_append, hv, Option.bind_eq_bind, Option.bind_some]

lemma step_firstItem {t : Token} (hopen : t ≠ .closeBracket) (stack : List Frame) :
    (firstItem stack).step t = (value (.array [] :: stack)).step t := by
  rw [step, step]
  exact hopen

lemma exists_tokens_eq_cons (v : Source) : ∃ t ts, v.tokens = t :: ts ∧ t ≠ .closeBracket := by
  cases v with
  | null => exact ⟨.null, [], rfl, by simp⟩
  | bool b => exact ⟨.bool b, [], rfl, by simp⟩
  | number n => exact ⟨.number n, [], rfl, by simp⟩
  | text bs => exact ⟨.text bs, [], rfl, by simp⟩
  | array items => exact ⟨.openBracket, itemTokens items ++ [.closeBracket], rfl, by simp⟩
  | object members => exact ⟨.openBrace, memberTokens members ++ [.closeBrace], rfl, by simp⟩

lemma exists_itemTokens_eq_append (v : Source) (rest : List Source) :
    ∃ ts, itemTokens (v :: rest) = v.tokens ++ ts := by
  cases rest with
  | nil => exact ⟨[], (List.append_nil _).symm⟩
  | cons w rest => exact ⟨_, Source.itemTokens_cons_cons v w rest⟩

/-- After an opening bracket the first item is read like any other. -/
lemma foldlM_firstItem (v : Source) (ts : List Token) (stack : List Frame) :
    (v.tokens ++ ts).foldlM step (firstItem stack) =
      (v.tokens ++ ts).foldlM step (value (.array [] :: stack)) := by
  obtain ⟨t, ts', htokens, hopen⟩ := exists_tokens_eq_cons v
  rw [htokens, List.cons_append, List.foldlM_cons, List.foldlM_cons, step_firstItem hopen]

/-- By induction on the items, each of which is read inside the array. -/
lemma foldlM_itemTokens {v : Source} {rest : List Source}
    (hitems : ∀ w ∈ v :: rest, ReadsBack w) (done : List Source) (stack : List Frame) :
    (itemTokens (v :: rest) ++ [Token.closeBracket]).foldlM step (value (.array done :: stack)) =
      some (after (.array (done.reverse ++ v :: rest)) stack) := by
  induction rest generalizing v done with
  | nil =>
    have hv := hitems v (.head _)
    rw [itemTokens, hv.append]
    simp [step]
  | cons w rest ih =>
    have hv := hitems v (.head _)
    have hrest : ∀ x ∈ w :: rest, ReadsBack x := fun x hx => hitems x (.tail v hx)
    rw [Source.itemTokens_cons_cons, List.append_assoc, hv.append]
    -- behind the comma the array has one more item
    have hread := ih hrest (v :: done)
    rw [List.reverse_cons, List.append_assoc, List.singleton_append] at hread
    exact hread

lemma foldlM_member {k : List UInt8} {v : Source} {done : List (List UInt8 × Source)}
    {r : Reading} {stack : List Frame} (hv : ReadsBack v)
    (hname : r.step (.text k) = some (colon done k stack)) (ts : List Token) :
    (.text k :: .colon :: v.tokens ++ ts).foldlM step r =
      ts.foldlM step (after v (.object done k :: stack)) := by
  rw [← hv.append, List.cons_append, List.foldlM_cons, hname]
  rfl

/-- By induction on the members, the first of which may be the first of the object. -/
lemma foldlM_memberTokens {m : List UInt8 × Source} {rest done : List (List UInt8 × Source)}
    {r : Reading} {stack : List Frame} (hmembers : ∀ m' ∈ m :: rest, ReadsBack m'.2)
    (hname : ∀ k, r.step (.text k) = some (colon done k stack)) :
    (memberTokens (m :: rest) ++ [Token.closeBrace]).foldlM step r =
      some (after (.object (done.reverse ++ m :: rest)) stack) := by
  induction rest generalizing m r done with
  | nil =>
    have hv := hmembers m (.head _)
    rw [memberTokens, foldlM_member hv (hname m.1)]
    simp [step]
  | cons m' rest ih =>
    have hv := hmembers m (.head _)
    have hrest : ∀ x ∈ m' :: rest, ReadsBack x.2 := fun x hx => hmembers x (.tail m hx)
    rw [Source.memberTokens_cons_cons, List.append_assoc, foldlM_member hv (hname m.1)]
    -- behind the comma the object has one more member
    have hread := ih (r := .name (m :: done) stack) hrest (fun _ => rfl)
    rw [List.reverse_cons, List.append_assoc, List.singleton_append] at hread
    exact hread

/-- The tokens of a value are read as this value. -/
theorem readsBack (v : Source) : ReadsBack v := by
  induction v using Source.induction with
  | null => exact fun _ => rfl
  | bool b => exact fun _ => rfl
  | number n => exact fun _ => rfl
  | text bs => exact fun _ => rfl
  | array items ih =>
    intro stack
    cases items with
    | nil => rfl
    | cons v rest =>
      have hitems := foldlM_itemTokens ih [] stack
      obtain ⟨ts, hts⟩ := exists_itemTokens_eq_append v rest
      rw [hts, List.append_assoc, ← foldlM_firstItem, ← List.append_assoc, ← hts] at hitems
      exact hitems
  | object members ih =>
    intro stack
    cases members with
    | nil => rfl
    | cons m rest => exact foldlM_memberTokens (r := firstName stack) ih (fun _ => rfl)

/-! ## Tokens side by side -/

/-- After a word a value has been read. -/
lemma eq_after_of_isWord {r r' : Reading} {t : Token} (hword : t.isWord = true)
    (hstep : r.step t = some r') : ∃ v stack, r' = after v stack := by
  have hbegin {stack : List Frame} (h : begin stack t = some r') :
      ∃ v stack, r' = after v stack := by
    cases t <;> cases hword <;> cases h <;> exact ⟨_, _, rfl⟩
  cases r with
  | value stack => exact hbegin hstep
  | firstItem stack =>
    have hopen : t ≠ .closeBracket := by
      rintro rfl
      cases hword
    rw [step_firstItem hopen] at hstep
    exact hbegin hstep
  | firstName stack => cases t <;> cases hword <;> cases hstep
  | name done stack => cases t <;> cases hword <;> cases hstep
  | colon done k stack => cases t <;> cases hword <;> cases hstep
  | after v stack =>
    rcases stack with _ | ⟨_ | _, stack⟩ <;> cases t <;> cases hword <;> cases hstep

/-- After a value no word is read. -/
lemma isWord_eq_false_of_after {v : Source} {stack : List Frame} {t : Token} {r : Reading}
    (hstep : (after v stack).step t = some r) : t.isWord = false := by
  rcases stack with _ | ⟨_ | _, stack⟩ <;> cases t <;> cases hstep <;> rfl

/-- By induction on the tokens: those that are read have no two words side by side. -/
lemma isChain_apart {r r' : Reading} {ts : List Token} (hrun : ts.foldlM step r = some r') :
    ts.IsChain Token.Apart := by
  induction ts generalizing r with
  | nil => exact .nil
  | cons t ts ih =>
    rw [List.foldlM_cons] at hrun
    obtain ⟨next, hstep, hrun⟩ := Option.bind_eq_some_iff.1 hrun
    cases ts with
    | nil => exact .singleton t
    | cons t' ts =>
      refine .cons_cons ?_ (ih hrun)
      rw [List.foldlM_cons] at hrun
      obtain ⟨_, hstep', -⟩ := Option.bind_eq_some_iff.1 hrun
      rw [Token.Apart]
      by_cases hword : t.isWord = true
      · obtain ⟨v, stack, rfl⟩ := eq_after_of_isWord hword hstep
        rw [isWord_eq_false_of_after hstep', Bool.and_false]
      · simp [hword]

end Reading

/-! ## Documents -/

lemma Reading.result?_eq_some_iff {r : Reading} {v : Source} :
    r.result? = some v ↔ r = .after v [] := by
  unfold result?
  split <;> simp_all

/-- The documents that are read are those of the grammar. -/
theorem read?_eq_some_iff {bs : List UInt8} {v : Source} :
    read? bs = some v ↔ v.WrittenAs bs := by
  constructor
  · intro hread
    obtain ⟨ts, hts, hread⟩ := Option.bind_eq_some_iff.1 hread
    obtain ⟨r, hrun, hresult⟩ := Option.bind_eq_some_iff.1 hread
    obtain rfl := Reading.result?_eq_some_iff.1 hresult
    have htokens : v.tokens = ts := Reading.tokens_foldlM hrun
    rw [Source.WrittenAs, htokens]
    exact laidOut_of_tokens? hts
  · intro hbs
    have hrun := Reading.readsBack v []
    have hts := tokens?_of_laidOut hbs (Reading.isChain_apart hrun)
    rw [read?, hts, Option.bind_eq_bind, Option.bind_some, hrun]
    rfl

/-- The documents that are read and kept are those of the grammar all of whose parts have a
meaning. -/
theorem readKept?_eq_some_iff {bs : List UInt8} {v : Source} :
    readKept? bs = some v ↔ v.WrittenAs bs ∧ keepable maxDepth v = true := by
  rw [readKept?, Option.filter_eq_some_iff, read?_eq_some_iff]

end ChatRelay.Json
