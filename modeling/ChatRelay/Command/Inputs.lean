/-
# Workflow inputs

The inputs of a workflow are values under names.  They are kept in the order of their
names, compared by code points, and each name occurs once, so that equal inputs are equal
values and have one written form.
-/

namespace ChatRelay

/-! ## Entries in the order of their names -/

namespace Inputs

/-- The order of entries by name. -/
def Ordered (entries : List (String × String)) : Prop :=
  entries.Pairwise fun p q => p.1 < q.1

instance (entries : List (String × String)) : Decidable (Ordered entries) :=
  inferInstanceAs (Decidable (entries.Pairwise fun p q => p.1 < q.1))

/-- Put a value under a name, in place of the value that is there. -/
def put (name value : String) : List (String × String) → List (String × String)
  | [] => [(name, value)]
  | p :: rest =>
    if name < p.1 then (name, value) :: p :: rest
    else if name = p.1 then (name, value) :: rest
    else p :: put name value rest

theorem mem_put {name value : String} {p : String × String} {es : List (String × String)}
    (h : p ∈ put name value es) : p = (name, value) ∨ p ∈ es := by
  induction es with
  | nil => simpa [put] using h
  | cons q rest ih =>
    simp only [put] at h
    split at h
    · simpa using h
    · split at h
      · rcases List.mem_cons.1 h with h | h
        · exact .inl h
        · exact .inr (List.mem_cons_of_mem _ h)
      · rcases List.mem_cons.1 h with h | h
        · exact .inr (h ▸ List.mem_cons_self ..)
        · exact (ih h).imp_right (List.mem_cons_of_mem _)

theorem ordered_put {name value : String} {es : List (String × String)} (h : Ordered es) :
    Ordered (put name value es) := by
  induction es with
  | nil => simp [put, Ordered]
  | cons q rest ih =>
    obtain ⟨hq, hrest⟩ := List.pairwise_cons.1 h
    simp only [put]
    split
    · rename_i hlt
      refine List.pairwise_cons.2 ⟨fun p hp => ?_, h⟩
      rcases List.mem_cons.1 hp with rfl | hp
      · exact hlt
      · exact String.lt_trans hlt (hq p hp)
    · split
      · rename_i _ heq
        exact List.pairwise_cons.2 ⟨fun p hp => heq ▸ hq p hp, hrest⟩
      · rename_i hnlt hne
        refine List.pairwise_cons.2 ⟨fun p hp => ?_, ih hrest⟩
        rcases mem_put hp with rfl | hp
        · exact Std.lt_of_le_of_ne hnlt (Ne.symm hne)
        · exact hq p hp

end Inputs

/-! ## Inputs -/

/-- Values under names, in the order of the names. -/
structure Inputs where
  entries : List (String × String)
  ordered : Inputs.Ordered entries
deriving DecidableEq

namespace Inputs

instance : Repr Inputs := ⟨fun i n => reprPrec i.entries n⟩

theorem eq_of_entries {i j : Inputs} (h : i.entries = j.entries) : i = j := by
  cases i
  cases j
  cases h
  rfl

def empty : Inputs := ⟨[], List.Pairwise.nil⟩

def get? (i : Inputs) (name : String) : Option String := i.entries.lookup name

/-- Put a value under a name, in place of the value that is there. -/
def insert (i : Inputs) (name value : String) : Inputs :=
  ⟨put name value i.entries, ordered_put i.ordered⟩

/-- The inputs of a list of names with values: the last value of a name counts. -/
def ofList (pairs : List (String × String)) : Inputs :=
  pairs.foldl (fun i p => i.insert p.1 p.2) empty

/-- Add tokens that alternate between a name and its value; a name at the end without a
value is dropped. -/
def addTokens (i : Inputs) : List String → Inputs
  | name :: value :: rest => (i.insert name value).addTokens rest
  | _ => i

/-- The inputs that tokens name, two by two. -/
def ofTokens (tokens : List String) : Inputs := empty.addTokens tokens

end Inputs

end ChatRelay
