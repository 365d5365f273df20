/-
# References at the start of a text

A text for the bot begins with a reference to it, an id between `<@` and `>`, perhaps behind
blanks.  One reference is taken from the start of a text, with the blanks around what is left.
A second reference stays where it is, and so does what only begins like one.  Since blanks
at the ends do not matter to commands, the command that is read is the one behind the reference.
-/
import ChatRelay.Command.Mention
import ChatRelay.Proofs.Text.Spacing

namespace ChatRelay

open Text

/-! ## References -/

/-- A reference: an id, and the first `>` behind it ends it. -/
inductive IsReference : List Char → Prop
  | mk {id : List Char} : '>' ∉ id → IsReference ('<' :: '@' :: id ++ ['>'])

/-- A text begins with a reference, perhaps behind blanks, and goes on with a rest. -/
inductive Addressed (rest : List Char) : List Char → Prop
  | mk {blanks m : List Char} : (∀ c ∈ blanks, isBlank c = true) → IsReference m →
      Addressed rest (blanks ++ m ++ rest)

variable {text : String} {s m rest blanks : List Char}

lemma afterReference?_eq_some_iff :
    afterReference? s = some rest ↔ ∃ m, IsReference m ∧ s = m ++ rest := by
  constructor
  · intro h
    unfold afterReference? at h
    split at h
    · rename_i behind
      split at h
      · rename_i c after hdrop
        cases h
        obtain ⟨rfl, id, hid, rfl⟩ := dropWhile_ne_eq_cons_iff.1 hdrop
        exact ⟨_, .mk hid, by simp⟩
      · cases h
    · cases h
  · rintro ⟨m, ⟨hid⟩, rfl⟩
    rename_i id
    have hdrop : (id ++ '>' :: rest).dropWhile (· != '>') = '>' :: rest :=
      dropWhile_ne_eq_cons_iff.2 ⟨rfl, id, hid, rfl⟩
    have hlist : '<' :: '@' :: id ++ ['>'] ++ rest = '<' :: '@' :: (id ++ '>' :: rest) := by simp
    rw [hlist, afterReference?, hdrop]

/-! ## What is left of a text -/

/-- The blanks behind the rest of a text are trimmed, and those before its reference. -/
lemma trim_addressed (hblanks : ∀ c ∈ blanks, isBlank c = true) (hm : IsReference m) :
    trim (blanks ++ m ++ rest) = m ++ trimEnd rest := by
  obtain ⟨after, hrest, hafter⟩ := exists_eq_trimEnd rest
  obtain ⟨hid⟩ := hm
  rw [trim_eq_iff]
  refine ⟨⟨blanks, after, ?_, hblanks, hafter⟩, fun c hc => ?_, fun c hc => ?_⟩
  · conv_lhs => rw [hrest]
    simp only [List.append_assoc]
  · cases hc
    decide
  · rw [List.getLast?_append] at hc
    rcases Option.or_eq_some_iff.1 hc with hc | ⟨-, hc⟩
    · exact getLast?_trimEnd c hc
    · rw [List.getLast?_concat] at hc
      cases hc
      decide

lemma trim_trimEnd (s : List Char) : trim (trimEnd s) = trim s := by
  obtain ⟨after, hs, hafter⟩ := exists_eq_trimEnd s
  obtain ⟨⟨before, after', hmiddle, hbefore, hafter'⟩, hfirst, hlast⟩ :=
    trim_eq_iff.1 (rfl : trim (trimEnd s) = _)
  refine (trim_eq_iff.2 ⟨⟨before, after' ++ after, ?_, hbefore, ?_⟩, hfirst, hlast⟩).symm
  · rw [← List.append_assoc, ← hmiddle, ← hs]
  · exact List.forall_mem_append.2 ⟨hafter', hafter⟩

/-- The text that is addressed by a reference. -/
lemma stripMention_of_addressed (h : Addressed rest text.toList) :
    (stripMention text).toList = trim rest := by
  generalize htext : text.toList = s at h
  obtain ⟨hblanks, hm⟩ := h
  rename_i blanks m
  have hafter : afterReference? (trim (blanks ++ m ++ rest)) = some (trimEnd rest) :=
    afterReference?_eq_some_iff.2 ⟨m, hm, trim_addressed hblanks hm⟩
  rw [stripMention, htext, hafter, String.toList_ofList]
  exact trim_trimEnd rest

/-- A text that is not addressed by a reference is only trimmed. -/
lemma stripMention_of_afterReference?_eq_none (h : afterReference? (trim text.toList) = none) :
    stripMention text = trimmed text := by
  rw [stripMention, h, trimmed]

/-- A text begins with a reference if and only if its trimmed form does. -/
lemma exists_addressed_iff :
    (∃ rest, Addressed rest s) ↔ (afterReference? (trim s)).isSome := by
  rw [Option.isSome_iff_exists]
  constructor
  · rintro ⟨rest, h⟩
    obtain ⟨hblanks, hm⟩ := h
    exact ⟨_, afterReference?_eq_some_iff.2 ⟨_, hm, trim_addressed hblanks hm⟩⟩
  · rintro ⟨rest, h⟩
    obtain ⟨m, hm, htrim⟩ := afterReference?_eq_some_iff.1 h
    obtain ⟨blanks, after, hs, hblanks, -⟩ := exists_eq_trim s
    rw [htrim, ← List.append_assoc, List.append_assoc] at hs
    rw [hs]
    exact ⟨rest ++ after, .mk hblanks hm⟩

lemma stripMention_infix (text : String) : (stripMention text).toList <:+: text.toList := by
  have htrim (s : List Char) : trim s <:+: s := by
    obtain ⟨before, after, hs, -, -⟩ := exists_eq_trim s
    exact ⟨before, after, hs.symm⟩
  cases hafter : afterReference? (trim text.toList) with
  | none =>
    rw [stripMention_of_afterReference?_eq_none hafter, toList_trimmed]
    exact htrim _
  | some after =>
    obtain ⟨m, -, hsplit⟩ := afterReference?_eq_some_iff.1 hafter
    rw [stripMention, hafter, String.toList_ofList]
    have hpart : after <:+: trim text.toList := by
      rw [hsplit]
      exact (List.suffix_append m after).isInfix
    exact (htrim after).trans (hpart.trans (htrim _))

/-! ## What is taken away -/

/-- What becomes of a text and of the command in it. -/
structure StripsReference (text : String) : Prop where
  /-- Behind a reference all is left but the blanks at the ends. -/
  addressed : ∀ rest, Addressed rest text.toList → IsTrimmed (stripMention text).toList rest
  /-- Without a complete reference at its start, nothing but the blanks at the ends is taken from
  the text. -/
  other : (∀ rest, trim text.toList = '<' :: '@' :: rest → '>' ∉ rest) →
    IsTrimmed (stripMention text).toList text.toList
  addressed_iff : (∃ rest, Addressed rest text.toList) ↔
    ∃ rest, trim text.toList = '<' :: '@' :: rest ∧ '>' ∈ rest
  part : (stripMention text).toList <:+: text.toList
  first : ∀ c ∈ (stripMention text).toList.head?, isBlank c = false
  last : ∀ c ∈ (stripMention text).toList.getLast?, isBlank c = false
  /-- A second reference stays, and what is left begins with it. -/
  once : ∀ blanks m rest, (∀ c ∈ blanks, isBlank c = true) → IsReference m →
    Addressed (blanks ++ m ++ rest) text.toList → m <+: (stripMention text).toList
  /-- The command that is read is the one behind the reference. -/
  parse_addressed : ∀ rest : String, Addressed rest.toList text.toList →
    MentionCommand.parse (stripMention text) = MentionCommand.parse rest
  /-- Without a complete reference at its start, the command is the one in the text. -/
  parse_other : (¬ ∃ rest, Addressed rest text.toList) →
    MentionCommand.parse (stripMention text) = MentionCommand.parse text

lemma isSome_afterReference?_iff :
    (afterReference? s).isSome ↔ ∃ rest, s = '<' :: '@' :: rest ∧ '>' ∈ rest := by
  rw [Option.isSome_iff_exists]
  constructor
  · rintro ⟨rest, h⟩
    obtain ⟨m, ⟨hid⟩, rfl⟩ := afterReference?_eq_some_iff.1 h
    rename_i id
    exact ⟨id ++ '>' :: rest, by simp, by simp⟩
  · rintro ⟨rest, rfl, hmem⟩
    obtain ⟨id, after, rfl, hid⟩ := List.eq_append_cons_of_mem hmem
    exact ⟨after, afterReference?_eq_some_iff.2 ⟨_, .mk hid, by simp⟩⟩

lemma MentionCommand.parse_of_isTrimmed {text' : String}
    (h : IsTrimmed text'.toList text.toList) : parse text' = parse text := by
  rw [parse, parse, words_of_isTrimmed h]

/-- From every text at most one reference is taken, the one at its start, and the command in the
text is the one that is left. -/
theorem stripMention_takes_one (text : String) : StripsReference text := by
  have haddressed {rest : List Char} (h : Addressed rest text.toList) :
      IsTrimmed (stripMention text).toList rest :=
    trim_eq_iff.1 (stripMention_of_addressed h).symm
  have hother (h : afterReference? (trim text.toList) = none) :
      IsTrimmed (stripMention text).toList text.toList := by
    rw [stripMention_of_afterReference?_eq_none h, toList_trimmed]
    exact trim_eq_iff.1 rfl
  have htrimmed : ∃ s, IsTrimmed (stripMention text).toList s := by
    cases hafter : afterReference? (trim text.toList) with
    | none => exact ⟨_, hother hafter⟩
    | some after =>
      obtain ⟨rest, h⟩ := exists_addressed_iff.2 (Option.isSome_iff_exists.2 ⟨after, hafter⟩)
      exact ⟨rest, haddressed h⟩
  obtain ⟨s, hs⟩ := htrimmed
  refine ⟨fun rest => haddressed, fun h => hother ?_, ?_, stripMention_infix text, hs.first,
    hs.last, ?_, ?_, ?_⟩
  · rw [← Option.not_isSome_iff_eq_none, isSome_afterReference?_iff]
    rintro ⟨rest, htrim, hmem⟩
    exact h rest htrim hmem
  · rw [exists_addressed_iff, isSome_afterReference?_iff]
  · intro blanks m rest hblanks hm h
    rw [stripMention_of_addressed h, trim_addressed hblanks hm]
    exact List.prefix_append _ _
  · intro rest h
    exact MentionCommand.parse_of_isTrimmed (haddressed h)
  · intro h
    rw [exists_addressed_iff, Option.not_isSome_iff_eq_none] at h
    exact MentionCommand.parse_of_isTrimmed (hother h)

/-- A reference may hold what looks like the start of another one. -/
example : stripMention "\u3000<@U1<@ >\u00a0<@U2> help " = "<@U2> help" := by
  decide +kernel

end ChatRelay
