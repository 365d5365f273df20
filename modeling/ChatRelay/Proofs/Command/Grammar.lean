/-
# The grammar of mention commands

A command is written as its verb and its arguments, with any blanks between them, and further
words behind them do not matter.  So a text is a command exactly if the words of the command
come first in it, and a text that is no command is rejected for one of three reasons: it has no
words, or its first word is not a verb, or it begins with a verb that needs more words.
-/
import ChatRelay.Command.Mention
import ChatRelay.Proofs.Text.Spacing

namespace ChatRelay

open Text (IsWord Spaced words words_eq_iff exists_spaced_of_isWord)

/-! ## Verbs -/

namespace Verb

variable {w : String} {v : Verb}

lemma ofName?_eq_some_iff : ofName? w = some v ↔ w = v.name := by
  constructor
  · intro h
    have hname := List.find?_some h
    exact (beq_iff_eq.1 hname).symm
  · rintro rfl
    exact ofName?_name v

lemma ofName?_eq_none_iff : ofName? w = none ↔ w ∉ ["deploy", "build", "test", "help"] := by
  have hnames : ["deploy", "build", "test", "help"] = all.map name := rfl
  rw [ofName?, List.find?_eq_none, hnames, List.mem_map, not_exists]
  simp

end Verb

namespace MentionCommand

/-! ## What words stand for -/

/-- The arguments of a command, in the order in which they are written. -/
def arguments : MentionCommand → List String
  | deploy environment service => [environment, service]
  | build service => [service]
  | test service => [service]
  | help => []

/-- The words that a command is written as: its verb and its arguments. -/
def toWords (c : MentionCommand) : List String := c.verb.name :: c.arguments

/-- What a text made of some words stands for. -/
inductive Reads : List String → Except Rejection MentionCommand → Prop
  /-- The words of a command stand for it, whatever follows. -/
  | command (c : MentionCommand) (rest : List String) : Reads (c.toWords ++ rest) (.ok c)
  | empty : Reads [] (.error .empty)
  /-- The first word is not a verb, in exactly these letters. -/
  | unknownVerb {w : String} (rest : List String) :
      w ∉ ["deploy", "build", "test", "help"] → Reads (w :: rest) (.error (.unknownVerb w))
  /-- The first word is a verb, but no command begins like this. -/
  | usage (v : Verb) (rest : List String) :
      (∀ c : MentionCommand, ¬ c.toWords <+: v.name :: rest) →
      Reads (v.name :: rest) (.error (.usage v))

variable {v : Verb} {ws : List String} {c : MentionCommand}
  {outcome : Except Rejection MentionCommand}

/-- A verb with some words behind it is a command whose arguments come first among these
words. -/
lemma ofArguments?_eq_some_iff : ofArguments? v ws = some c ↔ c.verb = v ∧ c.arguments <+: ws := by
  constructor
  · intro h
    unfold ofArguments? at h
    split at h <;> cases h <;> simp [verb, arguments]
  · rintro ⟨rfl, rest, rfl⟩
    cases c <;> rfl

lemma toWords_prefix_iff : c.toWords <+: v.name :: ws ↔ ofArguments? v ws = some c := by
  rw [ofArguments?_eq_some_iff, toWords, List.cons_prefix_cons]
  refine and_congr_left fun _ => ⟨fun hname => ?_, congrArg Verb.name⟩
  have hverb := Verb.ofName?_name c.verb
  rw [hname, Verb.ofName?_name] at hverb
  exact (Option.some.inj hverb).symm

lemma ofWords_name (v : Verb) (rest : List String) :
    ofWords (v.name :: rest) = (ofArguments? v rest).elim (.error (.usage v)) .ok := by
  simp only [ofWords, Verb.ofName?_name]
  cases ofArguments? v rest <;> rfl

/-- Words are read as what they stand for, and as nothing else. -/
lemma ofWords_eq_iff : ofWords ws = outcome ↔ Reads ws outcome := by
  constructor
  · rintro rfl
    cases ws with
    | nil => exact .empty
    | cons first rest =>
      cases hverb : Verb.ofName? first with
      | none =>
        rw [ofWords, hverb]
        exact .unknownVerb rest (Verb.ofName?_eq_none_iff.1 hverb)
      | some v =>
        obtain rfl := Verb.ofName?_eq_some_iff.1 hverb
        rw [ofWords_name]
        cases hcommand : ofArguments? v rest with
        | none =>
          refine .usage v rest fun c hc => ?_
          rw [toWords_prefix_iff.1 hc] at hcommand
          cases hcommand
        | some c =>
          obtain ⟨extra, hextra⟩ := toWords_prefix_iff.2 hcommand
          rw [← hextra]
          exact .command c extra
  · intro h
    cases h with
    | command c rest =>
      have hprefix : c.toWords <+: c.verb.name :: (c.arguments ++ rest) := List.prefix_append _ _
      rw [toWords, List.cons_append, ofWords_name, toWords_prefix_iff.1 hprefix]
      rfl
    | empty => rfl
    | unknownVerb rest hw => rw [ofWords, Verb.ofName?_eq_none_iff.2 hw]
    | usage v rest hnone =>
      have hcommand : ofArguments? v rest = none :=
        Option.eq_none_iff_forall_ne_some.2 fun c hc => hnone c (toWords_prefix_iff.2 hc)
      rw [ofWords_name, hcommand]
      rfl

/-! ## What a text stands for -/

/-- What is read from a text, which is made of some words. -/
structure Grammar (text : String) (ws : List String) : Prop where
  /-- The text is made of these words alone. -/
  words : ∀ ws', Spaced ws' text.toList ↔ ws' = ws
  /-- It is read as what they stand for. -/
  outcome : ∀ outcome, parse text = outcome ↔ Reads ws outcome
  /-- Other blanks around the same words make no difference. -/
  respaced : ∀ text' : String, Spaced ws text'.toList → parse text' = parse text
  /-- The arguments of a command are words. -/
  arguments : ∀ c, parse text = .ok c → ∀ w ∈ c.arguments, IsWord w
  /-- A command can be written as its verb and its arguments, with further words behind them, and
  it is read from every text that is made of these words. -/
  written : ∀ c, parse text = .ok c → ∀ extra, (∀ w ∈ extra, IsWord w) →
    (∃ text' : String, Spaced (c.toWords ++ extra) text'.toList) ∧
      ∀ text' : String, Spaced (c.toWords ++ extra) text'.toList → parse text' = .ok c

lemma parse_eq_iff {text : String} (h : Spaced ws text.toList) :
    parse text = outcome ↔ Reads ws outcome := by
  rw [parse, words_eq_iff.2 h, ofWords_eq_iff]

/-- Every text is read by the grammar: as a command exactly if the words of the command come
first in it, and else it is rejected for the reason that its words give. -/
theorem parse_grammar (text : String) : ∃ ws, Grammar text ws := by
  have hwords : Spaced (words text) text.toList := words_eq_iff.1 rfl
  -- the words of a command that is read come first in the text
  have hread {c : MentionCommand} (hc : parse text = .ok c) : ∀ w ∈ c.toWords, IsWord w := by
    intro w hw
    have hreads := (parse_eq_iff hwords).1 hc
    generalize hws : words text = ws at hreads hwords
    cases hreads
    exact hwords.isWord w (List.mem_append_left _ hw)
  refine ⟨words text, ?_, fun outcome => parse_eq_iff hwords, ?_, ?_, ?_⟩
  · intro ws'
    rw [← words_eq_iff, eq_comm]
  · intro text' htext'
    exact (parse_eq_iff htext').2 ((parse_eq_iff hwords).1 rfl)
  · intro c hc w hw
    exact hread hc w (.tail _ hw)
  · intro c hc extra hextra
    refine ⟨exists_spaced_of_isWord ?_, fun text' htext' => ?_⟩
    · exact List.forall_mem_append.2 ⟨hread hc, hextra⟩
    · exact (parse_eq_iff htext').2 (.command c extra)

/-- A space of no width is none of the blanks. -/
example : parse "\u3000build\u00a0a\u200bb now" = .ok (.build "a\u200bb") := by
  decide +kernel

end MentionCommand

end ChatRelay
