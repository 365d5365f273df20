/-
# Replies told apart by their texts

Texts from a chat and from a service are put into replies as they are.  All the same, the text of
a reply that a router gives tells which reply it is.  Its first two characters tell the kind, and
also the verb of a command that was started.  Behind them stand fixed words and words from the
chat, which hold no blanks: so a word ends at the blank behind the backtick that closes it, however
many backticks are in it.  Only the reason of a failure may be any text, and it stands at the end.

So nothing that is put into a failure or a rejection makes it read like a success.
-/
import ChatRelay.Proofs.Command.Grammar
import ChatRelay.Proofs.Router.Run

namespace ChatRelay

open Text (IsWord isBlank words append_separator_inj)

/-! ## Replies that a router gives -/

/-- Some router gives a reply at some step of a run. -/
def StepReply.IsGiven (a : StepReply) : Prop :=
  ∃ (r : Router) (steps : List RouterStep) (outcomes : List Outcome),
    a ∈ ((r.run steps).run ⟨outcomes, []⟩).1

lemma Router.exists_reply_of_mem {r : Router} {steps : List RouterStep} {a : StepReply}
    {outcomes : List Outcome} (ha : a ∈ r.replies outcomes steps) :
    ∃ (step : RouterStep) (o : Outcome), a = step.reply o := by
  induction steps generalizing outcomes with
  | nil => cases ha
  | cons step rest ih =>
    rw [replies] at ha
    split at ha
    · rcases List.mem_cons.1 ha with rfl | ha
      · exact ⟨step, .accepted, rfl⟩
      · exact ih ha
    · rcases List.mem_cons.1 ha with rfl | ha
      · exact ⟨step, outcomes.headD .accepted, rfl⟩
      · exact ih ha

/-- A reply that is given is the one to some step with some outcome. -/
lemma StepReply.IsGiven.exists_reply {a : StepReply} (ha : a.IsGiven) :
    ∃ (step : RouterStep) (o : Outcome), a = step.reply o := by
  obtain ⟨r, steps, outcomes, ha⟩ := ha
  rw [Router.run_run] at ha
  exact Router.exists_reply_of_mem ha

/-! ## Texts between fixed ones -/

section

variable {before between after w w' v v' : String} {tail : List Char} {c : Char}

lemma between_inj (h : before ++ w ++ after = before ++ w' ++ after) : w = w' := by
  rwa [String.append_left_inj, String.append_right_inj] at h

/-- Two texts with a fixed one between them are told apart if the first one does not hold
a character that the fixed one holds: there the first one has ended. -/
lemma pair_inj (lead : List Char) (hbetween : between.toList = lead ++ c :: tail)
    (hlead : c ∉ lead) (hw : c ∉ w.toList) (hw' : c ∉ w'.toList)
    (h : before ++ w ++ between ++ v = before ++ w' ++ between ++ v') : w = w' ∧ v = v' := by
  have hfirst : ∀ {u : String}, c ∉ u.toList → c ∉ u.toList ++ lead := by
    intro u hu hmem
    rcases List.mem_append.1 hmem with hmem | hmem
    · exact hu hmem
    · exact hlead hmem
  have hsplit : (w.toList ++ lead) ++ c :: (tail ++ v.toList) =
      (w'.toList ++ lead) ++ c :: (tail ++ v'.toList) := by
    have hlists := congrArg String.toList h
    simpa [String.toList_append, hbetween] using hlists
  obtain ⟨hword, hrest⟩ := append_separator_inj (hfirst hw) (hfirst hw') hsplit
  have hv := List.append_cancel_left hrest
  exact ⟨String.toList_inj.1 (List.append_cancel_right hword), String.toList_inj.1 hv⟩

/-- What is put behind a text does not change how it begins. -/
lemma take_append {a b : String} {o : List Char} (ha : a.toList.take 2 = o) (ho : o.length = 2) :
    (a ++ b).toList.take 2 = o := by
  have hlength : 2 ≤ a.toList.length := by
    have htake := List.length_take_le 2 a.toList
    have hle := List.length_take_le' 2 a.toList
    rw [ha, ho] at hle
    exact hle
  rw [String.toList_append, List.take_append_of_le_length hlength, ha]

lemma space_notMem (hw : IsWord w) : ' ' ∉ w.toList := by
  intro hmem
  exact absurd (hw.noBlank ' ' hmem) (by decide)

end

/-! ## Replies to mentions -/

namespace MentionCommand

/-- The arguments of a command that is read from a text are words. -/
lemma isWord_of_parse {text : String} {c : MentionCommand} (hparse : parse text = .ok c) :
    ∀ w ∈ c.arguments, IsWord w := by
  intro w hw
  have hspaced := Text.words_eq_iff.1 (rfl : words text = words text)
  have hreads := (parse_eq_iff hspaced).1 hparse
  generalize words text = ws at hreads hspaced
  cases hreads
  exact hspaced.isWord w (List.mem_append_left _ (.tail _ hw))

end MentionCommand

namespace Reply

/-- What a router puts into its replies to mentions. -/
inductive IsProper : Reply → Prop
  | prompt : IsProper prompt
  | help : IsProper help
  | unknownCommand (token : String) : IsProper (unknownCommand token)
  | usage {v : Verb} : v ≠ .help → IsProper (usage v)
  | dispatched {c : MentionCommand} :
      c.verb ≠ .help → (∀ w ∈ c.arguments, IsWord w) → IsProper (dispatched c)
  | dispatchFailed {c : MentionCommand} (reason : String) :
      c.verb ≠ .help → IsProper (dispatchFailed c reason)

lemma isProper_ofText (text : String) (o : Outcome) : (ofText text o).IsProper := by
  rw [ofText]
  cases hparse : MentionCommand.parse text with
  | error rejection =>
    cases rejection with
    | empty => exact .prompt
    | unknownVerb token => exact .unknownCommand token
    | usage v =>
      refine .usage ?_
      rintro rfl
      -- the word for help is a command of its own
      have hreads := (MentionCommand.parse_eq_iff (Text.words_eq_iff.1 rfl)).1 hparse
      generalize words text = ws at hreads
      cases hreads with
      | usage _ rest hnone => exact hnone .help (List.prefix_append ["help"] rest)
  | ok c =>
    by_cases hverb : c.verb = .help
    · simp only [hverb, if_true]
      exact .help
    · simp only [hverb, if_false]
      cases o with
      | accepted => exact .dispatched hverb (MentionCommand.isWord_of_parse hparse)
      | failed reason => exact .dispatchFailed reason hverb

/-- Two replies are the same, but a failure does not tell the arguments of its command. -/
inductive Same : Reply → Reply → Prop
  | refl (a : Reply) : Same a a
  | failed {c c' : MentionCommand} (reason : String) :
      c.verb = c'.verb → Same (dispatchFailed c reason) (dispatchFailed c' reason)

/-! ### Kinds of replies -/

/-- The sign in front of what is said about a verb. -/
def sign : Verb → Char
  | .deploy => '🚀'
  | .build => '🔨'
  | .test => '🧪'
  | .help => '🤖'

/-- How the text of a reply begins. -/
def opening : Reply → List Char
  | prompt => ['P', 'l']
  | help => [sign .help, ' ']
  | unknownCommand _ => ['U', 'n']
  | usage v => if v = .help then [sign .help, ' '] else ['U', 's']
  | dispatched c => [sign c.verb, ' ']
  | dispatchFailed _ _ => ['❌', ' ']

lemma take_helpText : helpText.toList.take 2 = [sign .help, ' '] := by
  unfold helpText
  repeat refine take_append ?_ rfl
  rfl

lemma take_render (a : Reply) : a.render.toList.take 2 = a.opening := by
  cases a with
  | prompt => rfl
  | help => exact take_helpText
  | unknownCommand token => exact take_append (take_append rfl rfl) rfl
  | usage v =>
    cases v with
    | deploy => rfl
    | build => rfl
    | test => rfl
    | help => exact take_helpText
  | dispatched c =>
    cases c with
    | deploy environment service =>
      exact take_append (take_append (take_append (take_append rfl rfl) rfl) rfl) rfl
    | build service => exact take_append (take_append rfl rfl) rfl
    | test service => exact take_append (take_append rfl rfl) rfl
    | help => exact take_helpText
  | dispatchFailed c reason =>
    exact take_append (take_append (take_append rfl rfl) rfl) rfl

/-- The text of a success tells the arguments of its command. -/
lemma successText_inj {c c' : MentionCommand} (hwords : ∀ w ∈ c.arguments, IsWord w)
    (hwords' : ∀ w ∈ c'.arguments, IsWord w) (hverb : c.verb = c'.verb)
    (h : successText c = successText c') : c = c' := by
  cases c with
  | deploy environment service =>
    cases c' with
    | deploy environment' service' =>
      have hservice : IsWord service := hwords service (by simp [MentionCommand.arguments])
      have hservice' : IsWord service' := hwords' service' (by simp [MentionCommand.arguments])
      obtain ⟨rfl, rfl⟩ := pair_inj ['`'] rfl (by decide) (space_notMem hservice)
        (space_notMem hservice') ((String.append_left_inj _).1 h)
      rfl
    | build service' => cases hverb
    | test service' => cases hverb
    | help => cases hverb
  | build service =>
    cases c' with
    | build service' =>
      exact congrArg MentionCommand.build (between_inj h)
    | deploy environment' service' => cases hverb
    | test service' => cases hverb
    | help => cases hverb
  | test service =>
    cases c' with
    | test service' =>
      exact congrArg MentionCommand.test (between_inj h)
    | deploy environment' service' => cases hverb
    | build service' => cases hverb
    | help => cases hverb
  | help =>
    cases c' with
    | help => rfl
    | deploy environment' service' => cases hverb
    | build service' => cases hverb
    | test service' => cases hverb

/-- The text of a failure tells the verb of its command and the reason: the words for verbs hold
no colon. -/
lemma failureText_inj {c c' : MentionCommand} {reason reason' : String}
    (h : failureText c reason = failureText c' reason') :
    c.verb = c'.verb ∧ reason = reason' := by
  have hcolon : ∀ v : Verb, ':' ∉ v.outcome.toList := by
    intro v
    cases v <;> decide
  have houtcome : ∀ v v' : Verb, v.outcome = v'.outcome → v = v' := by
    intro v v' hv
    cases v <;> cases v' <;> first | rfl | exact absurd hv (by decide)
  obtain ⟨hverb, hreason⟩ := pair_inj [] rfl (by decide) (hcolon _) (hcolon _) h
  exact ⟨houtcome _ _ hverb, hreason⟩

lemma usage_inj {v v' : Verb} (hv : v ≠ .help) (hv' : v' ≠ .help) (h : v.usage = v'.usage) :
    v = v' := by
  cases v <;> cases v' <;>
    first | rfl | exact absurd rfl hv | exact absurd rfl hv' | exact absurd h (by decide)

lemma sign_inj {v v' : Verb} (h : sign v = sign v') : v = v' := by
  cases v <;> cases v' <;> first | rfl | exact absurd h (by decide)

lemma sign_ne (v : Verb) : sign v ≠ '❌' := by
  cases v <;> decide

/-- Two replies with one text are the same, but for what a failure does not tell. -/
lemma same_of_render_eq {a b : Reply} (ha : a.IsProper) (hb : b.IsProper)
    (h : a.render = b.render) : a.Same b := by
  have hopening : a.opening = b.opening := by
    rw [← take_render, ← take_render, h]
  cases ha <;> cases hb
  case prompt.prompt => exact .refl _
  case help.help => exact .refl _
  case unknownCommand.unknownCommand token token' =>
    obtain rfl := between_inj h
    exact .refl _
  case usage.usage v hv v' hv' =>
    obtain rfl := usage_inj hv hv' h
    exact .refl _
  case dispatched.dispatched c hverb hwords c' hverb' hwords' =>
    obtain rfl := successText_inj hwords hwords' (sign_inj (List.cons.inj hopening).1) h
    exact .refl _
  case dispatchFailed.dispatchFailed c reason hverb c' reason' hverb' =>
    obtain ⟨hsame, rfl⟩ := failureText_inj h
    exact .failed reason hsame
  -- texts of two kinds begin differently
  case help.dispatched c hverb hwords =>
    exact absurd (sign_inj (List.cons.inj hopening).1).symm hverb
  case dispatched.help c hverb hwords =>
    exact absurd (sign_inj (List.cons.inj hopening).1) hverb
  all_goals simp_all [opening, sign_ne, (sign_ne _).symm]

lemma render_eq_of_same {a b : Reply} (h : a.Same b) : a.render = b.render := by
  cases h with
  | refl => rfl
  | failed reason hverb =>
    exact congrArg (fun v : Verb => s!"❌ Failed to trigger {v.outcome}: {reason}") hverb

end Reply

/-! ## Replies to the slash command -/

namespace ActionCommand

/-- The repository and the workflow of a command that is read from a text are words. -/
lemma isWord_of_parse? {text : String} {c : ActionCommand} (hparse : parse? text = some c) :
    IsWord c.repository ∧ IsWord c.workflow := by
  have hspaced := Text.words_eq_iff.1 (rfl : words text = words text)
  rw [parse?] at hparse
  generalize words text = ws at hparse hspaced
  rw [ofWords?.eq_def] at hparse
  split at hparse
  · cases hparse
    exact ⟨hspaced.isWord _ (.head _), hspaced.isWord _ (.tail _ (.head _))⟩
  · cases hparse

end ActionCommand

namespace SlashReply

/-- What a router puts into its replies to slash commands. -/
inductive IsProper : SlashReply → Prop
  | unknownCommand : IsProper unknownCommand
  | usage : IsProper usage
  | dispatched {c : ActionCommand} :
      IsWord c.repository → IsWord c.workflow → IsProper (dispatched c)
  | dispatchFailed (c : ActionCommand) (reason : String) : IsProper (dispatchFailed c reason)

lemma isProper_ofText (name text : String) (o : Outcome) : (ofText name text o).IsProper := by
  rw [ofText]
  split
  · cases hparse : ActionCommand.parse? text with
    | none => exact .usage
    | some c =>
      obtain ⟨hrepository, hworkflow⟩ := ActionCommand.isWord_of_parse? hparse
      cases o with
      | accepted => exact .dispatched hrepository hworkflow
      | failed reason => exact .dispatchFailed c reason
  · exact .unknownCommand

/-- Two replies are the same, but a success does not tell the inputs of its workflow, and
a failure tells nothing of its command. -/
inductive Same : SlashReply → SlashReply → Prop
  | unknownCommand : Same unknownCommand unknownCommand
  | usage : Same usage usage
  | dispatched {c c' : ActionCommand} :
      c.workflow = c'.workflow → c.repository = c'.repository →
      Same (dispatched c) (dispatched c')
  | failed (c c' : ActionCommand) (reason : String) :
      Same (dispatchFailed c reason) (dispatchFailed c' reason)

/-- How the text of a reply begins. -/
def opening : SlashReply → List Char
  | unknownCommand => ['U', 'n']
  | usage => ['U', 's']
  | dispatched _ => ['✅', ' ']
  | dispatchFailed _ _ => ['F', 'a']

lemma take_render (a : SlashReply) : a.render.toList.take 2 = a.opening := by
  cases a with
  | unknownCommand => rfl
  | usage => rfl
  | dispatched c =>
    exact take_append (take_append (take_append (take_append rfl rfl) rfl) rfl) rfl
  | dispatchFailed c reason => exact take_append rfl rfl

/-- Two replies with one text are the same, but for what the texts do not tell. -/
lemma same_of_render_eq {a b : SlashReply} (ha : a.IsProper) (hb : b.IsProper)
    (h : a.render = b.render) : a.Same b := by
  have hopening : a.opening = b.opening := by
    rw [← take_render, ← take_render, h]
  cases ha <;> cases hb
  case unknownCommand.unknownCommand => exact .unknownCommand
  case usage.usage => exact .usage
  case dispatched.dispatched c hrepository hworkflow c' hrepository' hworkflow' =>
    obtain ⟨hw, hr⟩ := pair_inj ['`'] rfl (by decide) (space_notMem hworkflow)
      (space_notMem hworkflow') ((String.append_left_inj _).1 h)
    exact .dispatched hw hr
  case dispatchFailed.dispatchFailed c reason c' reason' =>
    obtain rfl := (String.append_right_inj _).1 h
    exact .failed c c' reason
  -- texts of two kinds begin differently
  all_goals exact absurd hopening (by simp [opening])

lemma render_eq_of_same {a b : SlashReply} (h : a.Same b) : a.render = b.render := by
  cases h with
  | unknownCommand => rfl
  | usage => rfl
  | @dispatched c c' hworkflow hrepository =>
    cases c
    cases c'
    cases hworkflow
    cases hrepository
    rfl
  | failed c c' reason => rfl

end SlashReply

/-! ## What is given -/

/-- A workflow was started. -/
def Reply.IsSuccess (a : Reply) : Prop := ∃ c, a = dispatched c

/-- A workflow was started. -/
def SlashReply.IsSuccess (a : SlashReply) : Prop := ∃ c, a = dispatched c

lemma Reply.Same.isSuccess_iff {a b : Reply} (h : a.Same b) : a.IsSuccess ↔ b.IsSuccess := by
  cases h with
  | refl => rfl
  | failed reason hverb => simp [IsSuccess]

lemma SlashReply.Same.isSuccess_iff {a b : SlashReply} (h : a.Same b) :
    a.IsSuccess ↔ b.IsSuccess := by
  cases h <;> simp [IsSuccess]

namespace StepReply

lemma IsGiven.isProper {a : Reply} (ha : (mention a).IsGiven) : a.IsProper := by
  obtain ⟨step, o, hreply⟩ := ha.exists_reply
  cases step with
  | mention inbound =>
    cases hreply
    exact Reply.isProper_ofText inbound.text o
  | slash name inbound => cases hreply

lemma IsGiven.isProper_slash {a : SlashReply} (ha : (slash a).IsGiven) : a.IsProper := by
  obtain ⟨step, o, hreply⟩ := ha.exists_reply
  cases step with
  | mention inbound => cases hreply
  | slash name inbound =>
    cases hreply
    exact SlashReply.isProper_ofText name inbound.text o

/-- The text of every reply that a router gives, in any run and whatever becomes of the dispatches,
tells which reply it is: two replies to mentions have one text only if they are equal or report that
one verb failed for one reason, and two replies to slash commands only if they are of one kind, with
one workflow and one repository for a success and one reason for a failure.  So nothing but
a success reads like one. -/
theorem given_told_apart :
    (∀ a b : Reply, (mention a).IsGiven → (mention b).IsGiven →
      (a.render = b.render ↔ a.Same b) ∧ (a.render = b.render → (a.IsSuccess ↔ b.IsSuccess))) ∧
    (∀ a b : SlashReply, (slash a).IsGiven → (slash b).IsGiven →
      (a.render = b.render ↔ a.Same b) ∧ (a.render = b.render → (a.IsSuccess ↔ b.IsSuccess))) := by
  constructor
  · intro a b ha hb
    have hsame : a.render = b.render → a.Same b := Reply.same_of_render_eq ha.isProper hb.isProper
    exact ⟨⟨hsame, Reply.render_eq_of_same⟩, fun h => (hsame h).isSuccess_iff⟩
  · intro a b ha hb
    have hsame : a.render = b.render → a.Same b :=
      SlashReply.same_of_render_eq ha.isProper_slash hb.isProper_slash
    exact ⟨⟨hsame, SlashReply.render_eq_of_same⟩, fun h => (hsame h).isSuccess_iff⟩

/-- A success with backticks and words of the text in its arguments. -/
def quotingSuccess : Reply := .dispatched (.deploy "`to`" "a`")

/-- A failure whose reason is the text of this success. -/
def quotingFailure : Reply := .dispatchFailed (.deploy "to" "a") quotingSuccess.render

/-- The failure does not read like the success. -/
theorem given_told_apart_quoting :
    (mention quotingSuccess).IsGiven ∧ (mention quotingFailure).IsGiven ∧
    (quotingSuccess.render = quotingFailure.render →
      (quotingSuccess.IsSuccess ↔ quotingFailure.IsSuccess)) ∧
    quotingSuccess.render ≠ quotingFailure.render := by
  have hsuccess : (mention quotingSuccess).IsGiven :=
    ⟨⟨"o", "main"⟩, [.mention ⟨.mention, "deploy `to` a`", "", ""⟩], [.accepted], by decide +kernel⟩
  have hfailure : (mention quotingFailure).IsGiven :=
    ⟨⟨"o", "main"⟩, [.mention ⟨.mention, "deploy to a", "", ""⟩],
      [.failed quotingSuccess.render], by decide +kernel⟩
  obtain ⟨hsame, hreads⟩ := given_told_apart.1 quotingSuccess quotingFailure hsuccess hfailure
  refine ⟨hsuccess, hfailure, hreads, fun htext => ?_⟩
  cases hsame.1 htext

end StepReply

end ChatRelay
