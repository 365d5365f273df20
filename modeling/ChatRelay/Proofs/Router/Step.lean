/-
# One step of the router

To handle a step is to read its text, to make the dispatch that the text asks for, if it
asks for one, and to reply according to the outcome.  Only the dispatch has an effect.  This
file states the other two parts as functions of the text, and shows that in every monad a
step is these functions with the dispatch between them.
-/
import ChatRelay.Router
import Mathlib.Data.List.Forall2

namespace ChatRelay

/-! ## Replies to outcomes -/

namespace Reply

/-- The reply to a command whose dispatch has an outcome. -/
def ofOutcome (command : MentionCommand) : Outcome → Reply
  | .accepted => dispatched command
  | .failed reason => dispatchFailed command reason

/-- The reply to the text of a mention, given the outcome of the dispatch that it asks for, if
it asks for one. -/
def ofText (text : String) (o : Outcome) : Reply :=
  match MentionCommand.parse text with
  | .error rejection => ofRejection rejection
  | .ok command => if command.verb = .help then help else ofOutcome command o

end Reply

namespace SlashReply

/-- The reply to a command whose dispatch has an outcome. -/
def ofOutcome (command : ActionCommand) : Outcome → SlashReply
  | .accepted => dispatched command
  | .failed reason => dispatchFailed command reason

/-- The reply to a slash command of some name, given the outcome of the dispatch that it asks
for, if it asks for one. -/
def ofText (name text : String) (o : Outcome) : SlashReply :=
  if name = slashCommand then
    match ActionCommand.parse? text with
    | none => usage
    | some command => ofOutcome command o
  else unknownCommand

end SlashReply

/-! ## Steps that dispatch -/

namespace RouterStep

/-- A step dispatches if it is a mention of a verb other than `help` with the arguments that
the verb needs, or the slash command with at least two words. -/
def Dispatches : RouterStep → Prop
  | mention inbound =>
    ∃ command, MentionCommand.parse inbound.text = .ok command ∧ command.verb ≠ .help
  | slash name inbound => name = slashCommand ∧ 2 ≤ (Text.words inbound.text).length

/-- The reply to a step, given the outcome of the dispatch that it makes, if it makes one. -/
def reply (o : Outcome) : RouterStep → StepReply
  | mention inbound => .mention (.ofText inbound.text o)
  | slash name inbound => .slash (.ofText name inbound.text o)

/-- Two steps are the same but for their users and channels. -/
inductive SameText : RouterStep → RouterStep → Prop
  | mention {a b : Inbound} : a.text = b.text → SameText (.mention a) (.mention b)
  | slash {name : String} {a b : Inbound} :
      a.text = b.text → SameText (.slash name a) (.slash name b)

/-- A reply reports an outcome of the dispatch of a step: it names the command of the step,
and it gives the reason of a failure as it is. -/
inductive Reports : RouterStep → Outcome → StepReply → Prop
  | mentionAccepted {inbound : Inbound} {command : MentionCommand} :
      MentionCommand.parse inbound.text = .ok command →
      Reports (.mention inbound) .accepted (.mention (.dispatched command))
  | mentionFailed {inbound : Inbound} {command : MentionCommand} {reason : String} :
      MentionCommand.parse inbound.text = .ok command →
      Reports (.mention inbound) (.failed reason) (.mention (.dispatchFailed command reason))
  | slashAccepted {name : String} {inbound : Inbound} {command : ActionCommand} :
      ActionCommand.parse? inbound.text = some command →
      Reports (.slash name inbound) .accepted (.slash (.dispatched command))
  | slashFailed {name : String} {inbound : Inbound} {command : ActionCommand}
      {reason : String} :
      ActionCommand.parse? inbound.text = some command →
      Reports (.slash name inbound) (.failed reason) (.slash (.dispatchFailed command reason))

end RouterStep

/-- The replies that tell of no dispatch. -/
inductive StepReply.IsPlain : StepReply → Prop
  | prompt : IsPlain (.mention .prompt)
  | help : IsPlain (.mention .help)
  | unknownVerb (token : String) : IsPlain (.mention (.unknownCommand token))
  | verbUsage (verb : Verb) : IsPlain (.mention (.usage verb))
  | unknownSlash : IsPlain (.slash .unknownCommand)
  | slashUsage : IsPlain (.slash .usage)

namespace Router

/-- The dispatch that the text of a mention asks for, if it asks for one. -/
def mentionRequest? (r : Router) (text : String) : Option DispatchRequest :=
  match MentionCommand.parse text with
  | .error _ => none
  | .ok command => command.toDispatch? r.organization r.gitRef

/-- The dispatch that a slash command of some name asks for, if it asks for one. -/
def slashRequest? (r : Router) (name text : String) : Option DispatchRequest :=
  if name = slashCommand then
    (ActionCommand.parse? text).map (ActionCommand.toDispatch r.organization r.gitRef)
  else none

/-- The dispatch that a step asks for, if it asks for one. -/
def request? (r : Router) : RouterStep → Option DispatchRequest
  | .mention inbound => r.mentionRequest? inbound.text
  | .slash name inbound => r.slashRequest? name inbound.text

end Router

/-! ## Commands that dispatch -/

lemma MentionCommand.toDispatch?_eq_none_iff {organization gitRef : String}
    {c : MentionCommand} : c.toDispatch? organization gitRef = none ↔ c.verb = .help := by
  cases c <;>
    simp [toDispatch?, verb, Verb.workflowFile?, target?]

lemma MentionCommand.toDispatch?_places {organization gitRef : String} {c : MentionCommand}
    {q : DispatchRequest} (h : c.toDispatch? organization gitRef = some q) :
    q.organization = organization ∧ q.gitRef = gitRef := by
  cases c <;> simp [toDispatch?, verb, Verb.workflowFile?, target?] at h
  all_goals exact h ▸ ⟨rfl, rfl⟩

lemma ActionCommand.parse?_isSome_iff {text : String} :
    (ActionCommand.parse? text).isSome ↔ 2 ≤ (Text.words text).length := by
  rw [parse?]
  rcases Text.words text with _ | ⟨a, _ | ⟨b, rest⟩⟩ <;> simp [ofWords?]

namespace Router

variable {r : Router} {step : RouterStep}

lemma mentionRequest?_isSome_iff {text : String} :
    (r.mentionRequest? text).isSome ↔
      ∃ command, MentionCommand.parse text = .ok command ∧ command.verb ≠ .help := by
  rw [mentionRequest?]
  cases MentionCommand.parse text with
  | error rejection => simp
  | ok command =>
    simp only [Except.ok.injEq, exists_eq_left']
    rw [← not_iff_not, Option.not_isSome_iff_eq_none, not_not]
    exact MentionCommand.toDispatch?_eq_none_iff

lemma slashRequest?_isSome_iff {name text : String} :
    (r.slashRequest? name text).isSome ↔
      name = slashCommand ∧ 2 ≤ (Text.words text).length := by
  rw [slashRequest?]
  split
  · rename_i h
    simpa [h] using ActionCommand.parse?_isSome_iff
  · rename_i h
    simp [h]

lemma request?_isSome_iff : (r.request? step).isSome ↔ step.Dispatches := by
  cases step with
  | mention inbound => exact mentionRequest?_isSome_iff
  | slash name inbound => exact slashRequest?_isSome_iff

/-- A router asks for dispatches in its own organization and on its own ref only. -/
lemma request?_places {q : DispatchRequest} (h : r.request? step = some q) :
    q.organization = r.organization ∧ q.gitRef = r.gitRef := by
  cases step with
  | mention inbound =>
    simp only [request?, mentionRequest?] at h
    split at h
    · exact absurd h (by simp)
    · exact MentionCommand.toDispatch?_places h
  | slash name inbound =>
    simp only [request?, slashRequest?] at h
    split at h
    · obtain ⟨command, -, rfl⟩ := Option.map_eq_some_iff.1 h
      exact ⟨rfl, rfl⟩
    · exact absurd h (by simp)

lemma request?_congr {step' : RouterStep} (h : step.SameText step') :
    r.request? step = r.request? step' := by
  cases h with
  | mention h => simp only [request?, h]
  | slash h => simp only [request?, h]

end Router

/-! ## Replies -/

namespace RouterStep

variable {step : RouterStep} {o : Outcome}

lemma reply_congr {step' : RouterStep} (h : step.SameText step') :
    step.reply o = step'.reply o := by
  cases h with
  | mention h => simp only [reply, h]
  | slash h => simp only [reply, h]

lemma reports_reply (h : step.Dispatches) : step.Reports o (step.reply o) := by
  cases step with
  | mention inbound =>
    obtain ⟨command, hparse, hverb⟩ := h
    simp only [reply, Reply.ofText, hparse, hverb, if_false]
    cases o with
    | accepted => exact .mentionAccepted hparse
    | failed reason => exact .mentionFailed hparse
  | slash name inbound =>
    obtain ⟨rfl, hwords⟩ := h
    have hsome := ActionCommand.parse?_isSome_iff.2 hwords
    obtain ⟨command, hparse⟩ := Option.isSome_iff_exists.1 hsome
    simp only [reply, SlashReply.ofText, hparse, if_true]
    cases o with
    | accepted => exact .slashAccepted hparse
    | failed reason => exact .slashFailed hparse

lemma not_isPlain_of_reports {a : StepReply} (h : step.Reports o a) : ¬ a.IsPlain := by
  cases h <;> rintro ⟨⟩

lemma isPlain_reply_iff : (step.reply o).IsPlain ↔ ¬ step.Dispatches := by
  refine ⟨fun hplain h => not_isPlain_of_reports (reports_reply h) hplain, fun h => ?_⟩
  cases step with
  | mention inbound =>
    simp only [reply, Reply.ofText]
    cases hparse : MentionCommand.parse inbound.text with
    | error rejection => cases rejection <;> constructor
    | ok command =>
      have hverb : command.verb = .help := by
        by_contra hne
        exact h ⟨command, hparse, hne⟩
      simp only [hverb, if_true]
      exact .help
  | slash name inbound =>
    simp only [reply, SlashReply.ofText]
    split
    · rename_i hname
      cases hparse : ActionCommand.parse? inbound.text with
      | none => exact .slashUsage
      | some command =>
        have hwords := ActionCommand.parse?_isSome_iff.1 (Option.isSome_iff_exists.2 ⟨_, hparse⟩)
        exact absurd ⟨hname, hwords⟩ h
    · exact .unknownSlash

end RouterStep

/-! ## Handling a step -/

namespace Router

variable {m : Type → Type} [Monad m]

/-- Make a dispatch, if there is one to make, and reply to its outcome. -/
def replyAfter {α : Type} (dispatch : DispatchRequest → m Outcome) (reply : Outcome → α) :
    Option DispatchRequest → m α
  | none => pure (reply .accepted)
  | some q => reply <$> dispatch q

variable [LawfulMonad m]

/-- In every monad a mention is the dispatch that its text asks for, followed by the reply to
the outcome; a text that asks for none has no effect. -/
theorem handleMention_eq (r : Router) (dispatch : DispatchRequest → m Outcome)
    (inbound : Inbound) :
    r.handleMention dispatch inbound =
      replyAfter dispatch (.ofText inbound.text) (r.mentionRequest? inbound.text) := by
  simp only [handleMention, mentionRequest?, Reply.ofText, replyAfter]
  cases hparse : MentionCommand.parse inbound.text with
  | error rejection => simp
  | ok command =>
    cases hq : command.toDispatch? r.organization r.gitRef with
    | none =>
      have hverb := MentionCommand.toDispatch?_eq_none_iff.1 hq
      simp [hq, hverb]
    | some q =>
      -- there is a dispatch, so the command is not the one for help
      have hverb : command.verb ≠ .help := fun he => by
        rw [MentionCommand.toDispatch?_eq_none_iff.2 he] at hq
        exact absurd hq (by simp)
      simp only [hq]
      rw [map_eq_pure_bind]
      congr 1
      funext o
      cases o <;> simp [Reply.ofText, hparse, hverb, Reply.ofOutcome]

/-- In every monad a slash command is the dispatch that it asks for, followed by the reply to
the outcome; a command that asks for none has no effect. -/
theorem handleSlash_eq (r : Router) (dispatch : DispatchRequest → m Outcome) (name : String)
    (inbound : Inbound) :
    r.handleSlash dispatch name inbound =
      replyAfter dispatch (.ofText name inbound.text) (r.slashRequest? name inbound.text) := by
  simp only [handleSlash, slashRequest?, SlashReply.ofText, replyAfter]
  by_cases hname : name = slashCommand
  · cases hparse : ActionCommand.parse? inbound.text with
    | none => simp [hname]
    | some command =>
      simp only [hname, ne_eq, not_true_eq_false, if_false, if_true, Option.map_some]
      rw [map_eq_pure_bind]
      congr 1
      funext o
      cases o <;> simp [SlashReply.ofText, hparse, SlashReply.ofOutcome]
  · simp [hname]

end Router

end ChatRelay
