/-
# Runs of the router

A run takes steps in order, with one dispatcher that keeps every request and answers from a
list of outcomes.  The steps that dispatch use up the outcomes one by one, and no other step
touches them.  So the requests of a run are those of its steps, and the reply to a step is
decided by its own text and by the number of dispatching steps before it.
-/
import ChatRelay.Proofs.Router.Step

namespace ChatRelay.Router

variable (r : Router)

/-! ## Requests and replies of a run -/

/-- The dispatches that the steps of a run ask for, in order. -/
def requests (steps : List RouterStep) : List DispatchRequest := steps.filterMap r.request?

/-- The replies to the steps of a run, given the outcomes of its dispatches; a dispatch after
the last outcome is accepted. -/
def replies (outcomes : List Outcome) : List RouterStep → List StepReply
  | [] => []
  | step :: rest =>
    match r.request? step with
    | none => step.reply .accepted :: replies outcomes rest
    | some _ => step.reply (outcomes.headD .accepted) :: replies outcomes.tail rest

variable {r}

@[simp] lemma requests_nil : r.requests [] = [] := rfl

lemma requests_congr {xs ys : List RouterStep} (h : List.Forall₂ RouterStep.SameText xs ys) :
    r.requests xs = r.requests ys := by
  induction h with
  | nil => rfl
  | cons hstep _ ih =>
    rw [requests] at ih
    rw [requests, List.filterMap_cons, request?_congr hstep, ih]
    rfl

@[simp] lemma length_replies (outcomes : List Outcome) (steps : List RouterStep) :
    (r.replies outcomes steps).length = steps.length := by
  induction steps generalizing outcomes with
  | nil => rfl
  | cons step rest ih =>
    rw [replies]
    split <;> simp [ih]

lemma replies_append (outcomes : List Outcome) (xs ys : List RouterStep) :
    r.replies outcomes (xs ++ ys) =
      r.replies outcomes xs ++ r.replies (outcomes.drop (r.requests xs).length) ys := by
  induction xs generalizing outcomes with
  | nil => simp [replies]
  | cons step rest ih =>
    rw [List.cons_append, replies, replies, requests, List.filterMap_cons]
    cases h : r.request? step with
    | none => simp [ih, requests]
    | some q => simp [ih, requests, List.drop_tail]

lemma replies_congr {xs ys : List RouterStep} (h : List.Forall₂ RouterStep.SameText xs ys)
    (outcomes : List Outcome) : r.replies outcomes xs = r.replies outcomes ys := by
  induction h generalizing outcomes with
  | nil => rfl
  | cons hstep _ ih =>
    rw [replies, replies, request?_congr hstep]
    simp only [RouterStep.reply_congr hstep, ih]

/-- The reply to a step in the midst of a run. -/
lemma getElem?_replies (outcomes : List Outcome) (before : List RouterStep) (step : RouterStep)
    (after : List RouterStep) :
    (r.replies outcomes (before ++ step :: after))[before.length]? =
      some (step.reply (match r.request? step with
        | none => .accepted
        | some _ => outcomes.getD (r.requests before).length .accepted)) := by
  rw [replies_append, List.getElem?_append_right (by simp), length_replies, Nat.sub_self, replies]
  cases r.request? step with
  | none => rfl
  | some q => simp [List.headD_eq_head?_getD, List.head?_drop]

/-! ## The recorder along a run -/

/-- One step of a run: a step that asks for no dispatch leaves the recorder as it is. -/
lemma run_step (step : RouterStep) (s : Recorder) :
    (r.step step).run s =
      match r.request? step with
      | none => (step.reply .accepted, s)
      | some q =>
        (step.reply (s.outcomes.headD .accepted), ⟨s.outcomes.tail, s.sent ++ [q]⟩) := by
  cases step with
  | mention inbound =>
    simp only [step, handleMention_eq, request?]
    cases r.mentionRequest? inbound.text <;> rfl
  | slash name inbound =>
    simp only [step, handleSlash_eq, request?]
    cases r.slashRequest? name inbound.text <;> rfl

/-- A whole run, by induction on its steps: the recorder has dropped one outcome and gained one
request for each step that asks for a dispatch. -/
theorem run_run (steps : List RouterStep) (s : Recorder) :
    (r.run steps).run s =
      (r.replies s.outcomes steps,
        ⟨s.outcomes.drop (r.requests steps).length, s.sent ++ r.requests steps⟩) := by
  induction steps generalizing s with
  | nil =>
    simp only [replies, requests_nil, List.length_nil, List.drop_zero, List.append_nil]
    rfl
  | cons step rest ih =>
    have hrun : (r.run (step :: rest)).run s =
        (((r.step step).run s).1 :: ((r.run rest).run ((r.step step).run s).2).1,
          ((r.run rest).run ((r.step step).run s).2).2) := by
      rw [run, List.mapM_cons]
      rfl
    rw [hrun, run_step, replies, requests, List.filterMap_cons]
    cases h : r.request? step with
    | none => simp [ih, requests]
    | some q => simp [ih, requests, List.drop_tail]

variable (r) in
/-- What a router sends for one step, whatever outcomes are to come. -/
def Sends (step : RouterStep) (qs : List DispatchRequest) : Prop :=
  ∀ outcomes, ((r.step step).run ⟨outcomes, []⟩).2.sent = qs

lemma sends_iff {step : RouterStep} {qs : List DispatchRequest} :
    r.Sends step qs ↔ qs = (r.request? step).toList := by
  have hsent (outcomes : List Outcome) :
      ((r.step step).run ⟨outcomes, []⟩).2.sent = (r.request? step).toList := by
    rw [run_step]
    cases r.request? step <;> rfl
  constructor
  · intro h
    rw [← h [], hsent]
  · rintro rfl
    exact hsent

/-! ## What a run sends and replies -/

/-- Every run sends exactly the requests of its dispatching steps, in order, and the requests
take the outcomes in order.  The reply to a dispatching step reports the outcome that its
request takes; exactly the other steps get a plain reply.  All requests are in the router's
organization and on its ref, and users and channels change nothing. -/
theorem run_sends_and_reports (r : Router) (steps : List RouterStep) (outcomes : List Outcome) :
    ((r.run steps).run ⟨outcomes, []⟩).2.sent = steps.filterMap r.request? ∧
    ((r.run steps).run ⟨outcomes, []⟩).2.outcomes =
      outcomes.drop (steps.filterMap r.request?).length ∧
    (∀ q ∈ ((r.run steps).run ⟨outcomes, []⟩).2.sent,
      q.organization = r.organization ∧ q.gitRef = r.gitRef) ∧
    ((r.run steps).run ⟨outcomes, []⟩).1.length = steps.length ∧
    (∀ before step after, steps = before ++ step :: after →
      ((r.request? step).isSome ↔ step.Dispatches) ∧
      ∃ answer, ((r.run steps).run ⟨outcomes, []⟩).1[before.length]? = some answer ∧
        (step.Dispatches →
          step.Reports (outcomes.getD (before.filterMap r.request?).length .accepted) answer) ∧
        (answer.IsPlain ↔ ¬ step.Dispatches)) ∧
    (∀ steps', List.Forall₂ RouterStep.SameText steps steps' →
      (r.run steps').run ⟨outcomes, []⟩ = (r.run steps).run ⟨outcomes, []⟩) := by
  simp only [run_run, List.nil_append]
  refine ⟨rfl, rfl, ?_, length_replies outcomes steps, ?_, ?_⟩
  · intro q hq
    obtain ⟨step, -, hstep⟩ := List.mem_filterMap.1 hq
    exact request?_places hstep
  · rintro before step after rfl
    refine ⟨request?_isSome_iff, _, getElem?_replies outcomes before step after, ?_,
      RouterStep.isPlain_reply_iff⟩
    intro h
    obtain ⟨q, hq⟩ := Option.isSome_iff_exists.1 (request?_isSome_iff.2 h)
    rw [hq]
    exact RouterStep.reports_reply h
  · intro steps' h
    rw [replies_congr h, requests_congr h]

end ChatRelay.Router
