/-
# Related computations

A server works in every monad that its services are in.  So a relation between computations in
two monads holds of all that a server does, if it holds of what goes to the services and is kept
where results are returned and where one computation follows another.
-/
import ChatRelay.Proofs.Router.Step
import ChatRelay.Proofs.Server.Calls
import ChatRelay.Proofs.Server.Task

namespace ChatRelay

variable {m m' : Type → Type} [Monad m] [Monad m']

/-- A relation between computations in two monads is kept by returning a result and by letting
one computation follow another. -/
structure IsKept (R : ∀ α, m α → m' α → Prop) : Prop where
  pure {α : Type} (a : α) : R α (pure a) (pure a)
  bind {α β : Type} {c : m α} {c' : m' α} {f : α → m β} {f' : α → m' β} :
    R α c c' → (∀ a, R β (f a) (f' a)) → R β (c >>= f) (c' >>= f')

namespace IsKept

variable {R : ∀ α, m α → m' α → Prop} (hR : IsKept R)

include hR

lemma map [LawfulMonad m] [LawfulMonad m'] {α β : Type} {c : m α} {c' : m' α} (f : α → β)
    (h : R α c c') : R β (f <$> c) (f <$> c') := by
  rw [map_eq_pure_bind, map_eq_pure_bind]
  exact hR.bind h fun a => hR.pure (f a)

/-! ## Calls -/

section

variable {exchange : Web.Request → m Web.Delivery} {exchange' : Web.Request → m' Web.Delivery}
  (h : ∀ q, R _ (exchange q) (exchange' q))

include h

/-- By induction on the number of times that the request may still be sent on. -/
lemma sendUpTo (left : Nat) (q : Web.Request) :
    R _ (Web.sendUpTo exchange left q) (Web.sendUpTo exchange' left q) := by
  induction left generalizing q with
  | zero =>
    rw [Web.sendUpTo, Web.sendUpTo]
    refine hR.bind (h q) fun d => ?_
    cases q.turn d <;> exact hR.pure _
  | succ left ih =>
    rw [Web.sendUpTo, Web.sendUpTo]
    refine hR.bind (h q) fun d => ?_
    cases q.turn d with
    | done result => exact hR.pure _
    | again q' =>
      simp only
      split
      · exact hR.pure _
      · exact ih q'

lemma send (d : Web.Draft) : R _ (Web.send exchange d) (Web.send exchange' d) := by
  rw [Web.send, Web.send]
  cases d.write with
  | error e => exact hR.pure _
  | ok q => exact hR.sendUpTo h _ q

variable [LawfulMonad m] [LawfulMonad m']

lemma dispatch (c : Github.Client) (request : DispatchRequest) :
    R _ (c.dispatch exchange request) (c.dispatch exchange' request) := by
  rw [Github.Client.dispatch_eq, Github.Client.dispatch_eq]
  exact hR.map _ (hR.send h _)

lemma post (c : Slack.Client) (channel text : String) :
    R _ (c.post exchange channel text) (c.post exchange' channel text) := by
  cases hurl : Url.parse? c.postUrl with
  | none =>
    simp only [Slack.Client.post, hurl]
    exact hR.pure _
  | some url =>
    rw [Slack.Client.post_eq hurl, Slack.Client.post_eq hurl]
    exact hR.map _ (hR.send h _)

end

/-! ## Servers -/

variable [LawfulMonad m] [LawfulMonad m']

lemma replyAfter {α : Type} {dispatch : DispatchRequest → m Outcome}
    {dispatch' : DispatchRequest → m' Outcome} (h : ∀ q, R _ (dispatch q) (dispatch' q))
    (reply : Outcome → α) (request? : Option DispatchRequest) :
    R _ (Router.replyAfter dispatch reply request?)
      (Router.replyAfter dispatch' reply request?) := by
  cases request? with
  | none => exact hR.pure _
  | some request => exact hR.map reply (h request)

variable (x : Exchanges m) (x' : Exchanges m') (hgithub : ∀ q, R _ (x.toGithub q) (x'.toGithub q))
  (hslack : ∀ q, R _ (x.toSlack q) (x'.toSlack q))

include hgithub hslack

lemma perform (s : Server) (task : Task) : R _ (s.perform x task) (s.perform x' task) := by
  cases task with
  | answer response => exact hR.pure _
  | mention c =>
    rw [Server.perform, Server.perform, Server.handleMention, Server.handleMention,
      Router.handleMention_eq, Router.handleMention_eq]
    refine hR.bind (hR.bind (hR.replyAfter (hR.dispatch hgithub _) _ _) fun reply => ?_)
      fun _ => hR.pure _
    exact hR.bind (hR.post hslack _ _ _) fun _ => hR.pure _
  | command form =>
    rw [Server.perform, Server.perform, Router.handleSlash_eq, Router.handleSlash_eq]
    exact hR.map _ (hR.replyAfter (hR.dispatch hgithub _) _ _)

/-- What holds of the services in two monads holds of a server at them. -/
theorem handle (s : Server) (now : Int) (r : InboundRequest) :
    R _ (s.handle x now r) (s.handle x' now r) := by
  rw [Server.handle_eq, Server.handle_eq]
  exact hR.perform x x' hgithub hslack s _

end IsKept

end ChatRelay
