/-
# Servers at services that answer from lists

A server can be run against two services with lists of deliveries, each of which keeps what it
has been asked.  Such a run is the run with the deliveries of the lists as scripts: it gives the
same answers, and what the services keep is what was sent.
-/
import ChatRelay.Proofs.Server.Session
import ChatRelay.Web.Scripted

namespace ChatRelay

/-! ## Services after some requests -/

namespace Web

/-- What comes of the `n`-th request from now on. -/
def Scripted.delivery (s : Scripted) (n : Nat) : Delivery := s.deliveries.getD n s.fallback

/-- A service after some more requests to it. -/
def Scripted.after (s : Scripted) (calls : List Sent) : Scripted where
  deliveries := s.deliveries.drop calls.length
  fallback := s.fallback
  log := s.log ++ calls.map fun e => (e.request, e.delivery)

lemma Scripted.exchange_after (s : Scripted) (calls : List Sent) (service : Service)
    (q : Request) :
    (s.after calls).exchange q =
      (s.delivery calls.length, s.after (calls ++ [⟨service, q, s.delivery calls.length⟩])) := by
  simp [exchange, after, delivery, List.tail_drop]

lemma Scripted.received_after (s : Scripted) (calls : List Sent) :
    (s.after calls).received =
      s.received ++ (calls.filter fun e => e.delivery.received).map Sent.request := by
  rw [received, after, List.filter_append, List.map_append, List.filter_map, List.map_map]
  rfl

namespace Services

lemma toGithub_run (q : Request) (v : Services) :
    (toGithub q).run v = ((v.github.exchange q).1, { v with github := (v.github.exchange q).2 }) :=
  rfl

lemma toSlack_run (q : Request) (v : Services) :
    (toSlack q).run v = ((v.slack.exchange q).1, { v with slack := (v.slack.exchange q).2 }) :=
  rfl

/-- The two services, as a server talks to them. -/
def exchanges : Exchanges (StateM Services) := ⟨toGithub, toSlack⟩

/-- What comes of the requests to the services from now on. -/
def scripts (v : Services) : Scripts := ⟨v.github.delivery, v.slack.delivery⟩

/-- The services after all that was sent. -/
def after (v : Services) (log : List Sent) : Services where
  github := v.github.after (log.filter fun e => e.service == .github)
  slack := v.slack.after (log.filter fun e => e.service == .slack)

@[simp] lemma after_nil (v : Services) : v.after [] = v := by
  simp [after, Scripted.after]

end Services

end Web

/-! ## Computations that are played -/

/-- A computation with services plays one with their scripts: after all that was sent before, it
has the same result, and the services are left as after all that is sent. -/
def Plays (v : Web.Services) {α : Type} (c : StateM (List Sent) α)
    (c' : StateM Web.Services α) : Prop :=
  ∀ log, c'.run (v.after log) = ((c.run log).1, v.after (c.run log).2)

namespace Plays

variable {v : Web.Services}

lemma isKept : IsKept fun α (c : StateM (List Sent) α) c' => Plays v c c' where
  pure _ _ := rfl
  bind hc hf log := by
    rw [StateT.run_bind, hc log]
    exact hf _ _

lemma toGithub (q : Web.Request) :
    Plays v (v.scripts.exchange .github q) (Web.Services.toGithub q) := by
  intro log
  have hexchange := v.github.exchange_after (log.filter fun e => e.service == .github) .github q
  rw [← List.countP_eq_length_filter] at hexchange
  rw [Scripts.exchange_run, Web.Services.toGithub_run, Web.Services.after, hexchange]
  simp [Web.Services.after, Scripts.next, Scripts.delivery, Web.Services.scripts]

lemma toSlack (q : Web.Request) :
    Plays v (v.scripts.exchange .slack q) (Web.Services.toSlack q) := by
  intro log
  have hexchange := v.slack.exchange_after (log.filter fun e => e.service == .slack) .slack q
  rw [← List.countP_eq_length_filter] at hexchange
  rw [Scripts.exchange_run, Web.Services.toSlack_run, Web.Services.after, hexchange]
  simp [Web.Services.after, Scripts.next, Scripts.delivery, Web.Services.scripts]

lemma handle (s : Server) (now : Int) (r : InboundRequest) :
    Plays v (s.handle v.scripts.exchanges now r) (s.handle Web.Services.exchanges now r) :=
  isKept.handle v.scripts.exchanges Web.Services.exchanges toGithub toSlack s now r

end Plays

/-! ## Runs -/

namespace Server

variable {v : Web.Services} {s : Server}

/-- From any point of a run on. -/
lemma mapM_handle_run (arrivals : List Arrival) (log : List Sent) :
    (arrivals.mapM fun a => s.handle Web.Services.exchanges a.time a.request).run (v.after log) =
      (((s.run v.scripts arrivals).run log).1.map Served.response,
        v.after ((s.run v.scripts arrivals).run log).2) := by
  induction arrivals generalizing log with
  | nil => rfl
  | cons a rest ih =>
    have hhandle := Plays.handle (v := v) s a.time a.request log
    have hrest := ih ((s.serve v.scripts a).run log).2
    rw [serve_eq] at hrest
    rw [List.mapM_cons, StateT.run_bind, hhandle, run_cons, serve_eq]
    show StateT.run (_ >>= _) _ = _
    rw [StateT.run_bind, hrest]
    rfl

/-- A server that serves requests at services with lists of deliveries gives the answers of the
run with these deliveries as scripts, and each service has then received, in order, what was sent
to it in this run, unless it could not be reached. -/
theorem run_scripted (s : Server) (v : Web.Services) (arrivals : List Arrival) :
    ∃ v', (arrivals.mapM fun a => s.handle Web.Services.exchanges a.time a.request).run v =
        (((s.run v.scripts arrivals).run []).1.map Served.response, v') ∧
      v'.github.received = v.github.received ++
        (((s.run v.scripts arrivals).run []).2.filter fun e =>
          e.delivery.received && e.service == .github).map Sent.request ∧
      v'.slack.received = v.slack.received ++
        (((s.run v.scripts arrivals).run []).2.filter fun e =>
          e.delivery.received && e.service == .slack).map Sent.request := by
  have hrun := mapM_handle_run (v := v) (s := s) arrivals []
  rw [Web.Services.after_nil] at hrun
  refine ⟨_, hrun, ?_, ?_⟩
  · rw [Web.Services.after, Web.Scripted.received_after, List.filter_filter]
  · rw [Web.Services.after, Web.Scripted.received_after, List.filter_filter]

end Server

end ChatRelay
