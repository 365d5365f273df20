/-
# What is sent while a request is served

Whatever a server does while it serves a request, it only adds to the list of what was sent.
So the requests that are sent while one request is served are well defined, and all that is
sent in a run is sent while one of its requests is served.
-/
import ChatRelay.Proofs.Server.Related

namespace ChatRelay

/-! ## Computations that only add to what was sent -/

/-- A computation only adds to the list of what was sent. -/
def Grows {α : Type} (c : StateM (List Sent) α) : Prop := ∀ log, log <+: (c.run log).2

lemma Grows.isKept : IsKept fun α (c _ : StateM (List Sent) α) => Grows c where
  pure _ log := List.prefix_refl log
  bind hc hf log := (hc log).trans (hf _ _)

lemma Grows.exchange (sc : Scripts) (service : Service) (q : Web.Request) :
    Grows (sc.exchange service q) :=
  fun log => List.prefix_append log _

lemma Grows.handle (s : Server) (sc : Scripts) (now : Int) (r : InboundRequest) :
    Grows (s.handle sc.exchanges now r) :=
  isKept.handle sc.exchanges sc.exchanges (exchange sc .github) (exchange sc .slack) s now r

/-! ## Serving one request and many -/

namespace Server

variable {s : Server} {sc : Scripts}

lemma serve_eq (a : Arrival) (log : List Sent) :
    (s.serve sc a).run log =
      (⟨((s.handle sc.exchanges a.time a.request).run log).1,
        ((s.handle sc.exchanges a.time a.request).run log).2.drop log.length⟩,
        ((s.handle sc.exchanges a.time a.request).run log).2) := rfl

lemma serve_of_handle {a : Arrival} {log sent : List Sent} {response : Response}
    (h : (s.handle sc.exchanges a.time a.request).run log = (response, log ++ sent)) :
    (s.serve sc a).run log = (⟨response, sent⟩, log ++ sent) := by
  rw [serve_eq, h, List.drop_left]

/-- What is sent while a request is served comes at the end of what was sent before. -/
lemma serve_run (a : Arrival) (log : List Sent) :
    ((s.serve sc a).run log).2 = log ++ ((s.serve sc a).run log).1.sent := by
  -- the log only grows, so what is behind its old length is what was added
  obtain ⟨new, hnew⟩ := Grows.handle s sc a.time a.request log
  rw [serve_eq, ← hnew]
  simp

lemma run_nil (log : List Sent) : (s.run sc []).run log = ([], log) := rfl

lemma run_cons (a : Arrival) (rest : List Arrival) (log : List Sent) :
    (s.run sc (a :: rest)).run log =
      (((s.serve sc a).run log).1 :: ((s.run sc rest).run ((s.serve sc a).run log).2).1,
        ((s.run sc rest).run ((s.serve sc a).run log).2).2) := by
  rw [run, List.mapM_cons]
  rfl

/-- All that is sent in a run is sent while one of its requests is served. -/
lemma run_log (arrivals : List Arrival) (log : List Sent) :
    ((s.run sc arrivals).run log).2 =
      log ++ ((s.run sc arrivals).run log).1.flatMap Served.sent := by
  induction arrivals generalizing log with
  | nil => simp [run_nil]
  | cons a rest ih =>
    rw [run_cons, ih, serve_run, List.flatMap_cons, List.append_assoc]

/-- What holds of every request that is served, whatever was sent before, holds of all requests
of a run. -/
lemma run_forall₂ {R : Arrival → Served → Prop} (h : ∀ a log, R a ((s.serve sc a).run log).1)
    (arrivals : List Arrival) (log : List Sent) :
    List.Forall₂ R arrivals ((s.run sc arrivals).run log).1 := by
  induction arrivals generalizing log with
  | nil => exact .nil
  | cons a rest ih =>
    rw [run_cons]
    exact .cons (h a log) (ih _)

/-- Two runs of a server, with a relation between what was sent in the one and in the other: if
serving a request in both keeps this relation, then what holds of every such pair holds all
along the two runs. -/
lemma run_zip_forall₂ {sc' : Scripts} {I : List Sent → List Sent → Prop}
    {R : Arrival → Served → Served → Prop}
    (h : ∀ a log log', I log log' → R a ((s.serve sc a).run log).1 ((s.serve sc' a).run log').1 ∧
      I ((s.serve sc a).run log).2 ((s.serve sc' a).run log').2)
    (arrivals : List Arrival) {log log' : List Sent} (hlog : I log log') :
    List.Forall₂ (fun a served => R a served.1 served.2) arrivals
      (((s.run sc arrivals).run log).1.zip ((s.run sc' arrivals).run log').1) := by
  induction arrivals generalizing log log' with
  | nil => exact .nil
  | cons a rest ih =>
    obtain ⟨hserved, hafter⟩ := h a log log' hlog
    rw [run_cons, run_cons, List.zip_cons_cons]
    exact .cons hserved (ih hafter)

end Server

end ChatRelay
