/-
# Serving requests one after another

A server as it looks from outside: requests arrive, each at its time, and what comes of one
is an answer to its sender and a number of requests to the two services, in order.  The
services answer from scripts, of which no end is assumed.
-/
import ChatRelay.Server.Basic

namespace ChatRelay

/-! ## The services -/

/-- One of the two services that a server talks to. -/
inductive Service where
  | github
  | slack
deriving DecidableEq, Repr

/-- A request that was sent to a service, and what came of it. -/
structure Sent where
  service : Service
  request : Web.Request
  delivery : Web.Delivery
deriving Repr

/-- What comes of the requests to the two services, by their number from zero. -/
structure Scripts where
  github : Nat → Web.Delivery
  slack : Nat → Web.Delivery

namespace Scripts

/-- What comes of the `n`-th request to a service. -/
def delivery (sc : Scripts) : Service → Nat → Web.Delivery
  | .github => sc.github
  | .slack => sc.slack

/-- Send a request to a service, and add it to the list of all that was sent. -/
def exchange (sc : Scripts) (service : Service) (q : Web.Request) :
    StateM (List Sent) Web.Delivery :=
  modifyGet fun log =>
    let d := sc.delivery service (log.countP fun e => e.service == service)
    (d, log ++ [⟨service, q, d⟩])

def exchanges (sc : Scripts) : Exchanges (StateM (List Sent)) :=
  ⟨sc.exchange .github, sc.exchange .slack⟩

end Scripts

/-! ## Runs -/

/-- A request with the time in seconds at which it is handled. -/
structure Arrival where
  time : Int
  request : InboundRequest
deriving DecidableEq, Repr

structure Served where
  response : Response
  /-- The requests that were sent to the services while it was served. -/
  sent : List Sent
deriving Repr

namespace Server

def serve (s : Server) (sc : Scripts) (a : Arrival) : StateM (List Sent) Served := do
  let before ← get
  let response ← s.handle sc.exchanges a.time a.request
  let after ← get
  return ⟨response, after.drop before.length⟩

def run (s : Server) (sc : Scripts) (arrivals : List Arrival) :
    StateM (List Sent) (List Served) :=
  arrivals.mapM (s.serve sc)

end Server

end ChatRelay
