/-
# A service that answers from a list

The other side of web requests, as a list of deliveries that are used one after another,
with one for all requests after the last of them.  Every request is kept together with what
came of it.
-/
import ChatRelay.Web.Exchange

namespace ChatRelay.Web

/-- A service with the deliveries still to come, the one of every request after these, and the
requests so far with their deliveries. -/
structure Scripted where
  deliveries : List Delivery
  fallback : Delivery
  log : List (Request × Delivery)
deriving Repr

namespace Scripted

/-- Deliver a request, and keep it. -/
def exchange (q : Request) (s : Scripted) : Delivery × Scripted :=
  let d := s.deliveries.headD s.fallback
  (d, { s with deliveries := s.deliveries.tail, log := s.log ++ [(q, d)] })

/-- The requests that were received. -/
def received (s : Scripted) : List Request := (s.log.filter fun p => p.2.received).map (·.1)

end Scripted

/-- The two services that the relay talks to. -/
structure Services where
  github : Scripted
  slack : Scripted
deriving Repr

namespace Services

def toGithub (q : Request) : StateM Services Delivery :=
  modifyGet fun s => let (d, github) := s.github.exchange q; (d, { s with github })

def toSlack (q : Request) : StateM Services Delivery :=
  modifyGet fun s => let (d, slack) := s.slack.exchange q; (d, { s with slack })

end Services

end ChatRelay.Web
