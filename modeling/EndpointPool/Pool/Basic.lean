import EndpointPool.Pool.Roster
import EndpointPool.Selector

/-!
# Pools

A pool hands out one node per request. Nodes that fail are kept from selection until their
quarantine ends; when no node is alive, the one whose quarantine ends first is handed out, so
there is always one to try.

A caller adds a node in two steps, since the connection is made between them and other callers may
use the pool meanwhile: it looks whether the endpoint is wanted (`Pool.wants`), makes the
connection, and has the node accepted if it is still wanted (`Pool.accept`). `Pool.add` is the two
steps with nothing in between.

## Main definitions

* `Pool`: a roster, a selector, and what stays fixed
* `Pool.get`, `Reply`: a node for the next request
* `Pool.wants`, `Pool.accept`, `Pool.add`, `Pool.remove`, `Pool.markDead`, `Pool.markLive`
* `Operation`, `Pool.perform`: the operations as values
* `Stats`, `Pool.stats`: a pool in numbers
-/

namespace EndpointPool

/-- A pool of nodes. The seeds, the backoff and the name of the selector never change. -/
structure Pool (C σ : Type) where
  roster : Roster C
  selector : σ
  seeds : List Endpoint
  backoff : Backoff
  selectorName : String

/-- What a request for a node gets. -/
inductive Reply (C : Type)
  | node (n : Node C)
  | selectorCrashed
  | nothingRegistered

namespace Pool

variable {C σ : Type}

/-- The reply when no node is alive: the dead node whose quarantine ends first, which stays dead. -/
def fallback (s : Roster C) : Reply C :=
  match s.earliest? with
  | some n => .node n
  | none => .nothingRegistered

/-- A node for a request at `now`. Nodes whose quarantine has run out are alive again first; then
the selector chooses among the alive ones. -/
def get [Selector σ] (p : Pool C σ) (now : Instant) (draw : Nat) :
    Pool C σ × Reply C × List Event :=
  let (roster, events) := p.roster.resurrectDue now
  let p := { p with roster }
  if roster.alive.isEmpty then (p, fallback roster, events ++ [.fellBack])
  else
    -- whatever the selector answers, the roster is already as it will be
    match Selector.select p.selector draw roster.alive with
    | (.crash, selector) => ({ p with selector }, .selectorCrashed, events)
    | (.index i, selector) =>
      match roster.aliveAt? i with
      | some n => ({ p with selector }, .node n, events)
      | none => ({ p with selector }, fallback roster, events ++ [.fellBack])

/-- Whether an endpoint is not registered, so that a node for it is wanted. -/
def wants (p : Pool C σ) (e : Endpoint) : Bool := (p.roster.find? e).isNone

/-- A node accepted, if it is wanted. -/
def accept (p : Pool C σ) (n : Node C) : Pool C σ × List Event :=
  if p.wants n.endpoint then
    ({ p with roster := p.roster.register n }, [.added n.endpoint])
  else (p, [])

/-- An endpoint added, with nothing between the two steps. The connection is `none` if making it
crashes; it is made only for an endpoint that is wanted. -/
def add (p : Pool C σ) (e : Endpoint) (connection : Option C) : Pool C σ × List Event :=
  if p.wants e then
    match connection with
    | some c => p.accept ⟨e, c⟩
    | none => (p, [])
  else (p, [])

/-- Whether an endpoint is one of the seeds, which are never removed. -/
def isSeed (p : Pool C σ) (e : Endpoint) : Bool := p.seeds.any fun s => s.id = e.id

/-- An endpoint removed, unless it is a seed. -/
def remove (p : Pool C σ) (e : Endpoint) : Pool C σ × List Event :=
  if p.isSeed e then (p, [])
  else
    let (roster, events) := p.roster.remove e
    ({ p with roster }, events)

/-- A failed request at `now`. -/
def markDead (p : Pool C σ) (e : Endpoint) (now : Instant) : Pool C σ × List Event :=
  let (roster, events) := p.roster.markDead p.backoff e now
  ({ p with roster }, events)

/-- A successful request. -/
def markLive (p : Pool C σ) (e : Endpoint) : Pool C σ × List Event :=
  let (roster, events) := p.roster.markLive e
  ({ p with roster }, events)

end Pool

/-- An operation on a pool, with what it gets from outside: instants, draws and connections. -/
inductive Operation (C : Type)
  | get (now : Instant) (draw : Nat)
  | add (endpoint : Endpoint) (connection : Option C)
  | remove (endpoint : Endpoint)
  | markDead (endpoint : Endpoint) (now : Instant)
  | markLive (endpoint : Endpoint)

/-- A pool in numbers. -/
structure Stats where
  total : Nat
  alive : Nat
  dead : Nat
  removed : Nat
  selector : String

/-- Whether any node is alive. -/
def Stats.isHealthy (s : Stats) : Bool := 0 < s.alive

namespace Pool

variable {C σ : Type}

/-- What an operation does: the pool afterwards, the reply to a request, and the events. -/
def perform [Selector σ] (p : Pool C σ) : Operation C → Pool C σ × Option (Reply C) × List Event
  | .get now draw => let (p, reply, events) := p.get now draw; (p, some reply, events)
  | .add e connection => let (p, events) := p.add e connection; (p, none, events)
  | .remove e => let (p, events) := p.remove e; (p, none, events)
  | .markDead e now => let (p, events) := p.markDead e now; (p, none, events)
  | .markLive e => let (p, events) := p.markLive e; (p, none, events)

/-- The pool in numbers. -/
def stats (p : Pool C σ) : Stats where
  total := p.roster.registered.length
  alive := p.roster.alive.length
  dead := p.roster.dead.length
  removed := p.roster.removed.length
  selector := p.selectorName

/-- The text that stands for any pool in a listing. -/
def describe (_ : Pool C σ) : String := "<NodePool>"

end Pool

end EndpointPool
