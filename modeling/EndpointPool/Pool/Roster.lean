import EndpointPool.Health
import EndpointPool.Pool.Event

/-!
# The roster of a pool

The roster holds the registered nodes and where each stands: the alive ones in the order in which
they are offered for selection, the dead ones in the order in which their quarantines end. Every
change of a pool is a change of its roster. Entries are found by the identity of an endpoint.

## Main definitions

* `Registration`, `Quarantine`, `Roster`: a registered node, a node in quarantine, the roster
* `Roster.register`, `Roster.remove`: nodes coming and going
* `Roster.markDead`, `Roster.markLive`, `Roster.resurrectDue`: quarantines beginning and ending
* `Roster.aliveNodes`, `Roster.deadNodes`, `Roster.nodes`, `Roster.failures`: what can be seen
-/

namespace EndpointPool

/-- A registered node, with the number of its registration and its health. -/
structure Registration (C : Type) where
  node : Node C
  order : Nat
  health : Health

/-- An endpoint in quarantine. The deadline and the number of the registration tell quarantines
apart and put them in order. -/
structure Quarantine where
  deadline : Instant
  order : Nat
  endpoint : Endpoint
  deriving DecidableEq

namespace Quarantine

/-- Whether one quarantine ends before another, ties being broken by registration. -/
def Before (q r : Quarantine) : Prop :=
  q.deadline < r.deadline ∨ q.deadline = r.deadline ∧ q.order < r.order

instance (q r : Quarantine) : Decidable (q.Before r) :=
  inferInstanceAs (Decidable (_ ∨ _))

/-- Whether a quarantine has this deadline and number. -/
def HasKey (q : Quarantine) (deadline : Instant) (order : Nat) : Prop :=
  q.deadline = deadline ∧ q.order = order

instance (q : Quarantine) (deadline : Instant) (order : Nat) :
    Decidable (q.HasKey deadline order) :=
  inferInstanceAs (Decidable (_ ∧ _))

/-- A list of quarantines with one more at its place, instead of one with the same key. -/
def insert (q : Quarantine) : List Quarantine → List Quarantine
  | [] => [q]
  | r :: rest =>
    if q.Before r then q :: r :: rest
    else if r.HasKey q.deadline q.order then q :: rest
    else r :: insert q rest

end Quarantine

/-- The registered nodes of a pool in the order of their registration, and where they stand. -/
structure Roster (C : Type) where
  registered : List (Registration C)
  alive : List Endpoint
  dead : List Quarantine
  removed : List Endpoint
  nextOrder : Nat

namespace Roster

variable {C : Type}

/-- The roster of no nodes. -/
def empty : Roster C := ⟨[], [], [], [], 0⟩

/-- The registration of the identity of an endpoint. -/
def find? (s : Roster C) (e : Endpoint) : Option (Registration C) :=
  s.registered.find? fun r => r.node.endpoint.id = e.id

/-- The roster with a node registered and alive. -/
def register (s : Roster C) (n : Node C) : Roster C where
  registered := s.registered ++ [⟨n, s.nextOrder, .fresh⟩]
  alive := s.alive ++ [n.endpoint]
  dead := s.dead
  removed := s.removed.filter fun e => e.id ≠ n.endpoint.id
  nextOrder := s.nextOrder + 1

/-- The roster without the place that a registration has among the alive or the dead. -/
def vacate (s : Roster C) (r : Registration C) : Roster C :=
  match r.health.deadline with
  | some deadline => { s with dead := s.dead.filter fun q => ¬ q.HasKey deadline r.order }
  | none => { s with alive := s.alive.filter fun e => e.id ≠ r.node.endpoint.id }

/-- The roster with another health for the identity of an endpoint. -/
def setHealth (s : Roster C) (e : Endpoint) (h : Health) : Roster C :=
  { s with
    registered := s.registered.map fun r =>
      if r.node.endpoint.id = e.id then { r with health := h } else r }

/-- A node removed. -/
def remove (s : Roster C) (e : Endpoint) : Roster C × List Event :=
  match s.find? e with
  | none => (s, [])
  | some r =>
    let s := s.vacate r
    ({ s with
        registered := s.registered.filter fun r => r.node.endpoint.id ≠ e.id
        removed := s.removed ++ [e] },
      [.removed e])

/-- A failure at `now`: the node leaves its place and goes into quarantine. The quarantine keeps
the endpoint it is reported under. -/
def markDead (s : Roster C) (b : Backoff) (e : Endpoint) (now : Instant) :
    Roster C × List Event :=
  match s.find? e with
  | none => (s, [])
  | some r =>
    let deadline := r.health.nextDeadline now b
    let health := r.health.fail now b
    -- the old deadline is the key of the old place, so the place goes before the health changes
    let s := (s.vacate r).setHealth e health
    ({ s with dead := Quarantine.insert ⟨deadline, r.order, e⟩ s.dead },
      [.died e health.failures (deadline.since now)])

/-- A success: the failures are forgotten, and a node in quarantine is alive again. -/
def markLive (s : Roster C) (e : Endpoint) : Roster C × List Event :=
  match s.find? e with
  | none => (s, [])
  | some r =>
    let t := s.setHealth e r.health.succeed
    match r.health.deadline with
    | none => (t, [])
    | some _ =>
      let t := t.vacate r
      ({ t with alive := t.alive ++ [e] }, [.revived e])

/-- Whether a quarantine has run out at `now`. -/
def Due (now : Instant) (q : Quarantine) : Prop := q.deadline ≤ now

instance (now : Instant) (q : Quarantine) : Decidable (Due now q) :=
  inferInstanceAs (Decidable (_ ≤ _))

/-- Every node whose quarantine has run out at `now` is alive again, the first to end first. -/
def resurrectDue (s : Roster C) (now : Instant) : Roster C × List Event :=
  let due := s.dead.takeWhile fun q => Due now q
  ({ s with
      registered := s.registered.map fun r =>
        if due.any fun q => q.endpoint.id = r.node.endpoint.id then
          { r with health := r.health.resurrect }
        else r
      alive := s.alive ++ due.map (·.endpoint)
      dead := s.dead.dropWhile fun q => Due now q },
    due.filterMap fun q =>
      (s.find? q.endpoint).map fun r => .resurrected q.endpoint r.health.failures)

/-- The registered node of the identity of an endpoint. -/
def node? (s : Roster C) (e : Endpoint) : Option (Node C) := (s.find? e).map (·.node)

/-- The alive node at an index, which is taken modulo the number of alive nodes. -/
def aliveAt? (s : Roster C) (i : Nat) : Option (Node C) :=
  s.alive[i % s.alive.length]? >>= s.node?

/-- The dead node whose quarantine ends first. -/
def earliest? (s : Roster C) : Option (Node C) := s.dead.head? >>= fun q => s.node? q.endpoint

/-- Every registered node, in the order of registration. -/
def nodes (s : Roster C) : List (Node C) := s.registered.map (·.node)

/-- The alive nodes, in the order of selection. -/
def aliveNodes (s : Roster C) : List (Node C) := s.alive.filterMap s.node?

/-- The dead nodes, in the order in which their quarantines end. -/
def deadNodes (s : Roster C) : List (Node C) := s.dead.filterMap fun q => s.node? q.endpoint

/-- The failures in a row of an endpoint, zero if it is not registered. -/
def failures (s : Roster C) (e : Endpoint) : Nat :=
  match s.find? e with
  | some r => r.health.failures
  | none => 0

end Roster

end EndpointPool
