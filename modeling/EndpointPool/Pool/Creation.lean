import EndpointPool.Pool.Basic
import EndpointPool.Registry

/-!
# Making a pool

A pool is made from seeds, a plan and a registry. All that can be wrong is found before the first
connection is made; then a connection is made for each seed, in the order in which the pool keeps
them.

## Main definitions

* `Plan`: how a pool is to work
* `Plan.resolve`: the selector and the backoff of a plan, or what is wrong
* `Pool.create`: a pool from its seeds
-/

namespace EndpointPool

/-- How a pool is to work: its selector's name, whether the seeds are shuffled, and its backoff. -/
structure Plan where
  selector : String
  randomize : Bool
  factor : Duration
  limit : Duration
  deriving DecidableEq

namespace Plan

/-- The plan with a selector, the rest being standard. -/
def ofSelector (name : String) : Plan where
  selector := name
  randomize := true
  factor := Backoff.standard.factor
  limit := Backoff.standard.limit

/-- The standard plan: a random choice among shuffled seeds. -/
def standard : Plan := ofSelector "random"

/-- The seeds in turn, in their own order. -/
def roundRobin : Plan := { ofSelector "round_robin" with randomize := false }

variable {σ : Type}

/-- The selector and the backoff for these seeds, or the first thing that is wrong: no seeds, seeds
of one identity, an unknown selector, a backoff that is none. -/
def resolve (plan : Plan) (seeds : List Endpoint) (registry : Registry σ) :
    Except Fault (σ × Backoff) :=
  if seeds.isEmpty then .error (.configuration .noEndpoints)
  else if ¬ (seeds.map Endpoint.id).Nodup then .error (.configuration .duplicateEndpoints)
  else
    match registry.create plan.selector with
    | .error fault => .error fault
    | .ok selector =>
      match Backoff.new plan.factor plan.limit with
      | .error fault => .error fault
      | .ok backoff => .ok (selector, backoff)

end Plan

/-- The roster of nodes registered in order. -/
def Roster.ofNodes {C : Type} (nodes : List (Node C)) : Roster C :=
  nodes.foldl Roster.register .empty

/-- A pool of the seeds. The connections are made one after another by `connect`, whose effects are
those of any monad; `shuffle` is the permutation that a plan with randomized seeds draws. -/
def Pool.create {C σ : Type} {m : Type → Type} [Monad m] (seeds : List Endpoint)
    (connect : Endpoint → m C) (plan : Plan) (registry : Registry σ)
    (shuffle : List Endpoint → List Endpoint) :
    m (Except Fault (Pool C σ × List Event)) :=
  match plan.resolve seeds registry with
  | .error fault => pure (.error fault)
  | .ok (selector, backoff) => do
    let stored := if plan.randomize then shuffle seeds else seeds
    let nodes ← stored.mapM fun e => do
      let c ← connect e
      pure (Node.mk e c)
    pure (.ok
      ({ roster := .ofNodes nodes, selector, seeds, backoff, selectorName := plan.selector },
        [.created seeds.length plan.selector plan.randomize]))

end EndpointPool
