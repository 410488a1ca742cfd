import EndpointPool.Pool.Creation
import EndpointPool.Proofs.Roster.Operations
import Mathlib.Data.List.Induction

/-!
# What a new pool holds

A pool is made from seeds of distinct identities, and its nodes are the seeds in the order in which
the pool keeps them, each with the connection made for it. No node has failed, none is in
quarantine and none is removed.

## Main definitions

* `Pool.Created p`: `p` is what `Pool.create` answers, whatever the connections do
* `Pool.twoInTurn`: a new pool of two seeds that take turns

## Main results

* `Roster.ofNodes_eq`, `Roster.sound_ofNodes`: the roster of nodes registered in order
* `Pool.Created.exists_nodes`: what a pool holds that has just been made
-/

namespace EndpointPool

namespace Roster

variable {C : Type}

theorem ofNodes_concat (nodes : List (Node C)) (n : Node C) :
    ofNodes (nodes ++ [n]) = (ofNodes nodes).register n := by
  simp only [ofNodes, List.foldl_append, List.foldl_cons, List.foldl_nil]

/-- The roster of nodes registered in order: numbered from zero, all alive, none failed. -/
theorem ofNodes_eq (nodes : List (Node C)) :
    ofNodes nodes =
      { registered := nodes.mapIdx fun i n => ⟨n, i, .fresh⟩
        alive := nodes.map (·.endpoint)
        dead := []
        removed := []
        nextOrder := nodes.length } := by
  induction nodes using List.reverseRecOn with
  | nil => rfl
  | append_singleton nodes n ih =>
    rw [ofNodes_concat, ih]
    simp [register]

theorem nodes_ofNodes (nodes : List (Node C)) : (ofNodes nodes).nodes = nodes := by
  rw [ofNodes_eq]
  exact List.ext_getElem (by simp [Roster.nodes]) fun i _ _ => by simp [Roster.nodes]

theorem find?_ofNodes_eq_none {nodes : List (Node C)} {e : Endpoint}
    (h : e.id ∉ nodes.map (·.endpoint.id)) : (ofNodes nodes).find? e = none := by
  apply List.find?_eq_none.mpr
  intro r hr hi
  apply h
  rw [ofNodes_eq] at hr
  obtain ⟨i, hlt, rfl⟩ := List.mem_mapIdx.mp hr
  exact List.mem_map.mpr ⟨nodes[i], List.getElem_mem hlt, of_decide_eq_true hi⟩

/-- Nodes of distinct identities are registered soundly. -/
theorem sound_ofNodes {nodes : List (Node C)} (h : (nodes.map (·.endpoint.id)).Nodup) :
    (ofNodes nodes).Sound := by
  induction nodes using List.reverseRecOn with
  | nil => exact sound_empty
  | append_singleton nodes n ih =>
    rw [List.map_append, List.nodup_append] at h
    obtain ⟨hnodes, -, hne⟩ := h
    -- no node before the last has its identity
    have hfree : (ofNodes nodes).find? n.endpoint = none := by
      apply find?_ofNodes_eq_none
      intro hn
      exact hne _ hn _ List.mem_cons_self rfl
    rw [ofNodes_concat]
    exact (ih hnodes).register hfree

theorem health_of_mem_ofNodes {nodes : List (Node C)} {r : Registration C}
    (hr : r ∈ (ofNodes nodes).registered) : r.health = .fresh := by
  rw [ofNodes_eq] at hr
  obtain ⟨i, hlt, rfl⟩ := List.mem_mapIdx.mp hr
  rfl

end Roster

/-- A plan that can be followed has seeds, of distinct identities, a registered selector and a
backoff. -/
theorem Plan.resolve_eq_ok {σ : Type} {plan : Plan} {seeds : List Endpoint} {registry : Registry σ}
    {selector : σ} {backoff : Backoff}
    (h : plan.resolve seeds registry = .ok (selector, backoff)) :
    seeds ≠ [] ∧ (seeds.map Endpoint.id).Nodup ∧ registry.create plan.selector = .ok selector ∧
      Backoff.new plan.factor plan.limit = .ok backoff := by
  unfold resolve at h
  split at h
  · cases h
  · next hne =>
    split at h
    · cases h
    · next hnodup =>
      split at h
      · cases h
      · next hselector =>
        split at h
        · cases h
        · next hbackoff =>
          cases h
          exact ⟨by simpa using hne, by simpa using hnodup, hselector, hbackoff⟩

namespace Pool

variable {C σ τ : Type}

/-- A pool that has just been made, whatever the seeds, the plan, the registry, the permutation and
the connections: making one may depend on those made before, and may crash. -/
def Created (p : Pool C σ) : Prop :=
  ∃ (τ : Type) (connect : Endpoint → StateT τ Option C) (before after : τ) (seeds : List Endpoint)
    (plan : Plan) (registry : Registry σ) (shuffle : List Endpoint → List Endpoint)
    (events : List Event), (∀ l, (shuffle l).Perm l) ∧
    (create seeds connect plan registry shuffle).run before = some (.ok (p, events), after)

/-- Connections made one after another are those of the endpoints, in order. -/
theorem map_endpoint_of_mapM {connect : Endpoint → StateT τ Option C} :
    ∀ {stored : List Endpoint} {nodes : List (Node C)} {before after : τ},
      (stored.mapM fun e => do let c ← connect e; pure (Node.mk e c)).run before =
        some (nodes, after) → nodes.map (·.endpoint) = stored
  | [], nodes, before, after, h => by
    cases h
    rfl
  | e :: stored, nodes, before, after, h => by
    simp only [List.mapM_cons, StateT.run_bind, StateT.run_pure, bind_assoc, pure_bind] at h
    obtain ⟨⟨c, mid⟩, -, h⟩ := Option.bind_eq_some_iff.mp h
    obtain ⟨⟨rest, last⟩, hrest, h⟩ := Option.bind_eq_some_iff.mp h
    cases h
    rw [List.map_cons, map_endpoint_of_mapM hrest]

/-- A new pool holds a node for each seed, as registered in order, and nothing else. -/
theorem Created.exists_nodes {p : Pool C σ} (h : p.Created) :
    ∃ nodes : List (Node C), p.roster = .ofNodes nodes ∧
      (nodes.map (·.endpoint)).Perm p.seeds ∧ p.seeds ≠ [] ∧ (p.seeds.map Endpoint.id).Nodup := by
  obtain ⟨τ, connect, before, after, seeds, plan, registry, shuffle, events, hperm, h⟩ := h
  unfold create at h
  split at h
  · cases h
  · next selector backoff hresolve =>
    obtain ⟨hne, hnodup, -, -⟩ := Plan.resolve_eq_ok hresolve
    rw [StateT.run_bind] at h
    obtain ⟨⟨nodes, mid⟩, hnodes, h⟩ := Option.bind_eq_some_iff.mp h
    cases h
    refine ⟨nodes, rfl, ?_, hne, hnodup⟩
    -- the nodes are those of the seeds, shuffled if the plan says so
    rw [map_endpoint_of_mapM hnodes]
    split
    · exact hperm seeds
    · exact .refl seeds

/-- A seed reached without encryption. -/
def plainSeed : Endpoint := .new .http "a" 9200

/-- A seed reached with encryption. -/
def secureSeed : Endpoint := .new .https "b" 9200

/-- An endpoint that is none of the seeds. -/
def guest : Endpoint := .new .http "c" 9200

/-- The first instant. -/
def dawn : Instant := ⟨0, by decide⟩

/-- An instant before any delay from the first one is over. -/
def noon : Instant := ⟨5, by decide⟩

/-- An instant after every first delay from these is over. -/
def dusk : Instant := ⟨60 * nanosPerSecond, by decide⟩

/-- A new pool of two seeds that take turns, with the connections numbered as they are made. -/
def twoInTurn : Pool Nat BuiltIn where
  roster := .ofNodes [⟨plainSeed, 1⟩, ⟨secureSeed, 2⟩]
  selector := .roundRobin 0
  seeds := [plainSeed, secureSeed]
  backoff := .standard
  selectorName := "round_robin"

theorem created_twoInTurn : twoInTurn.Created :=
  ⟨Nat, fun _ => do modify (· + 1); getThe Nat, 0, 2, [plainSeed, secureSeed], .roundRobin,
    .standard, fun l => l, [.created 2 "round_robin" false], fun l => .refl l, rfl⟩

end Pool

end EndpointPool
