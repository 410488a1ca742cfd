import EndpointPool.Proofs.Pool.Checks
import EndpointPool.Proofs.Pool.Listing

/-!
# A pool is made whole or not at all

The first check that fails refuses a pool before anything is connected. Once every check is passed
nothing can be refused any more: a connection is made for each endpoint, one after another in the
order in which the pool keeps them, and the pool holds just these nodes, all of them alive. Should
making a connection crash, there is no pool.

## Main definitions

* `Connects connect stored before nodes after`: the connections of endpoints, made one after another
* `Plan.stored plan shuffle seeds`: the seeds in the order in which the pool keeps them
* `Pool.Made plan seeds registry nodes p`: `p` is the pool of `nodes`, all of them new
* `Pool.AllOrNothing`: what may become of seeds and a plan

## Main results

* `run_mapM_connect_iff`: the connections that are made
* `Pool.all_or_nothing`: a pool is refused, or made whole
-/

namespace EndpointPool

/-! ### Connections -/

section Connections

variable {C τ : Type} {connect : Endpoint → StateT τ Option C}

/-- The connections of endpoints made one after another, each once and in the state that the one
before leaves: `nodes` are the endpoints with their connections. -/
inductive Connects (connect : Endpoint → StateT τ Option C) :
    List Endpoint → τ → List (Node C) → τ → Prop
  | nil (w : τ) : Connects connect [] w [] w
  | cons {e : Endpoint} {stored : List Endpoint} {c : C} {nodes : List (Node C)} {w w' w'' : τ}
      (made : (connect e).run w = some (c, w')) (rest : Connects connect stored w' nodes w'') :
      Connects connect (e :: stored) w (⟨e, c⟩ :: nodes) w''

theorem run_mapM_connect_iff {stored : List Endpoint} {nodes : List (Node C)} {before after : τ} :
    (stored.mapM fun e => do let c ← connect e; pure (Node.mk e c)).run before =
      some (nodes, after) ↔ Connects connect stored before nodes after := by
  induction stored generalizing before nodes with
  | nil =>
    constructor
    · intro h
      cases h
      exact .nil _
    · rintro ⟨⟩
      rfl
  | cons e stored ih =>
    simp only [List.mapM_cons, StateT.run_bind, StateT.run_pure, bind_assoc, pure_bind]
    constructor
    · intro h
      obtain ⟨⟨c, mid⟩, hmade, h⟩ := Option.bind_eq_some_iff.mp h
      obtain ⟨⟨rest, last⟩, hrest, h⟩ := Option.bind_eq_some_iff.mp h
      cases h
      exact .cons hmade (ih.mp hrest)
    · rintro ⟨⟩
      next hmade hrest =>
        apply Option.bind_eq_some_iff.mpr
        refine ⟨_, hmade, ?_⟩
        apply Option.bind_eq_some_iff.mpr
        exact ⟨_, ih.mpr hrest, rfl⟩

/-- Connections that are all made are made for all of the endpoints. -/
theorem exists_connects {stored : List Endpoint}
    (hmade : ∀ e ∈ stored, ∀ w, ∃ c w', (connect e).run w = some (c, w')) (before : τ) :
    ∃ nodes after, Connects connect stored before nodes after := by
  induction stored generalizing before with
  | nil => exact ⟨[], before, .nil before⟩
  | cons e stored ih =>
    obtain ⟨hhead, htail⟩ := List.forall_mem_cons.mp hmade
    obtain ⟨c, mid, hc⟩ := hhead before
    obtain ⟨nodes, after, hrest⟩ := ih htail mid
    exact ⟨⟨e, c⟩ :: nodes, after, .cons hc hrest⟩

/-- There is one node for each endpoint, in their order. -/
theorem Connects.map_endpoint {stored : List Endpoint} {nodes : List (Node C)} {before after : τ}
    (h : Connects connect stored before nodes after) : nodes.map (·.endpoint) = stored :=
  Pool.map_endpoint_of_mapM (run_mapM_connect_iff.mpr h)

/-- A log to which each connection adds its endpoint has the endpoints added once each, in order. -/
theorem Connects.log_eq {stored : List Endpoint} {nodes : List (Node C)} {before after : τ}
    (h : Connects connect stored before nodes after) {log : τ → List Endpoint}
    (hlog : ∀ e w c w', (connect e).run w = some (c, w') → log w' = log w ++ [e]) :
    log after = log before ++ stored := by
  induction h with
  | nil w => rw [List.append_nil]
  | cons made _ ih => rw [ih, hlog _ _ _ _ made, List.append_assoc, List.singleton_append]

end Connections

section Ordered

variable {C : Type} {nodes : List (Node C)}

theorem Roster.node?_ofNodes (h : (nodes.map (·.endpoint.id)).Nodup) {n : Node C} (hn : n ∈ nodes) :
    (ofNodes nodes).node? n.endpoint = some n := by
  rw [← nodes_ofNodes nodes] at hn
  obtain ⟨r, hr, rfl⟩ := List.mem_map.mp hn
  rw [node?, (sound_ofNodes h).find?_iff.mpr ⟨hr, rfl⟩, Option.map_some]

/-- The nodes are all alive, in the order of registration. -/
theorem Roster.aliveNodes_ofNodes (h : (nodes.map (·.endpoint.id)).Nodup) :
    (ofNodes nodes).aliveNodes = nodes := by
  apply List.map_injective_iff.mpr (Option.some_injective _)
  have halive : (ofNodes nodes).alive = nodes.map (·.endpoint) := by rw [ofNodes_eq]
  rw [(sound_ofNodes h).map_some_aliveNodes, halive, List.map_map]
  apply List.map_congr_left
  intro n hn
  exact node?_ofNodes h hn

theorem Roster.failures_ofNodes (e : Endpoint) : (ofNodes nodes).failures e = 0 := by
  unfold failures
  split
  · next r hr => rw [health_of_mem_ofNodes (Sound.mem_of_find? hr).1, Health.fresh]
  · rfl

end Ordered

/-- The endpoints in the order in which the pool keeps them. -/
def Plan.stored (plan : Plan) (shuffle : List Endpoint → List Endpoint) (seeds : List Endpoint) :
    List Endpoint :=
  if plan.randomize then shuffle seeds else seeds

theorem Plan.stored_perm {plan : Plan} {shuffle : List Endpoint → List Endpoint}
    {seeds : List Endpoint} (h : (shuffle seeds).Perm seeds) :
    (plan.stored shuffle seeds).Perm seeds := by
  unfold stored
  split
  · exact h
  · exact .refl seeds

namespace Pool

variable {C σ τ : Type} {seeds : List Endpoint} {connect : Endpoint → StateT τ Option C}
  {plan : Plan} {registry : Registry σ} {shuffle : List Endpoint → List Endpoint}

/-- `p` is the pool of `nodes` that follows the plan: just these nodes are registered and alive, in
this order, none has failed, and none is in quarantine or removed. -/
structure Made (plan : Plan) (seeds : List Endpoint) (registry : Registry σ)
    (nodes : List (Node C)) (p : Pool C σ) : Prop where
  roster : p.roster = .ofNodes nodes
  selector : registry.create plan.selector = .ok p.selector
  backoff : Backoff.new plan.factor plan.limit = .ok p.backoff
  seeds_eq : p.seeds = seeds
  selectorName : p.selectorName = plan.selector
  nodes_eq : p.roster.nodes = nodes
  aliveNodes_eq : p.roster.aliveNodes = nodes
  failures_eq : ∀ e, p.roster.failures e = 0
  dead_eq : p.roster.dead = []
  removed_eq : p.roster.removed = []

/-- What may become of seeds and a plan. -/
structure AllOrNothing (seeds : List Endpoint) (connect : Endpoint → StateT τ Option C)
    (plan : Plan) (registry : Registry σ) (shuffle : List Endpoint → List Endpoint) : Prop where
  /-- A pool is refused if a check fails, with the fault of the first that does. -/
  refused_iff : ∀ before fault,
    (∃ after, (create seeds connect plan registry shuffle).run before =
      some (.error fault, after)) ↔
    ∃ c, FailsFirst (plan.checks seeds registry) c ∧ fault = .configuration c.cause
  /-- Then nothing is connected. -/
  unconnected : ∀ c, FailsFirst (plan.checks seeds registry) c →
    create seeds connect plan registry shuffle = pure (.error (.configuration c.cause))
  /-- A pool is made if no check fails and the connections are made, each once and in order. -/
  made_iff : ∀ before p events after,
    (create seeds connect plan registry shuffle).run before = some (.ok (p, events), after) ↔
    (∀ c ∈ plan.checks seeds registry, ¬ c.fails) ∧
      events = [.created seeds.length plan.selector plan.randomize] ∧
      ∃ nodes, Connects connect (plan.stored shuffle seeds) before nodes after ∧
        nodes.map (·.endpoint) = plan.stored shuffle seeds ∧ p.Made plan seeds registry nodes
  /-- Nothing else can keep it from being made. -/
  made : (∀ c ∈ plan.checks seeds registry, ¬ c.fails) →
    (∀ e ∈ seeds, ∀ w, ∃ c w', (connect e).run w = some (c, w')) → ∀ before, ∃ p events after,
      (create seeds connect plan registry shuffle).run before = some (.ok (p, events), after)
  /-- A log of the connections has each endpoint added once, in order. -/
  logged : ∀ log : τ → List Endpoint,
    (∀ e w c w', (connect e).run w = some (c, w') → log w' = log w ++ [e]) →
    ∀ before p events after,
      (create seeds connect plan registry shuffle).run before = some (.ok (p, events), after) →
      log after = log before ++ plan.stored shuffle seeds

/-- A refused plan is refused before anything is connected. -/
theorem create_of_error {fault : Fault} (h : plan.resolve seeds registry = .error fault) :
    create seeds connect plan registry shuffle = pure (.error fault) := by
  rw [create, h]

/-- A plan that can be followed has the connections made, and its pool is that of the nodes. -/
theorem run_create_of_ok {selector : σ} {backoff : Backoff}
    (h : plan.resolve seeds registry = .ok (selector, backoff)) {before after : τ}
    {made : Except Fault (Pool C σ × List Event)} :
    (create seeds connect plan registry shuffle).run before = some (made, after) ↔
      ∃ nodes, Connects connect (plan.stored shuffle seeds) before nodes after ∧
        made = .ok (⟨.ofNodes nodes, selector, seeds, backoff, plan.selector⟩,
          [.created seeds.length plan.selector plan.randomize]) := by
  simp only [create, h, StateT.run_bind, ← run_mapM_connect_iff]
  constructor
  · intro hrun
    obtain ⟨⟨nodes, mid⟩, hnodes, hrun⟩ := Option.bind_eq_some_iff.mp hrun
    cases hrun
    exact ⟨nodes, hnodes, rfl⟩
  · rintro ⟨nodes, hnodes, rfl⟩
    exact Option.bind_eq_some_iff.mpr ⟨(nodes, after), hnodes, rfl⟩

/-- The pool of nodes of distinct identities holds them all, alive and without a failure. -/
theorem made_ofNodes {nodes : List (Node C)} (hnodup : (nodes.map (·.endpoint.id)).Nodup)
    {p : Pool C σ} (roster : p.roster = .ofNodes nodes)
    (selector : registry.create plan.selector = .ok p.selector)
    (backoff : Backoff.new plan.factor plan.limit = .ok p.backoff)
    (seeds_eq : p.seeds = seeds) (selectorName : p.selectorName = plan.selector) :
    p.Made plan seeds registry nodes where
  roster := roster
  selector := selector
  backoff := backoff
  seeds_eq := seeds_eq
  selectorName := selectorName
  nodes_eq := by rw [roster, Roster.nodes_ofNodes]
  aliveNodes_eq := by rw [roster, Roster.aliveNodes_ofNodes hnodup]
  failures_eq := fun e => by rw [roster, Roster.failures_ofNodes]
  dead_eq := by rw [roster, Roster.ofNodes_eq]
  removed_eq := by rw [roster, Roster.ofNodes_eq]

/-- The nodes of a plan's endpoints are of distinct identities, as the seeds are. -/
theorem nodup_of_connects (hshuffle : (shuffle seeds).Perm seeds)
    (hseeds : (seeds.map Endpoint.id).Nodup) {nodes : List (Node C)} {before after : τ}
    (h : Connects connect (plan.stored shuffle seeds) before nodes after) :
    (nodes.map (·.endpoint.id)).Nodup := by
  have hids : nodes.map (·.endpoint.id) = (plan.stored shuffle seeds).map Endpoint.id := by
    rw [← h.map_endpoint, List.map_map]
    rfl
  rw [hids]
  exact ((Plan.stored_perm hshuffle).map _).nodup_iff.mpr hseeds

/-- A pool that is made follows a plan that passes the checks, and holds the nodes connected. -/
theorem run_create_eq_ok_iff (hshuffle : (shuffle seeds).Perm seeds) {before after : τ}
    {p : Pool C σ} {events : List Event} :
    (create seeds connect plan registry shuffle).run before = some (.ok (p, events), after) ↔
      (∀ c ∈ plan.checks seeds registry, ¬ c.fails) ∧
        events = [.created seeds.length plan.selector plan.randomize] ∧
        ∃ nodes, Connects connect (plan.stored shuffle seeds) before nodes after ∧
          nodes.map (·.endpoint) = plan.stored shuffle seeds ∧
          p.Made plan seeds registry nodes := by
  rw [← Plan.exists_resolve_iff]
  cases hresolve : plan.resolve seeds registry with
  | error fault =>
    rw [create_of_error hresolve]
    exact iff_of_false nofun fun ⟨⟨_, _, h⟩, _⟩ => nomatch h
  | ok made =>
    obtain ⟨selector, backoff⟩ := made
    obtain ⟨-, hseeds, hselector, hbackoff⟩ := Plan.resolve_eq_ok hresolve
    rw [run_create_of_ok hresolve]
    constructor
    · rintro ⟨nodes, hnodes, hmade⟩
      cases hmade
      have hnodup := nodup_of_connects hshuffle hseeds hnodes
      exact ⟨⟨selector, backoff, rfl⟩, rfl, nodes, hnodes, hnodes.map_endpoint,
        made_ofNodes hnodup rfl hselector hbackoff rfl rfl⟩
    · rintro ⟨-, rfl, nodes, hnodes, -, hmade⟩
      -- the plan leaves no choice of the selector and the backoff
      have hs : p.selector = selector := Except.ok.inj (hmade.selector.symm.trans hselector)
      have hb : p.backoff = backoff := Except.ok.inj (hmade.backoff.symm.trans hbackoff)
      refine ⟨nodes, hnodes, ?_⟩
      rw [← hs, ← hb, ← hmade.roster, ← hmade.seeds_eq, ← hmade.selectorName]

/-- A pool is refused if a check fails, with the fault of the first that does. -/
theorem exists_run_create_eq_error_iff {before : τ} {fault : Fault} :
    (∃ after, (create seeds connect plan registry shuffle).run before =
      some (.error fault, after)) ↔
    ∃ c, FailsFirst (plan.checks seeds registry) c ∧ fault = .configuration c.cause := by
  rw [← Plan.resolve_eq_error_iff]
  constructor
  · rintro ⟨after, h⟩
    exact resolve_of_create_error h
  · intro h
    rw [create_of_error h]
    exact ⟨before, rfl⟩

/-- **A pool is made whole or not at all**: the first check that fails refuses it before anything
is connected, and nothing else does. -/
theorem all_or_nothing (seeds : List Endpoint) (connect : Endpoint → StateT τ Option C)
    (plan : Plan) (registry : Registry σ) (shuffle : List Endpoint → List Endpoint)
    (hshuffle : (shuffle seeds).Perm seeds) :
    AllOrNothing seeds connect plan registry shuffle where
  refused_iff := fun _ _ => exists_run_create_eq_error_iff
  unconnected := fun c hc => create_of_error (Plan.resolve_eq_error_iff.mpr ⟨c, hc, rfl⟩)
  made_iff := fun _ _ _ _ => run_create_eq_ok_iff hshuffle
  made := by
    intro hpasses hmade before
    obtain ⟨selector, backoff, hresolve⟩ := Plan.exists_resolve_iff.mpr hpasses
    have hstored : ∀ e ∈ plan.stored shuffle seeds, ∀ w, ∃ c w',
        (connect e).run w = some (c, w') :=
      fun e he => hmade e ((Plan.stored_perm hshuffle).mem_iff.mp he)
    obtain ⟨nodes, after, hnodes⟩ := exists_connects hstored before
    exact ⟨_, _, after, (run_create_of_ok hresolve).mpr ⟨nodes, hnodes, rfl⟩⟩
  logged := by
    intro log hlog before p events after h
    obtain ⟨-, -, nodes, hnodes, -⟩ := (run_create_eq_ok_iff hshuffle).mp h
    exact hnodes.log_eq hlog

/-- The two seeds kept in the other order, with the connections numbered as they are made. -/
theorem all_or_nothing_reversed :
    (List.reverse [plainSeed, secureSeed]).Perm [plainSeed, secureSeed] ∧
      AllOrNothing (σ := BuiltIn) [plainSeed, secureSeed]
        (fun _ => do modify (· + 1); getThe Nat : Endpoint → StateT Nat Option Nat)
        (.ofSelector "round_robin") .standard List.reverse :=
  ⟨List.reverse_perm _, all_or_nothing _ _ _ _ _ (List.reverse_perm _)⟩

end Pool

end EndpointPool
