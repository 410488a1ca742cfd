import EndpointPool.Proofs.Pool.Run

/-!
# Calls, one after another

A caller has an operation performed, or looks at the pool, and gets a response. Calls that are
served one after another are the yardstick for callers that share a pool. A look changes nothing,
so the pool after calls is the pool after their operations. A node that can be seen is a registered
one, and a node comes to be registered by an addition that finds its endpoint wanted.

## Main definitions

* `Query`, `Call`, `Response`: what a caller looks at, asks for and gets
* `Pool.serve p call`: the pool after a call, and the response
* `Pool.afterCalls p calls`, `Pool.responses p calls`: the pool after calls, and their responses
* `Response.seen`: the nodes that a response shows

## Main results

* `Pool.afterCalls_eq_after`: the pool after calls is the pool after their operations
* `Pool.mem_nodes_serve`: a registered node was registered before, or the call added it
* `Pool.mem_nodes_of_seen`: a node that a response shows is registered
-/

namespace EndpointPool

/-- What a caller may look at. -/
inductive Query
  | all
  | alive
  | dead
  | removed
  | failures (endpoint : Endpoint)
  | size
  | stats

/-- What a caller asks for. -/
inductive Call (C : Type)
  | operate (op : Operation C)
  | look (query : Query)

/-- What a caller gets. -/
inductive Response (C : Type)
  | done (reply : Option (Reply C)) (events : List Event)
  | nodes (nodes : List (Node C))
  | endpoints (endpoints : List Endpoint)
  | count (n : Nat)
  | numbers (stats : Stats)

/-- The nodes that a response shows. -/
def Response.seen {C : Type} : Response C → List (Node C)
  | done (some (.node n)) _ => [n]
  | nodes l => l
  | _ => []

/-- The operation of a call, if it has one. -/
def Call.operation? {C : Type} : Call C → Option (Operation C)
  | operate op => some op
  | look _ => none

/-- Whether a call is an addition. -/
def Call.isAddition {C : Type} : Call C → Bool
  | operate (.add _ _) => true
  | _ => false

namespace Roster

variable {C : Type} {s : Roster C} {n : Node C}

/-! ### The nodes of a roster -/

theorem mem_nodes_of_node? {e : Endpoint} (h : s.node? e = some n) : n ∈ s.nodes := by
  obtain ⟨r, hr, rfl⟩ := Option.map_eq_some_iff.mp h
  exact List.mem_map.mpr ⟨r, (Sound.mem_of_find? hr).1, rfl⟩

theorem mem_nodes_of_aliveAt? {i : Nat} (h : s.aliveAt? i = some n) : n ∈ s.nodes := by
  obtain ⟨a, -, ha⟩ := Option.bind_eq_some_iff.mp h
  exact mem_nodes_of_node? ha

theorem mem_nodes_of_earliest? (h : s.earliest? = some n) : n ∈ s.nodes := by
  obtain ⟨q, -, hq⟩ := Option.bind_eq_some_iff.mp h
  exact mem_nodes_of_node? hq

theorem nodes_register (s : Roster C) (n : Node C) : (s.register n).nodes = s.nodes ++ [n] := by
  rw [nodes, register, List.map_append]
  rfl

theorem nodes_vacate (s : Roster C) (r : Registration C) : (s.vacate r).nodes = s.nodes := by
  unfold vacate
  split <;> rfl

theorem nodes_setHealth (s : Roster C) (e : Endpoint) (h : Health) :
    (s.setHealth e h).nodes = s.nodes := by
  refine (List.map_map).trans (List.map_congr_left fun r _ => ?_)
  rw [Function.comp_apply]
  split <;> rfl

theorem nodes_resurrectDue (s : Roster C) (now : Instant) :
    (s.resurrectDue now).1.nodes = s.nodes := by
  refine (List.map_map).trans (List.map_congr_left fun r _ => ?_)
  rw [Function.comp_apply]
  split <;> rfl

theorem nodes_remove_subset (s : Roster C) (e : Endpoint) : (s.remove e).1.nodes ⊆ s.nodes := by
  cases hf : s.find? e with
  | none =>
    rw [remove_of_find?_none hf]
    exact List.Subset.refl _
  | some r =>
    intro n hn
    simp only [remove, hf] at hn
    rw [← nodes_vacate s r]
    obtain ⟨t, ht, rfl⟩ := List.mem_map.mp hn
    exact List.mem_map.mpr ⟨t, by simpa [vacate] using (List.mem_filter.mp ht).1, rfl⟩

theorem nodes_markDead (s : Roster C) (b : Backoff) (e : Endpoint) (now : Instant) :
    (s.markDead b e now).1.nodes = s.nodes := by
  cases hf : s.find? e with
  | none => rw [markDead_of_find?_none b now hf]
  | some r =>
    -- the roster differs from this one in its quarantines only
    have hset := nodes_setHealth (s.vacate r) e (r.health.fail now b)
    rw [nodes_vacate] at hset
    simp only [markDead, hf]
    exact hset

theorem nodes_markLive (s : Roster C) (e : Endpoint) : (s.markLive e).1.nodes = s.nodes := by
  cases hf : s.find? e with
  | none => rw [markLive_of_find?_none hf]
  | some r =>
    have hset := nodes_setHealth s e r.health.succeed
    simp only [markLive, hf]
    split
    · exact hset
    · exact (nodes_vacate _ r).trans hset

end Roster

namespace Pool

variable {C σ : Type} [Selector σ]

/-! ### Serving calls -/

/-- What a look shows. -/
def look (p : Pool C σ) : Query → Response C
  | .all => .nodes p.roster.nodes
  | .alive => .nodes p.roster.aliveNodes
  | .dead => .nodes p.roster.deadNodes
  | .removed => .endpoints p.roster.removed
  | .failures e => .count (p.roster.failures e)
  | .size => .count p.roster.registered.length
  | .stats => .numbers p.stats

/-- The pool after a call, and the response. -/
def serve (p : Pool C σ) : Call C → Pool C σ × Response C
  | .operate op => ((p.perform op).1, .done (p.perform op).2.1 (p.perform op).2.2)
  | .look query => (p, p.look query)

/-- The pool after calls that are served one after another. -/
def afterCalls (p : Pool C σ) (calls : List (Call C)) : Pool C σ :=
  calls.foldl (fun p call => (p.serve call).1) p

/-- The responses to calls that are served one after another. -/
def responses (p : Pool C σ) : List (Call C) → List (Response C)
  | [] => []
  | call :: calls => (p.serve call).2 :: (p.serve call).1.responses calls

section Serve

variable (p : Pool C σ) (call : Call C) (calls calls' : List (Call C))

theorem afterCalls_concat :
    p.afterCalls (calls ++ [call]) = ((p.afterCalls calls).serve call).1 := List.foldl_append

theorem responses_append :
    p.responses (calls ++ calls') = p.responses calls ++ (p.afterCalls calls).responses calls' := by
  induction calls generalizing p with
  | nil => rfl
  | cons call calls ih =>
    rw [List.cons_append, responses, responses, ih]
    rfl

theorem length_responses : (p.responses calls).length = calls.length := by
  induction calls generalizing p with
  | nil => rfl
  | cons call calls ih => rw [responses, List.length_cons, List.length_cons, ih]

/-- A look changes nothing, so the pool after calls is the pool after their operations. -/
theorem afterCalls_eq_after : p.afterCalls calls = p.after (calls.filterMap Call.operation?) := by
  induction calls using List.reverseRecOn with
  | nil => rfl
  | append_singleton calls call ih =>
    rw [afterCalls_concat, List.filterMap_append, after_append, ih]
    cases call <;> rfl

/-- An addition whose connection is not made does nothing. -/
theorem serve_add_none (e : Endpoint) :
    p.serve (.operate (.add e none)) = (p, .done none []) := by
  simp only [serve, perform, add_none]

/-- An addition whose endpoint is not wanted does nothing, whatever its connection is. -/
theorem serve_add_of_not_wants {e : Endpoint} (h : p.wants e = false) (connection : Option C) :
    p.serve (.operate (.add e connection)) = (p, .done none []) := by
  simp only [serve, perform, add, h, Bool.false_eq_true, if_false]

/-- An addition whose connection is made is an acceptance. -/
theorem serve_add_some (n : Node C) :
    p.serve (.operate (.add n.endpoint (some n.connection))) =
      ((p.accept n).1, .done none (p.accept n).2) := by
  simp only [serve, perform, add]
  split
  · rfl
  · next hw => simp only [accept, hw, if_false, Bool.false_eq_true]

end Serve

/-! ### The nodes that can be seen -/

section Nodes

variable {p : Pool C σ} {n : Node C} {call : Call C}

/-- A node is registered only by an addition that finds its endpoint wanted. -/
theorem mem_nodes_serve (h : n ∈ (p.serve call).1.roster.nodes) :
    n ∈ p.roster.nodes ∨
      call = .operate (.add n.endpoint (some n.connection)) ∧ p.wants n.endpoint = true := by
  cases call with
  | look query => exact .inl h
  | operate op =>
    change n ∈ (p.perform op).1.roster.nodes at h
    cases op with
    | get now draw =>
      rw [roster_perform_get, Roster.nodes_resurrectDue] at h
      exact .inl h
    | add e connection =>
      cases connection with
      | none =>
        rw [roster_perform_add_none] at h
        exact .inl h
      | some c =>
        rw [roster_perform_add_some] at h
        split at h
        · -- the node is the last of those registered then
          next hw =>
          rw [Roster.nodes_register] at h
          rcases List.mem_append.mp h with h | h
          · exact .inl h
          · obtain rfl := List.mem_singleton.mp h
            exact .inr ⟨rfl, hw⟩
        · exact .inl h
    | remove e =>
      rw [roster_perform_remove] at h
      split at h
      · exact .inl h
      · exact .inl (Roster.nodes_remove_subset _ e h)
    | markDead e now =>
      rw [roster_perform_markDead, Roster.nodes_markDead] at h
      exact .inl h
    | markLive e =>
      rw [roster_perform_markLive, Roster.nodes_markLive] at h
      exact .inl h

theorem mem_nodes_of_fallback {s : Roster C} (h : fallback s = .node n) : n ∈ s.nodes := by
  unfold fallback at h
  split at h
  · next hearliest =>
    cases h
    exact Roster.mem_nodes_of_earliest? hearliest
  · cases h

/-- A node that is handed out is registered. -/
theorem mem_nodes_of_get {now : Instant} {draw : Nat} (h : (p.get now draw).2.1 = .node n) :
    n ∈ p.roster.nodes := by
  -- the node is looked up after resurrections, which change no node
  rw [← Roster.nodes_resurrectDue p.roster now]
  simp only [get] at h
  split at h
  · exact mem_nodes_of_fallback h
  · split at h
    · cases h
    · split at h
      · next hat =>
        cases h
        exact Roster.mem_nodes_of_aliveAt? hat
      · exact mem_nodes_of_fallback h

/-- A node that a response shows is registered. -/
theorem mem_nodes_of_seen (h : n ∈ (p.serve call).2.seen) : n ∈ p.roster.nodes := by
  cases call with
  | operate op =>
    cases op with
    | get now draw =>
      change n ∈ (Response.done (some (p.get now draw).2.1) (p.get now draw).2.2).seen at h
      cases hreply : (p.get now draw).2.1 with
      | node m =>
        rw [hreply] at h
        obtain rfl := List.mem_singleton.mp h
        exact mem_nodes_of_get hreply
      | selectorCrashed =>
        rw [hreply] at h
        cases h
      | nothingRegistered =>
        rw [hreply] at h
        cases h
    | add | remove | markDead | markLive => cases h
  | look query =>
    cases query with
    | all => exact h
    | alive =>
      obtain ⟨a, -, ha⟩ := List.mem_filterMap.mp h
      exact Roster.mem_nodes_of_node? ha
    | dead =>
      obtain ⟨q, -, hq⟩ := List.mem_filterMap.mp h
      exact Roster.mem_nodes_of_node? hq
    | removed | failures | size | stats => cases h

end Nodes

end Pool

end EndpointPool
