import EndpointPool.Proofs.Roster.Standing
import Mathlib.Data.List.Count

/-!
# What a sound roster shows

The accounts of a roster seen from outside: who is found alive, who is found dead and under which
key, and what the listings show. All of it is read off the standing of each identity.

## Main definitions

* `Roster.Coherent`: what the accounts of a roster say of each other

## Main results

* `Roster.Sound.mem_alive_iff`, `Roster.Sound.mem_dead_iff`: who is alive, and who is dead when
* `Roster.Sound.perm_alive_dead`: the alive and the dead partition the registered identities
* `Roster.Sound.coherent`: a sound roster is coherent
-/

namespace EndpointPool.Roster

variable {C : Type}

/-- The accounts of a roster agree as its readers see them. -/
structure Coherent (s : Roster C) : Prop where
  /-- The registered identities are distinct. -/
  registered_nodup : (s.registered.map (·.node.endpoint.id)).Nodup
  /-- The alive identities are distinct. -/
  alive_nodup : (s.alive.map Endpoint.id).Nodup
  /-- Alive are the registered nodes without a deadline. -/
  mem_alive : ∀ e : Endpoint, (∃ a ∈ s.alive, a.id = e.id) ↔
    ∃ r, s.find? e = some r ∧ r.health.deadline = none
  /-- Dead are the registered nodes with a deadline, under its key. -/
  mem_dead : ∀ (e : Endpoint) (deadline : Instant) (order : Nat),
    (∃ q ∈ s.dead, q.HasKey deadline order ∧ q.endpoint.id = e.id) ↔
      ∃ r, s.find? e = some r ∧ r.health.deadline = some deadline ∧ r.order = order
  /-- The dead are in order. -/
  dead_sorted : s.dead.Pairwise Quarantine.Before
  /-- No two of the dead share a key. -/
  dead_keys : s.dead.Pairwise fun q r => ¬ r.HasKey q.deadline q.order
  /-- Every registered identity is one of the alive or one of the dead, and not both. -/
  partition : (s.alive.map Endpoint.id ++ s.dead.map (·.endpoint.id)).Perm
    (s.registered.map (·.node.endpoint.id))
  /-- The listing of the alive nodes has one node for each alive entry. -/
  aliveNodes : s.aliveNodes.map (·.endpoint.id) = s.alive.map Endpoint.id
  /-- The listing of the dead nodes has one node for each quarantine. -/
  deadNodes : s.deadNodes.map (·.endpoint.id) = s.dead.map (·.endpoint.id)
  /-- Every dead node has failed. -/
  failures_pos : ∀ r ∈ s.registered, r.health.deadline ≠ none → 1 ≤ r.health.failures
  /-- The numbers of the registrations grow, so no two are equal. -/
  increasing : s.registered.Pairwise fun r t => r.order < t.order
  /-- Every number given is below the next. -/
  order_lt : ∀ r ∈ s.registered, r.order < s.nextOrder
  /-- The removed identities are distinct. -/
  removed_nodup : (s.removed.map Endpoint.id).Nodup
  /-- What is removed is not registered. -/
  removed_absent : ∀ e ∈ s.removed, s.find? e = none

namespace Sound

variable {s : Roster C}

theorem mem_alive_iff (h : s.Sound) (e : Endpoint) :
    (∃ a ∈ s.alive, a.id = e.id) ↔ ∃ r, s.find? e = some r ∧ r.health.deadline = none := by
  rw [find?_eq_head?, ← (h.standing e.id).exists_mem_alive_iff]
  simp only [mem_aliveAs]

theorem mem_dead_iff (h : s.Sound) (e : Endpoint) (deadline : Instant) (order : Nat) :
    (∃ q ∈ s.dead, q.HasKey deadline order ∧ q.endpoint.id = e.id) ↔
      ∃ r, s.find? e = some r ∧ r.health.deadline = some deadline ∧ r.order = order := by
  rw [find?_eq_head?, ← (h.standing e.id).exists_mem_dead_iff]
  simp only [mem_deadAs, and_assoc, and_comm]

/-- The alive and the dead partition the registered identities. -/
theorem perm_alive_dead (h : s.Sound) :
    (s.alive.map Endpoint.id ++ s.dead.map (·.endpoint.id)).Perm
      (s.registered.map (·.node.endpoint.id)) := by
  -- each identity occurs as often on either side
  apply List.perm_iff_count.mpr
  intro i
  rw [List.count_append, count_map_eq, count_map_eq, count_map_eq]
  exact (h.standing i).length_add

/-- Every alive entry is that of a registered node. -/
theorem exists_node?_of_mem_alive (h : s.Sound) {a : Endpoint} (ha : a ∈ s.alive) :
    ∃ n, s.node? a = some n ∧ n.endpoint.id = a.id := by
  obtain ⟨r, hr, -⟩ := (h.mem_alive_iff a).mp ⟨a, ha, rfl⟩
  exact ⟨r.node, by rw [node?, hr, Option.map_some], (mem_of_find? hr).2⟩

/-- Every quarantine is that of a registered node. -/
theorem exists_node?_of_mem_dead (h : s.Sound) {q : Quarantine} (hq : q ∈ s.dead) :
    ∃ n, s.node? q.endpoint = some n ∧ n.endpoint.id = q.endpoint.id := by
  obtain ⟨r, hr, hi, -⟩ := h.exists_of_mem_dead hq
  exact ⟨r.node, by rw [node?, h.find?_iff.mpr ⟨hr, hi⟩, Option.map_some], hi⟩

/-- A listing by look-ups that all succeed has the identities looked up. -/
theorem map_id_filterMap {α : Type} {f : α → Option (Node C)} {g : α → Endpoint.Identity} :
    ∀ {l : List α}, (∀ a ∈ l, ∃ n, f a = some n ∧ n.endpoint.id = g a) →
      (l.filterMap f).map (·.endpoint.id) = l.map g
  | [], _ => rfl
  | a :: l, hl => by
    obtain ⟨⟨n, hn, hi⟩, hl⟩ := List.forall_mem_cons.mp hl
    rw [List.filterMap_cons_some hn, List.map_cons, List.map_cons, hi, map_id_filterMap hl]

/-- No identity is twice in quarantine. -/
theorem nodup_ids_dead (h : s.Sound) : (s.dead.map (·.endpoint.id)).Nodup := by
  refine nodup_map_of_filter _ fun i => ?_
  have hadd := (h.standing i).length_add
  have hle := (h.standing i).length_le
  exact Nat.le_trans (Nat.le_add_left _ _) (Nat.le_trans (Nat.le_of_eq hadd) hle)

/-- A sound roster is coherent. -/
theorem coherent (h : s.Sound) : s.Coherent where
  registered_nodup := nodup_map_of_filter _ fun i => (h.standing i).length_le
  alive_nodup := by
    apply nodup_map_of_filter
    intro i
    have hadd := (h.standing i).length_add
    have hle := (h.standing i).length_le
    exact Nat.le_trans (Nat.le_add_right _ _) (Nat.le_trans (Nat.le_of_eq hadd) hle)
  mem_alive := h.mem_alive_iff
  mem_dead := h.mem_dead_iff
  dead_sorted := h.sorted
  dead_keys := h.sorted.imp Quarantine.Before.not_hasKey
  partition := h.perm_alive_dead
  aliveNodes := map_id_filterMap fun _ ha => h.exists_node?_of_mem_alive ha
  deadNodes := map_id_filterMap fun _ hq => h.exists_node?_of_mem_dead hq
  failures_pos := by
    intro r hr hd
    obtain ⟨-, ⟨hn, -⟩ | ⟨-, -, -, hf, -⟩⟩ := h.of_find? (h.find?_iff.mpr ⟨hr, rfl⟩)
    · exact absurd hn hd
    · exact hf
  increasing := h.increasing
  order_lt := h.order_lt
  removed_nodup := h.removed_nodup
  removed_absent := fun e he => find?_eq_none_iff.mpr (h.removed_absent e he)

end Sound

end EndpointPool.Roster
