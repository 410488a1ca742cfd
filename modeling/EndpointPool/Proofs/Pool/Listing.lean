import EndpointPool.Proofs.Pool.Tenure
import Mathlib.Data.Option.Basic

/-!
# What the listings show

The listings of a pool look up the node of every alive entry, or of every quarantine. All the
look-ups succeed, so a listing shows the nodes that stand so, in the order of the entries. A look-up
reads the identity of an entry only, and a node that stays registered stays the same node, so the
listing of the alive nodes changes only with the identities that are alive. The listing of the dead
nodes is in the order in which their quarantines end.

## Main definitions

* `Roster.EndsBefore s i j`: the quarantine of `i` ends before that of `j`

## Main results

* `Roster.Sound.mem_aliveNodes_iff`, `Roster.Sound.mem_deadNodes_iff`: who is listed
* `Roster.Sound.pairwise_deadNodes`: in which order the dead nodes are listed
* `Roster.Sound.aliveAt?_eq`: the alive node at an index is the one that is listed there
* `Pool.Sound.aliveNodes_perform`: the listing of the alive nodes after an operation
-/

namespace EndpointPool

namespace Roster

variable {C : Type} {s : Roster C}

theorem node?_eq (s : Roster C) (e : Endpoint) :
    s.node? e = (s.registeredAs e.id).head?.map (·.node) := by
  rw [node?, find?_eq_head?]

/-- An identity is registered once at most. -/
theorem Sound.eq_of_mem_registeredAs (h : s.Sound) {i : Endpoint.Identity} {r t : Registration C}
    (hr : r ∈ s.registeredAs i) (ht : t ∈ s.registeredAs i) : r = t := by
  obtain ⟨hone, -⟩ := (h.standing i).of_mem ht
  exact List.mem_singleton.mp (hone ▸ hr)

/-- The listing of the alive nodes shows the node of each alive entry. -/
theorem Sound.map_some_aliveNodes (h : s.Sound) : s.aliveNodes.map some = s.alive.map s.node? := by
  rw [aliveNodes, List.map_filterMap, ← List.filterMap_eq_map]
  refine List.filterMap_congr fun a ha => ?_
  obtain ⟨n, hn, -⟩ := h.exists_node?_of_mem_alive ha
  rw [hn, Option.map_some, Function.comp_apply, hn]

theorem Sound.length_aliveNodes (h : s.Sound) : s.aliveNodes.length = s.alive.length := by
  rw [← List.length_map some, h.map_some_aliveNodes, List.length_map]

/-- The alive node at an index is the one that the listing shows there. -/
theorem Sound.aliveAt?_eq (h : s.Sound) (i : Nat) :
    s.aliveAt? i = s.aliveNodes[i % s.aliveNodes.length]? := by
  have hat : (s.aliveNodes[i % s.alive.length]?).map some =
      (s.alive[i % s.alive.length]?).map s.node? := by
    rw [← List.getElem?_map, ← List.getElem?_map, h.map_some_aliveNodes]
  rw [aliveAt?, h.length_aliveNodes]
  cases ha : s.alive[i % s.alive.length]? with
  | none =>
    rw [ha] at hat
    exact (Option.map_eq_none_iff.mp hat).symm
  | some a =>
    rw [ha] at hat
    obtain ⟨n, hn, hna⟩ := Option.map_eq_some_iff.mp hat
    rw [hn]
    exact hna.symm

/-- Listed as alive are the registered nodes without a deadline. -/
theorem Sound.mem_aliveNodes_iff (h : s.Sound) (n : Node C) :
    n ∈ s.aliveNodes ↔ ∃ r ∈ s.registered, r.node = n ∧ r.health.deadline = none := by
  rw [aliveNodes, List.mem_filterMap]
  constructor
  · rintro ⟨a, ha, hn⟩
    obtain ⟨r, hr, hd⟩ := (h.mem_alive_iff a).mp ⟨a, ha, rfl⟩
    rw [node?, hr] at hn
    exact ⟨r, (Sound.mem_of_find? hr).1, Option.some.inj hn, hd⟩
  · rintro ⟨r, hr, rfl, hd⟩
    obtain ⟨a, ha, hi⟩ := (h.mem_alive_iff _).mpr ⟨r, h.find?_iff.mpr ⟨hr, rfl⟩, hd⟩
    exact ⟨a, ha, by rw [node?, h.find?_iff.mpr ⟨hr, hi.symm⟩, Option.map_some]⟩

/-- Listed as dead are the registered nodes with a deadline. -/
theorem Sound.mem_deadNodes_iff (h : s.Sound) (n : Node C) :
    n ∈ s.deadNodes ↔ ∃ r ∈ s.registered, r.node = n ∧ r.health.deadline ≠ none := by
  rw [deadNodes, List.mem_filterMap]
  constructor
  · rintro ⟨q, hq, hn⟩
    obtain ⟨r, hr, hi, hd, -⟩ := h.exists_of_mem_dead hq
    rw [node?, h.find?_iff.mpr ⟨hr, hi⟩] at hn
    exact ⟨r, hr, Option.some.inj hn, hd ▸ Option.some_ne_none _⟩
  · rintro ⟨r, hr, rfl, hd⟩
    obtain ⟨d, hd⟩ := Option.ne_none_iff_exists'.mp hd
    obtain ⟨q, hq, -, hi⟩ :=
      (h.mem_dead_iff _ d r.order).mpr ⟨r, h.find?_iff.mpr ⟨hr, rfl⟩, hd, rfl⟩
    exact ⟨q, hq, by rw [node?, h.find?_iff.mpr ⟨hr, hi.symm⟩, Option.map_some]⟩

/-! ### The order of quarantines -/

/-- Two identities are in quarantine, and that of the first ends before that of the second; ties are
broken by the numbers of the registrations. -/
def EndsBefore (s : Roster C) (i j : Endpoint.Identity) : Prop :=
  ∃ r ∈ s.registeredAs i, ∃ t ∈ s.registeredAs j, ∃ d d' : Instant,
    r.health.deadline = some d ∧ t.health.deadline = some d' ∧
      (d < d' ∨ d = d' ∧ r.order < t.order)

theorem Sound.not_endsBefore (h : s.Sound) {i j : Endpoint.Identity} (hij : s.EndsBefore i j) :
    ¬ s.EndsBefore j i := by
  rintro ⟨t', ht', r', hr', d', d, hd', hd, hlt'⟩
  obtain ⟨r, hr, t, ht, c, c', hc, hc', hlt⟩ := hij
  obtain rfl := h.eq_of_mem_registeredAs hr hr'
  obtain rfl := h.eq_of_mem_registeredAs ht ht'
  obtain rfl := Option.some.inj (hc.symm.trans hd)
  obtain rfl := Option.some.inj (hc'.symm.trans hd')
  simp only [Instant.lt_def, Instant.ext_iff] at hlt hlt'
  omega

/-- The quarantines stand in the order in which they end. -/
theorem Sound.pairwise_dead (h : s.Sound) :
    s.dead.Pairwise fun q q' => s.EndsBefore q.endpoint.id q'.endpoint.id := by
  refine h.sorted.imp_of_mem fun {q q'} hq hq' hlt => ?_
  obtain ⟨r, hr, hi, hd, ho, -⟩ := h.exists_of_mem_dead hq
  obtain ⟨r', hr', hi', hd', ho', -⟩ := h.exists_of_mem_dead hq'
  refine ⟨r, mem_registeredAs.mpr ⟨hr, hi⟩, r', mem_registeredAs.mpr ⟨hr', hi'⟩,
    q.deadline, q'.deadline, hd, hd', ?_⟩
  rwa [ho, ho']

theorem Sound.pairwise_deadNodes (h : s.Sound) :
    (s.deadNodes.map (·.endpoint.id)).Pairwise s.EndsBefore := by
  rw [h.coherent.deadNodes]
  exact List.pairwise_map.mpr h.pairwise_dead

end Roster

namespace Pool

variable {C σ : Type} [Selector σ] {p : Pool C σ} {op : Operation C}

/-- Nodes that stay alive stay the same nodes. -/
theorem Sound.aliveNodes_perform (h : p.Sound)
    (hids : (p.perform op).1.roster.alive.map Endpoint.id = p.roster.alive.map Endpoint.id) :
    (p.perform op).1.roster.aliveNodes = p.roster.aliveNodes := by
  have hs := (h.perform op).roster
  apply List.map_injective_iff.mpr (Option.some_injective (Node C))
  rw [hs.map_some_aliveNodes, h.roster.map_some_aliveNodes]
  -- the look-up of an entry reads its identity only
  have hlookup : ∀ s : Roster C, s.alive.map s.node? =
      (s.alive.map Endpoint.id).map fun i => (s.registeredAs i).head?.map (·.node) := by
    intro s
    rw [List.map_map]
    exact List.map_congr_left fun a _ => s.node?_eq a
  rw [hlookup, hlookup, hids]
  refine List.map_congr_left fun i hi => ?_
  obtain ⟨a, ha, rfl⟩ := List.mem_map.mp hi
  obtain ⟨a', ha', hid⟩ := List.mem_map.mp (hids ▸ hi)
  -- the identity is registered before and after, so its node has stayed
  obtain ⟨r, hr, -⟩ := (h.roster.mem_alive_iff a).mp ⟨a, ha, rfl⟩
  obtain ⟨r', hr', -⟩ := (hs.mem_alive_iff a).mp ⟨a', ha', hid⟩
  obtain rfl := h.eq_hear_of_kept hr hr'
  rw [Roster.find?_eq_head?] at hr hr'
  rw [hr, hr']
  rfl

end Pool

end EndpointPool
