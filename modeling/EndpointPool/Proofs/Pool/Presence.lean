import EndpointPool.Proofs.Pool.Calls
import EndpointPool.Proofs.Pool.Listing

/-!
# Who is registered, and who is alive

What an operation does depends on whether its endpoint is registered, and whether it is alive. Only
what is registered can be removed or marked, and only what is not can be added. Identities come to
be registered by additions, and cease to be by removals, unless they are seeds. An identity becomes
alive by its registration, by a success that ends its quarantine, or by a request that comes after
the end of it, and in no other way. It is alive until it fails or is removed.

## Main definitions

* `Pool.Registered i q`, `Pool.Alive i q`: an identity is registered, and not in quarantine
* `Pool.Ignores q op`: an operation finds nothing to do
* `Pool.Change q op s`: the seven things that an operation can do to the roster
* `Pool.Enters q i op`, `Pool.Leaves q i op`: the three ways to become alive, and the two ways not
  to be alive any more

## Main results

* `Pool.Created.roster_start`: everybody is alive in a new pool
* `Pool.Sound.mem_aliveNodes_iff`, `Pool.Sound.mem_deadNodes_iff`: who is listed
* `Pool.change_perform`: what an operation does to the roster
* `Pool.registers_iff`, `Pool.Sound.unregisters_iff`: who comes to be registered, and who ceases to
  be
* `Pool.Sound.enters_iff`, `Pool.Sound.leaves_iff`: who comes to be alive, and who ceases to be
-/

namespace EndpointPool.Pool

variable {C σ : Type} {p : Pool C σ} {i : Endpoint.Identity} {e : Endpoint}

/-- An identity is registered. -/
def Registered (i : Endpoint.Identity) (q : Pool C σ) : Prop := q.roster.registeredAs i ≠ []

/-- An identity is registered, and not in quarantine. -/
def Alive (i : Endpoint.Identity) (q : Pool C σ) : Prop :=
  ∃ r ∈ q.roster.registeredAs i, r.health.deadline = none

/-- An operation finds nothing to do: nobody to add, to remove or to mark. -/
inductive Ignores (q : Pool C σ) : Operation C → Prop
  | crash {e : Endpoint} : Ignores q (.add e none)
  | addition {e : Endpoint} {connection : Option C} (h : Registered e.id q) :
    Ignores q (.add e connection)
  | seed {e : Endpoint} (h : q.isSeed e = true) : Ignores q (.remove e)
  | removal {e : Endpoint} (h : ¬ Registered e.id q) : Ignores q (.remove e)
  | failure {e : Endpoint} {now : Instant} (h : ¬ Registered e.id q) : Ignores q (.markDead e now)
  | success {e : Endpoint} (h : ¬ Registered e.id q) : Ignores q (.markLive e)

/-- The seven things that an operation can do to the roster. -/
inductive Change (q : Pool C σ) : Operation C → Roster C → Prop
  | ignored {op : Operation C} (h : q.Ignores op) : Change q op q.roster
  | settled (now : Instant) (draw : Nat) :
    Change q (.get now draw) (q.roster.resurrectDue now).1
  | registered {e : Endpoint} {c : C} (h : ¬ Registered e.id q) :
    Change q (.add e (some c)) (q.roster.register ⟨e, c⟩)
  | removed {e : Endpoint} {r : Registration C} (hseed : ¬ q.isSeed e = true)
      (hf : q.roster.find? e = some r) : Change q (.remove e) (q.roster.remove e).1
  | failed {e : Endpoint} {now : Instant} {r : Registration C} (hf : q.roster.find? e = some r) :
    Change q (.markDead e now) (q.roster.markDead q.backoff e now).1
  | cleared {e : Endpoint} {r : Registration C} (hf : q.roster.find? e = some r)
      (hd : r.health.deadline = none) : Change q (.markLive e) (q.roster.markLive e).1
  | revived {e : Endpoint} {r : Registration C} {d : Instant} (hf : q.roster.find? e = some r)
      (hd : r.health.deadline = some d) : Change q (.markLive e) (q.roster.markLive e).1

/-- An operation makes an identity alive: it registers the identity, it ends its quarantine by a
success, or it is a request when the quarantine has run out. -/
inductive Enters (q : Pool C σ) : Endpoint.Identity → Operation C → Prop
  | registration {e : Endpoint} {c : C} (h : ¬ Registered e.id q) : Enters q e.id (.add e (some c))
  | success {e : Endpoint} {r : Registration C} (hr : r ∈ q.roster.registeredAs e.id)
      (hd : r.health.deadline ≠ none) : Enters q e.id (.markLive e)
  | resurrection {i : Endpoint.Identity} {now d : Instant} {draw : Nat} {r : Registration C}
      (hr : r ∈ q.roster.registeredAs i) (hd : r.health.deadline = some d) (hdue : d ≤ now) :
    Enters q i (.get now draw)

/-- An operation ends the time in which an identity is alive: it reports a failure, or it removes
the identity, which is no seed. -/
inductive Leaves (q : Pool C σ) : Endpoint.Identity → Operation C → Prop
  | failure {e : Endpoint} {now : Instant} (h : Alive e.id q) : Leaves q e.id (.markDead e now)
  | removal {e : Endpoint} (h : Alive e.id q) (hseed : ∀ a ∈ q.seeds, a.id ≠ e.id) :
    Leaves q e.id (.remove e)

/-! ### Who is registered, and who is alive -/

theorem wants_iff_not_registered : p.wants e = true ↔ ¬ Registered e.id p := by
  rw [wants_iff, Roster.find?_eq_none_iff, Registered, not_not]

theorem find?_eq_none_iff_not_registered : p.roster.find? e = none ↔ ¬ Registered e.id p := by
  rw [Roster.find?_eq_none_iff, Registered, not_not]

theorem registered_of_find? {r : Registration C} (hf : p.roster.find? e = some r) :
    Registered e.id p :=
  List.ne_nil_of_mem (Roster.mem_registeredAs.mpr (Roster.Sound.mem_of_find? hf))

theorem Alive.registered (h : Alive i p) : Registered i p := by
  obtain ⟨r, hr, -⟩ := h
  exact List.ne_nil_of_mem hr

theorem mem_ids_nodes_iff : i ∈ p.roster.nodes.map (·.endpoint.id) ↔ Registered i p := by
  rw [Registered, ← List.isEmpty_eq_false_iff, List.isEmpty_eq_false_iff_exists_mem, Roster.nodes,
    List.map_map, List.mem_map]
  simp only [Roster.mem_registeredAs, Function.comp_apply]

theorem Sound.mem_ids_alive_iff (h : p.Sound) : i ∈ p.roster.alive.map Endpoint.id ↔ Alive i p := by
  constructor
  · intro hi
    obtain ⟨a, ha, rfl⟩ := List.mem_map.mp hi
    obtain ⟨r, hr, hd⟩ := (h.roster.mem_alive_iff a).mp ⟨a, ha, rfl⟩
    exact ⟨r, Roster.mem_registeredAs.mpr (Roster.Sound.mem_of_find? hr), hd⟩
  · rintro ⟨r, hr, hd⟩
    obtain ⟨hmem, rfl⟩ := Roster.mem_registeredAs.mp hr
    obtain ⟨a, ha, hi⟩ :=
      (h.roster.mem_alive_iff r.node.endpoint).mpr ⟨r, h.roster.find?_iff.mpr ⟨hmem, rfl⟩, hd⟩
    exact List.mem_map.mpr ⟨a, ha, hi⟩

/-- Who is registered with a deadline is not alive. -/
theorem Sound.not_alive (h : p.Sound) {r : Registration C} (hr : r ∈ p.roster.registeredAs i)
    (hd : r.health.deadline ≠ none) : ¬ Alive i p := by
  rintro ⟨t, ht, hnone⟩
  rw [h.roster.eq_of_mem_registeredAs ht hr] at hnone
  exact hd hnone

theorem Sound.alive_iff (h : p.Sound) {r : Registration C} (hr : r ∈ p.roster.registered) :
    Alive r.node.endpoint.id p ↔ r.health.deadline = none := by
  have hmem := Roster.mem_registeredAs.mpr ⟨hr, rfl⟩
  exact ⟨fun halive => by_contra fun hd => h.not_alive hmem hd halive, fun hd => ⟨r, hmem, hd⟩⟩

theorem Sound.mem_aliveNodes_iff (h : p.Sound) (n : Node C) :
    n ∈ p.roster.aliveNodes ↔ n ∈ p.roster.nodes ∧ Alive n.endpoint.id p := by
  rw [h.roster.mem_aliveNodes_iff]
  constructor
  · rintro ⟨r, hr, rfl, hd⟩
    exact ⟨List.mem_map_of_mem hr, (h.alive_iff hr).mpr hd⟩
  · rintro ⟨hn, halive⟩
    obtain ⟨r, hr, rfl⟩ := List.mem_map.mp hn
    exact ⟨r, hr, rfl, (h.alive_iff hr).mp halive⟩

theorem Sound.mem_deadNodes_iff (h : p.Sound) (n : Node C) :
    n ∈ p.roster.deadNodes ↔ n ∈ p.roster.nodes ∧ ¬ Alive n.endpoint.id p := by
  rw [h.roster.mem_deadNodes_iff]
  constructor
  · rintro ⟨r, hr, rfl, hd⟩
    exact ⟨List.mem_map_of_mem hr, mt (h.alive_iff hr).mp hd⟩
  · rintro ⟨hn, hdead⟩
    obtain ⟨r, hr, rfl⟩ := List.mem_map.mp hn
    exact ⟨r, hr, rfl, mt (h.alive_iff hr).mpr hdead⟩

/-- In a new pool the alive are those of the nodes, and nobody else is listed. -/
theorem Created.roster_start (hp : p.Created) :
    p.roster.alive = p.roster.nodes.map (·.endpoint) ∧ p.roster.dead = [] ∧
      p.roster.removed = [] := by
  obtain ⟨nodes, hroster, -⟩ := hp.exists_nodes
  have hnodes : p.roster.nodes = nodes := by rw [hroster, Roster.nodes_ofNodes]
  rw [hnodes, hroster, Roster.ofNodes_eq]
  exact ⟨rfl, rfl, rfl⟩

/-- Registered in a new pool are the seeds. -/
theorem Created.registered_start_iff (hp : p.Created) :
    Registered i p ↔ ∃ a ∈ p.seeds, a.id = i := by
  obtain ⟨nodes, hroster, hperm, -⟩ := hp.exists_nodes
  have hids : p.roster.nodes.map (·.endpoint.id) = (nodes.map (·.endpoint)).map Endpoint.id := by
    rw [hroster, Roster.nodes_ofNodes, List.map_map]
    rfl
  rw [← mem_ids_nodes_iff, hids, (hperm.map _).mem_iff, List.mem_map]

theorem Created.ids_alive_start (hp : p.Created) :
    p.roster.alive.map Endpoint.id = p.roster.registered.map (·.node.endpoint.id) := by
  rw [hp.roster_start.1, Roster.nodes, List.map_map, List.map_map]
  rfl

/-! ### One operation -/

section Operations

variable [Selector σ]

/-- Nothing to do, nothing done. -/
theorem roster_perform_of_ignores {op : Operation C} (h : p.Ignores op) :
    (p.perform op).1.roster = p.roster := by
  cases h with
  | @crash e => exact roster_perform_add_none p e
  | @addition e connection hreg =>
    cases connection with
    | none => exact roster_perform_add_none p e
    | some c => rw [roster_perform_add_some, if_neg fun hw => wants_iff_not_registered.mp hw hreg]
  | seed hseed => rw [roster_perform_remove, if_pos hseed]
  | removal hnot =>
    rw [roster_perform_remove,
      Roster.remove_of_find?_none (find?_eq_none_iff_not_registered.mpr hnot), ite_self]
  | failure hnot =>
    rw [roster_perform_markDead,
      Roster.markDead_of_find?_none _ _ (find?_eq_none_iff_not_registered.mpr hnot)]
  | success hnot =>
    rw [roster_perform_markLive,
      Roster.markLive_of_find?_none (find?_eq_none_iff_not_registered.mpr hnot)]

/-- What is added and not registered yet is the last of the nodes. -/
theorem roster_perform_add_of_not_registered (hnot : ¬ Registered e.id p) (c : C) :
    (p.perform (.add e (some c))).1.roster = p.roster.register ⟨e, c⟩ := by
  rw [roster_perform_add_some, if_pos (wants_iff_not_registered.mpr hnot)]

theorem nodes_serve_add_of_wants (hwants : p.wants e = true) (c : C) :
    (p.serve (.operate (.add e (some c)))).1.roster.nodes = p.roster.nodes ++ [⟨e, c⟩] := by
  have hroster := roster_perform_add_of_not_registered (wants_iff_not_registered.mp hwants) c
  exact (congrArg Roster.nodes hroster).trans (Roster.nodes_register _ _)

/-- **What an operation does to the roster.** -/
theorem change_perform (p : Pool C σ) (op : Operation C) :
    p.Change op (p.perform op).1.roster := by
  have hignored : p.Ignores op → p.Change op (p.perform op).1.roster := by
    intro h
    rw [roster_perform_of_ignores h]
    exact .ignored h
  cases op with
  | get now draw =>
    rw [roster_perform_get]
    exact .settled now draw
  | add e connection =>
    by_cases hreg : Registered e.id p
    · exact hignored (.addition hreg)
    · cases connection with
      | none => exact hignored .crash
      | some c =>
        rw [roster_perform_add_of_not_registered hreg]
        exact .registered hreg
  | remove e =>
    by_cases hseed : p.isSeed e = true
    · exact hignored (.seed hseed)
    · cases hf : p.roster.find? e with
      | none => exact hignored (.removal (find?_eq_none_iff_not_registered.mp hf))
      | some r =>
        rw [roster_perform_remove, if_neg hseed]
        exact .removed hseed hf
  | markDead e now =>
    cases hf : p.roster.find? e with
    | none => exact hignored (.failure (find?_eq_none_iff_not_registered.mp hf))
    | some r => exact .failed hf
  | markLive e =>
    cases hf : p.roster.find? e with
    | none => exact hignored (.success (find?_eq_none_iff_not_registered.mp hf))
    | some r =>
      cases hd : r.health.deadline with
      | none => exact .cleared hf hd
      | some d => exact .revived hf hd

/-- An identity comes to be registered by its addition. -/
theorem registers_iff (op : Operation C) :
    ¬ Registered i p ∧ Registered i (p.perform op).1 ↔
      ¬ Registered i p ∧ ∃ e c, op = .add e (some c) ∧ e.id = i := by
  refine and_congr_right fun hnot => ⟨fun hreg => ?_, ?_⟩
  · obtain ⟨n, hn, rfl⟩ := List.mem_map.mp (mem_ids_nodes_iff.mpr hreg)
    have hserve : n ∈ (p.serve (.operate op)).1.roster.nodes := hn
    rcases mem_nodes_serve hserve with hn | ⟨hop, -⟩
    · exact absurd (mem_ids_nodes_iff.mp (List.mem_map_of_mem hn)) hnot
    · cases hop
      exact ⟨n.endpoint, n.connection, rfl, rfl⟩
  · rintro ⟨e, c, rfl, rfl⟩
    refine mem_ids_nodes_iff.mp (List.mem_map.mpr ⟨⟨e, c⟩, ?_, rfl⟩)
    rw [roster_perform_add_of_not_registered hnot, Roster.nodes_register]
    exact List.mem_append_right _ List.mem_cons_self

/-- A removal concerns the identities that are no seeds. -/
theorem Sound.registeredAs_perform_remove (h : p.Sound) (hseed : ∀ a ∈ p.seeds, a.id ≠ e.id) :
    (p.perform (.remove e)).1.roster.registeredAs e.id = [] := by
  have hnot : ¬ p.isSeed e = true := by
    rw [isSeed_iff]
    rintro ⟨a, ha, hi⟩
    exact hseed a ha hi
  rw [roster_perform_remove, if_neg hnot, (h.roster.entries_remove e e.id).1, if_pos rfl]

/-- **An identity ceases to be registered by its removal**, if it is no seed. -/
theorem Sound.unregisters_iff (h : p.Sound) (op : Operation C) :
    Registered i p ∧ ¬ Registered i (p.perform op).1 ↔
      Registered i p ∧ ∃ e, op = .remove e ∧ e.id = i ∧ ∀ a ∈ p.seeds, a.id ≠ i := by
  refine and_congr_right fun hreg => ⟨fun hnot => ?_, ?_⟩
  · rw [Registered, not_not] at hnot
    rcases h.registeredAs_perform op i with hkept | ⟨hnil, -⟩ | ⟨e, rfl, rfl, hseed, -⟩
    · -- an entry that is changed is still an entry
      exact absurd (List.map_eq_nil_iff.mp (hkept.symm.trans hnot)) hreg
    · exact absurd hnil hreg
    · exact ⟨e, rfl, rfl, hseed⟩
  · rintro ⟨e, rfl, rfl, hseed⟩
    exact not_not.mpr (h.registeredAs_perform_remove hseed)

/-- Registered afterwards is who is added, and who was registered and is not removed. -/
theorem Sound.registered_perform_iff (h : p.Sound) (op : Operation C) :
    Registered i (p.perform op).1 ↔ (∃ e c, op = .add e (some c) ∧ e.id = i) ∨
      Registered i p ∧ ¬ ∃ e, op = .remove e ∧ e.id = i ∧ ∀ a ∈ p.seeds, a.id ≠ i := by
  have hcomes := p.registers_iff op (i := i)
  have hgoes := h.unregisters_iff op (i := i)
  by_cases hreg : Registered i p
  · simp only [hreg, true_and] at hgoes ⊢
    rw [← hgoes, not_not]
    refine ⟨.inr, fun hor => hor.elim ?_ fun hafter => hafter⟩
    -- an addition removes nobody
    rintro ⟨e, c, rfl, -⟩
    refine not_not.mp fun hnot => ?_
    obtain ⟨a, ha, -⟩ := hgoes.mp hnot
    cases ha
  · simp only [hreg, not_false_iff, true_and, false_and, or_false] at hcomes ⊢
    exact hcomes

/-- **An identity is alive until it fails or is removed.** -/
theorem Sound.leaves_iff (h : p.Sound) (op : Operation C) :
    p.Leaves i op ↔ Alive i p ∧ ¬ Alive i (p.perform op).1 := by
  constructor
  · rintro (halive | ⟨halive, hseed⟩)
    · refine ⟨halive, ?_⟩
      rintro ⟨r', hr', hd'⟩
      rw [roster_perform_markDead, (h.roster.entries_markDead _ _ _ _).1, if_pos rfl] at hr'
      obtain ⟨r, hr, rfl⟩ := List.mem_map.mp hr'
      cases hd'
    · refine ⟨halive, ?_⟩
      rintro ⟨r', hr', -⟩
      rw [h.registeredAs_perform_remove hseed] at hr'
      cases hr'
  · rintro ⟨⟨r, hr, hd⟩, hnot⟩
    rcases h.registeredAs_perform op i with hkept | ⟨hnil, -⟩ | ⟨e, rfl, rfl, hseed, -⟩
    · -- the entry is kept, and has a deadline now that it did not have
      have hheard : (r.hear p.backoff (op.signal? i)).health.deadline ≠ none := fun hnone =>
        hnot ⟨_, hkept ▸ List.mem_map_of_mem hr, hnone⟩
      rcases op.signal?_cases i with hsignal | ⟨now, draw, rfl, hsignal⟩ | ⟨e, now, rfl, rfl, -⟩ |
        ⟨e, rfl, rfl, hsignal⟩
      · rw [hsignal] at hheard
        exact absurd hd hheard
      · rw [hsignal, Registration.hear, Option.elim_some, Health.feed,
          Health.settle_of_none hd] at hheard
        exact absurd hd hheard
      · exact .failure ⟨r, hr, hd⟩
      · rw [hsignal] at hheard
        exact absurd rfl hheard
    · rw [hnil] at hr
      cases hr
    · exact .removal ⟨r, hr, hd⟩ hseed

/-- **An identity becomes alive in one of the three ways.** -/
theorem Sound.enters_iff (h : p.Sound) (op : Operation C) :
    p.Enters i op ↔ ¬ Alive i p ∧ Alive i (p.perform op).1 := by
  constructor
  · rintro (hnot | ⟨hr, hd⟩ | ⟨hr, hd, hdue⟩)
    · refine ⟨fun halive => hnot halive.registered, ?_⟩
      rw [Alive, roster_perform_add_of_not_registered hnot, Roster.registeredAs_register, if_pos rfl]
      exact ⟨_, List.mem_append_right _ List.mem_cons_self, rfl⟩
    · refine ⟨h.not_alive hr hd, ?_⟩
      rw [Alive, roster_perform_markLive, (h.roster.entries_markLive _ _).1, if_pos rfl]
      exact ⟨_, List.mem_map_of_mem hr, rfl⟩
    · refine ⟨h.not_alive hr (hd ▸ Option.some_ne_none _), ?_⟩
      rw [Alive, roster_perform_get, (h.roster.entries_resurrectDue _ _).1]
      refine ⟨_, List.mem_map_of_mem hr, ?_⟩
      rw [Registration.settle, Health.settle_of_some hd, if_pos hdue]
      rfl
  · rintro ⟨hnot, r', hr', hd'⟩
    rcases h.registeredAs_perform op i with hkept | ⟨hnil, e, c, -, rfl, rfl, -⟩ |
      ⟨-, -, -, -, hgone⟩
    · -- the entry is kept, and had a deadline before that it does not have now
      rw [hkept] at hr'
      obtain ⟨r, hr, rfl⟩ := List.mem_map.mp hr'
      have hd : r.health.deadline ≠ none := fun hd => hnot ⟨r, hr, hd⟩
      rcases op.signal?_cases i with hsignal | ⟨now, draw, rfl, hsignal⟩ |
        ⟨e, now, rfl, rfl, hsignal⟩ | ⟨e, rfl, rfl, -⟩
      · rw [hsignal] at hd'
        exact absurd hd' hd
      · obtain ⟨d, hdeadline⟩ := Option.ne_none_iff_exists'.mp hd
        rw [hsignal, Registration.hear, Option.elim_some, Health.feed,
          Health.settle_of_some hdeadline] at hd'
        by_cases hdue : d ≤ now
        · exact .resurrection hr hdeadline hdue
        · rw [if_neg hdue] at hd'
          exact absurd hd' hd
      · rw [hsignal] at hd'
        cases hd'
      · exact .success hr hd
    · exact .registration (not_not.mpr hnil)
    · rw [hgone] at hr'
      cases hr'

end Operations

end EndpointPool.Pool
