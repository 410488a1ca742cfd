import EndpointPool.Proofs.Roster.Quarantine
import Mathlib.Data.List.Nodup

/-!
# Where the nodes of a roster stand

A roster keeps four accounts of its nodes: the registrations, the alive endpoints, the quarantines
and the removed endpoints. They agree when each identity stands in one of three ways: it is absent,
or it has one registration and one place among the alive, or it has one registration and one
quarantine with the deadline and the number of the registration. In a sound roster an entry
is thus found in every account by its identity, and a quarantine by its number too.

## Main definitions

* `Roster.registeredAs`, `Roster.aliveAs`, `Roster.deadAs`: the entries of one identity
* `Roster.Standing`: the three ways in which an identity stands
* `Roster.Sound`: a roster whose accounts agree

## Main results

* `Roster.Sound.find?_iff`: what is found is what is registered under the identity
* `Roster.Sound.of_find?`: a registered identity stands alive or dead
* `Roster.Sound.exists_of_mem_dead`, `Roster.Sound.endpoint_id_of_order`: a quarantine is that of a
  registration, and its number tells which
-/

namespace EndpointPool.Roster

variable {C : Type}

/-! ### The entries of one identity -/

/-- The registrations of an identity. -/
def registeredAs (s : Roster C) (i : Endpoint.Identity) : List (Registration C) :=
  s.registered.filter fun r => r.node.endpoint.id = i

/-- The alive entries of an identity. -/
def aliveAs (s : Roster C) (i : Endpoint.Identity) : List Endpoint :=
  s.alive.filter fun e => e.id = i

/-- The quarantines of an identity. -/
def deadAs (s : Roster C) (i : Endpoint.Identity) : List Quarantine :=
  s.dead.filter fun q => q.endpoint.id = i

section Entries

variable {α β : Type} [DecidableEq β] (f : α → β)

theorem filter_filter_ne (l : List α) (i j : β) :
    (l.filter fun a => f a ≠ i).filter (fun a => f a = j) =
      if j = i then [] else l.filter fun a => f a = j := by
  rw [List.filter_filter]
  split
  · subst j
    exact List.filter_eq_nil_iff.mpr fun a _ => by simp
  · next hne =>
    refine List.filter_congr fun a _ => ?_
    by_cases ha : f a = j
    · simp [ha, hne]
    · simp [ha]

theorem count_map_eq (l : List α) (i : β) :
    (l.map f).count i = (l.filter fun a => f a = i).length := by
  rw [List.count, List.countP_map, List.countP_eq_length_filter]
  simp only [Function.comp_def, beq_eq_decide]

theorem nodup_map_of_filter {l : List α}
    (h : ∀ i, (l.filter fun a => f a = i).length ≤ 1) : (l.map f).Nodup :=
  List.nodup_iff_count.mpr fun i => (count_map_eq f l i).symm ▸ h i

end Entries

theorem find?_eq_head? (s : Roster C) (e : Endpoint) :
    s.find? e = (s.registeredAs e.id).head? := (List.head?_filter).symm

theorem find?_eq_none_iff {s : Roster C} {e : Endpoint} :
    s.find? e = none ↔ s.registeredAs e.id = [] := by
  rw [find?_eq_head?, List.head?_eq_none_iff]

theorem mem_registeredAs {s : Roster C} {i : Endpoint.Identity} {r : Registration C} :
    r ∈ s.registeredAs i ↔ r ∈ s.registered ∧ r.node.endpoint.id = i := by
  simp [registeredAs]

theorem mem_aliveAs {s : Roster C} {i : Endpoint.Identity} {e : Endpoint} :
    e ∈ s.aliveAs i ↔ e ∈ s.alive ∧ e.id = i := by
  simp [aliveAs]

theorem mem_deadAs {s : Roster C} {i : Endpoint.Identity} {q : Quarantine} :
    q ∈ s.deadAs i ↔ q ∈ s.dead ∧ q.endpoint.id = i := by
  simp [deadAs]

/-! ### Sound rosters -/

/-- The ways in which an identity stands, by its registrations, its alive entries and its
quarantines. -/
inductive Standing : List (Registration C) → List Endpoint → List Quarantine → Prop
  | absent : Standing [] [] []
  | alive {r : Registration C} {e : Endpoint} (hd : r.health.deadline = none) : Standing [r] [e] []
  | dead {r : Registration C} {q : Quarantine} (hd : r.health.deadline = some q.deadline)
      (ho : r.order = q.order) (hf : 0 < r.health.failures) : Standing [r] [] [q]

namespace Standing

variable {regs : List (Registration C)} {eps : List Endpoint} {qs : List Quarantine}
  {r : Registration C} {q : Quarantine}

/-- An identity is registered once at most. -/
theorem length_le (h : Standing regs eps qs) : regs.length ≤ 1 := by
  cases h with
  | absent => exact Nat.zero_le 1
  | alive | dead => exact Nat.le_refl 1

/-- An identity has as many places as registrations. -/
theorem length_add (h : Standing regs eps qs) : eps.length + qs.length = regs.length := by
  cases h <;> rfl

/-- What is not registered has no place. -/
theorem of_nil (h : Standing (C := C) [] eps qs) : eps = [] ∧ qs = [] := by
  cases h
  exact ⟨rfl, rfl⟩

/-- What is registered is the only registration, and alive or dead. -/
theorem of_mem (h : Standing regs eps qs) (hr : r ∈ regs) :
    regs = [r] ∧
      ((r.health.deadline = none ∧ (∃ a, eps = [a]) ∧ qs = []) ∨
        ∃ q, r.health.deadline = some q.deadline ∧ r.order = q.order ∧ 0 < r.health.failures ∧
          eps = [] ∧ qs = [q]) := by
  cases h with
  | absent => cases hr
  | alive hd =>
    obtain rfl := List.mem_singleton.mp hr
    exact ⟨rfl, .inl ⟨hd, ⟨_, rfl⟩, rfl⟩⟩
  | dead hd ho hf =>
    obtain rfl := List.mem_singleton.mp hr
    exact ⟨rfl, .inr ⟨_, hd, ho, hf, rfl, rfl⟩⟩

/-- A quarantine is that of a registration. -/
theorem exists_of_mem_dead (h : Standing regs eps qs) (hq : q ∈ qs) :
    ∃ r ∈ regs, r.health.deadline = some q.deadline ∧ r.order = q.order ∧
      0 < r.health.failures := by
  cases h with
  | absent | alive => cases hq
  | @dead r _ hd ho hf =>
    obtain rfl := List.mem_singleton.mp hq
    exact ⟨r, List.mem_singleton.mpr rfl, hd, ho, hf⟩

/-- An identity is alive if its registration has no deadline. -/
theorem exists_mem_alive_iff (h : Standing regs eps qs) :
    (∃ a, a ∈ eps) ↔ ∃ r, regs.head? = some r ∧ r.health.deadline = none := by
  cases h with
  | absent => simp
  | alive hd => simp [hd]
  | dead hd => simp [hd]

/-- An identity is dead if its registration has a deadline, and under the key of it. -/
theorem exists_mem_dead_iff (h : Standing regs eps qs) (d : Instant) (o : Nat) :
    (∃ q ∈ qs, q.HasKey d o) ↔
      ∃ r, regs.head? = some r ∧ r.health.deadline = some d ∧ r.order = o := by
  cases h with
  | absent => simp
  | alive hd => simp [hd]
  | dead hd ho => simp [hd, ho, Quarantine.HasKey]

end Standing

/-- The accounts of a roster agree. -/
structure Sound (s : Roster C) : Prop where
  /-- Every identity stands in one of the three ways. -/
  standing : ∀ i, Standing (s.registeredAs i) (s.aliveAs i) (s.deadAs i)
  /-- The numbers of the registrations grow. -/
  increasing : s.registered.Pairwise fun r t => r.order < t.order
  /-- No number has been given that is still to be given. -/
  order_lt : ∀ r ∈ s.registered, r.order < s.nextOrder
  /-- The quarantines are in order. -/
  sorted : s.dead.Pairwise Quarantine.Before
  /-- A removed endpoint is not registered. -/
  removed_absent : ∀ e ∈ s.removed, s.registeredAs e.id = []
  /-- No two removed endpoints have one identity. -/
  removed_nodup : (s.removed.map Endpoint.id).Nodup

theorem sound_empty : (empty : Roster C).Sound where
  standing _ := .absent
  increasing := .nil
  order_lt := by simp [empty]
  sorted := .nil
  removed_absent := by simp [empty]
  removed_nodup := .nil

namespace Sound

variable {s : Roster C} {e : Endpoint} {r t : Registration C} {q : Quarantine}

/-- Registrations with one number are one. -/
theorem eq_of_order (h : s.Sound) (hr : r ∈ s.registered) (ht : t ∈ s.registered)
    (ho : r.order = t.order) : r = t := by
  -- numbers that grow are distinct
  have hn : (s.registered.map (·.order)).Nodup :=
    List.pairwise_map.mpr (h.increasing.imp fun hlt => Nat.ne_of_lt hlt)
  exact List.inj_on_of_nodup_map hn hr ht ho

theorem mem_of_find? (hf : s.find? e = some r) : r ∈ s.registered ∧ r.node.endpoint.id = e.id :=
  ⟨List.mem_of_find?_eq_some hf, by simpa using List.find?_some hf⟩

/-- The registered identity has one registration, and stands alive or dead. -/
theorem of_find? (h : s.Sound) (hf : s.find? e = some r) :
    s.registeredAs e.id = [r] ∧
      ((r.health.deadline = none ∧ (∃ a, s.aliveAs e.id = [a]) ∧ s.deadAs e.id = []) ∨
        ∃ q, r.health.deadline = some q.deadline ∧ r.order = q.order ∧ 0 < r.health.failures ∧
          s.aliveAs e.id = [] ∧ s.deadAs e.id = [q]) :=
  (h.standing e.id).of_mem (mem_registeredAs.mpr (mem_of_find? hf))

/-- What is found is what is registered under the identity. -/
theorem find?_iff (h : s.Sound) :
    s.find? e = some r ↔ r ∈ s.registered ∧ r.node.endpoint.id = e.id := by
  constructor
  · exact mem_of_find?
  · -- the identity has one registration, so the first of them is this one
    intro hr
    obtain ⟨hone, -⟩ := (h.standing e.id).of_mem (mem_registeredAs.mpr hr)
    rw [find?_eq_head?, hone, List.head?_cons]

/-- Every quarantine is that of a registration. -/
theorem exists_of_mem_dead (h : s.Sound) (hq : q ∈ s.dead) :
    ∃ r ∈ s.registered, r.node.endpoint.id = q.endpoint.id ∧
      r.health.deadline = some q.deadline ∧ r.order = q.order ∧ 0 < r.health.failures := by
  have hm : q ∈ s.deadAs q.endpoint.id := mem_deadAs.mpr ⟨hq, rfl⟩
  obtain ⟨r, hr, hd, ho, hf⟩ := (h.standing q.endpoint.id).exists_of_mem_dead hm
  obtain ⟨hr, hi⟩ := mem_registeredAs.mp hr
  exact ⟨r, hr, hi, hd, ho, hf⟩

/-- A quarantine with the number of a registration is one of its identity. -/
theorem endpoint_id_of_order (h : s.Sound) (hq : q ∈ s.dead) (hr : r ∈ s.registered)
    (ho : q.order = r.order) : q.endpoint.id = r.node.endpoint.id := by
  -- the registration of the quarantine has the same number, so it is the same one
  obtain ⟨t, ht, hi, -, hto, -⟩ := h.exists_of_mem_dead hq
  rw [← hi, h.eq_of_order ht hr (hto.trans ho)]

end Sound

end EndpointPool.Roster
