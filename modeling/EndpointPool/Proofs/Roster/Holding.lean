import EndpointPool.Proofs.Roster.Operations
import Mathlib.Data.List.Sort

/-!
# What a roster holds of one identity

A roster holds of each identity its entries in the four accounts. What an operation on an endpoint
leaves of the identity of that endpoint depends on nothing that the roster holds of another one, and
what it holds of another one stays. The accounts but that of the alive are no more than what they
hold of each identity: registrations are in the order of their numbers, quarantines in the order of
their keys, and the removed endpoints are a set.

## Main definitions

* `Holding`, `Roster.holding s i`: what a roster holds of an identity
* `Holding.enroll`, `Holding.discharge`, `Holding.fail`, `Holding.succeed`, `Holding.settle`: what
  the operations do to it

## Main results

* `Roster.holding_register`, `Roster.Sound.holding_remove`, `Roster.Sound.holding_markDead`,
  `Roster.Sound.holding_markLive`, `Roster.Sound.holding_resurrectDue`: an operation acts on what is
  held of its identity, and on nothing else
* `Roster.Sound.registered_eq`, `Roster.Sound.dead_eq`, `Roster.Sound.perm_removed`: what is held of
  each identity determines the accounts
-/

namespace EndpointPool

/-- What a roster holds of an identity: its registrations, its alive entries, its quarantines, and
the endpoints under which it was removed. -/
structure Holding (C : Type) where
  registered : List (Registration C)
  alive : List Endpoint
  dead : List Quarantine
  removed : List Endpoint

namespace Holding

variable {C : Type} (h : Holding C)

/-- A node registered under a number, and alive. -/
def enroll (n : Node C) (order : Nat) : Holding C where
  registered := h.registered ++ [⟨n, order, .fresh⟩]
  alive := h.alive ++ [n.endpoint]
  dead := h.dead
  removed := []

/-- The registration taken away under an endpoint, if there is one. -/
def discharge (e : Endpoint) : Holding C where
  registered := []
  alive := []
  dead := []
  removed := h.removed ++ h.registered.map fun _ => e

/-- A failure at `now`, reported under an endpoint. -/
def fail (b : Backoff) (now : Instant) (e : Endpoint) : Holding C where
  registered := h.registered.map fun r => { r with health := r.health.fail now b }
  alive := []
  dead := h.registered.map (Roster.quarantineOf b now e)
  removed := h.removed

/-- A success, reported under an endpoint. -/
def succeed (e : Endpoint) : Holding C where
  registered := h.registered.map fun r => { r with health := .fresh }
  alive := h.alive ++ h.dead.map fun _ => e
  dead := []
  removed := h.removed

/-- A quarantine that has run out at `now` is over. -/
def settle (now : Instant) : Holding C where
  registered := h.registered.map (·.settle now)
  alive := h.alive ++ (h.dead.filter fun q => Roster.Due now q).map (·.endpoint)
  dead := h.dead.filter fun q => ¬ Roster.Due now q
  removed := h.removed

end Holding

namespace Roster

variable {C : Type} {s t : Roster C}

/-- The endpoints of an identity that are removed. -/
def removedAs (s : Roster C) (i : Endpoint.Identity) : List Endpoint :=
  s.removed.filter fun e => e.id = i

/-- What a roster holds of an identity. -/
def holding (s : Roster C) (i : Endpoint.Identity) : Holding C :=
  ⟨s.registeredAs i, s.aliveAs i, s.deadAs i, s.removedAs i⟩

/-! ### The operations -/

section Operations

variable (n : Node C) (b : Backoff) (now : Instant) (e : Endpoint) (j : Endpoint.Identity)

theorem holding_register (s : Roster C) :
    (s.register n).holding j =
      if j = n.endpoint.id then (s.holding j).enroll n s.nextOrder else s.holding j := by
  have hremoved : (s.register n).removedAs j = if j = n.endpoint.id then [] else s.removedAs j :=
    filter_filter_ne Endpoint.id s.removed _ _
  rw [holding, registeredAs_register, aliveAs_register, deadAs_register, hremoved]
  split <;> rfl

/-- A registered identity is removed under the endpoint given for it. -/
theorem Sound.removedAs_remove (h : s.Sound) :
    (s.remove e).1.removedAs j =
      if j = e.id then s.removedAs j ++ (s.registeredAs j).map fun _ => e else s.removedAs j := by
  cases hf : s.find? e with
  | none =>
    rw [remove_of_find?_none hf]
    split
    · subst j
      rw [find?_eq_none_iff.mp hf, List.map_nil, List.append_nil]
    · rfl
  | some r =>
    rw [h.remove_eq hf, removedAs, List.filter_append]
    split
    · subst j
      rw [(h.of_find? hf).1, List.filter_cons_of_pos (by simp)]
      rfl
    · next hne =>
      rw [List.filter_cons_of_neg (by simpa using Ne.symm hne), List.filter_nil, List.append_nil]
      rfl

theorem Sound.holding_remove (h : s.Sound) :
    (s.remove e).1.holding j =
      if j = e.id then (s.holding j).discharge e else s.holding j := by
  obtain ⟨hr, ha, hd⟩ := h.entries_remove e j
  rw [holding, hr, ha, hd, h.removedAs_remove]
  split <;> rfl

theorem Sound.removed_markDead (h : s.Sound) : (s.markDead b e now).1.removed = s.removed := by
  cases hf : s.find? e with
  | none => rw [markDead_of_find?_none b now hf]
  | some r => rw [h.markDead_eq b now hf]; rfl

theorem Sound.holding_markDead (h : s.Sound) :
    (s.markDead b e now).1.holding j =
      if j = e.id then (s.holding j).fail b now e else s.holding j := by
  obtain ⟨hr, ha, hd⟩ := h.entries_markDead b now e j
  rw [holding, hr, ha, hd, removedAs, h.removed_markDead]
  split <;> rfl

theorem Sound.removed_markLive (h : s.Sound) : (s.markLive e).1.removed = s.removed := by
  cases hf : s.find? e with
  | none => rw [markLive_of_find?_none hf]
  | some r =>
    cases hd : r.health.deadline with
    | none => rw [h.markLive_eq_of_alive hf hd]; rfl
    | some d => rw [h.markLive_eq_of_dead hf hd]; rfl

theorem Sound.holding_markLive (h : s.Sound) :
    (s.markLive e).1.holding j =
      if j = e.id then (s.holding j).succeed e else s.holding j := by
  obtain ⟨hr, ha, hd⟩ := h.entries_markLive e j
  rw [holding, hr, ha, hd, removedAs, h.removed_markLive]
  split <;> rfl

theorem Sound.holding_resurrectDue (h : s.Sound) :
    (s.resurrectDue now).1.holding j = (s.holding j).settle now := by
  obtain ⟨hr, ha, hd⟩ := h.entries_resurrectDue now j
  rw [holding, hr, ha, hd]
  rfl

/-! ### The alive and the dead after an operation -/

theorem Sound.alive_remove (h : s.Sound) :
    (s.remove e).1.alive = s.alive.filter fun a => a.id ≠ e.id := by
  cases hf : s.find? e with
  | none => rw [remove_of_find?_none hf, alive_displace (h.of_find?_none hf).1]
  | some r => rw [h.remove_eq hf]; rfl

theorem Sound.dead_remove (h : s.Sound) :
    (s.remove e).1.dead = s.dead.filter fun q => q.endpoint.id ≠ e.id := by
  cases hf : s.find? e with
  | none => rw [remove_of_find?_none hf, dead_displace (h.of_find?_none hf).2]
  | some r => rw [h.remove_eq hf]; rfl

theorem Sound.alive_markDead (h : s.Sound) :
    (s.markDead b e now).1.alive = s.alive.filter fun a => a.id ≠ e.id := by
  cases hf : s.find? e with
  | none => rw [markDead_of_find?_none b now hf, alive_displace (h.of_find?_none hf).1]
  | some r => rw [h.markDead_eq b now hf]; rfl

/-- Who was dead is put behind the alive, under the endpoint that the success is reported under. -/
theorem Sound.alive_markLive (h : s.Sound) :
    (s.markLive e).1.alive = s.alive ++ (s.deadAs e.id).map fun _ => e := by
  cases hf : s.find? e with
  | none =>
    rw [markLive_of_find?_none hf, (h.of_find?_none hf).2, List.map_nil, List.append_nil]
  | some r =>
    obtain ⟨-, ⟨hd, -, hq⟩ | ⟨q, hd, -, -, ha, hq⟩⟩ := h.of_find? hf
    · rw [h.markLive_eq_of_alive hf hd, hq, List.map_nil, List.append_nil]
      rfl
    · rw [h.markLive_eq_of_dead hf hd, hq]
      exact congrArg (· ++ [e]) (alive_displace ha)

theorem Sound.dead_markLive (h : s.Sound) :
    (s.markLive e).1.dead = s.dead.filter fun q => q.endpoint.id ≠ e.id := by
  cases hf : s.find? e with
  | none => rw [markLive_of_find?_none hf, dead_displace (h.of_find?_none hf).2]
  | some r =>
    obtain ⟨-, ⟨hd, -, hq⟩ | ⟨q, hd, -⟩⟩ := h.of_find? hf
    · rw [h.markLive_eq_of_alive hf hd, dead_displace hq]
      rfl
    · rw [h.markLive_eq_of_dead hf hd]
      rfl

end Operations

/-! ### What is held of each identity determines the accounts -/

section Accounts

/-- Registrations are in the order of their numbers, which are distinct. -/
theorem Sound.registered_eq (hs : s.Sound) (ht : t.Sound)
    (h : ∀ j, s.holding j = t.holding j) : s.registered = t.registered := by
  have : Std.Irrefl fun r t : Registration C => r.order < t.order := ⟨fun _ => Nat.lt_irrefl _⟩
  have : Std.Antisymm fun r t : Registration C => r.order < t.order :=
    ⟨fun _ _ hlt hgt => absurd hgt (Nat.lt_asymm hlt)⟩
  refine hs.increasing.eq_of_mem_iff ht.increasing fun r => ?_
  have hj : s.registeredAs r.node.endpoint.id = t.registeredAs r.node.endpoint.id :=
    congrArg Holding.registered (h _)
  have hmem : r ∈ s.registeredAs r.node.endpoint.id ↔ r ∈ t.registeredAs r.node.endpoint.id := by
    rw [hj]
  simpa only [mem_registeredAs, and_true] using hmem

/-- Quarantines are in the order in which they end, which is strict. -/
theorem Sound.dead_eq (hs : s.Sound) (ht : t.Sound) (h : ∀ j, s.holding j = t.holding j) :
    s.dead = t.dead := by
  have hirrefl : ∀ q : Quarantine, ¬ q.Before q := fun q hq => hq.not_hasKey ⟨rfl, rfl⟩
  have : Std.Irrefl Quarantine.Before := ⟨hirrefl⟩
  have : Std.Antisymm Quarantine.Before := ⟨fun q r hlt hgt => absurd (hlt.trans hgt) (hirrefl q)⟩
  refine hs.sorted.eq_of_mem_iff ht.sorted fun q => ?_
  have hj : s.deadAs q.endpoint.id = t.deadAs q.endpoint.id := congrArg Holding.dead (h _)
  have hmem : q ∈ s.deadAs q.endpoint.id ↔ q ∈ t.deadAs q.endpoint.id := by rw [hj]
  simpa only [mem_deadAs, and_true] using hmem

/-- Each endpoint is removed as often on either side. -/
theorem perm_removed (h : ∀ j, s.holding j = t.holding j) : s.removed.Perm t.removed := by
  refine List.perm_iff_count.mpr fun e => ?_
  have hcount : ∀ u : Roster C, (u.removedAs e.id).count e = u.removed.count e :=
    fun u => List.count_filter (decide_eq_true rfl)
  have hj := congrArg Holding.removed (h e.id)
  rw [← hcount s, ← hcount t]
  exact congrArg (List.count e) hj

end Accounts

end Roster

end EndpointPool
