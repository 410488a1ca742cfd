import EndpointPool.Proofs.Roster.Standing

/-!
# Rosters stay sound

On a sound roster an operation is a plain change of the four accounts: to leave a place is to leave
every place of the identity, and a registration is the only one of its identity. So all operations
but resurrection touch the entries of one identity only, and resurrection settles every identity by
itself; an identity stands in one of the three ways after an operation if it did before.

## Main definitions

* `Health.settle`: the health of a node once an instant has been seen
* `Roster.displace`, `Roster.adjust`: a roster without the places of an identity, and one with
  another health for it
* `Roster.due`, `Roster.settle`: the quarantines that have run out at an instant, and the roster
  once they are over

## Main results

* `Roster.Sound.vacate_eq`: to leave a place is to leave every place of the identity
* `Roster.Sound.remove_eq`, `Roster.Sound.markDead_eq`, `Roster.Sound.markLive_eq`,
  `Roster.Sound.resurrectDue_eq`: the operations as changes of the accounts
* `Roster.Sound.register`, `Roster.Sound.remove`, `Roster.Sound.markDead`, `Roster.Sound.markLive`,
  `Roster.Sound.resurrectDue`: soundness is kept
-/

namespace EndpointPool

namespace Health

/-- The health once `now` has been seen: a quarantine that has run out by then is over. -/
def settle (h : Health) (now : Instant) : Health :=
  match h.deadline with
  | some deadline => if deadline ≤ now then h.resurrect else h
  | none => h

theorem settle_of_none {h : Health} (hd : h.deadline = none) (now : Instant) :
    h.settle now = h := by
  simp only [settle, hd]

theorem settle_of_some {h : Health} {d : Instant} (hd : h.deadline = some d) (now : Instant) :
    h.settle now = if d ≤ now then h.resurrect else h := by
  simp only [settle, hd]

theorem failures_fail_pos (h : Health) (now : Instant) (b : Backoff) :
    0 < (h.fail now b).failures := by
  simp only [fail, maxFailures, UInt32.size]
  omega

end Health

/-- The registration with its health settled. -/
def Registration.settle {C : Type} (r : Registration C) (now : Instant) : Registration C :=
  { r with health := r.health.settle now }

namespace Roster

variable {C : Type} {s : Roster C} {e : Endpoint} {r : Registration C}

/-! ### The parts of an operation -/

/-- The roster without the places of an identity among the alive and the dead. -/
def displace (s : Roster C) (i : Endpoint.Identity) : Roster C :=
  { s with
    alive := s.alive.filter fun e => e.id ≠ i
    dead := s.dead.filter fun q => q.endpoint.id ≠ i }

/-- The roster with the health of an identity changed. -/
def adjust (s : Roster C) (i : Endpoint.Identity) (f : Health → Health) : Roster C :=
  { s with
    registered := s.registered.map fun r =>
      if r.node.endpoint.id = i then { r with health := f r.health } else r }

section Parts

variable (s) (i j : Endpoint.Identity)

theorem aliveAs_displace :
    (s.displace i).aliveAs j = if j = i then [] else s.aliveAs j := filter_filter_ne _ _ _ _

theorem deadAs_displace :
    (s.displace i).deadAs j = if j = i then [] else s.deadAs j :=
  filter_filter_ne (fun q : Quarantine => q.endpoint.id) _ _ _

/-- A change of registrations that keeps their nodes acts on each identity by itself. -/
theorem filter_map_registered {f : Registration C → Registration C} (hf : ∀ r, (f r).node = r.node)
    (l : List (Registration C)) :
    (l.map f).filter (fun r => r.node.endpoint.id = j) =
      (l.filter fun r => r.node.endpoint.id = j).map f := by
  rw [List.filter_map]
  simp [Function.comp_def, hf]

theorem registeredAs_adjust (f : Health → Health) :
    (s.adjust i f).registeredAs j =
      if j = i then (s.registeredAs j).map fun r => { r with health := f r.health }
      else s.registeredAs j := by
  unfold registeredAs adjust
  rw [filter_map_registered j fun r => by split <;> rfl]
  split
  · subst j
    apply List.map_congr_left
    intro r hr
    exact if_pos (mem_registeredAs.mp hr).2
  · next hne =>
    refine (List.map_congr_left fun r hr => if_neg ?_).trans (List.map_id _)
    intro hi
    exact hne ((mem_registeredAs.mp hr).2.symm.trans hi)

end Parts

theorem vacate_setHealth (r : Registration C) (h : Health) :
    (s.setHealth e h).vacate r = (s.vacate r).setHealth e h := by
  unfold vacate
  split <;> rfl

theorem nextOrder_vacate (s : Roster C) (r : Registration C) :
    (s.vacate r).nextOrder = s.nextOrder := by
  unfold vacate
  split <;> rfl

namespace Sound

/-- The health of a registered identity is that of its one registration. -/
theorem setHealth_eq (h : s.Sound) (hf : s.find? e = some r) (f : Health → Health) :
    s.setHealth e (f r.health) = s.adjust e.id f := by
  have hmap : (s.setHealth e (f r.health)).registered = (s.adjust e.id f).registered := by
    apply List.map_congr_left
    intro t ht
    split
    · next hi =>
      obtain rfl : t = r := Option.some.inj ((h.find?_iff.mpr ⟨ht, hi⟩).symm.trans hf)
      rfl
    · rfl
  exact congrArg (fun l => { s with registered := l }) hmap

/-- An identity that is not registered has no place. -/
theorem of_find?_none (h : s.Sound) (hf : s.find? e = none) :
    s.aliveAs e.id = [] ∧ s.deadAs e.id = [] := by
  have hs := h.standing e.id
  rw [find?_eq_none_iff.mp hf] at hs
  exact hs.of_nil

theorem alive_displace (hn : s.aliveAs e.id = []) :
    s.alive.filter (fun a => a.id ≠ e.id) = s.alive :=
  List.filter_eq_self.mpr fun a ha => by
    simpa using fun hi => List.not_mem_nil (hn ▸ mem_aliveAs.mpr ⟨ha, hi⟩)

theorem dead_displace (hn : s.deadAs e.id = []) :
    s.dead.filter (fun q => q.endpoint.id ≠ e.id) = s.dead :=
  List.filter_eq_self.mpr fun q hq => by
    simpa using fun hi => List.not_mem_nil (hn ▸ mem_deadAs.mpr ⟨hq, hi⟩)

/-- To leave the place of a registration is to leave every place of its identity. -/
theorem vacate_eq (h : s.Sound) (hf : s.find? e = some r) : s.vacate r = s.displace e.id := by
  obtain ⟨hr, hi⟩ := mem_of_find? hf
  obtain ⟨-, ⟨hd, -, hq⟩ | ⟨q, hd, ho, -, ha, hq⟩⟩ := h.of_find? hf
  · simp only [vacate, displace, hd, hi, dead_displace hq]
  · -- the node is dead: its key is its identity's alone, and nothing alive has its identity
    have hdead : s.dead.filter (fun q' => ¬ q'.HasKey q.deadline r.order) =
        s.dead.filter fun q' => q'.endpoint.id ≠ e.id := by
      apply List.filter_congr
      intro q' hq'
      have hkey : q'.HasKey q.deadline r.order ↔ q'.endpoint.id = e.id := by
        constructor
        · intro hk
          exact (h.endpoint_id_of_order hq' hr hk.2).trans hi
        · intro hid
          have hm : q' ∈ s.deadAs e.id := mem_deadAs.mpr ⟨hq', hid⟩
          rw [hq, List.mem_singleton] at hm
          subst q'
          exact ⟨rfl, ho.symm⟩
      simp [hkey]
    simp only [vacate, displace, hd, hdead, alive_displace ha]

/-- Without the places of its identity, the number of a registration is in no key. -/
theorem not_hasKey_of_mem_displace (h : s.Sound) (hf : s.find? e = some r) (d : Instant) :
    ∀ q ∈ (s.displace e.id).dead, ¬ q.HasKey d r.order := by
  rintro q hq ⟨-, ho⟩
  obtain ⟨hr, hi⟩ := mem_of_find? hf
  obtain ⟨hq, hne⟩ := List.mem_filter.mp hq
  exact absurd ((h.endpoint_id_of_order hq hr ho).trans hi) (by simpa using hne)

/-- A change of healths and places keeps a roster sound if every identity stands and the
quarantines are in order afterwards. -/
theorem of_map (h : s.Sound) {t : Roster C} {f : Registration C → Registration C}
    (hnode : ∀ r, (f r).node = r.node) (horder : ∀ r, (f r).order = r.order)
    (hregistered : t.registered = s.registered.map f) (hremoved : t.removed = s.removed)
    (hnext : t.nextOrder = s.nextOrder)
    (hstanding : ∀ j, Standing (t.registeredAs j) (t.aliveAs j) (t.deadAs j))
    (hsorted : t.dead.Pairwise Quarantine.Before) : t.Sound where
  standing := hstanding
  increasing := by
    rw [hregistered]
    exact List.pairwise_map.mpr (h.increasing.imp fun hlt => by rwa [horder, horder])
  order_lt := by
    rw [hregistered, hnext]
    intro r hr
    obtain ⟨u, hu, rfl⟩ := List.mem_map.mp hr
    rw [horder]
    exact h.order_lt u hu
  sorted := hsorted
  removed_absent := by
    rw [hremoved]
    intro e he
    unfold registeredAs
    rw [hregistered, filter_map_registered _ hnode]
    exact List.map_eq_nil_iff.mpr (h.removed_absent e he)
  removed_nodup := hremoved ▸ h.removed_nodup

end Sound

/-! ### Registration -/

section Register

variable (s) (n : Node C) (j : Endpoint.Identity)

theorem registeredAs_register :
    (s.register n).registeredAs j =
      if j = n.endpoint.id then s.registeredAs j ++ [⟨n, s.nextOrder, .fresh⟩]
      else s.registeredAs j := by
  unfold registeredAs register
  split <;> simp_all [eq_comm]

theorem aliveAs_register :
    (s.register n).aliveAs j =
      if j = n.endpoint.id then s.aliveAs j ++ [n.endpoint] else s.aliveAs j := by
  unfold aliveAs register
  split <;> simp_all [eq_comm]

theorem deadAs_register : (s.register n).deadAs j = s.deadAs j := rfl

variable {s n}

/-- A node whose identity is not registered is registered soundly. -/
theorem Sound.register (h : s.Sound) (hn : s.find? n.endpoint = none) :
    (s.register n).Sound where
  standing j := by
    rw [registeredAs_register, aliveAs_register, deadAs_register]
    split
    · subst j
      obtain ⟨ha, hd⟩ := h.of_find?_none hn
      rw [find?_eq_none_iff.mp hn, ha, hd]
      exact .alive rfl
    · exact h.standing j
  increasing := by
    refine List.pairwise_append.mpr ⟨h.increasing, List.pairwise_singleton _ _, ?_⟩
    intro r hr t ht
    obtain rfl := List.mem_singleton.mp ht
    exact h.order_lt r hr
  order_lt := by
    intro r hr
    rcases List.mem_append.mp hr with hr | hr
    · exact Nat.lt_succ_of_lt (h.order_lt r hr)
    · obtain rfl := List.mem_singleton.mp hr
      exact Nat.lt_succ_self _
  sorted := h.sorted
  removed_absent := by
    intro e he
    obtain ⟨he, hne⟩ := List.mem_filter.mp he
    rw [registeredAs_register, if_neg (by simpa using hne)]
    exact h.removed_absent e he
  removed_nodup := h.removed_nodup.sublist (List.filter_sublist.map _)

end Register

/-! ### Removal -/

section Remove

theorem remove_of_find?_none (hf : s.find? e = none) : s.remove e = (s, []) := by
  simp only [remove, hf]

theorem Sound.remove_eq (h : s.Sound) (hf : s.find? e = some r) :
    s.remove e =
      ({ s.displace e.id with
          registered := s.registered.filter fun r => r.node.endpoint.id ≠ e.id
          removed := s.removed ++ [e] }, [.removed e]) := by
  simp only [remove, hf, h.vacate_eq hf, displace]

variable (e) (j : Endpoint.Identity)

/-- A removal takes every entry of its identity from the registrations, the alive and the dead. -/
theorem Sound.entries_remove (h : s.Sound) :
    (s.remove e).1.registeredAs j = (if j = e.id then [] else s.registeredAs j) ∧
      (s.remove e).1.aliveAs j = (if j = e.id then [] else s.aliveAs j) ∧
      (s.remove e).1.deadAs j = if j = e.id then [] else s.deadAs j := by
  cases hf : s.find? e with
  | none =>
    rw [remove_of_find?_none hf]
    split
    · subst j
      exact ⟨find?_eq_none_iff.mp hf, h.of_find?_none hf⟩
    · exact ⟨rfl, rfl, rfl⟩
  | some r =>
    rw [h.remove_eq hf]
    exact ⟨filter_filter_ne (fun r : Registration C => r.node.endpoint.id) _ _ _,
      aliveAs_displace s e.id j, deadAs_displace s e.id j⟩

/-- A removal keeps a roster sound. -/
theorem Sound.remove (h : s.Sound) : (s.remove e).1.Sound := by
  cases hf : s.find? e with
  | none => rwa [remove_of_find?_none hf]
  | some r =>
    have hentries := h.entries_remove e
    rw [h.remove_eq hf] at hentries ⊢
    refine ⟨fun j => ?_, h.increasing.filter _, fun r hr => ?_, h.sorted.filter _, ?_, ?_⟩
    · obtain ⟨hr, ha, hd⟩ := hentries j
      rw [hr, ha, hd]
      split
      · exact .absent
      · exact h.standing j
    · exact h.order_lt r (List.mem_filter.mp hr).1
    · intro a ha
      rw [(hentries a.id).1]
      split
      · rfl
      · next hne =>
        apply h.removed_absent a
        rcases List.mem_append.mp ha with ha | ha
        · exact ha
        · exact absurd (congrArg Endpoint.id (List.mem_singleton.mp ha)) hne
    · rw [List.map_append, List.nodup_append]
      refine ⟨h.removed_nodup, List.nodup_singleton _, ?_⟩
      rintro i hi _ hj rfl
      obtain ⟨a, ha, rfl⟩ := List.mem_map.mp hi
      have hae : a.id = e.id := List.mem_singleton.mp hj
      have hnil := h.removed_absent a ha
      rw [hae, (h.of_find? hf).1] at hnil
      cases hnil

end Remove

/-! ### Failures -/

section MarkDead

variable (b : Backoff) (now : Instant)

/-- The quarantine that a failure at `now` earns a registration. -/
def quarantineOf (e : Endpoint) (r : Registration C) : Quarantine :=
  ⟨r.health.nextDeadline now b, r.order, e⟩

/-- Who fails is dead, wherever it stood before. -/
theorem Standing.fail {regs : List (Registration C)} {eps : List Endpoint} {qs : List Quarantine}
    (h : Standing regs eps qs) (e : Endpoint) :
    Standing (regs.map fun r => { r with health := r.health.fail now b }) []
      (regs.map (quarantineOf b now e)) := by
  cases h with
  | absent => exact .absent
  | alive | dead => exact .dead rfl rfl (Health.failures_fail_pos _ _ _)

theorem markDead_of_find?_none (hf : s.find? e = none) : s.markDead b e now = (s, []) := by
  simp only [markDead, hf]

theorem Sound.markDead_eq (h : s.Sound) (hf : s.find? e = some r) :
    (s.markDead b e now).1 =
      { s.adjust e.id (·.fail now b) with
        alive := (s.displace e.id).alive
        dead := Quarantine.insert (quarantineOf b now e r) (s.displace e.id).dead } := by
  have hs := h.setHealth_eq hf (·.fail now b)
  simp only [markDead, hf, h.vacate_eq hf, quarantineOf]
  exact congrArg (fun t : Roster C => { t with
    alive := (s.displace e.id).alive
    dead := Quarantine.insert (quarantineOf b now e r) (s.displace e.id).dead }) hs

variable (e : Endpoint) (j : Endpoint.Identity)

/-- A failure of a registered identity leaves it its registration and one quarantine. -/
theorem Sound.entries_markDead (h : s.Sound) :
    (s.markDead b e now).1.registeredAs j =
        (if j = e.id then (s.registeredAs j).map fun r => { r with health := r.health.fail now b }
        else s.registeredAs j) ∧
      (s.markDead b e now).1.aliveAs j = (if j = e.id then [] else s.aliveAs j) ∧
      (s.markDead b e now).1.deadAs j =
        if j = e.id then (s.registeredAs j).map (quarantineOf b now e) else s.deadAs j := by
  cases hf : s.find? e with
  | none =>
    rw [markDead_of_find?_none b now hf]
    split
    · subst j
      rw [find?_eq_none_iff.mp hf]
      exact ⟨rfl, h.of_find?_none hf⟩
    · exact ⟨rfl, rfl, rfl⟩
  | some r =>
    rw [h.markDead_eq b now hf]
    refine ⟨registeredAs_adjust s e.id j (·.fail now b), aliveAs_displace s e.id j, ?_⟩
    -- no key that is left has the number, so no quarantine is replaced
    have hfree := h.not_hasKey_of_mem_displace hf (r.health.nextDeadline now b)
    have hd := deadAs_displace s e.id j
    split
    · subst j
      rw [if_pos rfl] at hd
      rw [(h.of_find? hf).1]
      exact Quarantine.filter_insert_of_nil hfree (decide_eq_true rfl) hd
    · next hj =>
      rw [if_neg hj] at hd
      have hq : ¬ decide ((quarantineOf b now e r).endpoint.id = j) = true := by
        intro hi
        exact hj (of_decide_eq_true hi).symm
      exact (Quarantine.filter_insert_of_not hfree hq).trans hd

/-- A failure keeps a roster sound. -/
theorem Sound.markDead (h : s.Sound) : (s.markDead b e now).1.Sound := by
  cases hf : s.find? e with
  | none => rwa [markDead_of_find?_none b now hf]
  | some r =>
    have hentries := h.entries_markDead b now e
    rw [h.markDead_eq b now hf] at hentries ⊢
    refine h.of_map (fun r => ?_) (fun r => ?_) rfl rfl rfl (fun j => ?_)
      (Quarantine.pairwise_insert (h.not_hasKey_of_mem_displace hf _) (h.sorted.filter _))
    · split <;> rfl
    · split <;> rfl
    · obtain ⟨hr, ha, hd⟩ := hentries j
      rw [hr, ha, hd]
      split
      · exact (h.standing j).fail b now e
      · exact h.standing j

end MarkDead

/-! ### Successes -/

section MarkLive

/-- Who succeeds is alive, wherever it stood before. -/
theorem Standing.succeed {regs : List (Registration C)} {eps : List Endpoint}
    {qs : List Quarantine} (h : Standing regs eps qs) (e : Endpoint) :
    Standing (regs.map fun r => { r with health := .fresh }) (eps ++ qs.map fun _ => e) [] := by
  cases h with
  | absent => exact .absent
  | alive | dead => exact .alive rfl

theorem markLive_of_find?_none (hf : s.find? e = none) : s.markLive e = (s, []) := by
  simp only [markLive, hf]

/-- A success of a node that is alive clears its failures. -/
theorem Sound.markLive_eq_of_alive (h : s.Sound) (hf : s.find? e = some r)
    (hd : r.health.deadline = none) :
    s.markLive e = (s.adjust e.id fun _ => .fresh, []) := by
  have hs := h.setHealth_eq hf fun _ => .fresh
  simp only [markLive, hf, hd, Health.succeed, hs]

/-- A success of a node in quarantine ends it too; the node is the last of the alive then. -/
theorem Sound.markLive_eq_of_dead (h : s.Sound) (hf : s.find? e = some r) {d : Instant}
    (hd : r.health.deadline = some d) :
    s.markLive e =
      ({ s.adjust e.id fun _ => .fresh with
          alive := (s.displace e.id).alive ++ [e]
          dead := (s.displace e.id).dead }, [.revived e]) := by
  have hs := h.setHealth_eq hf fun _ => .fresh
  simp only [markLive, hf, hd, Health.succeed, vacate_setHealth, h.vacate_eq hf]
  exact congrArg (fun t : Roster C => ({ t with
    alive := (s.displace e.id).alive ++ [e]
    dead := (s.displace e.id).dead }, [Event.revived e])) hs

variable (e) (j : Endpoint.Identity)

/-- A success of a registered identity leaves it its registration and one alive entry. -/
theorem Sound.entries_markLive (h : s.Sound) :
    (s.markLive e).1.registeredAs j =
        (if j = e.id then (s.registeredAs j).map fun r => { r with health := .fresh }
        else s.registeredAs j) ∧
      (s.markLive e).1.aliveAs j =
        (if j = e.id then s.aliveAs j ++ (s.deadAs j).map fun _ => e else s.aliveAs j) ∧
      (s.markLive e).1.deadAs j = if j = e.id then [] else s.deadAs j := by
  cases hf : s.find? e with
  | none =>
    obtain ⟨ha, hd⟩ := h.of_find?_none hf
    rw [markLive_of_find?_none hf]
    split
    · subst j
      rw [find?_eq_none_iff.mp hf, ha, hd]
      exact ⟨rfl, rfl, rfl⟩
    · exact ⟨rfl, rfl, rfl⟩
  | some r =>
    obtain ⟨-, ⟨hd, -, hq⟩ | ⟨q, hd, -, -, ha, hq⟩⟩ := h.of_find? hf
    · rw [h.markLive_eq_of_alive hf hd]
      refine ⟨registeredAs_adjust s e.id j _, ?_⟩
      split
      · subst j
        rw [hq]
        exact ⟨(List.append_nil _).symm, hq⟩
      · exact ⟨rfl, rfl⟩
    · rw [h.markLive_eq_of_dead hf hd]
      refine ⟨registeredAs_adjust s e.id j fun _ => .fresh, ?_, deadAs_displace s e.id j⟩
      refine (List.filter_append ..).trans ?_
      rw [show (s.displace e.id).alive.filter (fun a => a.id = j) = (s.displace e.id).aliveAs j
        from rfl, aliveAs_displace]
      split
      · subst j
        simp [ha, hq]
      · next hj => simp [Ne.symm hj]

/-- A success keeps a roster sound. -/
theorem Sound.markLive (h : s.Sound) : (s.markLive e).1.Sound := by
  have hstanding : ∀ j, Standing ((s.markLive e).1.registeredAs j) ((s.markLive e).1.aliveAs j)
      ((s.markLive e).1.deadAs j) := by
    intro j
    obtain ⟨hr, ha, hd⟩ := h.entries_markLive e j
    rw [hr, ha, hd]
    split
    · exact (h.standing j).succeed e
    · exact h.standing j
  cases hf : s.find? e with
  | none => rwa [markLive_of_find?_none hf]
  | some r =>
    cases hd : r.health.deadline with
    | none =>
      rw [h.markLive_eq_of_alive hf hd] at hstanding ⊢
      refine h.of_map (fun r => ?_) (fun r => ?_) rfl rfl rfl hstanding h.sorted
      · split <;> rfl
      · split <;> rfl
    | some d =>
      rw [h.markLive_eq_of_dead hf hd] at hstanding ⊢
      refine h.of_map (fun r => ?_) (fun r => ?_) rfl rfl rfl hstanding (h.sorted.filter _)
      · split <;> rfl
      · split <;> rfl

end MarkLive

/-! ### Resurrection -/

/-- The quarantines that have run out at `now`, the first to end first. -/
def due (s : Roster C) (now : Instant) : List Quarantine := s.dead.filter fun q => Due now q

/-- The roster once `now` has been seen: what is due is alive again, behind what was alive, and
nothing else changes. -/
def settle (s : Roster C) (now : Instant) : Roster C :=
  { s with
    registered := s.registered.map (·.settle now)
    alive := s.alive ++ (s.due now).map (·.endpoint)
    dead := s.dead.filter fun q => ¬ Due now q }

section ResurrectDue

variable (now : Instant)

/-- Whose quarantine has run out is alive, and everyone else stands as before. -/
theorem Standing.settle {regs : List (Registration C)} {eps : List Endpoint}
    {qs : List Quarantine} (h : Standing regs eps qs) :
    Standing (regs.map (·.settle now))
      (eps ++ (qs.filter fun q => Due now q).map (·.endpoint))
      (qs.filter fun q => ¬ Due now q) := by
  cases h with
  | absent => exact .absent
  | @alive r e hd =>
    have hsettle := Health.settle_of_none hd now
    exact .alive (r := r.settle now) (by rw [Registration.settle, hsettle, hd])
  | @dead r q hd ho hp =>
    have hsettle := Health.settle_of_some hd now
    by_cases hdue : q.deadline ≤ now
    · rw [if_pos hdue] at hsettle
      have hnone : (r.settle now).health.deadline = none := by
        rw [Registration.settle, hsettle]
        rfl
      simpa [Due, hdue] using Standing.alive hnone
    · rw [if_neg hdue] at hsettle
      simpa [Due, hdue, Registration.settle, hsettle] using Standing.dead hd ho hp

/-- Something due has the identity of a registration just if the registration's own deadline has
passed. -/
theorem Sound.settle_eq (h : s.Sound) (hr : r ∈ s.registered) :
    (if (s.due now).any fun q => q.endpoint.id = r.node.endpoint.id then
      { r with health := r.health.resurrect } else r) = r.settle now := by
  have hdue : ∀ q, q ∈ s.due now ∧ q.endpoint.id = r.node.endpoint.id ↔
      q ∈ s.deadAs r.node.endpoint.id ∧ Due now q := by
    intro q
    rw [mem_deadAs, due, List.mem_filter, decide_eq_true_eq]
    exact and_right_comm
  simp only [List.any_eq_true, decide_eq_true_eq, hdue]
  -- alive: nothing of the identity is due; dead: its one quarantine has its own deadline
  obtain ⟨-, ⟨hd, -, hq⟩ | ⟨q, hd, -, -, -, hq⟩⟩ := h.of_find? (h.find?_iff.mpr ⟨hr, rfl⟩)
  · rw [if_neg (by simp [hq]), Registration.settle, Health.settle_of_none hd]
  · simp only [hq, List.mem_singleton, exists_eq_left, Registration.settle,
      Health.settle_of_some hd, Due]
    split <;> rfl

/-- Resurrection is what `now` brings about: the loop over the dead stops at the first that is not
due, and all that are due stand before it. -/
theorem Sound.resurrectDue_eq (h : s.Sound) : (s.resurrectDue now).1 = s.settle now := by
  have hmap : (s.registered.map fun r =>
      if (s.due now).any fun q => q.endpoint.id = r.node.endpoint.id then
        { r with health := r.health.resurrect } else r) = s.registered.map (·.settle now) :=
    List.map_congr_left fun r hr => h.settle_eq now hr
  unfold due at hmap
  simp only [resurrectDue, takeWhile_due h.sorted, dropWhile_due h.sorted, hmap, settle, due]

variable (j : Endpoint.Identity)

theorem Sound.entries_resurrectDue (h : s.Sound) :
    (s.resurrectDue now).1.registeredAs j = (s.registeredAs j).map (·.settle now) ∧
      (s.resurrectDue now).1.aliveAs j =
        s.aliveAs j ++ ((s.deadAs j).filter fun q => Due now q).map (·.endpoint) ∧
      (s.resurrectDue now).1.deadAs j = (s.deadAs j).filter fun q => ¬ Due now q := by
  rw [h.resurrectDue_eq]
  refine ⟨filter_map_registered j (f := (·.settle now)) (fun _ => rfl) _, ?_, ?_⟩
  · unfold aliveAs deadAs settle due
    rw [List.filter_append, List.filter_map, List.filter_filter, List.filter_filter]
    simp only [Function.comp_def, Bool.and_comm]
  · unfold deadAs settle
    simp only [List.filter_filter, Bool.and_comm]

/-- Everyone is found as before, with the health that `now` brings about. -/
theorem Sound.find?_resurrectDue (h : s.Sound) (e : Endpoint) :
    (s.resurrectDue now).1.find? e = (s.find? e).map (·.settle now) := by
  rw [find?_eq_head?, find?_eq_head?, (h.entries_resurrectDue now e.id).1, List.head?_map]

/-- A resurrection keeps a roster sound. -/
theorem Sound.resurrectDue (h : s.Sound) : (s.resurrectDue now).1.Sound := by
  have hstanding : ∀ j, Standing ((s.resurrectDue now).1.registeredAs j)
      ((s.resurrectDue now).1.aliveAs j) ((s.resurrectDue now).1.deadAs j) := by
    intro j
    obtain ⟨hr, ha, hd⟩ := h.entries_resurrectDue now j
    rw [hr, ha, hd]
    exact (h.standing j).settle now
  have heq := h.resurrectDue_eq now
  rw [heq] at hstanding ⊢
  exact h.of_map (f := (·.settle now)) (fun _ => rfl) (fun _ => rfl) rfl rfl rfl hstanding
    (h.sorted.filter _)

theorem Sound.settle (h : s.Sound) : (s.settle now).Sound :=
  h.resurrectDue_eq now ▸ h.resurrectDue now

end ResurrectDue

end Roster

end EndpointPool
