import EndpointPool.Proofs.Pool.Report

/-!
# Requests out of order

A quarantine that has run out is over only when a request sees it, and the instants of requests need
not come in order: whoever reads the clock first may be served last. To see two instants, in either
order, is to see the later of the two. What is due at the earlier one stands in front of what is due
at the later one only, so two batches of resurrections put behind the alive are one batch. The
roster after requests therefore depends on the latest of their instants alone, and a request that
comes late with an instant that is not later finds nothing to do.

## Main definitions

* `Pool.Batches q`: what requests do to `q`, in whatever order their instants are

## Main results

* `Health.settle_settle`, `Roster.Sound.settle_settle`: to see two instants is to see the later
* `Pool.Sound.roster_after_requests`: the roster after requests
* `Pool.batches_after`: requests after any run, in whatever order their instants are
-/

namespace EndpointPool

namespace Instant

/-- The later of two instants. -/
instance : Max Instant := maxOfLe

variable {t u : Instant}

theorem max_eq (t u : Instant) : max t u = if t ≤ u then u else t := rfl

theorem le_max_iff {d : Instant} : d ≤ max t u ↔ d ≤ t ∨ d ≤ u := by
  rw [max_eq]
  split
  all_goals
    simp only [le_def] at *
    omega

theorem max_of_ge (h : t ≤ u) : max t u = u := by
  rw [max_eq, if_pos h]

theorem max_comm (t u : Instant) : max t u = max u t := by
  rw [max_eq, max_eq]
  split <;> split
  · next htu hut => exact ext (Nat.le_antisymm hut htu)
  · rfl
  · rfl
  · next htu hut => exact absurd (Nat.le_total t.nanos u.nanos) (not_or.mpr ⟨htu, hut⟩)

end Instant

/-- A health that has seen two instants has seen the later of them. -/
theorem Health.settle_settle (h : Health) (t u : Instant) :
    (h.settle t).settle u = h.settle (max t u) := by
  cases hd : h.deadline with
  | none => rw [settle_of_none hd, settle_of_none hd, settle_of_none hd]
  | some d =>
    rw [settle_of_some hd t, settle_of_some hd (max t u)]
    simp only [Instant.le_max_iff]
    by_cases ht : d ≤ t
    · -- the first instant ends the quarantine, and there is nothing to end at the second
      rw [if_pos ht, if_pos (.inl ht)]
      exact settle_of_none rfl u
    · rw [if_neg ht, settle_of_some hd u]
      simp only [ht, false_or]

namespace Roster

variable {C : Type} {s : Roster C}

theorem due_max {t u : Instant} {q : Quarantine} : Due (max t u) q ↔ Due t q ∨ Due u q :=
  Instant.le_max_iff

/-- What is due at the later of two instants is what is due at the first, and behind it what is due
at the second only. -/
theorem filter_due_max {l : List Quarantine} (h : l.Pairwise Quarantine.Before) (t u : Instant) :
    l.filter (fun q => Due (max t u) q) =
      l.filter (fun q => Due t q) ++
        (l.filter fun q => ¬ Due t q).filter fun q => Due u q := by
  have hsplit : (l.filter fun q => Due t q) ++ (l.filter fun q => ¬ Due t q) = l := by
    rw [← takeWhile_due h, ← dropWhile_due h]
    exact List.takeWhile_append_dropWhile
  conv_lhs => rw [← hsplit, List.filter_append]
  congr 1
  · apply List.filter_eq_self.mpr
    intro q hq
    have hq := of_decide_eq_true (List.mem_filter.mp hq).2
    exact decide_eq_true (due_max.mpr (.inl hq))
  · apply List.filter_congr
    intro q hq
    have hq := of_decide_eq_true (List.mem_filter.mp hq).2
    simp only [due_max, hq, false_or]

/-- **To see two instants is to see the later of them**: the same are alive, in the same order. -/
theorem Sound.settle_settle (h : s.Sound) (t u : Instant) :
    (s.settle t).settle u = s.settle (max t u) := by
  have hregistered : (s.registered.map (·.settle t)).map (·.settle u) =
      s.registered.map (·.settle (max t u)) := by
    rw [List.map_map]
    apply List.map_congr_left
    intro r _
    exact congrArg (fun h => { r with health := h }) (r.health.settle_settle t u)
  have halive : s.alive ++ (s.due t).map (·.endpoint) ++ ((s.settle t).due u).map (·.endpoint) =
      s.alive ++ (s.due (max t u)).map (·.endpoint) := by
    rw [due, due, due, filter_due_max h.sorted, List.map_append, List.append_assoc]
    rfl
  have hdead : (s.dead.filter fun q => ¬ Due t q).filter (fun q => ¬ Due u q) =
      s.dead.filter fun q => ¬ Due (max t u) q := by
    rw [List.filter_filter]
    apply List.filter_congr
    intro q _
    rw [← Bool.decide_and, decide_eq_decide, due_max, not_or]
    exact and_comm
  show Roster.mk ((s.registered.map (·.settle t)).map (·.settle u))
    (s.alive ++ (s.due t).map (·.endpoint) ++ ((s.settle t).due u).map (·.endpoint))
    ((s.dead.filter fun q => ¬ Due t q).filter fun q => ¬ Due u q) s.removed s.nextOrder = _
  rw [hregistered, halive, hdead]
  rfl

/-- The end of quarantines forgets no failure. -/
theorem failures_settle (s : Roster C) (now : Instant) (e : Endpoint) :
    (s.settle now).failures e = s.failures e := by
  have hregistered : (s.settle now).registeredAs e.id = (s.registeredAs e.id).map (·.settle now) :=
    filter_map_registered e.id (f := (·.settle now)) (fun _ => rfl) s.registered
  unfold failures
  rw [find?_eq_head?, find?_eq_head?, hregistered, List.head?_map]
  cases (s.registeredAs e.id).head? with
  | none => rfl
  | some r => exact Health.failures_settle r.health now

/-- Two batches of resurrections are reported as one. -/
theorem Sound.events_settle (h : s.Sound) (t u : Instant) :
    (s.resurrectDue t).2 ++ ((s.settle t).resurrectDue u).2 = (s.resurrectDue (max t u)).2 := by
  rw [h.events_resurrectDue, (h.settle t).events_resurrectDue, h.events_resurrectDue]
  simp only [failures_settle]
  rw [← List.map_append]
  exact congrArg (List.map _) (filter_due_max h.sorted t u).symm

end Roster

namespace Pool

variable {C σ : Type} [Selector σ] {p : Pool C σ}

/-- Requests, each at an instant and with a draw. -/
def requests (calls : List (Instant × Nat)) : List (Operation C) :=
  calls.map fun call => .get call.1 call.2

theorem Sound.roster_get_eq_settle (h : p.Sound) (now : Instant) (draw : Nat) :
    (p.perform (.get now draw)).1.roster = p.roster.settle now :=
  (Pool.roster_perform_get p now draw).trans (h.roster.resurrectDue_eq now)

/-- Whatever instants up to `t` have been seen before it, `t` shows the same. -/
theorem Sound.settle_after_requests (h : p.Sound) {calls : List (Instant × Nat)} {t : Instant}
    (hle : ∀ call ∈ calls, call.1 ≤ t) :
    (p.after (requests calls)).roster.settle t = p.roster.settle t := by
  induction calls generalizing p with
  | nil => rfl
  | cons call calls ih =>
    obtain ⟨hcall, hcalls⟩ := List.forall_mem_cons.mp hle
    have hroster := h.roster_get_eq_settle call.1 call.2
    calc (p.after (requests (call :: calls))).roster.settle t
        = (p.perform (.get call.1 call.2)).1.roster.settle t := ih (h.perform _) hcalls
      _ = (p.roster.settle call.1).settle t := by rw [hroster]
      _ = p.roster.settle t := by rw [h.roster.settle_settle, Instant.max_of_ge hcall]

/-- An instant that a request has seen shows nothing more. -/
theorem Sound.settled_after_requests (h : p.Sound) {calls : List (Instant × Nat)}
    {call : Instant × Nat} (hcall : call ∈ calls) :
    (p.after (requests calls)).roster.settle call.1 = (p.after (requests calls)).roster := by
  induction calls using List.reverseRecOn with
  | nil => cases hcall
  | append_singleton calls last ih =>
    have hbefore := h.after (requests calls)
    have hroster : (p.after (requests (calls ++ [last]))).roster =
        (p.after (requests calls)).roster.settle last.1 := by
      rw [requests, List.map_append, List.map_singleton, after_concat]
      exact hbefore.roster_get_eq_settle last.1 last.2
    rw [hroster, hbefore.roster.settle_settle]
    rcases List.mem_append.mp hcall with hcall | hcall
    · -- seen before the last request, so it might as well be seen again before it
      rw [Instant.max_comm, ← hbefore.roster.settle_settle, ih hcall]
    · rw [List.mem_singleton.mp hcall, Instant.max_of_ge (Nat.le_refl _)]

/-- **The roster after requests is that of their latest instant alone.** -/
theorem Sound.roster_after_requests (h : p.Sound) {calls : List (Instant × Nat)} {t : Instant}
    (ht : t ∈ calls.map (·.1)) (hle : ∀ call ∈ calls, call.1 ≤ t) :
    (p.after (requests calls)).roster = p.roster.settle t := by
  obtain ⟨call, hcall, rfl⟩ := List.mem_map.mp ht
  rw [← h.settled_after_requests hcall, h.settle_after_requests hle]

theorem after_requests_eq (p : Pool C σ) (calls : List (Instant × Nat)) :
    p.after (requests calls) =
      { p with
        roster := (p.after (requests calls)).roster
        selector := (p.after (requests calls)).selector } := by
  obtain ⟨s, selector, h⟩ := exists_after_eq p (requests calls)
  rw [h]

/-- What requests do to a pool, in whatever order their instants are. -/
structure Batches (q : Pool C σ) : Prop where
  /-- Two batches of resurrections are the one of the later instant. -/
  twice : ∀ t u, ((q.roster.resurrectDue t).1.resurrectDue u).1 =
    (q.roster.resurrectDue (max t u)).1
  /-- They are reported as that one is. -/
  reported : ∀ t u, (q.roster.resurrectDue t).2 ++ ((q.roster.resurrectDue t).1.resurrectDue u).2 =
    (q.roster.resurrectDue (max t u)).2
  /-- After requests the pool, but for its selector, is as their latest instant alone leaves it. -/
  latest : ∀ (calls : List (Instant × Nat)) (t : Instant), t ∈ calls.map (·.1) →
    (∀ call ∈ calls, call.1 ≤ t) → q.after (requests calls) =
      { q with
        roster := (q.roster.resurrectDue t).1
        selector := (q.after (requests calls)).selector }
  /-- A further request at an instant that is not later changes the selector only. -/
  again : ∀ (calls : List (Instant × Nat)) (call : Instant × Nat), call ∈ calls → ∀ (now : Instant)
    (draw : Nat), now ≤ call.1 → ((q.after (requests calls)).get now draw).1 =
      { q.after (requests calls) with
        selector := ((q.after (requests calls)).get now draw).1.selector }

/-- **Requests may come in any order**: after any run of a pool, what they leave is what the latest
of their instants leaves. -/
theorem batches_after {p : Pool C σ} (hp : p.Created) (ops : List (Operation C)) :
    (p.after ops).Batches := by
  have h := hp.sound.after ops
  constructor
  · intro t u
    rw [h.roster.resurrectDue_eq, (h.roster.settle t).resurrectDue_eq, h.roster.settle_settle,
      h.roster.resurrectDue_eq]
  · intro t u
    rw [h.roster.resurrectDue_eq]
    exact h.roster.events_settle t u
  · intro calls t ht hle
    rw [h.roster.resurrectDue_eq, ← h.roster_after_requests ht hle]
    exact after_requests_eq _ calls
  · intro calls call hcall now draw hnow
    have hafter := h.after (requests calls)
    -- whoever has seen the later instant has seen this one
    have hseen : (((p.after ops).after (requests calls)).roster.resurrectDue now).1 =
        ((p.after ops).after (requests calls)).roster := by
      rw [hafter.roster.resurrectDue_eq, ← h.settled_after_requests hcall,
        hafter.roster.settle_settle, Instant.max_comm, Instant.max_of_ge hnow]
    rw [get_fst, hseen]

/-- Both nodes have failed at dawn, and are seen at dusk, at noon and at dusk again. -/
theorem batches_after_tiedFailures :
    twoInTurn.Created ∧ (twoInTurn.after tiedFailures).roster.dead.length = 2 ∧
      (((twoInTurn.after tiedFailures).after
        (requests [(noon, 0), (dusk, 0), (noon, 0)])).roster.alive.map Endpoint.id =
          [plainSeed.id, secureSeed.id]) ∧
      (twoInTurn.after tiedFailures).Batches :=
  ⟨created_twoInTurn, by decide +kernel, by decide +kernel,
    batches_after created_twoInTurn tiedFailures⟩

end Pool

end EndpointPool
