import EndpointPool.Proofs.Health.Halving
import EndpointPool.Proofs.Pool.Batching

/-!
# Failures quarantine

A node that fails is not alive until a request comes at its deadline or later. As the deadline lies
behind the instant of the failure, requests at that same instant do not bring the node back, however
many they are. Only at the last instant of the clock there is no time left, and the first request
ends the quarantine.

## Main definitions

* `Pool.QuarantinedUntil p ops e now d`: a failure of `e` at `now`, after `ops`, is followed by a
  quarantine until `d`

## Main results

* `Health.deadline_foldl_settle`: a quarantine is over when its deadline has been seen
* `Pool.Sound.alive_after_requests_iff`: who is alive after requests
* `Pool.quarantined_until`: deadlines always exist, and always quarantine
-/

namespace EndpointPool

/-- A quarantine is over once one of the instants that have been seen has reached its deadline. -/
theorem Health.deadline_foldl_settle (h : Health) (instants : List Instant) :
    (instants.foldl Health.settle h).deadline = none ↔
      ∀ d, h.deadline = some d → ∃ t ∈ instants, d ≤ t := by
  induction instants generalizing h with
  | nil => simp [Option.eq_none_iff_forall_ne_some]
  | cons t instants ih =>
    rw [List.foldl_cons, ih]
    cases hd : h.deadline with
    | none => simp [settle_of_none hd, hd]
    | some d =>
      rw [settle_of_some hd]
      by_cases hle : d ≤ t
      · simp [hle, resurrect]
      · simp [hle, hd]

namespace Pool

variable {C σ : Type} [Selector σ] {p : Pool C σ} {i : Endpoint.Identity}

/-- Requests settle the healths of the registered at their instants, one after another. -/
theorem Sound.registeredAs_after_requests (h : p.Sound) (calls : List (Instant × Nat)) :
    (p.after (requests calls)).roster.registeredAs i =
      (p.roster.registeredAs i).map fun r =>
        { r with health := (calls.map (·.1)).foldl Health.settle r.health } := by
  induction calls generalizing p with
  | nil => exact (List.map_id _).symm
  | cons call calls ih =>
    have hafter := ih (h.perform (.get call.1 call.2))
    rw [roster_perform_get, (h.roster.entries_resurrectDue call.1 i).1, List.map_map] at hafter
    exact hafter

/-- Alive after requests is who is registered with no deadline, or with one that a request has
seen. -/
theorem Sound.alive_after_requests_iff (h : p.Sound) (calls : List (Instant × Nat)) :
    Alive i (p.after (requests calls)) ↔
      ∃ r ∈ p.roster.registeredAs i,
        ∀ d, r.health.deadline = some d → ∃ call ∈ calls, d ≤ call.1 := by
  rw [Alive, h.registeredAs_after_requests]
  simp [Health.deadline_foldl_settle]

/-- A failure of `e` at `now`, after `ops`, is followed by a quarantine until `d`. -/
structure QuarantinedUntil (p : Pool C σ) (ops : List (Operation C)) (e : Endpoint)
    (now d : Instant) : Prop where
  /-- The quarantine is the only one of the identity. -/
  deadAs_eq : ∃ order, (p.after (ops ++ [.markDead e now])).roster.deadAs e.id = [⟨d, order, e⟩]
  /-- The deadline lies behind the failure, unless the clock is at its end. -/
  lt_iff : now < d ↔ now ≠ .last
  /-- Whatever requests follow, one must come at the deadline or later for `e` to be alive. -/
  alive_iff : ∀ calls, Alive e.id (p.after (ops ++ .markDead e now :: requests calls)) ↔
    ∃ call ∈ calls, d ≤ call.1
  /-- A request at the instant of the failure ends the quarantine at the last instant only. -/
  alive_at_once_iff : ∀ draw,
    Alive e.id (p.after (ops ++ [.markDead e now, .get now draw])) ↔ now = .last

theorem Created.quarantinedUntil (hp : p.Created) (ops : List (Operation C)) (e : Endpoint)
    (now : Instant) (hreg : Registered e.id (p.after ops)) :
    ∃ d, p.QuarantinedUntil ops e now d := by
  have h := hp.sound.after ops
  have hfailed := h.perform (.markDead e now)
  obtain ⟨r, hf⟩ := Option.ne_none_iff_exists'.mp
    (mt find?_eq_none_iff_not_registered.mp (not_not.mpr hreg))
  have hone := (h.roster.of_find? hf).1
  obtain ⟨hregistered, -, hdead⟩ := h.roster.entries_markDead (p.after ops).backoff now e e.id
  rw [if_pos rfl, hone, List.map_singleton] at hregistered hdead
  rw [← roster_perform_markDead] at hregistered hdead
  have hlt := r.health.lt_nextDeadline_iff (p.after ops).backoff now
  have halive : ∀ calls, Alive e.id (p.after (ops ++ .markDead e now :: requests calls)) ↔
      ∃ call ∈ calls, r.health.nextDeadline now (p.after ops).backoff ≤ call.1 := by
    intro calls
    rw [after_append, after_cons, hfailed.alive_after_requests_iff, hregistered]
    simp [Health.fail]
  refine ⟨r.health.nextDeadline now (p.after ops).backoff, ⟨r.order, ?_⟩, hlt, halive, ?_⟩
  · rw [after_concat, hdead]
    rfl
  · intro draw
    have honce := halive [(now, draw)]
    simp only [List.mem_singleton, exists_eq_left] at honce
    refine honce.trans (Iff.trans ?_ (not_iff_comm.mp hlt.symm))
    exact Nat.not_lt.symm

/-- **Deadlines always exist, and always quarantine.** -/
theorem quarantined_until :
    (∀ (now : Instant) (delay : Duration), now.Fitted delay) ∧
    (∀ (h : Health) (b : Backoff) (now : Instant),
      ∃ d, (h.fail now b).deadline = some d ∧ (now < d ↔ now ≠ .last)) ∧
    ∀ (C σ : Type) [Selector σ] (p : Pool C σ), p.Created →
      ∀ (ops : List (Operation C)) (e : Endpoint) (now : Instant), Registered e.id (p.after ops) →
        ∃ d, p.QuarantinedUntil ops e now d :=
  ⟨Instant.fitted, fun h b now => ⟨_, rfl, h.lt_nextDeadline_iff b now⟩,
    fun _ _ _ _ hp ops e now hreg => hp.quarantinedUntil ops e now hreg⟩

/-- A seed that is dead fails once more, at noon and when the clock ends. -/
theorem quarantined_until_clockEnd :
    twoInTurn.Created ∧ Registered plainSeed.id (twoInTurn.after tiedFailures) ∧
      (∃ d, noon < d ∧ twoInTurn.QuarantinedUntil tiedFailures plainSeed noon d) ∧
      ∃ d, ¬ Instant.last < d ∧ twoInTurn.QuarantinedUntil tiedFailures plainSeed .last d := by
  have hreg : Registered plainSeed.id (twoInTurn.after tiedFailures) := by
    unfold Registered
    decide +kernel
  have hnoon : noon ≠ .last := by decide +kernel
  obtain ⟨d, hd⟩ := quarantined_until.2.2 _ _ _ created_twoInTurn tiedFailures plainSeed noon hreg
  obtain ⟨f, hf⟩ := quarantined_until.2.2 _ _ _ created_twoInTurn tiedFailures plainSeed .last hreg
  exact ⟨created_twoInTurn, hreg, ⟨d, hd.lt_iff.mpr hnoon, hd⟩, f,
    fun hlt => hf.lt_iff.mp hlt rfl, hf⟩

end Pool

end EndpointPool
