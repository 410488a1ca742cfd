import EndpointPool.Proofs.Health.Deadline
import EndpointPool.Proofs.Pool.Tenure

/-!
# A failure during a quarantine

A quarantine was begun by a failure reported under its identity, and its deadline is the one which
that failure earned. If the node fails again while it is dead, the quarantine is replaced by one
whose deadline the new failure earns, at the old number. As long as instants do not go back, the new
deadline stands to the old one as in `Health.FailingAgain`: it is not earlier, unless the end of the
clock is so near that the delay has to be halved once more.

## Main definitions

* `Operation.instant?`, `Operation.InTime ops`: the instants of operations, and that none goes back
* `Pool.QuarantinedAgain p ops e now q h t`: the quarantine `q` of `e`, since a failure at `t`, is
  replaced after another at `now`

## Main results

* `Health.exists_fail_of_deadline`: a deadline is that of a failure
* `Pool.exists_markDead_of_deadline`: it was reported during the run
* `Pool.failing_again`: the quarantine after a failure during a quarantine
* `Pool.failing_again_at_end`: near the end of the clock it may end earlier
-/

namespace EndpointPool

/-- The instant of an operation that has one. -/
def Operation.instant? {C : Type} : Operation C → Option Instant
  | .get now _ | .markDead _ now => some now
  | .add _ _ | .remove _ | .markLive _ => none

/-- The instants of operations do not go back. -/
def Operation.InTime {C : Type} (ops : List (Operation C)) : Prop :=
  (ops.filterMap instant?).Pairwise (· ≤ ·)

/-- No instant of a run in time is later than that of the operation behind it. -/
theorem Operation.InTime.le {C : Type} {ops : List (Operation C)} {a e : Endpoint}
    {now t : Instant} (h : InTime (ops ++ [.markDead e now])) (ha : .markDead a t ∈ ops) :
    t ≤ now := by
  unfold InTime at h
  rw [List.filterMap_append, List.pairwise_append] at h
  obtain ⟨-, -, hle⟩ := h
  exact hle t (List.mem_filterMap.mpr ⟨_, ha, rfl⟩) now List.mem_cons_self

/-- A failure is heard when it is reported under the identity. -/
theorem Operation.signal?_eq_failure_iff {C : Type} {op : Operation C} {i : Endpoint.Identity}
    {t : Instant} :
    op.signal? i = some (.failure t) ↔ ∃ a, op = .markDead a t ∧ a.id = i := by
  cases op with
  | markDead a now =>
    by_cases hid : a.id = i
    · simp [signal?, hid]
    · simp [signal?, hid]
  | markLive a =>
    by_cases hid : a.id = i
    · simp [signal?, hid]
    · simp [signal?, hid]
  | get now draw => simp [signal?]
  | add a connection => simp [signal?]
  | remove a => simp [signal?]

/-- A quarantine that is left has not been touched. -/
theorem Health.settle_of_deadline {h : Health} {now d : Instant}
    (hd : (h.settle now).deadline = some d) : h.settle now = h := by
  cases hold : h.deadline with
  | none => exact settle_of_none hold now
  | some d' =>
    rw [settle_of_some hold] at hd ⊢
    split at hd
    · cases hd
    · next hle => exact if_neg hle

/-- A health with a deadline has it from a failure that it has heard. -/
theorem Health.exists_fail_of_deadline {b : Backoff} {signals : List Signal} {d : Instant}
    (hd : (signals.foldl (feed b) fresh).deadline = some d) :
    ∃ t h, .failure t ∈ signals ∧ signals.foldl (feed b) fresh = Health.fail h t b := by
  induction signals using List.reverseRecOn with
  | nil => cases hd
  | append_singleton signals signal ih =>
    rw [List.foldl_append, List.foldl_cons, List.foldl_nil] at hd ⊢
    cases signal with
    | failure t => exact ⟨t, _, List.mem_append_right _ List.mem_cons_self, rfl⟩
    | success => cases hd
    | clock now =>
      -- the quarantine is not over at `now`, so the health is as it was
      have hkept : (signals.foldl (feed b) fresh).feed b (.clock now) =
          signals.foldl (feed b) fresh := settle_of_deadline hd
      rw [hkept] at hd ⊢
      obtain ⟨t, h, hmem, hfail⟩ := ih hd
      exact ⟨t, h, List.mem_append_left _ hmem, hfail⟩

namespace Pool

variable {C σ : Type} [Selector σ] {p : Pool C σ} {ops : List (Operation C)} {e : Endpoint}

/-- The failure behind a deadline was reported under the identity during the run. -/
theorem exists_markDead_of_deadline (hp : p.Created) {r : Registration C}
    (hf : (p.after ops).roster.find? e = some r) {d : Instant} (hd : r.health.deadline = some d) :
    ∃ t h a, .markDead a t ∈ ops ∧ a.id = e.id ∧ r.health = Health.fail h t p.backoff := by
  obtain ⟨pre, post, rfl, tenure⟩ := exists_tenure p (hf ▸ Option.some_ne_none r)
  have hhealth := tenure.health hp hf
  rw [hhealth] at hd
  obtain ⟨t, h, hmem, hfail⟩ := Health.exists_fail_of_deadline hd
  -- the signal of the failure is that of an operation of the tenure
  obtain ⟨op, hop, hsignal⟩ := List.mem_filterMap.mp hmem
  obtain ⟨a, rfl, hid⟩ := Operation.signal?_eq_failure_iff.mp hsignal
  exact ⟨t, h, a, List.mem_append_right _ hop, hid, hhealth.trans hfail⟩

/-- The quarantine `q` of `e` after `ops` is that of a failure at `t`, and after a failure at `now`
another is in its place. -/
structure QuarantinedAgain (p : Pool C σ) (ops : List (Operation C)) (e : Endpoint) (now : Instant)
    (q : Quarantine) (h : Health) (t : Instant) : Prop where
  /-- The failure was reported under the identity, not after `now`. -/
  reported : ∃ a, .markDead a t ∈ ops ∧ a.id = e.id
  le : t ≤ now
  failures_eq : (p.after ops).roster.failures e = (h.fail t p.backoff).failures
  deadline_eq : q.deadline = h.nextDeadline t p.backoff
  /-- The new quarantine is the only one of the identity. -/
  replaced : (p.after (ops ++ [.markDead e now])).roster.deadAs e.id =
    [⟨(h.fail t p.backoff).nextDeadline now p.backoff, q.order, e⟩]
  failingAgain : h.FailingAgain p.backoff t now

theorem quarantinedAgain (hp : p.Created) {now : Instant}
    (htime : Operation.InTime (ops ++ [.markDead e now])) {q : Quarantine}
    (hq : q ∈ (p.after ops).roster.dead) (hid : q.endpoint.id = e.id) :
    ∃ h t, p.QuarantinedAgain ops e now q h t := by
  have hsound := (hp.sound.after ops).roster
  obtain ⟨r, hr, hri, hrd, hro, -⟩ := hsound.exists_of_mem_dead hq
  have hf : (p.after ops).roster.find? e = some r := hsound.find?_iff.mpr ⟨hr, hri.trans hid⟩
  obtain ⟨t, h, a, hmark, ha, hhealth⟩ := exists_markDead_of_deadline hp hf hrd
  have hle := htime.le hmark
  refine ⟨h, t, ⟨a, hmark, ha⟩, hle, ?_, ?_, ?_, h.failingAgain p.backoff hle⟩
  · rw [Roster.failures_of_find? hf, hhealth]
  · rw [hhealth] at hrd
    exact (Option.some.inj hrd).symm
  · rw [after_concat, roster_perform_markDead, backoff_after,
      (hsound.entries_markDead p.backoff now e e.id).2.2, if_pos rfl, (hsound.of_find? hf).1,
      List.map_singleton, Roster.quarantineOf, hhealth, hro]

/-- **A failure during a quarantine**: its deadline stands to that of the quarantine as that of any
further failure to the one before. -/
theorem failing_again :
    (∀ (h : Health) (b : Backoff) (t u : Instant), t ≤ u → h.FailingAgain b t u) ∧
    ∀ (C σ : Type) [Selector σ] (p : Pool C σ), p.Created →
      ∀ (ops : List (Operation C)) (e : Endpoint) (now : Instant),
        Operation.InTime (ops ++ [.markDead e now]) →
        ∀ q ∈ (p.after ops).roster.dead, q.endpoint.id = e.id →
          ∃ h t, p.QuarantinedAgain ops e now q h t :=
  ⟨fun h b _ _ htu => h.failingAgain b htu,
    fun _ _ _ _ hp _ _ _ htime _ hq hid => quarantinedAgain hp htime hq hid⟩

/-- A seed fails at noon that has been in quarantine since dawn. -/
theorem failing_again_at_noon :
    dawn ≤ noon ∧ Health.fresh.FailingAgain .standard dawn noon ∧ twoInTurn.Created ∧
      Operation.InTime [.markDead plainSeed dawn, .markDead (C := Nat) plainSeed noon] ∧
      ∃ q ∈ (twoInTurn.after [.markDead plainSeed dawn]).roster.dead,
        q.endpoint.id = plainSeed.id ∧
          ∃ h t, twoInTurn.QuarantinedAgain [.markDead plainSeed dawn] plainSeed noon q h t := by
  have hle : dawn ≤ noon := by decide
  have htime : Operation.InTime [.markDead plainSeed dawn, .markDead (C := Nat) plainSeed noon] :=
    List.pairwise_pair.mpr hle
  refine ⟨hle, failing_again.1 _ _ _ _ hle, created_twoInTurn, htime, ?_⟩
  have hq : ⟨dawn.after (Backoff.standard.delay 1), 0, plainSeed⟩ ∈
      (twoInTurn.after [.markDead plainSeed dawn]).roster.dead := List.mem_cons_self
  exact ⟨_, hq, rfl, failing_again.2 _ _ _ created_twoInTurn _ _ _ htime _ hq rfl⟩

/-- The first delay ends with the clock, and the second one later. -/
def longest : Backoff where
  factor := ⟨Instant.clockEnd - 1, by decide⟩
  limit := ⟨Instant.clockEnd, by decide⟩
  factor_pos := by decide
  factor_le := by decide

/-- The second of two failures at dawn shortens the quarantine: its delay, a nanosecond longer, is
halved. -/
theorem failing_again_at_end :
    Backoff.new longest.factor longest.limit = .ok longest ∧ dawn ≤ dawn ∧
      (Health.fresh.nextDeadline dawn longest).nanos = Instant.clockEnd - 1 ∧
      ((Health.fresh.fail dawn longest).nextDeadline dawn longest).nanos = Instant.clockEnd / 2 ∧
      ¬ Health.fresh.nextDeadline dawn longest ≤
        (Health.fresh.fail dawn longest).nextDeadline dawn longest := by
  decide +kernel

end Pool

end EndpointPool
