import EndpointPool.Proofs.Health.Delay

/-!
# The deadlines of failures

A delay that does not fit on the clock is halved until it does, so near the end of the clock a
deadline does not follow the delay: a delay that is a little longer may have to be halved once more,
and then little more than half of the shorter one is left. A further failure has a delay at least as
long as the one before, and at most twice as long. Its deadline is earlier than the one before it
just if its delay is halved more often, and the time since the failure before does not make up for
that. What is left of a halved delay still covers half of the clock that remains.

## Main definitions

* `Instant.halvings now delay`: how often a delay is halved to fit on the clock
* `Health.FailingAgain h t u b`: what a failure at `u` does to the quarantine since one at `t`

## Main results

* `Instant.nanos_after`, `Instant.halvings_le_iff`: a deadline is that of the delay halved as seldom
  as possible
* `Instant.half_le_after`: a delay that is halved covers half of the clock that remains
* `Health.failingAgain`: the deadline of a further failure against the one before
-/

namespace EndpointPool

/-! ### Halvings -/

namespace Instant

/-- The nanoseconds at which the clock has ended. -/
def clockEnd : Nat := UInt64.size / 2 * nanosPerSecond

theorem nanos_lt_clockEnd (t : Instant) : t.nanos < clockEnd := t.lt_limit

/-- How often a delay from `now` on is halved to fit on the clock. -/
def halvings (now : Instant) (delay : Duration) : Nat :=
  if now.nanos + delay.nanos < clockEnd then 0 else now.halvings delay.halve + 1
termination_by delay.nanos
decreasing_by
  have := now.nanos_lt_clockEnd
  simp only [Duration.halve]
  omega

variable {t u : Instant} {d e : Duration} {k : Nat}

theorem nanos_halve_div (d : Duration) (k : Nat) :
    d.halve.nanos / 2 ^ k = d.nanos / 2 ^ (k + 1) := by
  rw [Duration.halve, Nat.div_div_eq_div_mul, Nat.pow_succ']

theorem after_of_fits (hfits : t.nanos + d.nanos < clockEnd) :
    t.after d = ⟨t.nanos + d.nanos, hfits⟩ := by
  rw [after]
  exact dif_pos hfits

theorem after_of_long (hlong : ¬ t.nanos + d.nanos < clockEnd) : t.after d = t.after d.halve := by
  rw [after]
  exact dif_neg hlong

/-- A deadline is that of the delay with its halvings. -/
theorem nanos_after (t : Instant) (d : Duration) :
    (t.after d).nanos = t.nanos + d.nanos / 2 ^ t.halvings d := by
  fun_induction halvings t d with
  | case1 d hfits =>
    rw [after_of_fits hfits, Nat.pow_zero, Nat.div_one]
  | case2 d hlong ih =>
    rw [after_of_long hlong, ih, nanos_halve_div]

/-- A delay is not halved more often than it takes to fit. -/
theorem halvings_le_iff : t.halvings d ≤ k ↔ t.nanos + d.nanos / 2 ^ k < clockEnd := by
  fun_induction halvings t d generalizing k with
  | case1 d hfits =>
    have hle : d.nanos / 2 ^ k ≤ d.nanos := Nat.div_le_self _ _
    exact iff_of_true (Nat.zero_le k) (by omega)
  | case2 d hlong ih =>
    cases k with
    | zero =>
      rw [Nat.pow_zero, Nat.div_one]
      exact iff_of_false (Nat.not_succ_le_zero _) hlong
    | succ k => rw [Nat.succ_le_succ_iff, ih, nanos_halve_div]

/-- Later, and for a longer delay, more halvings are needed. -/
theorem halvings_mono (htu : t ≤ u) (hde : d ≤ e) : t.halvings d ≤ u.halvings e := by
  have hfits := halvings_le_iff.mp (Nat.le_refl (u.halvings e))
  have hdiv : d.nanos / 2 ^ u.halvings e ≤ e.nanos / 2 ^ u.halvings e := Nat.div_le_div_right hde
  rw [le_def] at htu
  apply halvings_le_iff.mpr
  omega

/-- A delay that is halved covers half of the clock that remains. -/
theorem half_le_after (hhalved : 0 < t.halvings d) :
    t.nanos + (clockEnd - t.nanos) / 2 ≤ (t.after d).nanos := by
  obtain ⟨k, hk⟩ := Nat.exists_eq_succ_of_ne_zero (Nat.ne_of_gt hhalved)
  -- halved once less, the delay is too long
  have hlong : ¬ t.nanos + d.nanos / 2 ^ k < clockEnd := by
    rw [← halvings_le_iff]
    omega
  rw [nanos_after, hk, Nat.succ_eq_add_one, Nat.pow_succ, ← Nat.div_div_eq_div_mul]
  generalize d.nanos / 2 ^ k = left at hlong ⊢
  omega

/-- Of a delay at most twice as long that is halved more often, no more is left. -/
theorem div_halvings_le (hde : e.nanos ≤ 2 * d.nanos) (hmore : t.halvings d < u.halvings e) :
    e.nanos / 2 ^ u.halvings e ≤ d.nanos / 2 ^ t.halvings d := by
  have hpow : 2 ^ (t.halvings d + 1) ≤ 2 ^ u.halvings e := Nat.pow_le_pow_right Nat.two_pos hmore
  calc e.nanos / 2 ^ u.halvings e
      ≤ e.nanos / 2 ^ (t.halvings d + 1) := Nat.div_le_div_left hpow (Nat.two_pow_pos _)
    _ = e.nanos / 2 / 2 ^ t.halvings d := by rw [Nat.pow_succ', Nat.div_div_eq_div_mul]
    _ ≤ d.nanos / 2 ^ t.halvings d := Nat.div_le_div_right (by omega)

end Instant

/-! ### A further failure -/

namespace Health

variable (h : Health) (b : Backoff)

/-- The delay that a further failure earns. -/
def nextDelay : Duration := b.delay (min (h.failures + 1) maxFailures)

theorem nextDeadline_eq (now : Instant) : h.nextDeadline now b = now.after (h.nextDelay b) := rfl

/-- A failure is counted, also when no more of them are. -/
theorem exists_count_eq : ∃ n, min (h.failures + 1) maxFailures = n + 1 :=
  ⟨min h.failures (maxFailures - 1), by unfold maxFailures UInt32.size; omega⟩

/-- The delay of a further failure is at least as long as the one before, and at most twice as
long. -/
theorem nextDelay_fail (t : Instant) :
    h.nextDelay b ≤ (h.fail t b).nextDelay b ∧
      ((h.fail t b).nextDelay b).nanos ≤ 2 * (h.nextDelay b).nanos := by
  obtain ⟨n, hn⟩ := h.exists_count_eq
  simp only [nextDelay, fail, hn]
  by_cases hmax : n + 2 ≤ maxFailures
  · rw [Nat.min_eq_left hmax]
    exact ⟨b.delay_le_delay_succ n, b.nanos_delay_succ_le n⟩
  · -- no more failures are counted, and the delay stays
    have hsame : min (n + 1 + 1) maxFailures = n + 1 := by omega
    rw [hsame, Duration.le_def]
    omega

/-- What a failure at `u` does to the quarantine since a failure at `t`. -/
structure FailingAgain (t u : Instant) : Prop where
  /-- The new deadline is not before the old one, or not in the nearer half of the clock that
  remains. -/
  least : min (h.nextDeadline t b).nanos (u.nanos + (Instant.clockEnd - u.nanos) / 2) ≤
    ((h.fail t b).nextDeadline u b).nanos
  /-- It is before the old one just if more halvings cost more time than has passed. -/
  lt_iff : (h.fail t b).nextDeadline u b < h.nextDeadline t b ↔
    t.halvings (h.nextDelay b) < u.halvings ((h.fail t b).nextDelay b) ∧
      u.nanos - t.nanos <
        (h.nextDelay b).nanos / 2 ^ t.halvings (h.nextDelay b) -
          ((h.fail t b).nextDelay b).nanos / 2 ^ u.halvings ((h.fail t b).nextDelay b)
  /-- A delay that fits on the clock does not end before the old deadline. -/
  le_of_fits : u.nanos + ((h.fail t b).nextDelay b).nanos < Instant.clockEnd →
    h.nextDeadline t b ≤ (h.fail t b).nextDeadline u b

variable {t u : Instant}

/-- As many halvings of a longer delay leave more. -/
theorem nextDeadline_le_of_halvings (htu : t ≤ u)
    (hsame : u.halvings ((h.fail t b).nextDelay b) ≤ t.halvings (h.nextDelay b)) :
    h.nextDeadline t b ≤ (h.fail t b).nextDeadline u b := by
  have hdelay := (h.nextDelay_fail b t).1
  have heq := Nat.le_antisymm hsame (Instant.halvings_mono htu hdelay)
  have hdiv := Nat.div_le_div_right (c := 2 ^ t.halvings (h.nextDelay b)) hdelay
  rw [Instant.le_def] at htu ⊢
  rw [nextDeadline_eq, nextDeadline_eq, Instant.nanos_after, Instant.nanos_after, heq]
  omega

/-- **The deadline of a further failure** against the one before. -/
theorem failingAgain (htu : t ≤ u) : h.FailingAgain b t u where
  least := by
    by_cases hhalved : 0 < u.halvings ((h.fail t b).nextDelay b)
    · exact Nat.le_trans (Nat.min_le_right _ _) (Instant.half_le_after hhalved)
    · exact Nat.le_trans (Nat.min_le_left _ _) (h.nextDeadline_le_of_halvings b htu (by omega))
  lt_iff := by
    by_cases hmore : t.halvings (h.nextDelay b) < u.halvings ((h.fail t b).nextDelay b)
    · have hleft := Instant.div_halvings_le (h.nextDelay_fail b t).2 hmore
      rw [Instant.le_def] at htu
      rw [Instant.lt_def, nextDeadline_eq, nextDeadline_eq, Instant.nanos_after,
        Instant.nanos_after]
      omega
    · have hle := h.nextDeadline_le_of_halvings b htu (Nat.le_of_not_lt hmore)
      exact iff_of_false (Nat.not_lt.mpr hle) fun hlt => hmore hlt.1
  le_of_fits := by
    intro hfits
    have hzero : u.halvings ((h.fail t b).nextDelay b) ≤ 0 :=
      Instant.halvings_le_iff.mpr (by rwa [Nat.pow_zero, Nat.div_one])
    exact h.nextDeadline_le_of_halvings b htu (Nat.le_trans hzero (Nat.zero_le _))

end Health

end EndpointPool
