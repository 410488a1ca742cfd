import EndpointPool.Health
import Mathlib.Algebra.Group.Nat.Defs
import Mathlib.Order.MinMax

/-!
# The delays of a backoff

The delay after failures in a row is the first delay doubled for each further failure, but no more
than thirty-one times, and cut off at the limit. A product that is no duration any more lies above
every limit, so the delays are those of exact arithmetic. They grow with every failure until the
limit is reached or the doublings are used up, whichever comes first: a backoff whose limit is more
than `2 ^ 31` first delays away never comes to it, and stays below.

## Main results

* `Backoff.new_eq_ok_iff`: which durations are those of a backoff
* `Backoff.nanos_delay`: the delays in exact arithmetic
* `Backoff.delay_le_delay_succ`, `Backoff.nanos_delay_succ_le`: a delay against the one before
* `Backoff.delay_law`: where they are those of unlimited doubling, and where they grow
* `Backoff.delay_stalls`: a backoff that stays below its limit
-/

namespace EndpointPool.Backoff

/-- The durations of a backoff are a first delay that is not zero and a limit not below it. -/
theorem new_eq_ok_iff (factor limit : Duration) (b : Backoff) :
    new factor limit = .ok b ↔ b.factor = factor ∧ b.limit = limit := by
  unfold new
  constructor
  · intro h
    split at h
    · cases h
    · split at h
      · cases h
      · cases h
        exact ⟨rfl, rfl⟩
  · rintro ⟨rfl, rfl⟩
    have hlimit : ¬ b.limit < b.factor := Nat.not_lt.mpr b.factor_le
    rw [dif_neg (Nat.pos_iff_ne_zero.mp b.factor_pos), dif_neg hlimit]

variable (b : Backoff)

/-- **The delays in exact arithmetic.** -/
theorem nanos_delay (n : Nat) :
    (b.delay (n + 1)).nanos = min (b.factor.nanos * 2 ^ min n maxDoublings) b.limit.nanos := by
  rw [delay, if_neg (Nat.succ_ne_zero n), Nat.add_sub_cancel, Duration.scale?, Duration.ofNanos?]
  split
  · next d hd =>
    split at hd
    · cases hd
      exact Duration.nanos_min _ _
    · cases hd
  · next hnone =>
    split at hnone
    · cases hnone
    · next hle =>
      -- what is no duration lies above the limit, which is one
      exact (Nat.min_eq_right (Nat.le_trans (Nat.le_of_lt b.limit.lt_limit)
        (Nat.le_of_not_lt hle))).symm

theorem delay_eq_limit_iff (n : Nat) :
    b.delay (n + 1) = b.limit ↔ b.limit.nanos ≤ b.factor.nanos * 2 ^ min n maxDoublings := by
  rw [Duration.ext_iff, nanos_delay, min_eq_right_iff]

theorem delay_lt_limit_iff (n : Nat) :
    b.delay (n + 1) < b.limit ↔ b.factor.nanos * 2 ^ min n maxDoublings < b.limit.nanos := by
  rw [Duration.lt_def, nanos_delay, min_lt_iff, or_iff_left (Nat.lt_irrefl _)]

/-- A product of the first delay, which is not zero, grows with every doubling. -/
theorem factor_mul_lt {m n : Nat} (h : m < n) :
    b.factor.nanos * 2 ^ m < b.factor.nanos * 2 ^ n :=
  Nat.mul_lt_mul_of_pos_left (Nat.pow_lt_pow_right Nat.one_lt_two h) b.factor_pos

theorem factor_mul_le {m n : Nat} (h : m ≤ n) :
    b.factor.nanos * 2 ^ m ≤ b.factor.nanos * 2 ^ n :=
  Nat.mul_le_mul_left _ (Nat.pow_le_pow_right Nat.two_pos h)

/-- The delays are those of unlimited doubling as long as the doublings are not used up, and for
ever if the limit is reached by then. -/
theorem nanos_delay_eq_iff (n : Nat) :
    (b.delay (n + 1)).nanos = min (b.factor.nanos * 2 ^ n) b.limit.nanos ↔
      n ≤ maxDoublings ∨ b.limit.nanos ≤ b.factor.nanos * 2 ^ maxDoublings := by
  rw [nanos_delay]
  by_cases hn : n ≤ maxDoublings
  · rw [Nat.min_eq_left hn]
    exact iff_of_true rfl (.inl hn)
  · -- one more doubling than are made exceeds the product
    have hlt := b.factor_mul_lt (Nat.lt_of_not_le hn)
    rw [Nat.min_eq_right (Nat.le_of_not_le hn)]
    omega

/-- A further failure makes the delay longer until the limit is reached or the doublings are used
up. -/
theorem delay_lt_succ_iff (n : Nat) :
    b.delay (n + 1) < b.delay (n + 2) ↔ n < maxDoublings ∧ b.delay (n + 1) < b.limit := by
  rw [delay_lt_limit_iff, Duration.lt_def, nanos_delay, nanos_delay]
  by_cases hn : n < maxDoublings
  · have hlt := b.factor_mul_lt (Nat.lt_add_one n)
    rw [Nat.min_eq_left (Nat.le_of_lt hn), Nat.min_eq_left (Nat.add_one_le_iff.mpr hn)]
    omega
  · -- both are the last product
    have hle := Nat.le_of_not_lt hn
    rw [Nat.min_eq_right hle, Nat.min_eq_right (Nat.le_succ_of_le hle)]
    omega

/-- A further failure never makes the delay shorter. -/
theorem delay_le_delay_succ (n : Nat) : b.delay (n + 1) ≤ b.delay (n + 2) := by
  have hle := b.factor_mul_le (show min n maxDoublings ≤ min (n + 1) maxDoublings by omega)
  rw [Duration.le_def, nanos_delay, nanos_delay]
  omega

/-- It makes the delay twice as long at most. -/
theorem nanos_delay_succ_le (n : Nat) : (b.delay (n + 2)).nanos ≤ 2 * (b.delay (n + 1)).nanos := by
  have hle := b.factor_mul_le (show min (n + 1) maxDoublings ≤ min n maxDoublings + 1 by omega)
  rw [Nat.pow_succ, ← Nat.mul_assoc] at hle
  rw [nanos_delay, nanos_delay]
  omega

/-- A limit that is reached is kept. -/
theorem delay_eq_limit_of_le {m n : Nat} (hmn : m ≤ n) (h : b.delay (m + 1) = b.limit) :
    b.delay (n + 1) = b.limit := by
  rw [delay_eq_limit_iff] at h ⊢
  exact Nat.le_trans h (b.factor_mul_le (by omega))

/-- **The delays double until the limit is reached or the doublings are used up**: so far they are
those of unlimited doubling, and each is longer than the one before. -/
theorem delay_law (n : Nat) :
    ((b.delay (n + 1)).nanos = min (b.factor.nanos * 2 ^ n) b.limit.nanos ↔
      n ≤ maxDoublings ∨ b.limit.nanos ≤ b.factor.nanos * 2 ^ maxDoublings) ∧
    (b.delay (n + 1) < b.delay (n + 2) ↔ n < maxDoublings ∧ b.delay (n + 1) < b.limit) ∧
    ∀ m, n ≤ m → b.delay (n + 1) = b.limit → b.delay (m + 1) = b.limit :=
  ⟨b.nanos_delay_eq_iff n, b.delay_lt_succ_iff n, fun _ hm h => b.delay_eq_limit_of_le hm h⟩

/-- A nanosecond at first, half a minute at most. -/
def slow : Backoff where
  factor := ⟨1, by decide⟩
  limit := standard.limit
  factor_pos := by decide
  factor_le := by decide

/-- From the thirty-second failure on, its delays stay below its limit for ever. -/
theorem delay_stalls :
    new ⟨1, by decide⟩ standard.limit = .ok slow ∧ 33 ≤ Health.maxFailures ∧
      (slow.delay 33).nanos = 2147483648 ∧
      min (slow.factor.nanos * 2 ^ (33 - 1)) slow.limit.nanos = 4294967296 ∧
      ¬ slow.delay 32 < slow.delay 33 ∧ slow.delay 33 < slow.limit := by
  decide +kernel

end EndpointPool.Backoff
