import EndpointPool.Proofs.Health.Deadline
import EndpointPool.Proofs.Health.Overflow
import Mathlib.Logic.Function.Iterate

/-!
# Halving until a delay fits

The search for a deadline halves the delay, in seconds and nanoseconds, for as long as the clock is
too short for it. It stops, since the longest duration is used up after ninety-four halvings. A
delay that fits is not touched. Of a delay that does not, at least half of the clock that remains is
kept, and never more than all of it; so there is a deadline for every delay, and it lies behind
the present unless the delay is zero or the clock is at its end. The delays of failures are never
zero.

## Main definitions

* `Instant.last`, `Instant.remaining now`: the last instant, and how far away it is
* `Instant.Fitted now delay`: how the deadline of a delay is found, and where it lies

## Main results

* `Instant.fitted`: every delay has its deadline
* `Instant.lt_after_iff`: the deadline lies behind the present
* `Health.lt_nextDeadline_iff`: a failure quarantines
-/

namespace EndpointPool

namespace Instant

variable {t : Instant} {d : Duration} {k : Nat}

/-- The last instant of the clock. -/
def last : Instant := ⟨clockEnd - 1, by decide⟩

/-- The nanoseconds from `now` to the last instant. -/
def remaining (now : Instant) : Nat := clockEnd - 1 - now.nanos

theorem nanos_add_remaining (t : Instant) : t.nanos + t.remaining + 1 = clockEnd := by
  have := t.nanos_lt_clockEnd
  unfold remaining
  omega

theorem remaining_eq_zero_iff : t.remaining = 0 ↔ t = last := by
  have hsum := t.nanos_add_remaining
  have hlast : last.nanos + 1 = clockEnd := rfl
  rw [Instant.ext_iff]
  omega

/-! ### The search -/

theorem nanos_iterate_halve (d : Duration) (k : Nat) :
    (Duration.halve^[k] d).nanos = d.nanos / 2 ^ k := by
  induction k generalizing d with
  | zero => rw [Function.iterate_zero_apply, Nat.pow_zero, Nat.div_one]
  | succ k ih => rw [Function.iterate_succ_apply, ih, nanos_halve_div]

/-- Fewer halvings than it takes leave a delay that does not fit. -/
theorem add?_of_lt_halvings (hk : k < t.halvings d) : t.add? (Duration.halve^[k] d) = none := by
  have hlong : ¬ t.nanos + d.nanos / 2 ^ k < clockEnd := by
    rw [← halvings_le_iff]
    exact Nat.not_le_of_lt hk
  rw [add?, nanos_iterate_halve]
  exact dif_neg hlong

/-- As many as it takes leave the deadline. -/
theorem add?_halvings (t : Instant) (d : Duration) :
    t.add? (Duration.halve^[t.halvings d] d) = some (t.after d) := by
  have hfits := halvings_le_iff.mp (Nat.le_refl (t.halvings d))
  rw [add?, nanos_iterate_halve, ofNanos?]
  exact (dif_pos hfits).trans (congrArg some (ext (t.nanos_after d).symm))

/-- Ninety-four halvings leave nothing of any duration. -/
theorem halvings_le (t : Instant) (d : Duration) : t.halvings d ≤ 94 := by
  have hlimit : UInt64.size * nanosPerSecond < 2 ^ 94 := by decide
  have hzero : d.nanos / 2 ^ 94 = 0 := Nat.div_eq_of_lt (Nat.lt_trans d.lt_limit hlimit)
  rw [halvings_le_iff, hzero]
  exact t.nanos_lt_clockEnd

/-! ### Where the deadline lies -/

/-- A deadline is not before the present. -/
theorem le_after (now : Instant) (delay : Duration) : now ≤ now.after delay := by
  rw [le_def, nanos_after]
  exact Nat.le_add_right _ _

/-- How the deadline of a delay is found, and where it lies. -/
structure Fitted (now : Instant) (delay : Duration) : Prop where
  /-- The delay is halved until it fits on the clock, which happens. -/
  found : ∃ k ≤ 94, (∀ j < k, now.add? (Duration.halve^[j] delay) = none) ∧
    now.add? (Duration.halve^[k] delay) = some (now.after delay)
  /-- Each halving divides the seconds, and the nanoseconds with the second that may be left. -/
  words_halve : ∀ k, (Duration.halve^[k + 1] delay).seconds =
      (Duration.halve^[k] delay).seconds / 2 ∧
    (Duration.halve^[k + 1] delay).subsecond = (Duration.halve^[k] delay).subsecond / 2 +
      ((Duration.halve^[k] delay).seconds % 2 * nanosPerSecond +
        (Duration.halve^[k] delay).subsecond % 2) / 2
  /-- It does not fit just if the seconds, with the one that the nanoseconds may make, leave their
  half of a word. -/
  add?_eq_none_iff : ∀ k, now.add? (Duration.halve^[k] delay) = none ↔
    UInt64.size / 2 ≤ now.nanos / nanosPerSecond + (Duration.halve^[k] delay).seconds +
      (now.nanos % nanosPerSecond + (Duration.halve^[k] delay).subsecond) / nanosPerSecond
  le : now ≤ now.after delay
  /-- A delay that fits is kept. -/
  of_fits : delay.nanos ≤ now.remaining → (now.after delay).nanos - now.nanos = delay.nanos
  /-- Of a longer one, half of the clock that remains is kept, rounded up, and no more than all of
  it. -/
  of_long : now.remaining < delay.nanos →
    (now.remaining + 1) / 2 ≤ (now.after delay).nanos - now.nanos ∧
      (now.after delay).nanos - now.nanos ≤ now.remaining

/-- **Every delay has its deadline.** -/
theorem fitted (now : Instant) (delay : Duration) : Fitted now delay where
  found := ⟨now.halvings delay, now.halvings_le delay, fun _ => add?_of_lt_halvings,
    now.add?_halvings delay⟩
  words_halve := by
    intro k
    rw [Function.iterate_succ_apply']
    exact Duration.words_halve _
  add?_eq_none_iff _ := Instant.add?_eq_none_iff
  le := now.le_after delay
  of_fits := by
    intro hfits
    have hsum := now.nanos_add_remaining
    rw [after_of_fits (by omega)]
    exact Nat.add_sub_cancel_left _ _
  of_long := by
    intro hlong
    have hsum := now.nanos_add_remaining
    have hhalved : 0 < now.halvings delay := by
      apply Nat.pos_of_ne_zero
      intro hzero
      have hfits := halvings_le_iff.mp (Nat.le_of_eq hzero)
      rw [Nat.pow_zero, Nat.div_one] at hfits
      omega
    have hhalf := half_le_after hhalved
    have hend := (now.after delay).nanos_lt_clockEnd
    omega

/-- It lies behind the present, unless the delay is zero or the clock is at its end. -/
theorem lt_after_iff (hd : 0 < d.nanos) : t < t.after d ↔ t ≠ last := by
  have hfitted := t.fitted d
  have hle := hfitted.le
  rw [le_def] at hle
  rw [lt_def, Ne, ← remaining_eq_zero_iff]
  by_cases hfits : d.nanos ≤ t.remaining
  · have := hfitted.of_fits hfits
    omega
  · have := hfitted.of_long (Nat.lt_of_not_le hfits)
    omega

end Instant

/-- **A failure quarantines** until after the present, unless the clock is at its end. -/
theorem Health.lt_nextDeadline_iff (h : Health) (b : Backoff) (now : Instant) :
    now < h.nextDeadline now b ↔ now ≠ .last := by
  obtain ⟨n, hn⟩ := h.exists_count_eq
  have hfactor := b.factor_le_delay n
  rw [Duration.le_def] at hfactor
  rw [nextDeadline_eq, nextDelay, hn]
  exact Instant.lt_after_iff (Nat.lt_of_lt_of_le b.factor_pos hfactor)

end EndpointPool
