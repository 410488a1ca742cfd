import EndpointPool.Proofs.Health.Delay
import EndpointPool.Proofs.Time.Words

/-!
# Delays whose product overflows

The first delay is multiplied in two words, and the product overflows only when its seconds leave
their word. The limit is then the delay, which is right since a product that is no duration lies
above every duration. So the delays of a backoff are exact whatever its durations are: they lie
between the first delay and the limit, none is shorter than the one before, and none is more than
twice as long.

## Main definitions

* `Backoff.Exact b n`: the delay after `n + 1` failures is exact, and bounded

## Main results

* `Backoff.limit_lt_of_overflow`: a product that overflows lies above the limit
* `Backoff.exact_of_new`: the delays of the durations that are accepted
-/

namespace EndpointPool.Backoff

/-- The delay after `n + 1` failures in a row, in exact arithmetic, and against the delay after one
failure more. -/
structure Exact (b : Backoff) (n : Nat) : Prop where
  factor_le : b.factor ≤ b.delay (n + 1)
  le_limit : b.delay (n + 1) ≤ b.limit
  le_next : b.delay (n + 1) ≤ b.delay (n + 2)
  next_le : (b.delay (n + 2)).nanos ≤ 2 * (b.delay (n + 1)).nanos
  nanos_eq : (b.delay (n + 1)).nanos = min (b.factor.nanos * 2 ^ min n 31) b.limit.nanos
  /-- The product overflows just if the seconds do, with what the nanoseconds carry. -/
  overflow_iff : b.factor.scale? (2 ^ min n 31) = none ↔
    UInt64.size ≤ b.factor.seconds * 2 ^ min n 31 +
      b.factor.subsecond * 2 ^ min n 31 / nanosPerSecond
  /-- A product that overflows lies above the limit, which is then the delay. -/
  of_overflow : b.factor.scale? (2 ^ min n 31) = none →
    b.limit.nanos < b.factor.nanos * 2 ^ min n 31 ∧ b.delay (n + 1) = b.limit
  /-- Any other product is exact in both words, and the delay is the shorter of it and the
  limit. -/
  of_product : ∀ d, b.factor.scale? (2 ^ min n 31) = some d →
    d.seconds = b.factor.seconds * 2 ^ min n 31 +
        b.factor.subsecond * 2 ^ min n 31 / nanosPerSecond ∧
      d.subsecond = b.factor.subsecond * 2 ^ min n 31 % nanosPerSecond ∧
      b.delay (n + 1) = min d b.limit

variable (b : Backoff)

theorem factor_le_delay (n : Nat) : b.factor ≤ b.delay (n + 1) := by
  have hdoubled := b.factor_mul_le (Nat.zero_le (min n maxDoublings))
  have hlimit : b.factor.nanos ≤ b.limit.nanos := b.factor_le
  rw [Nat.pow_zero, Nat.mul_one] at hdoubled
  rw [Duration.le_def, nanos_delay]
  exact Nat.le_min.mpr ⟨hdoubled, hlimit⟩

theorem delay_le_limit (n : Nat) : b.delay (n + 1) ≤ b.limit := by
  rw [Duration.le_def, nanos_delay]
  exact Nat.min_le_right _ _

/-- A product that overflows lies above the limit, which is a duration. -/
theorem limit_lt_of_overflow {k : Nat} (h : b.factor.scale? k = none) :
    b.limit.nanos < b.factor.nanos * k := by
  rw [Duration.scale?_eq_none_iff, ← Duration.nanos_mul_div,
    Nat.le_div_iff_mul_le nanosPerSecond_pos] at h
  exact Nat.lt_of_lt_of_le b.limit.lt_limit h

theorem exact (n : Nat) : b.Exact n where
  factor_le := b.factor_le_delay n
  le_limit := b.delay_le_limit n
  le_next := b.delay_le_delay_succ n
  next_le := b.nanos_delay_succ_le n
  nanos_eq := b.nanos_delay n
  overflow_iff := Duration.scale?_eq_none_iff
  of_overflow := by
    intro h
    have hlt := b.limit_lt_of_overflow h
    exact ⟨hlt, (b.delay_eq_limit_iff n).mpr (Nat.le_of_lt hlt)⟩
  of_product := by
    intro d hd
    obtain ⟨hseconds, hsubsecond⟩ := Duration.scale?_eq_some_iff.mp hd
    refine ⟨hseconds, hsubsecond, Duration.ext ?_⟩
    rw [nanos_delay, Duration.nanos_min, Duration.ofNanos?_eq_some_iff.mp hd]
    rfl

/-- **The delays of durations that are accepted are exact and bounded.** -/
theorem exact_of_new {factor limit : Duration} {b : Backoff} (h : new factor limit = .ok b) :
    b.factor = factor ∧ b.limit = limit ∧ b.delay 0 = .zero ∧ ∀ n, b.Exact n := by
  obtain ⟨hfactor, hlimit⟩ := (new_eq_ok_iff factor limit b).mp h
  exact ⟨hfactor, hlimit, rfl, b.exact⟩

/-- A first delay of more than half of the longest duration, which is the limit. -/
def vast : Backoff where
  factor := ⟨UInt64.size / 2 * nanosPerSecond + 999999999, by decide⟩
  limit := ⟨UInt64.size * nanosPerSecond - 1, by decide⟩
  factor_pos := by decide
  factor_le := by decide

/-- Its first doubling overflows. -/
theorem exact_of_new_vast :
    new vast.factor vast.limit = .ok vast ∧ vast.factor.scale? (2 ^ min 1 31) = none ∧
      vast.delay 2 = vast.limit ∧ ∀ n, vast.Exact n := by
  have hnew : new vast.factor vast.limit = .ok vast := rfl
  have hexact := (exact_of_new hnew).2.2.2
  have hover : vast.factor.scale? (2 ^ min 1 31) = none := by decide +kernel
  exact ⟨hnew, hover, ((hexact 1).of_overflow hover).2, hexact⟩

end EndpointPool.Backoff
