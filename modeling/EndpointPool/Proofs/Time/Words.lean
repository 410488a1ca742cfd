import EndpointPool.Time

/-!
# Durations in two words

A duration is kept as whole seconds, which fill a word of 64 bits, and as the nanoseconds beyond
them, which make no second. Multiplying carries from the nanoseconds into the seconds, halving
passes an odd second down to the nanoseconds, and a duration is left only when the seconds leave
their word. That is the arithmetic of the nanoseconds altogether.

## Main results

* `Duration.scale?_eq_some_iff`, `Duration.scale?_eq_none_iff`: multiples, word by word
* `Duration.words_halve`: halves, word by word
* `Instant.add?_eq_none_iff`: a delay that the clock is too short for, word by word
-/

namespace EndpointPool

theorem nanosPerSecond_pos : 0 < nanosPerSecond := by decide

namespace Duration

variable {d e : Duration} {k : Nat}

theorem seconds_mul_add_subsecond (d : Duration) :
    d.seconds * nanosPerSecond + d.subsecond = d.nanos :=
  Nat.div_add_mod' d.nanos nanosPerSecond

theorem ofNanos?_eq_none_iff {n : Nat} : ofNanos? n = none ↔ UInt64.size ≤ n / nanosPerSecond := by
  rw [Nat.le_div_iff_mul_le nanosPerSecond_pos]
  simp [ofNanos?]

/-! ### Multiples -/

theorem nanos_mul (d : Duration) (k : Nat) :
    d.nanos * k = d.subsecond * k + d.seconds * k * nanosPerSecond := by
  rw [← d.seconds_mul_add_subsecond, Nat.add_mul, Nat.add_comm, Nat.mul_right_comm]

theorem nanos_mul_div (d : Duration) (k : Nat) :
    d.nanos * k / nanosPerSecond = d.seconds * k + d.subsecond * k / nanosPerSecond := by
  rw [nanos_mul, Nat.add_mul_div_right _ _ nanosPerSecond_pos, Nat.add_comm]

theorem nanos_mul_mod (d : Duration) (k : Nat) :
    d.nanos * k % nanosPerSecond = d.subsecond * k % nanosPerSecond := by
  rw [nanos_mul, Nat.add_mul_mod_self_right]

/-- A multiple has what the nanoseconds carry added to its seconds. -/
theorem scale?_eq_some_iff :
    d.scale? k = some e ↔
      e.seconds = d.seconds * k + d.subsecond * k / nanosPerSecond ∧
        e.subsecond = d.subsecond * k % nanosPerSecond := by
  rw [scale?, ofNanos?_eq_some_iff, ← nanos_mul_div, ← nanos_mul_mod]
  constructor
  · intro h
    exact ⟨congrArg (· / nanosPerSecond) h, congrArg (· % nanosPerSecond) h⟩
  · rintro ⟨hseconds, hsubsecond⟩
    rw [← e.seconds_mul_add_subsecond, hseconds, hsubsecond, Nat.div_add_mod']

/-- There is no multiple just if its seconds, with what is carried, leave their word. -/
theorem scale?_eq_none_iff :
    d.scale? k = none ↔ UInt64.size ≤ d.seconds * k + d.subsecond * k / nanosPerSecond := by
  rw [scale?, ofNanos?_eq_none_iff, nanos_mul_div]

/-! ### Halves -/

/-- Half of a duration has half of its seconds; an odd second goes to the nanoseconds. -/
theorem words_halve (d : Duration) :
    d.halve.seconds = d.seconds / 2 ∧
      d.halve.subsecond =
        d.subsecond / 2 + (d.seconds % 2 * nanosPerSecond + d.subsecond % 2) / 2 := by
  simp only [seconds, subsecond, halve, nanosPerSecond]
  omega

end Duration

/-! ### Delays on the clock -/

namespace Instant

/-- A delay does not fit on the clock just if the seconds, with the one that the nanoseconds may
make, leave their half of a word. -/
theorem add?_eq_none_iff {t : Instant} {d : Duration} :
    t.add? d = none ↔
      UInt64.size / 2 ≤ t.nanos / nanosPerSecond + d.seconds +
        (t.nanos % nanosPerSecond + d.subsecond) / nanosPerSecond := by
  have hsum : t.nanos + d.nanos =
      t.nanos % nanosPerSecond + d.subsecond +
        (t.nanos / nanosPerSecond + d.seconds) * nanosPerSecond := by
    have ht := Nat.div_add_mod' t.nanos nanosPerSecond
    have hd := d.seconds_mul_add_subsecond
    rw [Nat.add_mul]
    omega
  rw [add?, Nat.add_comm (_ + _) (_ / _),
    ← Nat.add_mul_div_right _ _ nanosPerSecond_pos, ← hsum,
    Nat.le_div_iff_mul_le nanosPerSecond_pos]
  simp [ofNanos?]

end Instant

end EndpointPool
