/-!
# Durations and instants

Time as the pool sees it: a duration is a whole number of nanoseconds below `2 ^ 64` seconds, an
instant a whole number of nanoseconds on a clock that ends before `2 ^ 63` seconds. Arithmetic
that leaves its range answers `none`; a delay that does not fit on the clock is halved until it
does, so every delay has a deadline.

## Main definitions

* `Duration`, `Duration.scale?`, `Duration.halve`: spans of time
* `Instant`, `Instant.add?`, `Instant.since`: points of time
* `Instant.after`: the deadline of a delay
-/

namespace EndpointPool

/-- The nanoseconds of a second. -/
def nanosPerSecond : Nat := 1000000000

/-- A span of time in whole nanoseconds, shorter than `2 ^ 64` seconds. -/
structure Duration where
  nanos : Nat
  lt_limit : nanos < UInt64.size * nanosPerSecond
  deriving DecidableEq

namespace Duration

@[ext] theorem ext {d e : Duration} (h : d.nanos = e.nanos) : d = e := by
  cases d; cases e; simp_all

/-- The duration of `n` nanoseconds, if there is one. -/
def ofNanos? (n : Nat) : Option Duration :=
  if h : n < UInt64.size * nanosPerSecond then some ⟨n, h⟩ else none

theorem ofNanos?_eq_some_iff {n : Nat} {d : Duration} : ofNanos? n = some d ↔ d.nanos = n := by
  unfold ofNanos?
  split
  · exact ⟨fun h => Option.some.inj h ▸ rfl, fun h => congrArg some (Duration.ext h.symm)⟩
  · next hn => exact iff_of_false nofun fun h => hn (h ▸ d.lt_limit)

/-- No time at all. -/
def zero : Duration := ⟨0, by decide⟩

instance : LE Duration := ⟨fun d e => d.nanos ≤ e.nanos⟩

instance : LT Duration := ⟨fun d e => d.nanos < e.nanos⟩

instance (d e : Duration) : Decidable (d ≤ e) := inferInstanceAs (Decidable (d.nanos ≤ e.nanos))

instance (d e : Duration) : Decidable (d < e) := inferInstanceAs (Decidable (d.nanos < e.nanos))

theorem le_def {d e : Duration} : d ≤ e ↔ d.nanos ≤ e.nanos := Iff.rfl

theorem lt_def {d e : Duration} : d < e ↔ d.nanos < e.nanos := Iff.rfl

instance : Min Duration := ⟨fun d e => if d ≤ e then d else e⟩

theorem nanos_min (d e : Duration) : (min d e).nanos = min d.nanos e.nanos := by
  show (if d ≤ e then d else e).nanos = _
  split <;> simp_all only [le_def] <;> omega

/-- `k` times the duration, if it is still a duration. -/
def scale? (d : Duration) (k : Nat) : Option Duration := ofNanos? (d.nanos * k)

/-- Half the duration, rounded down to the nanosecond. -/
def halve (d : Duration) : Duration :=
  ⟨d.nanos / 2, Nat.lt_of_le_of_lt (Nat.div_le_self _ _) d.lt_limit⟩

/-- The whole seconds of the duration. -/
def seconds (d : Duration) : Nat := d.nanos / nanosPerSecond

/-- The nanoseconds beyond the whole seconds. -/
def subsecond (d : Duration) : Nat := d.nanos % nanosPerSecond

/-- The whole milliseconds of the duration, as far as a 64-bit word holds them. -/
def milliseconds (d : Duration) : Nat := d.nanos / 1000000 % UInt64.size

end Duration

/-- A point on a clock that ends before `2 ^ 63` seconds, in nanoseconds since its origin. -/
structure Instant where
  nanos : Nat
  lt_limit : nanos < UInt64.size / 2 * nanosPerSecond
  deriving DecidableEq

namespace Instant

@[ext] theorem ext {s t : Instant} (h : s.nanos = t.nanos) : s = t := by
  cases s; cases t; simp_all

/-- The instant `n` nanoseconds after the origin, if the clock reaches it. -/
def ofNanos? (n : Nat) : Option Instant :=
  if h : n < UInt64.size / 2 * nanosPerSecond then some ⟨n, h⟩ else none

instance : LE Instant := ⟨fun s t => s.nanos ≤ t.nanos⟩

instance : LT Instant := ⟨fun s t => s.nanos < t.nanos⟩

instance (s t : Instant) : Decidable (s ≤ t) := inferInstanceAs (Decidable (s.nanos ≤ t.nanos))

instance (s t : Instant) : Decidable (s < t) := inferInstanceAs (Decidable (s.nanos < t.nanos))

theorem le_def {s t : Instant} : s ≤ t ↔ s.nanos ≤ t.nanos := Iff.rfl

theorem lt_def {s t : Instant} : s < t ↔ s.nanos < t.nanos := Iff.rfl

/-- The instant a delay later, if the clock reaches it. -/
def add? (now : Instant) (delay : Duration) : Option Instant := ofNanos? (now.nanos + delay.nanos)

/-- The time from `start` to `t`, none when `t` is earlier. -/
def since (t start : Instant) : Duration :=
  ⟨t.nanos - start.nanos,
    Nat.lt_of_le_of_lt (Nat.sub_le _ _) (Nat.lt_trans t.lt_limit (by decide))⟩

/-- The deadline of a delay: the instant the delay later, the delay being halved as often as the
clock is too short for it. -/
def after (now : Instant) (delay : Duration) : Instant :=
  if h : now.nanos + delay.nanos < UInt64.size / 2 * nanosPerSecond then ⟨now.nanos + delay.nanos, h⟩
  else now.after delay.halve
termination_by delay.nanos
decreasing_by
  have := now.lt_limit
  simp only [Duration.halve]
  omega

end Instant

end EndpointPool
