import EndpointPool.Fault
import EndpointPool.Time

/-!
# Backoff and health

A failure quarantines an endpoint for a delay that doubles with every further failure, up to a
limit. Health is what is known of one endpoint: its failures in a row and, while it is in
quarantine, the instant at which that ends. Only a success forgets the failures.

## Main definitions

* `Backoff`, `Backoff.new`, `Backoff.delay`: the delays of a pool
* `Health`, `Health.fail`, `Health.succeed`, `Health.resurrect`: one endpoint's health
-/

namespace EndpointPool

/-- The delays after failures: the first one, and the longest one. -/
structure Backoff where
  factor : Duration
  limit : Duration
  factor_pos : 0 < factor.nanos
  factor_le : factor ≤ limit
  deriving DecidableEq

namespace Backoff

/-- A second at first, half a minute at most. -/
def standard : Backoff where
  factor := ⟨nanosPerSecond, by decide⟩
  limit := ⟨30 * nanosPerSecond, by decide⟩
  factor_pos := by decide
  factor_le := by decide

/-- The delays between two durations: the first must not be zero, nor above the second. -/
def new (factor limit : Duration) : Except Fault Backoff :=
  if hz : factor.nanos = 0 then .error (.configuration .zeroBackoffFactor)
  else if hl : limit < factor then .error (.configuration .backoffLimitBelowFactor)
  else .ok ⟨factor, limit, Nat.pos_of_ne_zero hz, Nat.le_of_not_lt hl⟩

/-- The highest power of two by which the first delay is multiplied. -/
def maxDoublings : Nat := 31

/-- The delay after `failures` failures in a row: none after none, else the first delay doubled
for each further failure, at most `maxDoublings` times, and at most the limit. -/
def delay (b : Backoff) (failures : Nat) : Duration :=
  if failures = 0 then .zero
  else
    match b.factor.scale? (Nat.pow 2 (min (failures - 1) maxDoublings)) with
    | some d => min d b.limit
    | none => b.limit

end Backoff

/-- What is known of one endpoint: its failures in a row, and the end of its quarantine while it
is in one. -/
structure Health where
  failures : Nat
  deadline : Option Instant
  deriving DecidableEq

namespace Health

/-- The highest count of failures kept. -/
def maxFailures : Nat := UInt32.size - 1

/-- No failure known. -/
def fresh : Health := ⟨0, none⟩

/-- The deadline that a further failure at `now` earns. -/
def nextDeadline (h : Health) (now : Instant) (b : Backoff) : Instant :=
  now.after (b.delay (min (h.failures + 1) maxFailures))

/-- After a failure at `now`: one failure more, and a quarantine from now on. -/
def fail (h : Health) (now : Instant) (b : Backoff) : Health :=
  ⟨min (h.failures + 1) maxFailures, some (h.nextDeadline now b)⟩

/-- After a success: no failures, no quarantine. -/
def succeed (_ : Health) : Health := fresh

/-- After the end of a quarantine: the failures stay known. -/
def resurrect (h : Health) : Health := { h with deadline := none }

end Health

end EndpointPool
