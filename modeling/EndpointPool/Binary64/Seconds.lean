import EndpointPool.Binary64.Basic
import EndpointPool.Time

/-!
# Durations from numbers of seconds

A binary64 number of seconds that is not negative is a duration, rounded to the nearest nanosecond,
a tie to the even one; unless it is too large for a duration, or no number.

## Main definitions

* `SecondsFault`: why a number of seconds is no duration
* `Duration.ofSeconds`: the duration of a number of seconds
-/

namespace EndpointPool

/-- Why a number of seconds is no duration. -/
inductive SecondsFault
  | negative
  | tooLarge
  deriving DecidableEq

/-- The wording of such a fault. -/
def SecondsFault.message : SecondsFault → String
  | negative => "cannot convert float seconds to Duration: value is negative"
  | tooLarge => "cannot convert float seconds to Duration: value is either too big or NaN"

namespace Duration

/-- The nanoseconds nearest to the seconds of the number at a rank. -/
def nanosOfRank (rank : Nat) : Nat :=
  divHalfEven (Binary64.multiple rank * nanosPerSecond) Binary64.leastDivisor

/-- The duration of a number of seconds. Both zeros are no time at all. -/
def ofSeconds : Binary64 → Except SecondsFault Duration
  | .nan => .error .tooLarge
  | .infinite negative => .error (if negative then .negative else .tooLarge)
  | .finite negative rank _ =>
    -- a negative zero has rank zero and is no time at all
    if negative ∧ 0 < rank then .error .negative
    else
      match ofNanos? (nanosOfRank rank) with
      | some d => .ok d
      | none => .error .tooLarge

end Duration

end EndpointPool
