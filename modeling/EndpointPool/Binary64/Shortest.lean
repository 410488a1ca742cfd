import EndpointPool.Binary64.Basic
import EndpointPool.Decimal

/-!
# The shortest decimal of a binary64 number

Of the decimals that round to a finite positive number, those with the fewest digits, and of these
the nearest, or the even one if two are. For each count of digits the decimals of that count on
either side of the number are the candidates; the first count with a candidate that rounds to the
number wins.

## Main definitions

* `Binary64.shortest`: the digits and the exponent of the shortest decimal
-/

namespace EndpointPool.Binary64

/-- Four times the distance from a rank's number to the points halfway to its neighbours, in units
of its power of two: below and above. The gap below a power of two is half the gap above it. -/
def halfGaps (rank : Nat) : Nat × Nat :=
  if significand rank = Nat.pow 2 52 ∧ 0 < scale rank then (1, 2) else (2, 2)

/-- Whether `digits * 10 ^ exponent` rounds to the number at a rank: whether it lies between the
halfway points, which belong to even ranks. -/
def covers (rank : Nat) (digits : Nat) (exponent : Int) : Bool :=
  let (below, above) := halfGaps rank
  let x := digits * Nat.pow 10 exponent.toNat * (4 * leastDivisor)
  let unit := Nat.pow 2 (scale rank) * Nat.pow 10 (-exponent).toNat
  let low := (4 * significand rank - below) * unit
  let high := (4 * significand rank + above) * unit
  decide (low < x) && decide (x < high)
    || decide (rank % 2 = 0) && (decide (x = low) || decide (x = high))

/-- The exponent of the first digit of the number at a positive rank. All numbers of the format
have their first digit within four hundred places of the point. -/
def leadingExponent (rank : Nat) : Int :=
  (Decimal.digits (multiple rank * Nat.pow 10 400 / leastDivisor)).length - 401

/-- Twice the distance between `digits * 10 ^ exponent` and the number at a rank, over a common
divisor. -/
def distance (rank digits : Nat) (exponent : Int) : Nat :=
  let x := digits * Nat.pow 10 exponent.toNat * leastDivisor
  let y := multiple rank * Nat.pow 10 (-exponent).toNat
  (x - y) + (y - x)

/-- The candidate with `count` digits, if one rounds to the number at the rank. -/
def candidate? (rank count : Nat) : Option (Nat × Int) :=
  let exponent := leadingExponent rank - (count - 1 : Nat)
  let low := multiple rank * Nat.pow 10 (-exponent).toNat / (leastDivisor * Nat.pow 10 exponent.toNat)
  let below := distance rank low exponent
  let above := distance rank (low + 1) exponent
  let isLow := decide (below < above) || decide (below = above) && decide (low % 2 = 0)
  if covers rank low exponent && (isLow || !covers rank (low + 1) exponent) then
    some (low, exponent)
  else if covers rank (low + 1) exponent then some (low + 1, exponent)
  else none

/-- A decimal without the zeros at the end of its digits. -/
def stripZeros (digits : Nat) (exponent : Int) : Nat × Int :=
  if 0 < digits ∧ digits % 10 = 0 then stripZeros (digits / 10) (exponent + 1)
  else (digits, exponent)
termination_by digits
decreasing_by omega

/-- The digits and the exponent of the shortest decimal of the number at a positive rank. Seventeen
digits are always enough. -/
def shortest (rank : Nat) : Nat × Int :=
  match (List.range 17).findSome? fun n => candidate? rank (n + 1) with
  | some (digits, exponent) => stripZeros digits exponent
  | none => (0, 0)

end EndpointPool.Binary64
