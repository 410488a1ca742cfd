/-!
# Binary64 numbers

The numbers of the 64-bit binary format, in exact arithmetic. The finite numbers of one sign are
counted upwards from zero: the rank of a number is its place in that count, which is also what its
bits below the sign spell. Numbers compare as their signed ranks do, and rounding finds the rank
nearest to a fraction.

## Main definitions

* `Binary64`, `Binary64.bits`: the numbers and their bit patterns
* `Binary64.significand`, `Binary64.scale`: the value at a rank, in units of the least one
* `Binary64.roundRank`, `Binary64.ofFraction`: the number nearest to a fraction
* `Binary64.lt`, `Binary64.isFinite`: comparison
-/

namespace EndpointPool

/-- The quotient rounded to the nearest integer, a tie to the even one. -/
def divHalfEven (a b : Nat) : Nat :=
  let q := a / b
  let r := a % b
  if b < 2 * r ∨ b = 2 * r ∧ q % 2 = 1 then q + 1 else q

/-- The count of finite binary64 numbers of one sign. -/
def Binary64.ranks : Nat := 2047 * Nat.pow 2 52

/-- A number of the 64-bit binary format. The patterns that are no number are one. -/
inductive Binary64
  | nan
  | infinite (negative : Bool)
  | finite (negative : Bool) (rank : Nat) (lt : rank < Binary64.ranks)
  deriving DecidableEq

namespace Binary64

/-- The power of two of which every finite value is a multiple, as a divisor. -/
def leastDivisor : Nat := Nat.pow 2 1074

/-- The integer by which a rank's power of two is multiplied. -/
def significand (rank : Nat) : Nat :=
  if rank < Nat.pow 2 52 then rank else rank % Nat.pow 2 52 + Nat.pow 2 52

/-- The exponent of a rank's power of two, above the least one. -/
def scale (rank : Nat) : Nat := rank / Nat.pow 2 52 - 1

/-- The value at a rank, as a multiple of the least positive one. -/
def multiple (rank : Nat) : Nat := significand rank * Nat.pow 2 (scale rank)

/-- The rank nearest to a fraction, a tie to the even one. It may lie beyond the finite ranks. -/
def roundRank (num den : Nat) : Nat :=
  let x := num * leastDivisor
  let e := (x / den).log2 - 52
  e * Nat.pow 2 52 + divHalfEven x (den * Nat.pow 2 e)

/-- The number of a rank, infinity beyond the finite ones. -/
def ofRank (negative : Bool) (rank : Nat) : Binary64 :=
  if h : rank < ranks then .finite negative rank h else .infinite negative

/-- The number nearest to a fraction. -/
def ofFraction (negative : Bool) (num den : Nat) : Binary64 := ofRank negative (roundRank num den)

/-- The number nearest to a natural number. -/
def ofNat (n : Nat) : Binary64 := ofFraction false n 1

/-- The number of the other sign. -/
def negate : Binary64 → Binary64
  | nan => nan
  | infinite s => infinite !s
  | finite s r h => finite (!s) r h

/-- The place of a number among all that compare; both zeros have the same. -/
def place? : Binary64 → Option Int
  | nan => none
  | infinite s => some (if s then -ranks else ranks)
  | finite s r _ => some (if s then -r else r)

/-- Whether one number is below another. Nothing is below or above what is no number. -/
def lt (a b : Binary64) : Bool :=
  match a.place?, b.place? with
  | some x, some y => x < y
  | _, _ => false

/-- Whether a number is finite. -/
def isFinite : Binary64 → Bool
  | finite .. => true
  | _ => false

/-- The bit pattern of a number. -/
def bits : Binary64 → UInt64
  | nan => 0x7ff8000000000000
  | infinite s => (if s then 0x8000000000000000 else 0) + UInt64.ofNat ranks
  | finite s r _ => (if s then 0x8000000000000000 else 0) + UInt64.ofNat r

end Binary64

end EndpointPool
