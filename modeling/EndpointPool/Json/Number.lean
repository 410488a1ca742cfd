import EndpointPool.Binary64.Basic
import EndpointPool.Json.Basic

/-!
# The values of numerals

A numeral without fraction and exponent is an integer if a 64-bit word holds it. Any other numeral
is a binary64 number, found quickly rather than exactly: its leading digits, as many as a 64-bit
word holds, are rounded, and the result is multiplied or divided by a rounded power of ten, in
steps of `10 ^ 308` if one is not enough. So the last bit may differ from the nearest number's.

## Main definitions

* `NumberValue`, `Numeral.value`: what a numeral stands for
* `Binary64.ofDigits?`: digits scaled by a power of ten
* `Numeral.ofBinary64?`: the numeral of a number
-/

namespace EndpointPool

namespace Binary64

/-- The rank of the product of two numbers. -/
def mulRank (a b : Nat) : Nat := roundRank (multiple a * multiple b) (leastDivisor * leastDivisor)

/-- The rank of the quotient of two numbers, the second not zero. -/
def divRank (a b : Nat) : Nat := roundRank (multiple a) (multiple b)

/-- The rank of a power of ten. -/
def powerOfTen (n : Nat) : Nat := roundRank (Nat.pow 10 n) 1

/-- A number divided by `10 ^ n`, in steps of `10 ^ 308`. -/
def descale (rank n : Nat) : Nat :=
  if n ≤ 308 then divRank rank (powerOfTen n)
  else if rank = 0 then 0
  else descale (divRank rank (powerOfTen 308)) (n - 308)
termination_by n

/-- A word scaled by a power of ten, unless the result is beyond the finite numbers. -/
def ofDigits? (negative : Bool) (word : Nat) (exponent : Int) : Option Binary64 :=
  let rank := roundRank word 1
  if exponent < 0 then some (ofRank negative (descale rank (-exponent).toNat))
  else if 308 < exponent then if rank = 0 then some (ofRank negative 0) else none
  else
    let product := mulRank rank (powerOfTen exponent.toNat)
    if product < ranks then some (ofRank negative product) else none

end Binary64

/-- What a numeral stands for. -/
inductive NumberValue
  /-- A natural number below `2 ^ 64`. -/
  | natural (n : Nat)
  /-- The negative of a positive number up to `2 ^ 63`. -/
  | negative (n : Nat)
  /-- A binary64 number. -/
  | real (x : Binary64)
  /-- A number beyond all finite ones. -/
  | tooLarge

namespace Numeral

/-- The word in front of digits: `word` followed by as many of the digits as a 64-bit word holds,
and the digits left over. -/
def absorb (word : Nat) : List Char → Nat × List Char
  | [] => (word, [])
  | c :: rest =>
    let next := 10 * word + Decimal.digitValue c
    if next < UInt64.size then absorb next rest else (word, c :: rest)

/-- The greatest exponent that is told from greater ones. -/
def maxExponent : Nat := Nat.pow 2 31 - 1

/-- The value of a numeral that is no integer. -/
def realValue (n : Numeral) : NumberValue :=
  let (word, rest) := absorb 0 n.integer
  let (word, restFraction) := absorb word n.fraction
  let places : Int := rest.length - (n.fraction.length - restFraction.length : Nat)
  let scaled (exponent : Int) :=
    match Binary64.ofDigits? n.negative word exponent with
    | some x => .real x
    | none => .tooLarge
  match n.exponent with
  | none => scaled places
  | some (negative, digits) =>
    let e := Decimal.value digits
    if maxExponent < e then
      if word ≠ 0 ∧ ¬ negative then .tooLarge else .real (Binary64.ofRank n.negative 0)
    else scaled (if negative then places - e else places + e)

/-- What a numeral stands for. A negative zero is no integer. -/
def value (n : Numeral) : NumberValue :=
  if n.fraction.isEmpty && n.exponent.isNone then
    let k := Decimal.value n.integer
    if ¬ n.negative ∧ k < UInt64.size then .natural k
    else if n.negative ∧ 0 < k ∧ k ≤ Nat.pow 2 63 then .negative k
    else realValue n
  else realValue n

end Numeral

end EndpointPool
