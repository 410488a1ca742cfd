import EndpointPool.Binary64.Shortest
import EndpointPool.Json.Basic

/-!
# Binary64 numbers in JSON

A finite number is written with the digits of its shortest decimal. If its first digit is at most
fifteen places before or five places behind the point, the point is written in its place, with a
zero behind it if nothing else is; otherwise behind the first digit, with an exponent. What is not
finite is written as null.

## Main definitions

* `Binary64.toJson`: what is written for a number
-/

namespace EndpointPool

namespace Binary64

/-- The places of the first digit, counted from the point, between which the point is written where
it is. -/
def positional : Int × Int := (-5, 15)

/-- The numeral of the number at a rank. -/
def numeral (negative : Bool) (rank : Nat) : Numeral :=
  if rank = 0 then ⟨negative, ['0'], ['0'], none⟩
  else
    let (digits, exponent) := shortest rank
    let digits := Decimal.digits digits
    let leading := exponent + (digits.length - 1 : Nat)
    if positional.1 ≤ leading ∧ leading ≤ positional.2 then
      if 0 ≤ exponent then
        ⟨negative, digits ++ List.replicate exponent.toNat '0', ['0'], none⟩
      else if 0 ≤ leading then
        let (integer, fraction) := digits.splitAt (leading + 1).toNat
        ⟨negative, integer, fraction, none⟩
      else ⟨negative, ['0'], List.replicate (-leading - 1).toNat '0' ++ digits, none⟩
    else
      ⟨negative, digits.take 1, digits.drop 1,
        some (decide (leading < 0), Decimal.digits leading.natAbs)⟩

/-- What is written for a number. -/
def toJson : Binary64 → Json
  | finite negative rank _ => .number (numeral negative rank)
  | _ => .null

end Binary64

end EndpointPool
