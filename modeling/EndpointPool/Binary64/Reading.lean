import EndpointPool.Binary64.Basic
import EndpointPool.Decimal

/-!
# Binary64 numbers from decimal texts

A decimal text stands for the nearest binary64 number. Besides digits with a point and an exponent
it may be the word for infinity or for no number, in any case, and any of them after a sign.

## Main definitions

* `Binary64.ofDecimal`: the number nearest to digits and an exponent
* `Binary64.parse`: the number of a text
-/

namespace EndpointPool

/-- Why a text is no number. -/
inductive NumberFault
  | empty
  | malformed
  deriving DecidableEq

/-- The wording of such a fault. -/
def NumberFault.message : NumberFault → String
  | empty => "cannot parse float from empty string"
  | malformed => "invalid float literal"

namespace Binary64

/-- The number nearest to `digits * 10 ^ exponent`. Exponents far beyond the range of the format
are decided without writing the power out. -/
def ofDecimal (negative : Bool) (digits : Nat) (exponent : Int) : Binary64 :=
  if digits = 0 then ofRank negative 0
  else if 400 < exponent then .infinite negative
  else if 400 + (digits.log2 : Int) < -exponent then ofRank negative 0
  else ofFraction negative (digits * Nat.pow 10 exponent.toNat) (Nat.pow 10 (-exponent).toNat)

/-- The exponent that an exponent part spells, without its letter. -/
def parseExponent? : List Char → Option Int
  | '-' :: digits => (Decimal.read? digits).map fun n => -(n : Int)
  | '+' :: digits => (Decimal.read? digits).map fun n => (n : Int)
  | digits => (Decimal.read? digits).map fun n => (n : Int)

/-- The number of an unsigned text of digits. -/
def parseDigits? (negative : Bool) (text : List Char) : Option Binary64 :=
  let whole := text.takeWhile Char.isDigit
  let rest := text.dropWhile Char.isDigit
  let (fraction, rest) := match rest with
    | '.' :: r => (r.takeWhile Char.isDigit, r.dropWhile Char.isDigit)
    | r => ([], r)
  let exponent := match rest with
    | [] => some 0
    | c :: r => if c = 'e' ∨ c = 'E' then parseExponent? r else none
  match exponent with
  | some e =>
    if whole.isEmpty && fraction.isEmpty then none
    else some (ofDecimal negative (Decimal.value (whole ++ fraction)) (e - fraction.length))
  | none => none

/-- The number of an unsigned text. -/
def parseUnsigned? (negative : Bool) (text : List Char) : Option Binary64 :=
  let word := String.ofList (text.map Char.toLower)
  if word = "inf" ∨ word = "infinity" then some (.infinite negative)
  else if word = "nan" then some .nan
  else parseDigits? negative text

/-- The number of a text. -/
def parse (text : String) : Except NumberFault Binary64 :=
  let result := match text.toList with
    | '-' :: rest => parseUnsigned? true rest
    | '+' :: rest => parseUnsigned? false rest
    | rest => parseUnsigned? false rest
  if text.isEmpty then .error .empty
  else
    match result with
    | some x => .ok x
    | none => .error .malformed

end Binary64

end EndpointPool
