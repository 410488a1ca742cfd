import EndpointPool.Decimal

/-!
# JSON documents

A JSON document as it is written: numbers with their digits, members in their order, repeated keys
kept. What cannot be read on is marked in its place, so that whoever reads a document from its
beginning meets what is wrong with it in the order of the text.

## Main definitions

* `Numeral`: a number as it is written
* `Key`, `Json`: keys and values
* `Json.isWhole`: whether nothing in a value is broken off
-/

namespace EndpointPool

/-- A number as it is written: the digits before and after the point, and the exponent with its
sign. -/
structure Numeral where
  negative : Bool
  integer : List Char
  fraction : List Char
  exponent : Option (Bool × List Char)
  deriving DecidableEq

namespace Numeral

/-- The numeral of a natural number. -/
def ofNat (n : Nat) : Numeral := ⟨false, Decimal.digits n, [], none⟩

end Numeral

/-- What stands where the key of a member has to stand. -/
inductive Key
  /-- A text. -/
  | text (name : String)
  /-- A quoted text whose escapes leave half of a surrogate pair. -/
  | unpaired
  /-- No quoted text; the value of the member is what stands there instead. -/
  | absent
  deriving DecidableEq

/-- A JSON value. A `string` is `none` if its escapes leave half of a surrogate pair, and `broken`
stands where the text cannot be read on. -/
inductive Json
  | null
  | bool (b : Bool)
  | number (n : Numeral)
  | string (s : Option String)
  | array (items : List Json)
  | object (members : List (Key × Json))
  | broken

namespace Json

/-- The string value of a text. -/
def ofText (s : String) : Json := .string (some s)

/-- The number value of a natural number. -/
def ofNat (n : Nat) : Json := .number (.ofNat n)

/-- The object of the given fields. -/
def ofFields (fields : List (String × Json)) : Json :=
  .object (fields.map fun f => (.text f.1, f.2))

/-- The value, or null. -/
def ofOption {α : Type} (write : α → Json) : Option α → Json
  | some a => write a
  | none => .null

mutual

/-- Whether nothing in a value is broken off and every member has a key. -/
def isWhole : Json → Bool
  | .array items => itemsWhole items
  | .object members => membersWhole members
  | .broken => false
  | _ => true

/-- Whether nothing in the values is broken off. -/
def itemsWhole : List Json → Bool
  | [] => true
  | v :: rest => isWhole v && itemsWhole rest

/-- Whether nothing in the members is broken off. -/
def membersWhole : List (Key × Json) → Bool
  | [] => true
  | (key, v) :: rest => decide (key ≠ .absent) && isWhole v && membersWhole rest

end

end Json

end EndpointPool
