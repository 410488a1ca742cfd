import EndpointPool.Decimal
import EndpointPool.Encoding.Hexadecimal
import EndpointPool.Text

/-!
# Addresses of version 4

An address of four bytes may be written with one to four numbers between points, of which the last
stands for all the bytes that are left; a point may follow it. A number is hexadecimal after `0x`,
octal after a zero, and decimal otherwise. A host whose last part is a number is meant as an
address, and nothing else.

## Main definitions

* `Ipv4`, `Ipv4.text`: addresses and their text
* `Ipv4.parse?`: the address that a host is written as
* `Ipv4.endsInNumber`: whether a host is meant as an address
-/

namespace EndpointPool

/-- An address of four bytes. -/
structure Ipv4 where
  value : UInt32
  deriving DecidableEq

namespace Ipv4

/-- The bytes of an address, the most significant first. -/
def bytes (a : Ipv4) : List Nat := [24, 16, 8, 0].map fun k => a.value.toNat / Nat.pow 2 k % 256

/-- The text of an address: its bytes in decimal digits, between points. -/
def text (a : Ipv4) : List Char := List.intercalate ['.'] (a.bytes.map Decimal.digits)

/-- The number that octal digits spell. -/
def octal (digits : List Char) : Nat := digits.foldl (fun n c => 8 * n + Decimal.digitValue c) 0

/-- The number that a part of a host is written as. There may be no digits after `0x`. -/
def number? : List Char → Option Nat
  | '0' :: 'x' :: digits | '0' :: 'X' :: digits =>
    if digits.all fun c => (Hex.value? c).isSome then some (Hex.value digits) else none
  | '0' :: c :: digits =>
    if (c :: digits).all fun d => d.isDigit && d < '8' then some (octal (c :: digits)) else none
  | text => Decimal.read? text

/-- The parts of a host, without the empty one behind a point at its end. -/
def parts (host : List Char) : List (List Char) :=
  let parts := Text.pieces '.' host
  if parts.getLast? = some [] then parts.dropLast else parts

/-- Whether the last part of a host is a number, or is written in decimal digits alone. -/
def endsInNumber (host : List Char) : Bool :=
  match (parts host).getLast? with
  | some last => !last.isEmpty && last.all Char.isDigit || (number? last).isSome
  | none => false

/-- The value of an address of numbers: one byte each, the last of them for all the bytes left. -/
def combine? : Nat → List Nat → Option Nat
  | _, [] => none
  | width, [n] => if n < Nat.pow 256 width then some n else none
  | 0, _ :: _ => none
  | width + 1, n :: rest =>
    if n < 256 then (combine? width rest).map (n * Nat.pow 256 width + ·) else none

/-- The address that a host is written as. -/
def parse? (host : List Char) : Option Ipv4 :=
  match (parts host).mapM number? with
  | some numbers =>
    if numbers.length ≤ 4 then (combine? 4 numbers).map fun n => ⟨UInt32.ofNat n⟩ else none
  | none => none

end Ipv4

end EndpointPool
