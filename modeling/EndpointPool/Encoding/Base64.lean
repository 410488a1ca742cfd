/-!
# Base64

Bytes written in the standard alphabet, three bytes in four symbols. Writing pads the last four
symbols; reading takes them with all their padding, some of it or none. Reading refuses a last
symbol with bits that belong to no byte, so bytes have one written form up to padding.

## Main definitions

* `Base64.symbol`, `Base64.value?`: the alphabet
* `Base64.encode`, `Base64.decode?`: writing and reading
-/

namespace EndpointPool.Base64

/-- The symbol of a number below sixty-four. -/
def symbol (n : Nat) : Char :=
  let n := n % 64
  if n < 26 then Char.ofNat (65 + n)
  else if n < 52 then Char.ofNat (71 + n)
  else if n < 62 then Char.ofNat (n - 4)
  else if n = 62 then '+'
  else '/'

/-- The number a symbol stands for. -/
def value? (c : Char) : Option Nat :=
  if 'A' ≤ c ∧ c ≤ 'Z' then some (c.toNat - 65)
  else if 'a' ≤ c ∧ c ≤ 'z' then some (c.toNat - 71)
  else if '0' ≤ c ∧ c ≤ '9' then some (c.toNat + 4)
  else if c = '+' then some 62
  else if c = '/' then some 63
  else none

theorem value?_symbol (n : Nat) : value? (symbol n) = some (n % 64) := by
  have h : ∀ k : Fin 64, value? (symbol k.val) = some k.val := by decide
  have := h ⟨n % 64, Nat.mod_lt _ (by decide)⟩
  simpa [symbol] using this

/-- Bytes written out, with padding. -/
def encode : List UInt8 → List Char
  | [] => []
  | [a] => [symbol (a.toNat / 4), symbol (a.toNat % 4 * 16), '=', '=']
  | [a, b] =>
    [symbol (a.toNat / 4), symbol (a.toNat % 4 * 16 + b.toNat / 16), symbol (b.toNat % 16 * 4), '=']
  | a :: b :: c :: rest =>
    symbol (a.toNat / 4) :: symbol (a.toNat % 4 * 16 + b.toNat / 16)
      :: symbol (b.toNat % 16 * 4 + c.toNat / 64) :: symbol (c.toNat % 64) :: encode rest

/-- The byte of two last symbols. -/
def lastByte? (a b : Char) : Option (List UInt8) :=
  match value? a, value? b with
  | some x, some y => if y % 16 = 0 then some [UInt8.ofNat (x * 4 + y / 16)] else none
  | _, _ => none

/-- The bytes of three last symbols. -/
def lastBytes? (a b c : Char) : Option (List UInt8) :=
  match value? a, value? b, value? c with
  | some x, some y, some z =>
    if z % 4 = 0 then
      some [UInt8.ofNat (x * 4 + y / 16), UInt8.ofNat (y % 16 * 16 + z / 4)]
    else none
  | _, _, _ => none

/-- The bytes of a text in the alphabet, whose last symbols may be padded. -/
def decode? : List Char → Option (List UInt8)
  | [] => some []
  | [_] => none
  | [a, b] => lastByte? a b
  | [a, b, c] => if c = '=' then lastByte? a b else lastBytes? a b c
  | a :: b :: c :: d :: rest =>
    if d = '=' ∧ rest = [] then
      if c = '=' then lastByte? a b else lastBytes? a b c
    else
      match value? a, value? b, value? c, value? d, decode? rest with
      | some x, some y, some z, some w, some bytes =>
        some (UInt8.ofNat (x * 4 + y / 16) :: UInt8.ofNat (y % 16 * 16 + z / 4)
          :: UInt8.ofNat (z % 4 * 64 + w) :: bytes)
      | _, _, _, _, _ => none

end EndpointPool.Base64
