import EndpointPool.Url.Ipv4

/-!
# Addresses of version 6

An address of eight pieces is written as hexadecimal numbers between colons. Two colons together
stand for as many zeros as are missing, at least one; the last two pieces may be written as an
address of version 4.

## Main definitions

* `Ipv6`, `Ipv6.text`: addresses and their text
* `Ipv6.parse?`: the address of a text
-/

namespace EndpointPool

/-- An address of eight pieces. -/
structure Ipv6 where
  pieces : List UInt16
  eight : pieces.length = 8
  deriving DecidableEq

namespace Ipv6

/-- The address of pieces, if there are eight of them. -/
def ofPieces? (pieces : List UInt16) : Option Ipv6 :=
  if h : pieces.length = 8 then some ⟨pieces, h⟩ else none

/-! ### Reading -/

/-- The piece that one to four hexadecimal digits spell. -/
def piece? (digits : List Char) : Option UInt16 :=
  if 0 < digits.length ∧ digits.length ≤ 4 ∧ digits.all fun c => (Hex.value? c).isSome then
    some (UInt16.ofNat (Hex.value digits))
  else none

/-- The byte that decimal digits spell, without leading zeros. -/
def byte? (digits : List Char) : Option Nat :=
  match Decimal.read? digits with
  | some n => if n < 256 ∧ (digits.head? = some '0' → digits = ['0']) then some n else none
  | none => none

/-- The two pieces that four bytes between points spell. -/
def embedded? (text : List Char) : Option (List UInt16) :=
  match (Text.pieces '.' text).mapM byte? with
  | some [a, b, c, d] => some [UInt16.ofNat (256 * a + b), UInt16.ofNat (256 * c + d)]
  | _ => none

/-- The pieces that the parts between colons spell, of which the last may have two. -/
def readParts? : List (List Char) → Option (List UInt16)
  | [] => some []
  | [last] => if last.contains '.' then embedded? last else (piece? last).map ([·])
  | part :: rest =>
    match piece? part, readParts? rest with
    | some p, some ps => some (p :: ps)
    | _, _ => none

/-- The pieces of a text. An empty one has none. -/
def readPieces? (text : List Char) : Option (List UInt16) :=
  if text.isEmpty then some [] else readParts? (Text.pieces ':' text)

/-- The address of a text. -/
def parse? (text : List Char) : Option Ipv6 :=
  match Text.cutAt? [':', ':'] text with
  | none => (readPieces? text).bind ofPieces?
  | some (left, right) =>
    match if left.contains '.' then none else readPieces? left, readPieces? right with
    | some l, some r =>
      if l.length + r.length < 8 then
        ofPieces? (l ++ List.replicate (8 - l.length - r.length) 0 ++ r)
      else none
    | _, _ => none

/-! ### Writing -/

/-- The place and the length of the first of the longest runs of zeros. -/
def longestZeros (pieces : List UInt16) : Nat × Nat :=
  (List.range pieces.length).foldl (fun best i =>
    let run := ((pieces.drop i).takeWhile (· = 0)).length
    if best.2 < run then (i, run) else best) (0, 0)

/-- Pieces between colons. -/
def writePieces (pieces : List UInt16) : List Char :=
  List.intercalate [':'] (pieces.map fun p => Hex.digits p.toNat)

/-- The text of an address. An address of version 4 mapped into this version is written as one;
otherwise the first of the longest runs of more than one zero is left out. -/
def text (a : Ipv6) : List Char :=
  match a.pieces with
  | [0, 0, 0, 0, 0, 0xffff, high, low] =>
    "::ffff:".toList ++ (Ipv4.mk (UInt32.ofNat (high.toNat * 65536 + low.toNat))).text
  | pieces =>
    let (start, run) := longestZeros pieces
    if 1 < run then
      writePieces (pieces.take start) ++ [':', ':'] ++ writePieces (pieces.drop (start + run))
    else writePieces pieces

end Ipv6

end EndpointPool
