import EndpointPool.Encoding.Hexadecimal
import EndpointPool.Encoding.Utf8

/-!
# Percent-encoding

A byte may be written as a percent sign and its two hexadecimal digits. Reading turns every such
triple into its byte and any other character into its UTF-8 bytes; writing leaves the characters
of a safe set as they are.

## Main definitions

* `Percent.encode`, `Percent.decode`: writing and reading
-/

namespace EndpointPool.Percent

/-- A byte as a triple. -/
def triple (b : UInt8) : List Char := ['%', Hex.upper (b.toNat / 16), Hex.upper b.toNat]

/-- A text with every byte written as a triple that does not belong to a safe character. -/
def encode (safe : Char → Bool) (text : List Char) : List Char :=
  text.flatMap fun c => if safe c then [c] else (String.utf8EncodeChar c).flatMap triple

/-- The bytes of a text in which triples stand for bytes. -/
def decode : List Char → List UInt8
  | [] => []
  | '%' :: h :: l :: rest =>
    match Hex.value? h, Hex.value? l with
    | some x, some y => UInt8.ofNat (16 * x + y) :: decode rest
    | _, _ => 37 :: decode (h :: l :: rest)
  | c :: rest => String.utf8EncodeChar c ++ decode rest

end EndpointPool.Percent
