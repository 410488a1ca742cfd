import EndpointPool.Encoding.Hexadecimal
import EndpointPool.Json.Basic

/-!
# Writing JSON

The shortest layout of a value: no blanks, members in their order, and in a string only those
characters escaped that must be. What is broken off writes nothing.

## Main definitions

* `Json.escape`, `Json.quote`: strings
* `Numeral.render`: numbers
* `Json.render`: values
-/

namespace EndpointPool

namespace Numeral

/-- A number as it is written; an exponent always has its sign. -/
def render (n : Numeral) : List Char :=
  (if n.negative then ['-'] else []) ++ n.integer
    ++ (if n.fraction.isEmpty then [] else '.' :: n.fraction)
    ++ match n.exponent with
      | none => []
      | some (negative, digits) => 'e' :: (if negative then '-' else '+') :: digits

end Numeral

namespace Json

/-- A character inside a string: quotes, backslashes and the control characters below the blank
are escaped, all else stands for itself. -/
def escape (c : Char) : List Char :=
  if c = '"' then ['\\', '"']
  else if c = '\\' then ['\\', '\\']
  else if c = '\x08' then ['\\', 'b']
  else if c = '\t' then ['\\', 't']
  else if c = '\n' then ['\\', 'n']
  else if c = '\x0c' then ['\\', 'f']
  else if c = '\r' then ['\\', 'r']
  else if c < ' ' then ['\\', 'u', '0', '0', Hex.lower (c.toNat / 16), Hex.lower c.toNat]
  else [c]

/-- A string in its quotes. -/
def quote (s : String) : List Char := '"' :: s.toList.flatMap escape ++ ['"']

/-- The key of a member. -/
def renderKey : Key → List Char
  | .text name => quote name
  | _ => []

mutual

/-- A value written out. -/
def renderChars : Json → List Char
  | .null => "null".toList
  | .bool true => "true".toList
  | .bool false => "false".toList
  | .number n => n.render
  | .string s => quote (s.getD "")
  | .array items => '[' :: renderItems items ++ [']']
  | .object members => '{' :: renderMembers members ++ ['}']
  | .broken => []

/-- The values of an array, with commas between them. -/
def renderItems : List Json → List Char
  | [] => []
  | [v] => renderChars v
  | v :: w :: rest => renderChars v ++ ',' :: renderItems (w :: rest)

/-- The members of an object, with commas between them. -/
def renderMembers : List (Key × Json) → List Char
  | [] => []
  | [(key, v)] => renderKey key ++ ':' :: renderChars v
  | (key, v) :: w :: rest =>
    renderKey key ++ ':' :: renderChars v ++ ',' :: renderMembers (w :: rest)

end

/-- A value written out. -/
def render (v : Json) : String := String.ofList (renderChars v)

end Json

end EndpointPool
