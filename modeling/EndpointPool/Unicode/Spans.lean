import EndpointPool.Encoding.Hexadecimal
import EndpointPool.Text

/-!
# Tables of code points

A table gives values to code points. It consists of spans of code points with one value each, in
increasing order and without overlap; a code point in none of them has no value. In the written
form of a table, blanks and line ends separate the spans; a span is the hexadecimal number of its
first code point, for more than one code point a hyphen and the number of the last, and then its
value.

## Main definitions

* `Spans`, `Spans.ofText`: tables and their written form
* `Spans.find?`, `Spans.contains`: the span and the value of a character
-/

namespace EndpointPool.Unicode

/-- Consecutive code points with one value. -/
structure Span (α : Type) where
  first : Nat
  last : Nat
  value : α

/-- A table of code points: spans in increasing order, without overlap. -/
structure Spans (α : Type) where
  spans : Array (Span α)

/-- The span of a written form. -/
def Span.ofText {α : Type} (value : List Char → α) (text : List Char) : Span α :=
  let isDigit (c : Char) := (Hex.value? c).isSome
  let first := Hex.value (text.takeWhile isDigit)
  match text.dropWhile isDigit with
  | '-' :: rest => ⟨first, Hex.value (rest.takeWhile isDigit), value (rest.dropWhile isDigit)⟩
  | rest => ⟨first, first, value rest⟩

namespace Spans

variable {α : Type}

/-- The table of a written form. -/
def ofText (value : List Char → α) (text : String) : Spans α :=
  ⟨((Text.words text.toList).map (Span.ofText value)).toArray⟩

/-- The span with a code point, of those from the place `low` to before the place `high`. -/
def search (t : Spans α) (code low high : Nat) : Option (Span α) :=
  if low < high then
    let middle := (low + high) / 2
    match t.spans[middle]? with
    | none => none
    | some s =>
      if code < s.first then search t code low middle
      else if s.last < code then search t code (middle + 1) high
      else some s
  else none
termination_by high - low

/-- The span of a character. -/
def find? (t : Spans α) (c : Char) : Option (Span α) := t.search c.toNat 0 t.spans.size

/-- The value of a character. -/
def value? (t : Spans α) (c : Char) : Option α := (t.find? c).map Span.value

/-- Whether a character is in the table. -/
def contains (t : Spans α) (c : Char) : Bool := (t.find? c).isSome

theorem search_mem {t : Spans α} {code low high : Nat} {s : Span α}
    (h : t.search code low high = some s) : s ∈ t.spans ∧ s.first ≤ code ∧ code ≤ s.last := by
  fun_induction search t code low high with
  | case1 | case5 => simp at h
  | case2 _ _ _ _ _ _ _ ih | case3 _ _ _ _ _ _ _ _ ih => exact ih h
  | case4 low high _ middle r hr hlow hhigh =>
    simp only [Option.some.injEq] at h
    subst h
    exact ⟨Array.mem_of_getElem? hr, by omega, by omega⟩

/-- What is found for a character is a span of the table with the character in it. -/
theorem find?_mem {t : Spans α} {c : Char} {s : Span α} (h : t.find? c = some s) :
    s ∈ t.spans ∧ s.first ≤ c.toNat ∧ c.toNat ≤ s.last := search_mem h

end Spans

/-- The characters of a table that gives no values. -/
def setOfText (text : String) : Spans Unit := .ofText (fun _ => ()) text

end EndpointPool.Unicode
