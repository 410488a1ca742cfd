import EndpointPool.Unicode.CombiningClass
import EndpointPool.Unicode.Composition

/-!
# Composed text

Texts that look the same may differ in how marks are written. The composed form of a text is the
same for all of them: every character is decomposed, marks that do not interact are put in the
order of their classes, and what can be composed is composed again.

## Main definitions

* `Normalization.order`: marks in the order of their classes
* `Normalization.compose`: composites in the place of characters and marks
* `Normalization.normalize`: the composed form of a text
-/

namespace EndpointPool.Normalization

open EndpointPool.Unicode (combiningClass decompose compose?)

/-- A character put in front of ordered text, behind the marks of lower classes if it is a mark. -/
def insert (c : Char) : List Char → List Char
  | [] => [c]
  | d :: rest =>
    if 0 < combiningClass d ∧ combiningClass d < combiningClass c then d :: insert c rest
    else c :: d :: rest

/-- The text with the marks after each character in the order of their classes; marks of one class
stay in their order. -/
def order : List Char → List Char
  | [] => []
  | c :: rest => insert c (order rest)

/-- The rest of an ordered text composed, after a character of class zero and the marks that are
not composed with it. A mark is composed with the character unless a mark of its class comes
between them. -/
def composeFrom (starter : Char) (marks : List Char) : List Char → List Char
  | [] => starter :: marks
  | c :: rest =>
    -- the marks kept so far end with the highest class, so one comparison settles it
    let blocked := match marks.getLast? with
      | some m => decide (combiningClass c ≤ combiningClass m)
      | none => false
    match if blocked then none else compose? starter c with
    | some composite => composeFrom composite marks rest
    | none =>
      if combiningClass c = 0 then starter :: marks ++ composeFrom c [] rest
      else composeFrom starter (marks ++ [c]) rest

/-- An ordered text composed. Marks in front of the first character of class zero stay. -/
def compose : List Char → List Char
  | [] => []
  | c :: rest => if combiningClass c = 0 then composeFrom c [] rest else c :: compose rest

/-- The composed form of a text. A text of characters below the first mark is its own. -/
def normalize (text : List Char) : List Char :=
  if text.all fun c => c.toNat < 0x300 then text else compose (order (text.flatMap decompose))

end EndpointPool.Normalization
