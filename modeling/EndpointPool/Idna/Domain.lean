import EndpointPool.Idna.Direction
import EndpointPool.Idna.Label

/-!
# Domain names in ASCII

A domain name may be written in any script; the network knows it in ASCII. The characters of the
name are replaced, the text is composed and cut into labels, every label is checked for what it
stands for, and written in ASCII. Lengths are not limited, and labels may be empty.

## Main definitions

* `Idna.domainToAscii?`: a domain name in ASCII
-/

namespace EndpointPool.Idna

open EndpointPool.Normalization (normalize)

/-- Whether the labels of a domain name, as what they stand for, are well formed one by one and
together. -/
def areLabels (labels : List (List Char)) : Bool :=
  labels.all isLabel && (!labels.any isBidirectional || labels.all hasOneDirection)

/-- A domain name in ASCII, unless it is none. -/
def domainToAscii? (name : List Char) : Option (List Char) :=
  match map? name with
  | none => none
  | some mapped =>
    -- the characters that separate labels in other scripts are points by now
    let labels := Text.pieces '.' (normalize mapped)
    match labels.mapM unicode? with
    | none => none
    | some meanings =>
      if areLabels meanings then (labels.mapM ascii?).map (List.intercalate ['.'])
      else none

end EndpointPool.Idna
