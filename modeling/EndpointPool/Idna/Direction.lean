import EndpointPool.Unicode.BidiClass

/-!
# Labels in both directions

A domain name with a label that is written from right to left is readable only if no label mixes
directions: then each label has to be of one direction from its first character to its last.

## Main definitions

* `Idna.isBidirectional`: whether a label has characters written from right to left
* `Idna.hasOneDirection`: whether a label is of one direction
-/

namespace EndpointPool.Idna

open EndpointPool.Unicode (BidiClass bidiClass)

/-- Whether a label has characters that are written from right to left. -/
def isBidirectional (label : List Char) : Bool :=
  label.any fun c =>
    [BidiClass.rightToLeft, .arabicLetter, .arabicNumber].contains (bidiClass c)

/-- The class of the last character that is not a mark. -/
def lastClass? (classes : List BidiClass) : Option BidiClass :=
  classes.reverse.find? (· ≠ .nonspacingMark)

/-- Whether the classes are those of a label written from right to left. -/
def runsLeft (classes : List BidiClass) : Bool :=
  classes.all [BidiClass.rightToLeft, .arabicLetter, .arabicNumber, .europeanNumber,
    .europeanSeparator, .commonSeparator, .europeanTerminator, .otherNeutral, .boundaryNeutral,
    .nonspacingMark].contains
  && (lastClass? classes).any
    [BidiClass.rightToLeft, .arabicLetter, .europeanNumber, .arabicNumber].contains
  && !(classes.contains .europeanNumber && classes.contains .arabicNumber)

/-- Whether the classes are those of a label written from left to right. -/
def runsRight (classes : List BidiClass) : Bool :=
  classes.all [BidiClass.leftToRight, .europeanNumber, .europeanSeparator, .commonSeparator,
    .europeanTerminator, .otherNeutral, .boundaryNeutral, .nonspacingMark].contains
  && (lastClass? classes).any [BidiClass.leftToRight, .europeanNumber].contains

/-- Whether a label is of one direction, that of its first character. -/
def hasOneDirection (label : List Char) : Bool :=
  match label.map bidiClass with
  | [] => true
  | .leftToRight :: rest => runsRight (.leftToRight :: rest)
  | .rightToLeft :: rest => runsLeft (.rightToLeft :: rest)
  | .arabicLetter :: rest => runsLeft (.arabicLetter :: rest)
  | _ => false

end EndpointPool.Idna
