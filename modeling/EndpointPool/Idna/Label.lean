import EndpointPool.Idna.Mapping
import EndpointPool.Idna.Punycode
import EndpointPool.Unicode.CombiningClass
import EndpointPool.Unicode.JoiningType
import EndpointPool.Unicode.Mark
import EndpointPool.Unicode.Normalization

/-!
# Labels of domain names

A domain name consists of labels. A label beyond ASCII is written in ASCII as a mark and its
Punycode; a label with that mark stands for what its Punycode spells, and only if that is a label
that cannot be written otherwise.

## Main definitions

* `Idna.unicode?`, `Idna.ascii?`: what a label stands for, and how it is written in ASCII
* `Idna.isLabel`: whether a label has only characters that may stand where they do
-/

namespace EndpointPool.Idna

open EndpointPool.Unicode (combiningClass viramaClass joiningType? JoiningType isMark)
open EndpointPool.Normalization (normalize)

/-- Whether a character is ASCII. -/
def isAscii (c : Char) : Bool := c.toNat < 128

/-- The mark in front of Punycode. -/
def codeMark : List Char := ['x', 'n', '-', '-']

/-- The number of characters of Punycode that are read at most. -/
def maxCoded : Nat := 2000

/-- The number of characters of a label beyond ASCII that are written at most. -/
def maxUncoded : Nat := 1000

/-- What Punycode in a label stands for. It has to be beyond ASCII and its own replacement. -/
def decode? (code : List Char) : Option (List Char) :=
  if code.all isAscii ∧ code.getLast? ≠ some '-' ∧ code.length ≤ maxCoded then
    match Punycode.decode? code with
    | some text =>
      if !text.all isAscii && text.all isValid && normalize text = text then some text else none
    | none => none
  else none

/-- What a label stands for. -/
def unicode? (label : List Char) : Option (List Char) :=
  if codeMark.isPrefixOf label then decode? (label.drop codeMark.length) else some label

/-- A label in ASCII. -/
def ascii? (label : List Char) : Option (List Char) :=
  if label.all isAscii then some label
  else if label.length ≤ maxUncoded then some (codeMark ++ Punycode.encode label)
  else none

/-- The ASCII characters that no host of a URL contains: the controls, the space and the
delimiters of URLs. -/
def isForbidden (c : Char) : Bool :=
  c ≤ ' ' || c = '\x7f' || "#%/:<>?@[\\]^|".toList.contains c

/-- The joiners, without width: one that joins its neighbours and one that keeps them apart. -/
def joiner : Char := '\u200d'

@[inherit_doc joiner]
def nonJoiner : Char := '\u200c'

/-- Whether the first character that is not transparent has one of the joining types. -/
def joins (types : List JoiningType) : List Char → Bool
  | [] => false
  | c :: rest =>
    match joiningType? c with
    | some .transparent => joins types rest
    | some t => types.contains t
    | none => false

/-- Whether a joiner may stand between two parts of a label, the first in reverse: behind a
virama, or if it keeps letters apart that would join otherwise. -/
def allowsJoiner (c : Char) (before after : List Char) : Bool :=
  (match before with
    | d :: _ => combiningClass d = viramaClass
    | [] => false)
  || c = nonJoiner && joins [.left, .dual] before && joins [.right, .dual] after

/-- Whether every joiner in the rest of a label may stand where it does, after the characters
before in reverse. -/
def joinersFit (before : List Char) : List Char → Bool
  | [] => true
  | c :: rest =>
    (if c = joiner ∨ c = nonJoiner then allowsJoiner c before rest else true)
      && joinersFit (c :: before) rest

/-- Whether a label has only characters that may stand where they do. -/
def isLabel (label : List Char) : Bool :=
  !(label.head?.any isMark) && !label.any isForbidden && joinersFit [] label

end EndpointPool.Idna
