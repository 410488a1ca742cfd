import EndpointPool.Encoding.Percent
import EndpointPool.Text

/-!
# Paths of URLs

The segments of a path stand between slashes of either kind. A segment of one dot is nothing, and
one of two dots takes the segment before it away, unless that names a drive. What remains is
percent-encoded.

## Main definitions

* `Path.resolve`: segments without dots
* `Path.parse`: the path that a URL writes
-/

namespace EndpointPool.Path

/-- The characters that a path has as they are: the printable characters of ASCII without the
space and some marks that delimit URLs in texts. -/
def isSafe (c : Char) : Bool :=
  ' ' < c && c ≤ '~' && !"\"#<>?`\x7b\x7d".toList.contains c

/-- The dots at the front of a segment, each perhaps percent-encoded, and the rest. -/
def countDots : List Char → Nat × List Char
  | '.' :: rest | '%' :: '2' :: 'e' :: rest | '%' :: '2' :: 'E' :: rest =>
    let (n, rest) := countDots rest
    (n + 1, rest)
  | rest => (0, rest)

/-- Whether a segment is the given number of dots. -/
def isDots (n : Nat) (segment : List Char) : Bool := countDots segment = (n, [])

/-- Whether a segment names a drive. -/
def isDrive : List Char → Bool
  | [letter, mark] => letter.isAlpha && (mark = ':' || mark = '|')
  | _ => false

/-- The segments after two dots: without the last, unless that names a drive. -/
def goUp (segments : List (List Char)) : List (List Char) :=
  if segments.getLast?.any isDrive then segments else segments.dropLast

/-- The segments resolved, after those resolved before. Dots at the end leave an empty segment. -/
def resolve (before : List (List Char)) : List (List Char) → List (List Char)
  | [] => before
  | segment :: rest =>
    let close (segments : List (List Char)) := if rest.isEmpty then segments ++ [[]] else segments
    if isDots 2 segment then resolve (close (goUp before)) rest
    else if isDots 1 segment then resolve (close before) rest
    else resolve (before ++ [segment]) rest

/-- The path that segments form. -/
def write (segments : List (List Char)) : String :=
  String.ofList (segments.flatMap fun s => '/' :: s)

/-- The path that a URL writes, from its first slash on if it has any. -/
def parse (written : List Char) : String :=
  -- encoding makes no slash and no dot, so it may come first
  let slashed := written.map fun c => if c = '\\' then '/' else c
  write (resolve [] (Text.pieces '/' (Percent.encode isSafe (slashed.drop 1))))

end EndpointPool.Path
