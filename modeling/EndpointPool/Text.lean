/-!
# Cutting and trimming texts

Texts as lists of characters: what is left without the characters at either end that satisfy a
test, and the parts of a text between the occurrences of a separator.

## Main definitions

* `Text.trim`: both ends trimmed
* `Text.cut?`, `Text.cutLast?`: the two sides of the first and of the last separator
* `Text.pieces`, `Text.words`: the parts between all separators
* `Text.isBlank`: the White_Space characters of Unicode
-/

namespace EndpointPool.Text

/-- The text without the longest run of characters satisfying `p` at each end. -/
def trim (p : Char → Bool) (text : List Char) : List Char :=
  ((text.dropWhile p).reverse.dropWhile p).reverse

/-- The two sides of the first `sep`, if there is one. -/
def cut? (sep : Char) : List Char → Option (List Char × List Char)
  | [] => none
  | c :: rest => if c = sep then some ([], rest) else (cut? sep rest).map fun (l, r) => (c :: l, r)

/-- The two sides of the last `sep`, if there is one. -/
def cutLast? (sep : Char) : List Char → Option (List Char × List Char)
  | [] => none
  | c :: rest =>
    match cutLast? sep rest with
    | some (l, r) => some (c :: l, r)
    | none => if c = sep then some ([], rest) else none

/-- The parts of the text between the occurrences of `sep`, one more than there are of them. -/
def pieces (sep : Char) : List Char → List (List Char)
  | [] => [[]]
  | c :: rest =>
    if c = sep then [] :: pieces sep rest
    else
      match pieces sep rest with
      | [] => [[c]]
      | first :: others => (c :: first) :: others

theorem pieces_ne_nil (sep : Char) (text : List Char) : pieces sep text ≠ [] := by
  cases text with
  | nil => simp [pieces]
  | cons c rest =>
    unfold pieces
    split
    · simp
    · split <;> simp

/-- The parts of the text between spaces and line ends that are not empty. -/
def words (text : List Char) : List (List Char) :=
  (pieces ' ' (text.map fun c => if c = '\n' then ' ' else c)).filter fun w => !w.isEmpty

/-- The two sides of the first occurrence of a text that is not empty. -/
def cutAt? (sep : List Char) : List Char → Option (List Char × List Char)
  | [] => none
  | c :: rest =>
    if sep.isPrefixOf (c :: rest) then some ([], (c :: rest).drop sep.length)
    else (cutAt? sep rest).map fun (l, r) => (c :: l, r)

/-- The White_Space characters of Unicode. -/
def isBlank (c : Char) : Bool :=
  ('\t' ≤ c && c ≤ '\r') || c = ' ' || c = '\u0085' || c = '\u00a0' || c = '\u1680'
    || ('\u2000' ≤ c && c ≤ '\u200a') || c = '\u2028' || c = '\u2029' || c = '\u202f'
    || c = '\u205f' || c = '\u3000'

theorem isBlank_of_isWhitespace {c : Char} (h : c.isWhitespace = true) : isBlank c = true := by
  simp only [Char.isWhitespace, Bool.or_eq_true, decide_eq_true_eq] at h
  rcases h with ((rfl | rfl) | rfl) | rfl <;> decide

end EndpointPool.Text
