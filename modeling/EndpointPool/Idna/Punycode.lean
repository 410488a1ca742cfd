import EndpointPool.Text

/-!
# Punycode

Punycode writes a text in ASCII: first its ASCII characters, with a hyphen behind them if there
are any, then for every other character where it is inserted. The characters are inserted in the
order of their code points. A character and its place among those inserted before make one
number, and what is written is the difference to the number of the insertion before, in digits of
base thirty-six, the least significant first. Digits below a threshold end a number; the
thresholds follow a bias that adapts to the size of the differences.

## Main definitions

* `Punycode.encode`, `Punycode.decode?`: writing and reading
-/

namespace EndpointPool.Punycode

/-- The digit of a number below thirty-six. -/
def digit (n : Nat) : Char := if n < 26 then Char.ofNat (97 + n) else Char.ofNat (22 + n)

/-- The number a digit stands for. -/
def digitValue? (c : Char) : Option Nat :=
  if 'a' ≤ c ∧ c ≤ 'z' then some (c.toNat - 97)
  else if '0' ≤ c ∧ c ≤ '9' then some (c.toNat - 22)
  else none

/-- The threshold of the digit at a place. The places of a number are thirty-six apart. -/
def threshold (bias place : Nat) : Nat := max 1 (min 26 (place - bias))

theorem one_le_threshold (bias place : Nat) : 1 ≤ threshold bias place := by
  simp only [threshold]; omega

theorem threshold_le (bias place : Nat) : threshold bias place ≤ 26 := by
  simp only [threshold]; omega

/-- A difference divided by thirty-five until it is small, and thirty-six for each division. -/
def shrink (delta : Nat) : Nat × Nat :=
  if 455 < delta then
    let (d, k) := shrink (delta / 35)
    (d, k + 36)
  else (delta, 0)
termination_by delta
decreasing_by omega

/-- The bias after a difference, when `count` characters stand in the text. -/
def adapt (delta count : Nat) (isFirst : Bool) : Nat :=
  let delta := if isFirst then delta / 700 else delta / 2
  let (delta, k) := shrink (delta + delta / count)
  k + 36 * delta / (delta + 38)

/-- The bias of the first difference. -/
def initialBias : Nat := 72

/-- The first code point that is not ASCII. -/
def firstCode : Nat := 128

/-! ### Writing -/

/-- A number in digits, from the digit at a place on. -/
def encodeNumber (bias place n : Nat) : List Char :=
  let t := threshold bias place
  if n < t then [digit n]
  else digit (t + (n - t) % (36 - t)) :: encodeNumber bias (place + 36) ((n - t) / (36 - t))
termination_by n
decreasing_by
  have := one_le_threshold bias place
  exact Nat.lt_of_le_of_lt (Nat.div_le_self _ _) (by omega)

/-- A character inserted into a text, and its place among the characters inserted before. -/
structure Insertion where
  code : Nat
  place : Nat

/-- The insertions that make a text of its ASCII characters, in order. -/
def insertions (text : List Char) : List Insertion :=
  let beyond := text.zipIdx.filter fun (c, _) => firstCode ≤ c.toNat
  let sorted := beyond.mergeSort fun a b =>
    a.1.toNat < b.1.toNat || (a.1.toNat = b.1.toNat && a.2 ≤ b.2)
  sorted.map fun (c, i) => ⟨c.toNat, (text.take i).countP fun d => d.toNat ≤ c.toNat⟩

/-- Insertions written out, when `count` characters stand in the text and the last insertion would
be repeated by the difference zero at `next`. -/
def encodeInsertions (bias count : Nat) (isFirst : Bool) (next : Insertion) :
    List Insertion → List Char
  | [] => []
  | i :: rest =>
    -- a text of `count` characters has `count + 1` places for the next one
    let delta := (i.code - next.code) * (count + 1) + i.place - next.place
    encodeNumber bias 36 delta
      ++ encodeInsertions (adapt delta (count + 1) isFirst) (count + 1) false
        ⟨i.code, i.place + 1⟩ rest

/-- A text written in ASCII. -/
def encode (text : List Char) : List Char :=
  let basic := text.filter fun c => c.toNat < firstCode
  (if basic.isEmpty then [] else basic ++ ['-'])
    ++ encodeInsertions initialBias basic.length true ⟨firstCode, 0⟩ (insertions text)

/-! ### Reading -/

/-- The numbers that can be read stay below this limit, and so do the weights of their digits. -/
def limit : Nat := UInt32.size

/-- A number added to `n`, from the digit at a place and with a weight on, and the text behind
it. -/
def decodeNumber? (bias place weight n : Nat) : List Char → Option (Nat × List Char)
  | [] => none
  | c :: rest =>
    match digitValue? c with
    | none => none
    | some d =>
      let t := threshold bias place
      if limit ≤ d * weight ∨ limit ≤ n + d * weight then none
      else if d < t then some (n + d * weight, rest)
      else if limit ≤ weight * (36 - t) then none
      else decodeNumber? bias (place + 36) (weight * (36 - t)) (n + d * weight) rest

theorem length_lt_of_decodeNumber? {bias place weight n m : Nat} {text rest : List Char}
    (h : decodeNumber? bias place weight n text = some (m, rest)) : rest.length < text.length := by
  fun_induction decodeNumber? bias place weight n text with
  | case1 | case2 | case3 | case5 => simp_all
  | case4 => simp_all
  | case6 _ _ _ _ _ _ _ _ _ _ _ ih => have := ih h; simp; omega

/-- The code point of a number, if it is one. -/
def character? (code : Nat) : Option Char :=
  if code.isValidChar then some (Char.ofNat code) else none

/-- The text after the insertions that are written out have been made in it. -/
def decodeInsertions? (bias : Nat) (isFirst : Bool) (next : Insertion) (text written : List Char) :
    Option (List Char) :=
  match written with
  | [] => some text
  | c :: rest =>
    match _h : decodeNumber? bias 36 1 next.place (c :: rest) with
    | none => none
    | some (n, rest') =>
      let count := text.length + 1
      let code := next.code + n / count
      match character? code with
      | none => none
      | some inserted =>
        decodeInsertions? (adapt (n - next.place) count isFirst) false ⟨code, n % count + 1⟩
          (text.insertIdx (n % count) inserted) rest'
termination_by written.length
decreasing_by exact length_lt_of_decodeNumber? _h

/-- The text that is written in ASCII. A hyphen with nothing in front of it ends no characters. -/
def decode? (written : List Char) : Option (List Char) :=
  match Text.cutLast? '-' written with
  | some (c :: basic, rest) =>
    decodeInsertions? initialBias true ⟨firstCode, 0⟩ (c :: basic) rest
  | _ => decodeInsertions? initialBias true ⟨firstCode, 0⟩ [] written

end EndpointPool.Punycode
