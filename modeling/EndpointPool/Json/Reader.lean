import EndpointPool.Encoding.Hexadecimal
import EndpointPool.Json.Basic

/-!
# Reading JSON

A document is read one character at a time. The state of the reader is where it stands: the open
arrays and objects around the value it is in, innermost first, and what it expects there. A
character that cannot stand where it does ends the reading: what is open is closed around a mark,
and the rest of the text is passed over. So every text has a document, and a document says how far
its text makes sense.

## Main definitions

* `Numeral.Draft`, `Numeral.Draft.push`: a number in the making
* `Json.Quoted`, `Json.Quoted.push`: a quoted text in the making
* `Json.Frame`, `Json.Mode`, `Json.Reader`: where a reader stands
* `Json.Reader.step`, `Json.Document.parse`: one character, and a whole text
-/

namespace EndpointPool

/-- What a further character does to something in the making: it extends it, it lies beyond its
end, or it cannot follow. -/
inductive Extension (α : Type)
  | extended (a : α)
  | ended
  | refused

namespace Numeral

/-- Where a number in the making stands. -/
inductive Phase
  | sign
  | zero
  | integer
  | point
  | fraction
  | exponentMark
  | exponentSign
  | exponent
  deriving DecidableEq

/-- A number in the making; the digits of each part are in reverse. -/
structure Draft where
  phase : Phase
  negative : Bool
  integer : List Char
  fraction : List Char
  exponentNegative : Bool
  exponent : List Char

namespace Draft

/-- A number that starts with a minus sign or a digit. -/
def start? (c : Char) : Option Draft :=
  if c = '-' then some ⟨.sign, true, [], [], false, []⟩
  else if c = '0' then some ⟨.zero, false, [c], [], false, []⟩
  else if c.isDigit then some ⟨.integer, false, [c], [], false, []⟩
  else none

/-- What may follow the digits before the point. -/
private def afterInteger (d : Draft) (c : Char) : Extension Draft :=
  if c = '.' then .extended { d with phase := .point }
  else if c = 'e' ∨ c = 'E' then .extended { d with phase := .exponentMark }
  else .ended

/-- A number with one character more. -/
def push (d : Draft) (c : Char) : Extension Draft :=
  match d.phase with
  | .sign =>
    if c = '0' then .extended { d with phase := .zero, integer := [c] }
    else if c.isDigit then .extended { d with phase := .integer, integer := [c] }
    else .refused
  | .zero => if c.isDigit then .refused else afterInteger d c
  | .integer =>
    if c.isDigit then .extended { d with integer := c :: d.integer } else afterInteger d c
  | .point =>
    if c.isDigit then .extended { d with phase := .fraction, fraction := [c] } else .refused
  | .fraction =>
    if c.isDigit then .extended { d with fraction := c :: d.fraction }
    else if c = 'e' ∨ c = 'E' then .extended { d with phase := .exponentMark }
    else .ended
  | .exponentMark =>
    if c = '-' then .extended { d with phase := .exponentSign, exponentNegative := true }
    else if c = '+' then .extended { d with phase := .exponentSign }
    else if c.isDigit then .extended { d with phase := .exponent, exponent := [c] }
    else .refused
  | .exponentSign =>
    if c.isDigit then .extended { d with phase := .exponent, exponent := [c] } else .refused
  | .exponent =>
    if c.isDigit then .extended { d with exponent := c :: d.exponent } else .ended

/-- The number, if it may end here. -/
def finish? (d : Draft) : Option Numeral :=
  let exponent := match d.phase with
    | .exponent => some (d.exponentNegative, d.exponent.reverse)
    | _ => none
  match d.phase with
  | .zero | .integer | .fraction | .exponent =>
    some ⟨d.negative, d.integer.reverse, d.fraction.reverse, exponent⟩
  | _ => none

end Draft

end Numeral

namespace Json

/-- Where a quoted text in the making stands as to escapes. -/
inductive Escape
  | plain
  | backslash
  | hex (missing value : Nat)
  deriving DecidableEq

/-- A quoted text in the making: its characters in reverse, the first half of a surrogate pair that
waits for the second, and whether every half so far has found the other. -/
structure Quoted where
  chars : List Char
  firstHalf : Option Nat
  paired : Bool
  escape : Escape

namespace Quoted

/-- A quoted text just after its opening quote. -/
def start : Quoted := ⟨[], none, true, .plain⟩

/-- With a character that completes no surrogate pair. -/
def add (q : Quoted) (c : Char) : Quoted where
  chars := c :: q.chars
  firstHalf := none
  paired := q.paired && q.firstHalf.isNone
  escape := .plain

/-- With a character or half of one given by its number. -/
def addUnit (q : Quoted) (unit : Nat) : Quoted :=
  match q.firstHalf with
  | some first =>
    if 0xDC00 ≤ unit ∧ unit < 0xE000 then
      ⟨Char.ofNat (0x10000 + (first - 0xD800) * 0x400 + (unit - 0xDC00)) :: q.chars, none,
        q.paired, .plain⟩
    else ⟨q.chars, none, false, .plain⟩
  | none =>
    if 0xD800 ≤ unit ∧ unit < 0xDC00 then { q with firstHalf := some unit, escape := .plain }
    else if 0xDC00 ≤ unit ∧ unit < 0xE000 then { q with paired := false, escape := .plain }
    else q.add (Char.ofNat unit)

/-- The character that a single letter after a backslash stands for. -/
def unescape? (c : Char) : Option Char :=
  if c = '"' ∨ c = '\\' ∨ c = '/' then some c
  else if c = 'b' then some '\x08'
  else if c = 'f' then some '\x0c'
  else if c = 'n' then some '\n'
  else if c = 'r' then some '\r'
  else if c = 't' then some '\t'
  else none

/-- A quoted text with one character more. It has ended at the closing quote. -/
def push (q : Quoted) (c : Char) : Extension Quoted :=
  match q.escape with
  | .plain =>
    if c = '"' then .ended
    else if c = '\\' then .extended { q with escape := .backslash }
    else if c < ' ' then .refused
    else .extended (q.add c)
  | .backslash =>
    if c = 'u' then .extended { q with escape := .hex 4 0 }
    else
      match unescape? c with
      | some d => .extended (q.add d)
      | none => .refused
  | .hex missing value =>
    match Hex.value? c with
    | none => .refused
    | some digit =>
      let value := 16 * value + digit
      if missing ≤ 1 then .extended (q.addUnit value)
      else .extended { q with escape := .hex (missing - 1) value }

/-- The text, if no half of a surrogate pair is left alone. -/
def text? (q : Quoted) : Option String :=
  if q.paired && q.firstHalf.isNone then some (String.ofList q.chars.reverse) else none

end Quoted

/-- An open array or object around a value: the items or members before it, in reverse, and in an
object its key. -/
inductive Frame
  | item (done : List Json)
  | member (done : List (Key × Json)) (key : Key)

/-- What is expected inside the open arrays and objects. -/
inductive Mode
  /-- A value, or, directly after an opening bracket, the closing one. -/
  | value (closable : Bool)
  /-- The rest of a word that is a value. -/
  | word (rest : List Char) (v : Json)
  /-- The rest of a number. -/
  | number (draft : Numeral.Draft)
  /-- The rest of a string. -/
  | string (q : Quoted)
  /-- After an item: a comma or the end of the array. -/
  | afterItem (done : List Json)
  /-- A key, or, directly after an opening brace, the closing one. -/
  | key (done : List (Key × Json)) (closable : Bool)
  /-- The rest of a key. -/
  | keyText (done : List (Key × Json)) (q : Quoted)
  /-- After a key: a colon. -/
  | colon (done : List (Key × Json)) (key : Key)
  /-- After a member: a comma or the end of the object. -/
  | afterMember (done : List (Key × Json))

/-- Where a reader stands. -/
inductive Reader
  /-- Inside a value. -/
  | inside (frames : List Frame) (mode : Mode)
  /-- After the value, where only blanks may follow; `trailing` if something else did. -/
  | after (v : Json) (trailing : Bool)
  /-- Where it could not read on. -/
  | stuck (v : Json)

/-- The blanks between the parts of a document. -/
def isBlank (c : Char) : Bool := c = ' ' || c = '\t' || c = '\n' || c = '\r'

namespace Reader

/-- The open arrays and objects closed around a value. -/
def close : List Frame → Json → Json
  | [], v => v
  | .item done :: frames, v => close frames (.array (v :: done).reverse)
  | .member done key :: frames, v => close frames (.object ((key, v) :: done).reverse)

/-- What is left of the value in the making when it cannot be read on. -/
def remains : Mode → Json
  | .afterItem done => .array (.broken :: done).reverse
  | .key done _ => .object ((.absent, .broken) :: done).reverse
  | .keyText done _ => .object ((.absent, .broken) :: done).reverse
  | .colon done key => .object ((key, .broken) :: done).reverse
  | .afterMember done => .object ((.absent, .broken) :: done).reverse
  | _ => .broken

/-- The end of reading inside a value. -/
def fail (frames : List Frame) (mode : Mode) : Reader := .stuck (close frames (remains mode))

/-- After a value inside the open arrays and objects. A value where a key has to stand is the end
of reading. -/
def complete (v : Json) : List Frame → Reader
  | [] => .after v false
  | .item done :: frames => .inside frames (.afterItem (v :: done))
  | .member done key :: frames =>
    if key = .absent then .stuck (close (.member done key :: frames) v)
    else .inside frames (.afterMember ((key, v) :: done))

/-- The first character of a value. -/
def begin (frames : List Frame) (mode : Mode) (c : Char) : Reader :=
  if c = '"' then .inside frames (.string .start)
  else if c = '[' then .inside (.item [] :: frames) (.value true)
  else if c = '\x7b' then .inside frames (.key [] true)
  else if c = 'n' then .inside frames (.word ['u', 'l', 'l'] .null)
  else if c = 't' then .inside frames (.word ['r', 'u', 'e'] (.bool true))
  else if c = 'f' then .inside frames (.word ['a', 'l', 's', 'e'] (.bool false))
  else
    match Numeral.Draft.start? c with
    | some draft => .inside frames (.number draft)
    | none => fail frames mode

/-- One character where no number is in the making. -/
def stepPlain (r : Reader) (c : Char) : Reader :=
  match r with
  | .stuck v => .stuck v
  | .after v trailing => .after v (trailing || !isBlank c)
  | .inside frames mode =>
    match mode with
    | .value closable =>
      if isBlank c then r
      else if closable ∧ c = ']' then
        match frames with
        | .item done :: frames => complete (.array done.reverse) frames
        | frames => fail frames mode
      else begin frames mode c
    | .word [] _ => fail frames mode
    | .word (d :: rest) v =>
      if c ≠ d then fail frames mode
      else if rest.isEmpty then complete v frames
      else .inside frames (.word rest v)
    | .number _ => fail frames mode
    | .string q =>
      match q.push c with
      | .extended q => .inside frames (.string q)
      | .ended => complete (.string q.text?) frames
      | .refused => fail frames mode
    | .afterItem done =>
      if isBlank c then r
      else if c = ',' then .inside (.item done :: frames) (.value false)
      else if c = ']' then complete (.array done.reverse) frames
      else fail frames mode
    | .key done closable =>
      if isBlank c then r
      else if c = '"' then .inside frames (.keyText done .start)
      else if closable ∧ c = '\x7d' then complete (.object done.reverse) frames
      else begin (.member done .absent :: frames) (.value false) c
    | .keyText done q =>
      match q.push c with
      | .extended q => .inside frames (.keyText done q)
      | .ended =>
        .inside frames (.colon done (match q.text? with
          | some name => .text name
          | none => .unpaired))
      | .refused => fail frames mode
    | .colon done key =>
      if isBlank c then r
      else if c = ':' then .inside (.member done key :: frames) (.value false)
      else fail frames mode
    | .afterMember done =>
      if isBlank c then r
      else if c = ',' then .inside frames (.key done false)
      else if c = '\x7d' then complete (.object done.reverse) frames
      else fail frames mode

/-- One character. The character beyond the end of a number is read after the number. -/
def step (r : Reader) (c : Char) : Reader :=
  match r with
  | .inside frames (.number draft) =>
    match draft.push c with
    | .extended draft => .inside frames (.number draft)
    | .ended =>
      match draft.finish? with
      | some n => stepPlain (complete (.number n) frames) c
      | none => fail frames (.number draft)
    | .refused => fail frames (.number draft)
  | r => stepPlain r c

/-- A reader before the first character. -/
def start : Reader := .inside [] (.value false)

/-- The reader at the end of the text: a number ends there too. -/
def finish (r : Reader) : Reader :=
  let r := match r with
    | .inside frames (.number draft) =>
      match draft.finish? with
      | some n => complete (.number n) frames
      | none => r
    | r => r
  match r with
  | .inside frames mode => fail frames mode
  | r => r

end Reader

/-- A document: its value, and whether something stands behind it. -/
structure Document where
  value : Json
  trailing : Bool

/-- The document of a text. -/
def Document.parse (text : String) : Document :=
  match (text.toList.foldl Reader.step Reader.start).finish with
  | .after v trailing => ⟨v, trailing⟩
  | .stuck v => ⟨v, false⟩
  | .inside _ _ => ⟨.broken, false⟩

end Json

end EndpointPool
