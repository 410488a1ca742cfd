import EndpointPool.Json.Printer
import EndpointPool.Json.Reader
import Mathlib.Data.List.Basic

/-!
# Reading undoes writing in JSON

A value that is written out is read back as itself. The reader takes one character after another, so
the proof follows it through the written text: through a string and a number by what their
characters make, and through arrays and objects by induction on the value. Only the end of a number
depends on what comes next, for a number ends where something else begins.

## Main definitions

* `Extension.run? push a text`: what several characters make
* `Numeral.Proper`, `Json.Proper`: the numbers and the values that have a written form
* `Json.Reader.Behind r v frames`: the reader `r` has come to the end of the value `v`

## Main results

* `Numeral.exists_draft`: a number is made from the characters that are written for it
* `Json.Quoted.run?_flatMap_escape`: a string is made from the characters that are written for it
* `Json.Reader.behind_renderChars`: a reader comes to the end of a value that is written out
* `Json.Document.parse_render`: the document of a value that is written out
-/

namespace EndpointPool

/-! ### Several characters -/

namespace Extension

variable {α : Type} {push : α → Char → Extension α}

/-- What several characters make, if each extends what the ones before it made. -/
def run? (push : α → Char → Extension α) (a : α) : List Char → Option α
  | [] => some a
  | c :: text =>
    match push a c with
    | .extended b => run? push b text
    | _ => none

theorem run?_cons {a b : α} {c : Char} (h : push a c = .extended b) (text : List Char) :
    run? push a (c :: text) = run? push b text := by
  rw [run?, h]

theorem run?_append {a b : α} {left : List Char} (h : run? push a left = some b)
    (right : List Char) : run? push a (left ++ right) = run? push b right := by
  induction left generalizing a with
  | nil =>
    cases h
    rfl
  | cons c left ih =>
    rw [run?] at h
    rw [List.cons_append, run?]
    split
    · next hpush =>
      rw [hpush] at h
      exact ih h
    · next hpush =>
      split at h
      · next hpush' => exact absurd hpush' (hpush _)
      · cases h

/-- Characters of one kind that are collected in reverse. -/
theorem run?_collect {make : List Char → α} {kind : Char → Bool}
    (h : ∀ chars c, kind c = true → push (make chars) c = .extended (make (c :: chars)))
    {text : List Char} (htext : ∀ c ∈ text, kind c = true) (chars : List Char) :
    run? push (make chars) text = some (make (text.reverse ++ chars)) := by
  induction text generalizing chars with
  | nil => rfl
  | cons c text ih =>
    rw [run?_cons (h chars c (htext c List.mem_cons_self)),
      ih (fun d hd => htext d (List.mem_cons_of_mem c hd)), List.reverse_cons, List.append_assoc]
    rfl

end Extension

/-! ### Numbers -/

namespace Numeral

/-- A number that has a written form: its parts are digits, a number of several digits does not
begin with a zero, and an exponent has digits. -/
structure Proper (n : Numeral) : Prop where
  integer_digits : ∀ c ∈ n.integer, c.isDigit = true
  integer_head : n.integer = ['0'] ∨ ∃ c rest, n.integer = c :: rest ∧ c ≠ '0'
  fraction_digits : ∀ c ∈ n.fraction, c.isDigit = true
  exponent_digits : ∀ e ∈ n.exponent, e.2 ≠ [] ∧ ∀ c ∈ e.2, c.isDigit = true

namespace Draft

theorem isDigit_or_of_start? {c : Char} {d : Draft} (h : start? c = some d) :
    c = '-' ∨ c.isDigit = true := by
  unfold start? at h
  split at h
  · next hminus => exact .inl hminus
  · split at h
    · next hzero => exact .inr (hzero ▸ rfl)
    · split at h
      · next hdigit => exact .inr hdigit
      · cases h

/-- A number that may end is ended by whatever may stand behind a value. -/
theorem push_of_finish? {d : Draft} {n : Numeral} (h : d.finish? = some n) {c : Char}
    (hc : c = ',' ∨ c = ']' ∨ c = '\x7d') : d.push c = .ended := by
  rcases d with ⟨phase, negative, integer, fraction, exponentNegative, exponent⟩
  cases phase with
  | zero | integer | fraction | exponent => rcases hc with rfl | rfl | rfl <;> rfl
  | sign | point | exponentMark | exponentSign => cases h

end Draft

/-- What is written in front of the point. -/
def integerText (n : Numeral) : List Char := (if n.negative then ['-'] else []) ++ n.integer

/-- The point and what is written behind it, up to the exponent. -/
def fractionText (n : Numeral) : List Char :=
  if n.fraction.isEmpty then [] else '.' :: n.fraction

/-- The exponent as it is written. -/
def exponentText (n : Numeral) : List Char :=
  match n.exponent with
  | none => []
  | some (negative, digits) => 'e' :: (if negative then '-' else '+') :: digits

/-- The digits in front of the point as they are read, behind a sign or without one. -/
theorem exists_draft_integer {n : Numeral} (h : n.Proper) :
    ∃ c text d phase, n.integerText = c :: text ∧
      Draft.start? c = some d ∧ (phase = .zero ∨ phase = .integer) ∧
      Extension.run? Draft.push d text =
        some ⟨phase, n.negative, n.integer.reverse, [], false, []⟩ := by
  have hmore : ∀ negative chars c, c.isDigit = true →
      Draft.push ⟨.integer, negative, chars, [], false, []⟩ c =
        .extended ⟨.integer, negative, c :: chars, [], false, []⟩ := by
    intro negative chars c hc
    simp [Draft.push, hc]
  unfold integerText
  rcases h.integer_head with hzero | ⟨c, rest, hinteger, hc⟩
  · rw [hzero]
    cases n.negative with
    | false => exact ⟨'0', [], _, .zero, rfl, rfl, .inl rfl, rfl⟩
    | true => exact ⟨'-', ['0'], _, .zero, rfl, rfl, .inl rfl, rfl⟩
  · have hdigit : c.isDigit = true := h.integer_digits c (hinteger ▸ List.mem_cons_self)
    have hrest : ∀ d ∈ rest, d.isDigit = true :=
      fun d hd => h.integer_digits d (hinteger ▸ List.mem_cons_of_mem c hd)
    have hminus : c ≠ '-' := by
      rintro rfl
      cases hdigit
    rw [hinteger, List.reverse_cons]
    cases n.negative with
    | false =>
      refine ⟨c, rest, ⟨.integer, false, [c], [], false, []⟩, .integer, rfl, ?_, .inr rfl,
        Extension.run?_collect (hmore false) hrest [c]⟩
      simp [Draft.start?, hminus, hc, hdigit]
    | true =>
      refine ⟨'-', c :: rest, ⟨.sign, true, [], [], false, []⟩, .integer, rfl, rfl, .inr rfl, ?_⟩
      have hfirst : Draft.push ⟨.sign, true, [], [], false, []⟩ c =
          .extended ⟨.integer, true, [c], [], false, []⟩ := by
        simp [Draft.push, hc, hdigit]
      rw [Extension.run?_cons hfirst]
      exact Extension.run?_collect (hmore true) hrest [c]

/-- The digits behind the point as they are read. -/
theorem exists_draft_fraction {n : Numeral} (h : n.Proper) {phase : Phase}
    (hphase : phase = .zero ∨ phase = .integer) :
    ∃ phase', (phase' = .zero ∨ phase' = .integer ∨ phase' = .fraction) ∧
      Extension.run? Draft.push ⟨phase, n.negative, n.integer.reverse, [], false, []⟩
          n.fractionText =
        some ⟨phase', n.negative, n.integer.reverse, n.fraction.reverse, false, []⟩ := by
  unfold fractionText
  cases hfraction : n.fraction with
  | nil => exact ⟨phase, by rcases hphase with rfl | rfl <;> simp, rfl⟩
  | cons c rest =>
    have hdigit : c.isDigit = true := h.fraction_digits c (hfraction ▸ List.mem_cons_self)
    have hrest : ∀ d ∈ rest, d.isDigit = true :=
      fun d hd => h.fraction_digits d (hfraction ▸ List.mem_cons_of_mem c hd)
    have hpoint : Draft.push ⟨phase, n.negative, n.integer.reverse, [], false, []⟩ '.' =
        .extended ⟨.point, n.negative, n.integer.reverse, [], false, []⟩ := by
      rcases hphase with rfl | rfl <;> rfl
    have hfirst : Draft.push ⟨.point, n.negative, n.integer.reverse, [], false, []⟩ c =
        .extended ⟨.fraction, n.negative, n.integer.reverse, [c], false, []⟩ := by
      simp [Draft.push, hdigit]
    have hmore : ∀ chars c, c.isDigit = true →
        Draft.push ⟨.fraction, n.negative, n.integer.reverse, chars, false, []⟩ c =
          .extended ⟨.fraction, n.negative, n.integer.reverse, c :: chars, false, []⟩ := by
      intro chars c hc
      simp [Draft.push, hc]
    refine ⟨.fraction, .inr (.inr rfl), ?_⟩
    rw [if_neg (by simp), Extension.run?_cons hpoint, Extension.run?_cons hfirst,
      List.reverse_cons]
    exact Extension.run?_collect hmore hrest [c]

/-- The exponent as it is read. -/
theorem exists_draft_exponent {n : Numeral} (h : n.Proper) {phase : Phase}
    (hphase : phase = .zero ∨ phase = .integer ∨ phase = .fraction) :
    ∃ d, d.finish? = some n ∧
      Extension.run? Draft.push
        ⟨phase, n.negative, n.integer.reverse, n.fraction.reverse, false, []⟩ n.exponentText =
          some d := by
  rcases n with ⟨negative, integer, fraction, exponent⟩
  cases exponent with
  | none =>
    refine ⟨_, ?_, rfl⟩
    rcases hphase with rfl | rfl | rfl <;> simp [Draft.finish?]
  | some e =>
    rcases e with ⟨below, digits⟩
    obtain ⟨hne, hdigits⟩ := h.exponent_digits _ rfl
    obtain ⟨c, rest, rfl⟩ := List.exists_cons_of_ne_nil hne
    have hmark : Draft.push ⟨phase, negative, integer.reverse, fraction.reverse, false, []⟩ 'e' =
        .extended ⟨.exponentMark, negative, integer.reverse, fraction.reverse, false, []⟩ := by
      rcases hphase with rfl | rfl | rfl <;> rfl
    have hsign : Draft.push ⟨.exponentMark, negative, integer.reverse, fraction.reverse, false, []⟩
        (if below then '-' else '+') =
          .extended ⟨.exponentSign, negative, integer.reverse, fraction.reverse, below, []⟩ := by
      cases below <;> rfl
    have hfirst : Draft.push
        ⟨.exponentSign, negative, integer.reverse, fraction.reverse, below, []⟩ c =
          .extended ⟨.exponent, negative, integer.reverse, fraction.reverse, below, [c]⟩ := by
      simp [Draft.push, hdigits c List.mem_cons_self]
    have hmore : ∀ chars c, c.isDigit = true →
        Draft.push ⟨.exponent, negative, integer.reverse, fraction.reverse, below, chars⟩ c =
          .extended
            ⟨.exponent, negative, integer.reverse, fraction.reverse, below, c :: chars⟩ := by
      intro chars c hc
      simp [Draft.push, hc]
    refine ⟨⟨.exponent, negative, integer.reverse, fraction.reverse, below, (c :: rest).reverse⟩,
      by simp [Draft.finish?], ?_⟩
    rw [exponentText, Extension.run?_cons hmark, Extension.run?_cons hsign,
      Extension.run?_cons hfirst, List.reverse_cons]
    exact Extension.run?_collect hmore (fun d hd => hdigits d (List.mem_cons_of_mem c hd)) [c]

/-- **A number is made from the characters that are written for it.** -/
theorem exists_draft {n : Numeral} (h : n.Proper) :
    ∃ c text d d', n.render = c :: text ∧ Draft.start? c = some d ∧
      Extension.run? Draft.push d text = some d' ∧ d'.finish? = some n := by
  obtain ⟨c, text, d, phase, htext, hstart, hphase, hrun⟩ := exists_draft_integer h
  obtain ⟨phase', hphase', hrun'⟩ := exists_draft_fraction h hphase
  obtain ⟨d', hfinish, hrun''⟩ := exists_draft_exponent h hphase'
  refine ⟨c, text ++ (n.fractionText ++ n.exponentText), d, d', ?_, hstart, ?_, hfinish⟩
  · have hrender : n.render = n.integerText ++ n.fractionText ++ n.exponentText := rfl
    rw [hrender, htext, List.append_assoc, List.cons_append]
  · rw [Extension.run?_append hrun, Extension.run?_append hrun']
    exact hrun''

/-- The digits of a number above zero do not begin with a zero. -/
theorem exists_digits_eq_cons {n : Nat} (h : 0 < n) :
    ∃ c rest, Decimal.digits n = c :: rest ∧ c ≠ '0' := by
  induction n using Nat.strongRecOn with
  | _ n ih =>
    unfold Decimal.digits
    split
    · next hlt =>
      refine ⟨Decimal.digit n, [], rfl, fun heq => ?_⟩
      have hvalue := Decimal.digitValue_digit n
      rw [heq, Nat.mod_eq_of_lt hlt] at hvalue
      exact absurd hvalue.symm (Nat.pos_iff_ne_zero.mp h)
    · obtain ⟨c, rest, hdigits, hc⟩ := ih (n / 10) (by omega) (by omega)
      exact ⟨c, rest ++ [Decimal.digit n], by rw [hdigits]; rfl, hc⟩

/-- The numeral of a natural number has a written form. -/
theorem proper_ofNat (n : Nat) : (ofNat n).Proper where
  integer_digits _ hc := Decimal.isDigit_of_mem_digits hc
  integer_head := by
    rcases Nat.eq_zero_or_pos n with rfl | hpos
    · left
      show Decimal.digits 0 = ['0']
      unfold Decimal.digits
      rfl
    · exact .inr (exists_digits_eq_cons hpos)
  fraction_digits _ hc := by cases hc
  exponent_digits _ he := by cases he

end Numeral

namespace Json

/-! ### Strings -/

namespace Quoted

/-- A quoted text of these characters, in reverse. -/
def ofChars (chars : List Char) : Quoted := ⟨chars, none, true, .plain⟩

/-- A character below the blank is put together from its two digits. -/
theorem run?_control (chars : List Char) {c : Char} (h : c < ' ') :
    Extension.run? push (ofChars chars)
        ['\\', 'u', '0', '0', Hex.lower (c.toNat / 16), Hex.lower c.toNat] =
      some (ofChars (c :: chars)) := by
  have hlt : c.toNat < 32 := h
  have hhigh : c.toNat / 16 % 16 = c.toNat / 16 := Nat.mod_eq_of_lt (by omega)
  have hnumber : 16 * (c.toNat / 16) + c.toNat % 16 = c.toNat := Nat.div_add_mod _ _
  have hzeros : Extension.run? push (ofChars chars) ['\\', 'u', '0', '0'] =
      some ⟨chars, none, true, .hex 2 0⟩ := rfl
  have hfirst : push ⟨chars, none, true, .hex 2 0⟩ (Hex.lower (c.toNat / 16)) =
      .extended ⟨chars, none, true, .hex 1 (c.toNat / 16)⟩ := by
    simp [push, Hex.value?_lower, hhigh]
  have hunit :
      addUnit ⟨chars, none, true, .hex 1 (c.toNat / 16)⟩ c.toNat = ofChars (c :: chars) := by
    have hsurrogate : ¬ 0xD800 ≤ c.toNat ∧ ¬ 0xDC00 ≤ c.toNat := by omega
    simp [addUnit, hsurrogate, add, ofChars]
  have hsecond : push ⟨chars, none, true, .hex 1 (c.toNat / 16)⟩ (Hex.lower c.toNat) =
      .extended (ofChars (c :: chars)) := by
    simp [push, Hex.value?_lower, hnumber, hunit]
  show Extension.run? push (ofChars chars)
    (['\\', 'u', '0', '0'] ++ [Hex.lower (c.toNat / 16), Hex.lower c.toNat]) = _
  rw [Extension.run?_append hzeros, Extension.run?_cons hfirst, Extension.run?_cons hsecond]
  rfl

/-- A character is made from what is written for it. -/
theorem run?_escape (chars : List Char) (c : Char) :
    Extension.run? push (ofChars chars) (Json.escape c) = some (ofChars (c :: chars)) := by
  unfold Json.escape
  split
  · next h => subst h; rfl
  split
  · next h => subst h; rfl
  split
  · next h => subst h; rfl
  split
  · next h => subst h; rfl
  split
  · next h => subst h; rfl
  split
  · next h => subst h; rfl
  split
  · next h => subst h; rfl
  split
  · next h => exact run?_control chars h
  · next hquote hbackslash _ _ _ _ _ hcontrol =>
    have hpush : push (ofChars chars) c = .extended (ofChars (c :: chars)) := by
      simp [push, ofChars, hquote, hbackslash, hcontrol, add]
    rw [Extension.run?_cons hpush]
    rfl

/-- **A text is made from what is written for it between its quotes.** -/
theorem run?_flatMap_escape (text chars : List Char) :
    Extension.run? push (ofChars chars) (text.flatMap Json.escape) =
      some (ofChars (text.reverse ++ chars)) := by
  induction text generalizing chars with
  | nil => rfl
  | cons c text ih =>
    rw [List.flatMap_cons, Extension.run?_append (run?_escape chars c), ih, List.reverse_cons,
      List.append_assoc]
    rfl

@[simp] theorem push_quote (chars : List Char) : (ofChars chars).push '"' = .ended := rfl

@[simp] theorem text?_ofChars (text : String) :
    (ofChars (text.toList.reverse ++ [])).text? = some text := by
  simp [text?, ofChars]

end Quoted

/-! ### Values -/

/-- A value that has a written form: nothing in it is broken off, its texts are whole, its members
have keys, and its numbers have a written form. -/
inductive Proper : Json → Prop
  | null : Proper .null
  | bool (b : Bool) : Proper (.bool b)
  | number {n : Numeral} (h : n.Proper) : Proper (.number n)
  | text (s : String) : Proper (.ofText s)
  | array {items : List Json} (h : ∀ v ∈ items, Proper v) : Proper (.array items)
  | fields {fields : List (String × Json)} (h : ∀ f ∈ fields, Proper f.2) :
    Proper (.ofFields fields)

theorem proper_ofNat (n : Nat) : (ofNat n).Proper := .number (Numeral.proper_ofNat n)

theorem proper_ofOption {α : Type} {write : α → Json} (h : ∀ a, (write a).Proper) (o : Option α) :
    (ofOption write o).Proper := by
  cases o with
  | none => exact .null
  | some a => exact h a

namespace Reader

/-- What may stand behind a value inside an array or an object. -/
def IsDelimiter (c : Char) : Prop := c = ',' ∨ c = ']' ∨ c = '\x7d'

/-- The reader has come to the end of a value. It stands behind the value or, if the value is a
number, still inside it, for more digits could follow. -/
def Behind (r : Reader) (v : Json) (frames : List Frame) : Prop :=
  r = complete v frames ∨
    ∃ d n, v = .number n ∧ d.finish? = some n ∧ r = .inside frames (.number d)

theorem step_complete (v : Json) (frames : List Frame) (c : Char) :
    (complete v frames).step c = (complete v frames).stepPlain c := by
  rcases frames with _ | ⟨done | ⟨done, key⟩, frames⟩
  · rfl
  · rfl
  · by_cases hkey : key = .absent
    · simp [complete, hkey, step]
    · simp [complete, hkey, step]

/-- What follows a value is read as if the value had ended. -/
theorem Behind.step_eq {r : Reader} {v : Json} {frames : List Frame} (h : r.Behind v frames)
    {c : Char} (hc : IsDelimiter c) : r.step c = (complete v frames).step c := by
  rcases h with rfl | ⟨d, n, rfl, hfinish, rfl⟩
  · rfl
  · rw [step_complete, step]
    simp only [Numeral.Draft.push_of_finish? hfinish hc, hfinish]

theorem Behind.finish_eq {r : Reader} {v : Json} (h : r.Behind v []) :
    r.finish = .after v false := by
  rcases h with rfl | ⟨d, n, rfl, hfinish, rfl⟩
  · rfl
  · simp [finish, hfinish, complete]

/-- Characters that are read into something in the making. -/
theorem foldl_of_run? {α : Type} {push : α → Char → Extension α} (place : α → Reader)
    (h : ∀ a b c, push a c = .extended b → (place a).step c = place b) {a b : α}
    {text : List Char} (hrun : Extension.run? push a text = some b) :
    text.foldl step (place a) = place b := by
  induction text generalizing a with
  | nil =>
    cases hrun
    rfl
  | cons c text ih =>
    rw [Extension.run?] at hrun
    split at hrun
    · next next hpush =>
      rw [List.foldl_cons, h a next c hpush]
      exact ih hrun
    · cases hrun

theorem foldl_number (frames : List Frame) {d d' : Numeral.Draft} {text : List Char}
    (h : Extension.run? Numeral.Draft.push d text = some d') :
    text.foldl step (.inside frames (.number d)) = .inside frames (.number d') := by
  refine foldl_of_run? (fun d => .inside frames (.number d)) (fun a b c hpush => ?_) h
  simp [step, hpush]

/-- A text in its quotes is read as a string. -/
theorem foldl_quote (s : String) (frames : List Frame) (closable : Bool) :
    (quote s).foldl step (.inside frames (.value closable)) = complete (.ofText s) frames := by
  have hopen : (Reader.inside frames (.value closable)).step '"' =
      .inside frames (.string (Quoted.ofChars [])) := by
    cases closable <;> rfl
  have hchars := foldl_of_run? (fun q => .inside frames (.string q))
    (fun a b c hpush => by simp [step, stepPlain, hpush]) (Quoted.run?_flatMap_escape s.toList [])
  have hclose :
      (Reader.inside frames (.string (Quoted.ofChars (s.toList.reverse ++ [])))).step '"' =
        complete (.ofText s) frames := by
    simp only [step, stepPlain, Quoted.push_quote, Quoted.text?_ofChars]
    rfl
  rw [quote, List.cons_append, List.foldl_cons, hopen, List.foldl_append, hchars, List.foldl_cons,
    hclose]
  rfl

/-- A text in its quotes is read as a key. -/
theorem foldl_quote_key (s : String) (frames : List Frame) (done : List (Key × Json))
    (closable : Bool) :
    (quote s).foldl step (.inside frames (.key done closable)) =
      .inside frames (.colon done (.text s)) := by
  have hopen : (Reader.inside frames (.key done closable)).step '"' =
      .inside frames (.keyText done (Quoted.ofChars [])) := by
    cases closable <;> rfl
  have hchars := foldl_of_run? (fun q => .inside frames (.keyText done q))
    (fun a b c hpush => by simp [step, stepPlain, hpush]) (Quoted.run?_flatMap_escape s.toList [])
  have hclose :
      (Reader.inside frames (.keyText done (Quoted.ofChars (s.toList.reverse ++ [])))).step '"' =
        .inside frames (.colon done (.text s)) := by
    simp only [step, stepPlain, Quoted.push_quote, Quoted.text?_ofChars]
  rw [quote, List.cons_append, List.foldl_cons, hopen, List.foldl_append, hchars, List.foldl_cons,
    hclose]
  rfl

/-- A number is read up to its end. -/
theorem behind_number {n : Numeral} (h : n.Proper) (frames : List Frame) (closable : Bool) :
    (n.render.foldl step (.inside frames (.value closable))).Behind (.number n) frames := by
  obtain ⟨c, text, d, d', htext, hstart, hrun, hfinish⟩ := Numeral.exists_draft h
  have hfirst : (Reader.inside frames (.value closable)).step c = .inside frames (.number d) := by
    have hkind := Numeral.Draft.isDigit_or_of_start? hstart
    -- a minus sign or a digit is no other first character of a value
    have hother : isBlank c = false ∧ c ≠ ']' ∧ c ≠ '"' ∧ c ≠ '[' ∧ c ≠ '\x7b' ∧ c ≠ 'n' ∧
        c ≠ 't' ∧ c ≠ 'f' := by
      rcases hkind with rfl | hdigit
      · decide
      · refine ⟨?_, ?_, ?_, ?_, ?_, ?_, ?_, ?_⟩
        · by_contra hblank
          simp only [isBlank, Bool.not_eq_false, Bool.or_eq_true, decide_eq_true_eq] at hblank
          rcases hblank with ((rfl | rfl) | rfl) | rfl <;> cases hdigit
        all_goals
          rintro rfl
          cases hdigit
    obtain ⟨hblank, hclosing, hquote, hbracket, hbrace, hnull, htrue, hfalse⟩ := hother
    simp [step, stepPlain, begin, hblank, hclosing, hquote, hbracket, hbrace, hnull, htrue, hfalse,
      hstart]
  refine .inr ⟨d', n, rfl, hfinish, ?_⟩
  rw [htext, List.foldl_cons, hfirst, foldl_number frames hrun]

/-- The items of an array are read one after the other, up to the closing bracket. -/
theorem foldl_renderItems {items : List Json}
    (h : ∀ v ∈ items, ∀ frames closable,
      ((renderChars v).foldl step (.inside frames (.value closable))).Behind v frames)
    (hne : items ≠ []) (done : List Json) (frames : List Frame) (closable : Bool) :
    (renderItems items ++ [']']).foldl step (.inside (.item done :: frames) (.value closable)) =
      complete (.array (done.reverse ++ items)) frames := by
  induction items generalizing done closable with
  | nil => exact absurd rfl hne
  | cons v rest ih =>
    have hv := h v List.mem_cons_self (.item done :: frames) closable
    cases rest with
    | nil =>
      rw [renderItems, List.foldl_append, List.foldl_cons, hv.step_eq (.inr (.inl rfl))]
      show complete (.array (v :: done).reverse) frames = _
      rw [List.reverse_cons]
    | cons w rest =>
      have hrest := ih (fun u hu => h u (List.mem_cons_of_mem v hu)) (List.cons_ne_nil w rest)
        (v :: done) false
      rw [renderItems, List.append_assoc, List.foldl_append, List.cons_append, List.foldl_cons,
        hv.step_eq (.inl rfl)]
      show (renderItems (w :: rest) ++ [']']).foldl step
        (.inside (.item (v :: done) :: frames) (.value false)) = _
      rw [hrest, List.reverse_cons, List.append_assoc]
      rfl

/-- A member is read up to the end of its value. -/
theorem behind_member {v : Json}
    (h : ∀ frames closable,
      ((renderChars v).foldl step (.inside frames (.value closable))).Behind v frames)
    (name : String) (done : List (Key × Json)) (frames : List Frame) (closable : Bool) :
    ((renderKey (.text name) ++ ':' :: renderChars v).foldl step
      (.inside frames (.key done closable))).Behind v (.member done (.text name) :: frames) := by
  have hcolon : (Reader.inside frames (.colon done (.text name))).step ':' =
      .inside (.member done (.text name) :: frames) (.value false) := rfl
  rw [renderKey, List.foldl_append, foldl_quote_key, List.foldl_cons, hcolon]
  exact h (.member done (.text name) :: frames) false

/-- The members of an object are read one after the other, up to the closing brace. -/
theorem foldl_renderMembers {fields : List (String × Json)}
    (h : ∀ f ∈ fields, ∀ frames closable,
      ((renderChars f.2).foldl step (.inside frames (.value closable))).Behind f.2 frames)
    (hne : fields ≠ []) (done : List (Key × Json)) (frames : List Frame) (closable : Bool) :
    (renderMembers (fields.map fun f => (.text f.1, f.2)) ++ ['\x7d']).foldl step
        (.inside frames (.key done closable)) =
      complete (.object (done.reverse ++ fields.map fun f => (.text f.1, f.2))) frames := by
  induction fields generalizing done closable with
  | nil => exact absurd rfl hne
  | cons f rest ih =>
    have hf := behind_member (h f List.mem_cons_self) f.1 done frames closable
    cases rest with
    | nil =>
      rw [List.map_cons, List.map_nil, renderMembers, List.foldl_append, List.foldl_cons,
        hf.step_eq (.inr (.inr rfl))]
      show complete (.object ((.text f.1, f.2) :: done).reverse) frames = _
      rw [List.reverse_cons]
    | cons f' rest =>
      have hrest := ih (fun u hu => h u (List.mem_cons_of_mem f hu)) (List.cons_ne_nil f' rest)
        ((.text f.1, f.2) :: done) false
      rw [List.map_cons] at hrest
      rw [List.map_cons, List.map_cons, renderMembers, List.append_assoc, List.foldl_append,
        List.cons_append, List.foldl_cons, hf.step_eq (.inl rfl)]
      show (renderMembers ((.text f'.1, f'.2) :: rest.map fun f => (.text f.1, f.2)) ++
        ['\x7d']).foldl step (.inside frames (.key ((.text f.1, f.2) :: done) false)) = _
      rw [hrest, List.reverse_cons, List.append_assoc]
      rfl

/-- **A reader comes to the end of a value that is written out.** -/
theorem behind_renderChars {v : Json} (h : Proper v) (frames : List Frame) (closable : Bool) :
    ((renderChars v).foldl step (.inside frames (.value closable))).Behind v frames := by
  induction h generalizing frames closable with
  | null => exact .inl (by cases closable <;> rfl)
  | bool b => exact .inl (by cases b <;> cases closable <;> rfl)
  | number hn => exact behind_number hn frames closable
  | text s => exact .inl (foldl_quote s frames closable)
  | @array items _ ih =>
    have hopen : (Reader.inside frames (.value closable)).step '[' =
        .inside (.item [] :: frames) (.value true) := by
      cases closable <;> rfl
    left
    rw [renderChars, List.cons_append, List.foldl_cons, hopen]
    cases items with
    | nil => rfl
    | cons v rest => exact foldl_renderItems ih (List.cons_ne_nil v rest) [] frames true
  | @fields fields _ ih =>
    have hopen : (Reader.inside frames (.value closable)).step '\x7b' =
        .inside frames (.key [] true) := by
      cases closable <;> rfl
    left
    rw [ofFields, renderChars, List.cons_append, List.foldl_cons, hopen]
    cases fields with
    | nil => rfl
    | cons f rest => exact foldl_renderMembers ih (List.cons_ne_nil f rest) [] frames true

end Reader

/-- **The document of a value that is written out is the value, with nothing behind it.** -/
theorem Document.parse_render {v : Json} (h : Proper v) : Document.parse v.render = ⟨v, false⟩ := by
  have hend := (Reader.behind_renderChars h [] false).finish_eq
  rw [parse, render, String.toList_ofList, Reader.start, hend]

end Json

end EndpointPool
