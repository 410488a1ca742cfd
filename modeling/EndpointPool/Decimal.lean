/-!
# Decimal numbers

The decimal digits of a natural number, and the number that decimal digits spell.

## Main definitions

* `Decimal.digits`: the digits of a number, without leading zeros
* `Decimal.value`: the number that digits spell

## Main results

* `Decimal.value_digits`: the digits of a number spell it
* `Decimal.read?_eq_some_iff`: the numbers that are read
-/

namespace EndpointPool.Decimal

/-- The digit of a number below ten. -/
def digit (n : Nat) : Char := Char.ofNat (48 + n % 10)

/-- The number a digit stands for. -/
def digitValue (c : Char) : Nat := c.toNat - 48

theorem digitValue_digit (n : Nat) : digitValue (digit n) = n % 10 := by
  have h : ∀ k : Fin 10, digitValue (digit k.val) = k.val := by decide
  have := h ⟨n % 10, Nat.mod_lt _ (by decide)⟩
  simpa [digit] using this

theorem isDigit_digit (n : Nat) : (digit n).isDigit = true := by
  have h : ∀ k : Fin 10, (digit k.val).isDigit = true := by decide
  have := h ⟨n % 10, Nat.mod_lt _ (by decide)⟩
  simpa [digit] using this

/-- The digits of a number, the most significant first, without leading zeros. -/
def digits (n : Nat) : List Char :=
  if n < 10 then [digit n] else digits (n / 10) ++ [digit n]
termination_by n
decreasing_by omega

/-- The number that digits spell. -/
def value (text : List Char) : Nat := text.foldl (fun n c => 10 * n + digitValue c) 0

theorem value_append_singleton (text : List Char) (c : Char) :
    value (text ++ [c]) = 10 * value text + digitValue c := by simp [value]

/-- The digits of a number spell it. -/
@[simp] theorem value_digits (n : Nat) : value (digits n) = n := by
  induction n using Nat.strongRecOn with
  | _ n ih =>
    unfold digits
    split
    · simp [value, digitValue_digit]; omega
    · rw [value_append_singleton, ih (n / 10) (by omega), digitValue_digit]; omega

theorem isDigit_of_mem_digits {n : Nat} {c : Char} (h : c ∈ digits n) : c.isDigit = true := by
  induction n using Nat.strongRecOn with
  | _ n ih =>
    unfold digits at h
    split at h
    · simp only [List.mem_singleton] at h; exact h ▸ isDigit_digit n
    · rcases List.mem_append.1 h with h | h
      · exact ih (n / 10) (by omega) h
      · simp only [List.mem_singleton] at h; exact h ▸ isDigit_digit n

theorem digits_ne_nil (n : Nat) : digits n ≠ [] := by
  unfold digits
  split <;> simp

/-- A number written out. -/
def render (n : Nat) : String := String.ofList (digits n)

/-- The number that a text of at least one digit spells. -/
def read? (text : List Char) : Option Nat :=
  if !text.isEmpty && text.all Char.isDigit then some (value text) else none

/-- The digits of a number read back as the number. -/
@[simp] theorem read?_digits (n : Nat) : read? (digits n) = some n := by
  have h : (digits n).all Char.isDigit = true :=
    List.all_eq_true.2 fun _ hc => isDigit_of_mem_digits hc
  simp [read?, h, digits_ne_nil]

/-- The number that a text spells, if it has digits and nothing else. -/
theorem read?_eq_some_iff {text : List Char} {n : Nat} :
    read? text = some n ↔ text ≠ [] ∧ (∀ c ∈ text, c.isDigit = true) ∧ value text = n := by
  have hall : (!text.isEmpty && text.all Char.isDigit) = true ↔
      text ≠ [] ∧ ∀ c ∈ text, c.isDigit = true := by
    simp only [Bool.and_eq_true, Bool.not_eq_true', List.isEmpty_eq_false_iff, List.all_eq_true]
  rw [read?, Option.ite_none_right_eq_some, hall, Option.some.injEq, and_assoc]

end EndpointPool.Decimal
