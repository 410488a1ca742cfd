/-!
# Hexadecimal digits

The digits of numbers below sixteen in either case, the numbers that digits stand for, and the
numbers that several digits spell.
-/

namespace EndpointPool.Hex

/-- The digit of a number below sixteen, in lower case. -/
def lower (n : Nat) : Char :=
  if n % 16 < 10 then Char.ofNat (48 + n % 16) else Char.ofNat (87 + n % 16)

/-- The digit of a number below sixteen, in upper case. -/
def upper (n : Nat) : Char :=
  if n % 16 < 10 then Char.ofNat (48 + n % 16) else Char.ofNat (55 + n % 16)

/-- The number a digit stands for. -/
def value? (c : Char) : Option Nat :=
  if '0' ≤ c ∧ c ≤ '9' then some (c.toNat - 48)
  else if 'a' ≤ c ∧ c ≤ 'f' then some (c.toNat - 87)
  else if 'A' ≤ c ∧ c ≤ 'F' then some (c.toNat - 55)
  else none

theorem value?_lower (n : Nat) : value? (lower n) = some (n % 16) := by
  have h : ∀ k : Fin 16, value? (lower k.val) = some k.val := by decide
  have := h ⟨n % 16, Nat.mod_lt _ (by decide)⟩
  simpa [lower] using this

theorem value?_upper (n : Nat) : value? (upper n) = some (n % 16) := by
  have h : ∀ k : Fin 16, value? (upper k.val) = some k.val := by decide
  have := h ⟨n % 16, Nat.mod_lt _ (by decide)⟩
  simpa [upper] using this

/-- The digits of a number in lower case, without leading zeros. -/
def digits (n : Nat) : List Char :=
  if n < 16 then [lower n] else digits (n / 16) ++ [lower n]
termination_by n
decreasing_by omega

/-- The number that digits spell. -/
def value (text : List Char) : Nat := text.foldl (fun n c => 16 * n + (value? c).getD 0) 0

end EndpointPool.Hex
