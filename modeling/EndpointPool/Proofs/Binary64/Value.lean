import EndpointPool.Binary64.Seconds
import Mathlib.Algebra.Order.Field.Basic
import Mathlib.Data.Rat.Cast.Order
import Mathlib.Order.Monotone.Basic
import Mathlib.Tactic.NormNum

/-!
# The values of binary64 numbers

A finite number is worth the value at its rank, with its sign. The value grows with the rank, so the
numbers compare as their values do. A number of seconds becomes the nearest number of nanoseconds,
which is a duration if the value is below `2 ^ 64`, and is zero up to half a nanosecond.

## Main definitions

* `Binary64.value?`: the value of a finite number

## Main results

* `Binary64.multiple_strictMono`: the value at a rank grows with the rank
* `Binary64.lt_iff`: finite numbers compare as their values
* `Duration.exists_ofSeconds_iff`, `Duration.ofSeconds_le`, `Duration.ofSeconds_eq_zero_iff`: which
  numbers of seconds are durations, and how these compare
-/

namespace EndpointPool

/-! ### Rounding -/

/-- The nearest integer grows with the fraction. -/
theorem divHalfEven_mono {a a' : Nat} (h : a ≤ a') (b : Nat) :
    divHalfEven a b ≤ divHalfEven a' b := by
  have hq : a / b ≤ a' / b := Nat.div_le_div_right h
  have ha := Nat.div_add_mod a b
  have ha' := Nat.div_add_mod a' b
  simp only [divHalfEven]
  rcases hq.lt_or_eq with hlt | heq
  · split <;> split <;> omega
  · rw [← heq] at ha' ⊢
    split <;> split <;> omega

/-- A fraction is rounded to zero up to a half. -/
theorem divHalfEven_eq_zero_iff {a b : Nat} (hb : 0 < b) : divHalfEven a b = 0 ↔ 2 * a ≤ b := by
  simp only [divHalfEven]
  by_cases h : a < b
  · rw [Nat.div_eq_of_lt h, Nat.mod_eq_of_lt h]
    split <;> omega
  · have hq : 0 < a / b := Nat.div_pos (Nat.le_of_not_lt h) hb
    split <;> omega

namespace Binary64

/-- The value of a finite number. -/
def value? : Binary64 → Option ℚ
  | .nan | .infinite _ => none
  | .finite negative rank _ =>
    some ((if negative then -(multiple rank : ℤ) else multiple rank : ℤ) / leastDivisor)

/-! ### Values and ranks -/

/-- In the first two spans of ranks, a value is as many least values as its rank says. -/
theorem multiple_of_lt {r : Nat} (h : r < 2 * Nat.pow 2 52) : multiple r = r := by
  have hscale : scale r = 0 := by
    have hdiv : r / Nat.pow 2 52 < 2 := Nat.div_lt_of_lt_mul (by omega)
    simp only [scale]
    omega
  have hsignificand : significand r = r := by
    simp only [significand]
    split
    · rfl
    · next hge =>
      rw [Nat.mod_eq_sub_mod (Nat.le_of_not_lt hge), Nat.mod_eq_of_lt (by omega)]
      omega
  rw [multiple, hscale, hsignificand]
  exact Nat.mul_one r

/-- From the second span on, significands are full, and each span has a power of two of its own. -/
theorem multiple_add {f : Nat} (hf : f < Nat.pow 2 52) (e : Nat) :
    multiple ((e + 1) * Nat.pow 2 52 + f) = (f + Nat.pow 2 52) * 2 ^ e := by
  have hdiv : ((e + 1) * Nat.pow 2 52 + f) / Nat.pow 2 52 = e + 1 := by
    rw [Nat.add_comm, Nat.add_mul_div_right _ _ (by decide), Nat.div_eq_of_lt hf, Nat.zero_add]
  have hmod : ((e + 1) * Nat.pow 2 52 + f) % Nat.pow 2 52 = f := by
    rw [Nat.add_comm, Nat.add_mul_mod_self_right, Nat.mod_eq_of_lt hf]
  have hge : ¬ (e + 1) * Nat.pow 2 52 + f < Nat.pow 2 52 := by
    rw [Nat.add_mul]
    omega
  rw [multiple, significand, scale, if_neg hge, hdiv, hmod]
  rfl

theorem multiple_lt_succ (r : Nat) : multiple r < multiple (r + 1) := by
  have hsplit := Nat.div_add_mod' r (Nat.pow 2 52)
  have hf : r % Nat.pow 2 52 < Nat.pow 2 52 := Nat.mod_lt _ (by decide)
  cases he : r / Nat.pow 2 52 with
  | zero =>
    rw [he] at hsplit
    rw [multiple_of_lt (by omega), multiple_of_lt (by omega)]
    exact Nat.lt_add_one r
  | succ e =>
    rw [he] at hsplit
    generalize r % Nat.pow 2 52 = f at hsplit hf
    subst hsplit
    rw [multiple_add hf, Nat.add_assoc]
    rcases Nat.lt_or_eq_of_le (Nat.succ_le_of_lt hf) with hlt | heq
    · rw [multiple_add hlt]
      exact Nat.mul_lt_mul_of_pos_right (by omega) (Nat.two_pow_pos e)
    · have hnext : (e + 1) * Nat.pow 2 52 + (f + 1) = (e + 1 + 1) * Nat.pow 2 52 + 0 := by
        rw [← Nat.succ_eq_add_one f, heq, Nat.add_mul (e + 1) 1, Nat.one_mul, Nat.add_zero]
      rw [hnext, multiple_add (by decide), Nat.zero_add, Nat.pow_succ, Nat.mul_comm (2 ^ e) 2,
        ← Nat.mul_assoc]
      exact Nat.mul_lt_mul_of_pos_right (by omega) (Nat.two_pow_pos e)

/-- **The value at a rank grows with the rank.** -/
theorem multiple_strictMono : StrictMono multiple := strictMono_nat_of_lt_succ multiple_lt_succ

theorem multiple_pos_iff (r : Nat) : 0 < multiple r ↔ 0 < r := by
  have hlt := multiple_strictMono.lt_iff_lt (a := 0) (b := r)
  rwa [multiple_of_lt (by decide)] at hlt

theorem leastDivisor_pos : 0 < leastDivisor := by decide +kernel

theorem cast_leastDivisor_pos : (0 : ℚ) < leastDivisor := Nat.cast_pos.mpr leastDivisor_pos

/-- **Finite numbers compare as their values.** -/
theorem lt_iff {x y : Binary64} {v w : ℚ} (hv : x.value? = some v) (hw : y.value? = some w) :
    x.lt y = true ↔ v < w := by
  cases x with
  | nan | infinite => cases hv
  | finite negative r hr =>
    cases y with
    | nan | infinite => cases hw
    | finite negative' r' hr' =>
      obtain rfl := Option.some.inj hv
      obtain rfl := Option.some.inj hw
      have hlt := multiple_strictMono.lt_iff_lt (a := r) (b := r')
      have hgt := multiple_strictMono.lt_iff_lt (a := r') (b := r)
      have hpos := multiple_pos_iff r
      have hpos' := multiple_pos_iff r'
      rw [div_lt_div_iff_of_pos_right cast_leastDivisor_pos, Int.cast_lt]
      simp only [lt, place?, decide_eq_true_eq]
      -- of one sign the ranks decide, of two the signs
      cases negative <;> cases negative' <;>
        simp only [if_true, Bool.false_eq_true, if_false] <;> omega

theorem value?_ofNat_zero : (ofNat 0).value? = some 0 := by
  have hzero : ofNat 0 = .finite false 0 (by decide) := by decide +kernel
  rw [hzero, value?, if_neg Bool.false_ne_true, multiple_of_lt (by decide), Nat.cast_zero,
    Int.cast_zero, zero_div]

theorem isFinite_iff (x : Binary64) : x.isFinite = true ↔ ∃ v, x.value? = some v := by
  cases x with
  | nan | infinite => exact iff_of_false Bool.false_ne_true fun ⟨_, h⟩ => nomatch h
  | finite negative rank h => exact iff_of_true rfl ⟨_, rfl⟩

end Binary64

namespace Duration

open Binary64 (value? multiple leastDivisor leastDivisor_pos cast_leastDivisor_pos)

/-! ### Numbers of seconds -/

theorem exists_nanos_iff {n : Nat} :
    (∃ d : Duration, d.nanos = n) ↔ n < UInt64.size * nanosPerSecond :=
  ⟨fun ⟨d, hd⟩ => hd ▸ d.lt_limit, fun h => ⟨⟨n, h⟩, rfl⟩⟩

theorem nanosOfRank_mono {r r' : Nat} (h : r ≤ r') : nanosOfRank r ≤ nanosOfRank r' :=
  divHalfEven_mono (Nat.mul_le_mul_right _ (Binary64.multiple_strictMono.monotone h)) _

/-- The rank of `2 ^ 64`. -/
def limitRank : Nat := 1087 * Nat.pow 2 52

theorem multiple_limitRank : multiple limitRank = 2 ^ 64 * leastDivisor := by decide +kernel

/-- Seconds below `2 ^ 64` are a duration, and no other. -/
theorem nanosOfRank_lt_iff (r : Nat) :
    nanosOfRank r < UInt64.size * nanosPerSecond ↔ multiple r < 2 ^ 64 * leastDivisor := by
  have hat : nanosOfRank limitRank = UInt64.size * nanosPerSecond := by decide +kernel
  have hbelow : nanosOfRank (limitRank - 1) < UInt64.size * nanosPerSecond := by decide +kernel
  rw [← multiple_limitRank, Binary64.multiple_strictMono.lt_iff_lt]
  constructor
  · intro h
    by_contra hle
    have hmono := nanosOfRank_mono (Nat.le_of_not_lt hle)
    rw [hat] at hmono
    omega
  · -- the number before is so far below that it is not rounded up to the limit
    intro h
    exact Nat.lt_of_le_of_lt (nanosOfRank_mono (Nat.le_sub_one_of_lt h)) hbelow

/-- A number of seconds that is not negative is as long as its rank says, if that is a duration. -/
theorem exists_rank {x : Binary64} {v : ℚ} (hv : x.value? = some v) (hpos : 0 ≤ v) :
    ∃ r, v = multiple r / leastDivisor ∧ (∀ d, ofSeconds x = .ok d ↔ d.nanos = nanosOfRank r) ∧
      ∀ cause, ofSeconds x = .error cause → cause = .tooLarge := by
  cases x with
  | nan | infinite => cases hv
  | finite negative r hr =>
    obtain rfl := Option.some.inj hv
    rw [le_div_iff₀ cast_leastDivisor_pos, zero_mul, Int.cast_nonneg_iff] at hpos
    have hsign : ¬ (negative = true ∧ 0 < r) := by
      rintro ⟨rfl, hr⟩
      have := (Binary64.multiple_pos_iff r).mpr hr
      simp only [if_true] at hpos
      omega
    refine ⟨r, ?_, fun d => ?_, fun cause => ?_⟩
    · cases negative with
      | false => rw [if_neg Bool.false_ne_true, Int.cast_natCast]
      | true =>
        obtain rfl : r = 0 := Nat.eq_zero_of_not_pos fun hr => hsign ⟨rfl, hr⟩
        rw [if_pos rfl, Binary64.multiple_of_lt (by decide), Int.cast_neg, Int.cast_natCast,
          Nat.cast_zero, neg_zero]
    · rw [ofSeconds, if_neg hsign, ← ofNanos?_eq_some_iff]
      cases ofNanos? (nanosOfRank r) with
      | none => exact iff_of_false nofun nofun
      | some d' => simp only [Except.ok.injEq, Option.some.injEq]
    · rw [ofSeconds, if_neg hsign]
      split
      · exact nofun
      · exact fun heq => (Except.error.inj heq).symm

variable {x y : Binary64} {v w : ℚ} {d e : Duration}

/-- **A number of seconds that is not negative is a duration below `2 ^ 64`**, and too large from
there on. -/
theorem exists_ofSeconds_iff (hv : x.value? = some v) (hpos : 0 ≤ v) :
    (∃ d, ofSeconds x = .ok d) ↔ v < 2 ^ 64 := by
  obtain ⟨r, rfl, hok, -⟩ := exists_rank hv hpos
  rw [div_lt_iff₀ cast_leastDivisor_pos]
  have hlt : (multiple r : ℚ) < 2 ^ 64 * leastDivisor ↔ multiple r < 2 ^ 64 * leastDivisor := by
    exact_mod_cast Iff.rfl
  simp only [hok]
  rw [hlt, ← nanosOfRank_lt_iff, exists_nanos_iff]

theorem ofSeconds_eq_error (hv : x.value? = some v) (hpos : 0 ≤ v) {cause : SecondsFault}
    (h : ofSeconds x = .error cause) : cause = .tooLarge ∧ 2 ^ 64 ≤ v := by
  constructor
  · obtain ⟨r, -, -, herror⟩ := exists_rank hv hpos
    exact herror cause h
  · rw [← not_lt, ← exists_ofSeconds_iff hv hpos, h]
    exact fun ⟨_, hok⟩ => nomatch hok

/-- A larger number of seconds is no shorter a duration. -/
theorem ofSeconds_le (hv : x.value? = some v) (hw : y.value? = some w) (hpos : 0 ≤ v) (hle : v ≤ w)
    (hd : ofSeconds x = .ok d) (he : ofSeconds y = .ok e) : d ≤ e := by
  obtain ⟨r, rfl, hok, -⟩ := exists_rank hv hpos
  obtain ⟨r', rfl, hok', -⟩ := exists_rank hw (hpos.trans hle)
  rw [div_le_div_iff_of_pos_right cast_leastDivisor_pos, Nat.cast_le,
    Binary64.multiple_strictMono.le_iff_le] at hle
  rw [le_def, (hok d).mp hd, (hok' e).mp he]
  exact nanosOfRank_mono hle

/-- **A number of seconds is no time at all up to half a nanosecond.** -/
theorem ofSeconds_eq_zero_iff (hv : x.value? = some v) (hpos : 0 ≤ v) (hd : ofSeconds x = .ok d) :
    d.nanos = 0 ↔ v ≤ 1 / (2 * nanosPerSecond) := by
  obtain ⟨r, rfl, hok, -⟩ := exists_rank hv hpos
  rw [(hok d).mp hd, nanosOfRank, divHalfEven_eq_zero_iff leastDivisor_pos,
    div_le_div_iff₀ cast_leastDivisor_pos (by norm_num [nanosPerSecond]), one_mul]
  have hle : (multiple r : ℚ) * (2 * nanosPerSecond) ≤ leastDivisor ↔
      multiple r * (2 * nanosPerSecond) ≤ leastDivisor := by
    exact_mod_cast Iff.rfl
  rw [hle, Nat.mul_left_comm]

end Duration

end EndpointPool
