import EndpointPool.Encoding.Utf8
import Mathlib.Algebra.Group.Nat.Defs
import Mathlib.Tactic.SplitIfs

/-!
# The order of texts and the order of their bytes

A character is written as a first byte, which tells how many bytes follow, and that many bytes of
six bits each, the highest bits first. So of two characters the one with the greater code point has
the greater bytes, whatever follows them, and texts come in the same order by their code points as
by their bytes.

## Main definitions

* `Utf8.followers v`: how many bytes follow the first
* `Utf8.lead v`, `Utf8.tails n v`: the first byte, and the bytes that follow

## Main results

* `Utf8.encodeChar_eq`: the bytes of a character
* `Utf8.encode_lt_encode`: the bytes of texts are in the order of the texts
-/

namespace EndpointPool.Utf8

/-- How many bytes follow the first byte of a code point. -/
def followers (v : Nat) : Nat :=
  if v ≤ 127 then 0 else if v ≤ 2047 then 1 else if v ≤ 65535 then 2 else 3

/-- The bits of a first byte that tell how many bytes follow. -/
def mark : Nat → Nat
  | 0 => 0
  | 1 => 192
  | 2 => 224
  | _ => 240

/-- The first byte of a code point. -/
def lead (v : Nat) : Nat := v / 64 ^ followers v + mark (followers v)

/-- The lowest six bits of a code point, `n` times over, the highest first. -/
def tails (v : Nat) : Nat → List UInt8
  | 0 => []
  | n + 1 => .ofNat (v / 64 ^ n % 64 + 128) :: tails v n

variable {v w n : Nat} {c d : Char}

theorem toNat_lt (c : Char) : c.toNat < 1114112 := by
  rcases c.valid with h | h
  · exact Nat.lt_trans h (by decide)
  · exact h.2

/-- A character is written as its first byte and the bytes that follow. -/
theorem encodeChar_eq (c : Char) :
    String.utf8EncodeChar c = .ofNat (lead c.toNat) :: tails c.toNat (followers c.toNat) := by
  have hlt := toNat_lt c
  have hval : c.val.toNat = c.toNat := rfl
  unfold String.utf8EncodeChar lead followers
  rw [hval]
  dsimp only
  split
  · simp [tails, mark]
  · split
    · have hfits : c.toNat / 64 % 32 = c.toNat / 64 := by omega
      simp [tails, mark, hfits]
    · split
      · have hfits : c.toNat / 4096 % 16 = c.toNat / 4096 := by omega
        simp [tails, mark, hfits]
      · have hfits : c.toNat / 262144 % 8 = c.toNat / 262144 := by omega
        simp [tails, mark, hfits]

theorem followers_le (h : v < w) : followers v ≤ followers w := by
  unfold followers
  split_ifs <;> omega

/-- More bytes follow a greater first byte. -/
theorem lead_lt_of_followers_lt (hv : v < 1114112) (h : followers v < followers w) :
    lead v < lead w := by
  unfold lead
  unfold followers at h ⊢
  split_ifs at h ⊢ <;> simp only [mark] <;> omega

theorem lead_lt_size (h : v < 1114112) : lead v < 256 := by
  unfold lead followers
  split_ifs <;> simp only [mark] <;> omega

theorem ofNat_lt_ofNat (hw : w < 256) (h : v < w) : UInt8.ofNat v < UInt8.ofNat w := by
  rwa [UInt8.lt_iff_toNat_lt, UInt8.toNat_ofNat_of_lt' (Nat.lt_trans h hw),
    UInt8.toNat_ofNat_of_lt' hw]

/-- The bytes that follow are in the order of the bits that they hold. -/
theorem tails_append_lt (h : v % 64 ^ n < w % 64 ^ n) (x y : List UInt8) :
    tails v n ++ x < tails w n ++ y := by
  induction n with
  | zero => exact absurd h (by simp [Nat.mod_one])
  | succ n ih =>
    rw [Nat.mod_pow_succ, Nat.mod_pow_succ] at h
    have hv : v % 64 ^ n < 64 ^ n := Nat.mod_lt _ (Nat.pow_pos (by decide))
    have hw : w % 64 ^ n < 64 ^ n := Nat.mod_lt _ (Nat.pow_pos (by decide))
    rw [tails, tails, List.cons_append, List.cons_append, List.cons_lt_cons_iff]
    rcases Nat.lt_trichotomy (v / 64 ^ n % 64) (w / 64 ^ n % 64) with hlt | heq | hgt
    · exact .inl (ofNat_lt_ofNat (by omega) (by omega))
    · rw [heq] at h ⊢
      exact .inr ⟨rfl, ih (Nat.lt_of_add_lt_add_right h)⟩
    · -- the higher bits decide, against the order
      have hle : 64 ^ n * (w / 64 ^ n % 64 + 1) ≤ 64 ^ n * (v / 64 ^ n % 64) :=
        Nat.mul_le_mul_left _ hgt
      rw [Nat.mul_add, Nat.mul_one] at hle
      omega

/-- **A greater character has greater bytes**, whatever follows it. -/
theorem encodeChar_append_lt (h : c < d) (x y : List UInt8) :
    String.utf8EncodeChar c ++ x < String.utf8EncodeChar d ++ y := by
  have hlt : c.toNat < d.toNat := UInt32.lt_iff_toNat_lt.mp h
  rw [encodeChar_eq, encodeChar_eq, List.cons_append, List.cons_append, List.cons_lt_cons_iff]
  rcases Nat.lt_or_eq_of_le (followers_le hlt) with hfollowers | hfollowers
  · exact .inl (ofNat_lt_ofNat (lead_lt_size (toNat_lt d))
      (lead_lt_of_followers_lt (toNat_lt c) hfollowers))
  · have hle : c.toNat / 64 ^ followers d.toNat ≤ d.toNat / 64 ^ followers d.toNat :=
      Nat.div_le_div_right (Nat.le_of_lt hlt)
    rcases Nat.lt_or_eq_of_le hle with hdiv | hdiv
    · left
      refine ofNat_lt_ofNat (lead_lt_size (toNat_lt d)) ?_
      rw [lead, lead, hfollowers]
      exact Nat.add_lt_add_right hdiv _
    · -- the first bytes are the same, so the lower bits are in order
      right
      rw [lead, lead, hfollowers, hdiv]
      refine ⟨rfl, tails_append_lt ?_ x y⟩
      have hc := Nat.div_add_mod c.toNat (64 ^ followers d.toNat)
      have hd := Nat.div_add_mod d.toNat (64 ^ followers d.toNat)
      rw [hdiv] at hc
      omega

/-- **The bytes of texts are in the order of the texts.** -/
theorem encode_lt_encode {s t : List Char} (h : s < t) : encode s < encode t := by
  unfold encode
  induction List.lex_lt.mpr h with
  | nil =>
    rw [List.flatMap_cons, encodeChar_eq]
    exact List.nil_lt_cons _ _
  | cons hrest ih =>
    rw [List.flatMap_cons, List.flatMap_cons]
    exact List.append_left_lt (ih (List.lex_lt.mp hrest))
  | rel hcd =>
    rw [List.flatMap_cons, List.flatMap_cons]
    exact encodeChar_append_lt hcd _ _

end EndpointPool.Utf8
