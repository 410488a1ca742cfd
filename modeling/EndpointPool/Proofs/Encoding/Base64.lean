import EndpointPool.Encoding.Base64
import EndpointPool.Encoding.Utf8
import Mathlib.Data.List.Basic

/-!
# Reading and writing in Base64

Three bytes are read back from their four symbols, and one or two last bytes from two or three
symbols, whether padding stands behind these or not. Nothing else is read: each number has one
symbol, and a last symbol with bits that belong to no byte is refused. So what is read as some bytes
is what is written for them, except that the padding may be missing or cut short.

## Main definitions

* `Base64.unpad text`: a text without padding
* `Base64.Spells text bytes`: a text is what is written for the bytes, with its padding or less

## Main results

* `Base64.spells_encode`, `Base64.spells_unpad_encode`: the padded and the unpadded form
* `Base64.decode?_eq_some_iff`: what is read is what is spelled
* `Utf8.encode_ascii`: the bytes of an ASCII text
-/

namespace EndpointPool

namespace Base64

/-- A text without padding. -/
def unpad (text : List Char) : List Char := text.filter (· ≠ '=')

/-- The text is what is written for the bytes, with its padding, some of it or none. -/
def Spells (text : List Char) (bytes : List UInt8) : Prop :=
  unpad (encode bytes) <+: text ∧ text <+: encode bytes

theorem symbol_ne_pad (n : Nat) : symbol n ≠ '=' := by
  intro heq
  have hvalue := value?_symbol n
  rw [heq] at hvalue
  cases hvalue

@[simp] theorem unpad_symbol_cons (n : Nat) (text : List Char) :
    unpad (symbol n :: text) = symbol n :: unpad text := by
  simp [unpad, symbol_ne_pad]

/-! ### Symbols put together again -/

/-- A byte is put together again from its parts. -/
private theorem ofNat_eq {n : Nat} {b : UInt8} (h : n = b.toNat) : UInt8.ofNat n = b := by
  rw [h, UInt8.ofNat_toNat]

/-- A number below the number of bytes is a byte's. -/
private theorem toNat_ofNat_of_lt {n : Nat} (h : n < 256) : (UInt8.ofNat n).toNat = n :=
  UInt8.toNat_ofNat_of_lt' h

theorem lastByte?_symbols (a : UInt8) :
    lastByte? (symbol (a.toNat / 4)) (symbol (a.toNat % 4 * 16)) = some [a] := by
  have ha : a.toNat < 256 := a.toNat_lt
  have hspare : a.toNat % 4 * 16 % 64 % 16 = 0 := by omega
  simp only [lastByte?, value?_symbol, hspare, if_true]
  rw [ofNat_eq (b := a) (by omega)]

theorem lastBytes?_symbols (a b : UInt8) :
    lastBytes? (symbol (a.toNat / 4)) (symbol (a.toNat % 4 * 16 + b.toNat / 16))
      (symbol (b.toNat % 16 * 4)) = some [a, b] := by
  have ha : a.toNat < 256 := a.toNat_lt
  have hb : b.toNat < 256 := b.toNat_lt
  have hspare : b.toNat % 16 * 4 % 64 % 4 = 0 := by omega
  simp only [lastBytes?, value?_symbol, hspare, if_true]
  rw [ofNat_eq (b := a) (by omega), ofNat_eq (b := b) (by omega)]

/-- Four symbols that are not the last are three bytes. -/
theorem decode?_symbols (a b c : UInt8) {text : List Char} {bytes : List UInt8}
    (h : decode? text = some bytes) :
    decode? (symbol (a.toNat / 4) :: symbol (a.toNat % 4 * 16 + b.toNat / 16)
      :: symbol (b.toNat % 16 * 4 + c.toNat / 64) :: symbol (c.toNat % 64) :: text) =
        some (a :: b :: c :: bytes) := by
  have ha : a.toNat < 256 := a.toNat_lt
  have hb : b.toNat < 256 := b.toNat_lt
  have hc : c.toNat < 256 := c.toNat_lt
  rw [decode?, if_neg fun hpad => symbol_ne_pad _ hpad.1]
  simp only [value?_symbol, h]
  rw [ofNat_eq (b := a) (by omega), ofNat_eq (b := b) (by omega), ofNat_eq (b := c) (by omega)]

/-! ### What is spelled -/

section Spells

variable {text : List Char} {bytes : List UInt8}

theorem spells_nil_iff : Spells text [] ↔ text = [] := by
  simp [Spells, encode, unpad]

theorem spells_singleton_iff (a : UInt8) :
    Spells text [a] ↔ ∃ pad, pad <+: ['=', '='] ∧
      text = symbol (a.toNat / 4) :: symbol (a.toNat % 4 * 16) :: pad := by
  have hunpad : unpad ['=', '='] = [] := rfl
  simp only [Spells, encode, unpad_symbol_cons, hunpad]
  constructor
  · rintro ⟨⟨pad, rfl⟩, hlong⟩
    exact ⟨pad, by simpa using hlong, rfl⟩
  · rintro ⟨pad, hpad, rfl⟩
    exact ⟨⟨pad, rfl⟩, by simpa using hpad⟩

theorem spells_pair_iff (a b : UInt8) :
    Spells text [a, b] ↔ ∃ pad, pad <+: ['='] ∧
      text = symbol (a.toNat / 4) :: symbol (a.toNat % 4 * 16 + b.toNat / 16) ::
        symbol (b.toNat % 16 * 4) :: pad := by
  have hunpad : unpad ['='] = [] := rfl
  simp only [Spells, encode, unpad_symbol_cons, hunpad]
  constructor
  · rintro ⟨⟨pad, rfl⟩, hlong⟩
    exact ⟨pad, by simpa using hlong, rfl⟩
  · rintro ⟨pad, hpad, rfl⟩
    exact ⟨⟨pad, rfl⟩, by simpa using hpad⟩

theorem spells_cons_iff (a b c : UInt8) :
    Spells text (a :: b :: c :: bytes) ↔ ∃ rest, Spells rest bytes ∧
      text = symbol (a.toNat / 4) :: symbol (a.toNat % 4 * 16 + b.toNat / 16) ::
        symbol (b.toNat % 16 * 4 + c.toNat / 64) :: symbol (c.toNat % 64) :: rest := by
  simp only [Spells, encode, unpad_symbol_cons]
  constructor
  · rintro ⟨⟨behind, rfl⟩, hlong⟩
    exact ⟨unpad (encode bytes) ++ behind, ⟨List.prefix_append _ _, by simpa using hlong⟩, rfl⟩
  · rintro ⟨rest, ⟨hshort, hlong⟩, rfl⟩
    exact ⟨by simpa using hshort, by simpa using hlong⟩

/-- What is written for bytes spells them. -/
theorem spells_encode (bytes : List UInt8) : Spells (encode bytes) bytes := by
  fun_induction encode bytes with
  | case1 => exact spells_nil_iff.mpr rfl
  | case2 a => exact (spells_singleton_iff a).mpr ⟨_, List.prefix_rfl, rfl⟩
  | case3 a b => exact (spells_pair_iff a b).mpr ⟨_, List.prefix_rfl, rfl⟩
  | case4 a b c rest ih => exact (spells_cons_iff a b c).mpr ⟨_, ih, rfl⟩

/-- Padding is not needed. -/
theorem spells_unpad_encode (bytes : List UInt8) : Spells (unpad (encode bytes)) bytes :=
  ⟨List.prefix_rfl, (spells_encode bytes).1⟩

/-- **Bytes are read back from what is written for them**, whatever is left of the padding. -/
theorem decode?_of_spells (h : Spells text bytes) : decode? text = some bytes := by
  fun_induction encode bytes generalizing text with
  | case1 =>
    rw [spells_nil_iff.mp h]
    rfl
  | case2 a =>
    obtain ⟨pad, hpad, rfl⟩ := (spells_singleton_iff a).mp h
    simp only [List.prefix_cons_iff, List.prefix_nil] at hpad
    obtain rfl | ⟨_, rfl, rfl | ⟨_, rfl, rfl⟩⟩ := hpad
    · simp [decode?, lastByte?_symbols]
    · simp [decode?, lastByte?_symbols]
    · simp [decode?, lastByte?_symbols]
  | case3 a b =>
    obtain ⟨pad, hpad, rfl⟩ := (spells_pair_iff a b).mp h
    simp only [List.prefix_cons_iff, List.prefix_nil] at hpad
    obtain rfl | ⟨_, rfl, rfl⟩ := hpad
    · simp [decode?, symbol_ne_pad, lastBytes?_symbols]
    · simp [decode?, symbol_ne_pad, lastBytes?_symbols]
  | case4 a b c bytes ih =>
    obtain ⟨rest, hrest, rfl⟩ := (spells_cons_iff a b c).mp h
    exact decode?_symbols a b c (ih hrest)

end Spells

/-! ### What is read -/

section Read

variable {a b c d : Char} {n : Nat} {text : List Char} {bytes : List UInt8}

theorem symbol_of_lt (h : n < 64) :
    symbol n = if n < 26 then Char.ofNat (65 + n) else if n < 52 then Char.ofNat (71 + n)
      else if n < 62 then Char.ofNat (n - 4) else if n = 62 then '+' else '/' := by
  simp only [symbol, Nat.mod_eq_of_lt h]

/-- A number is read from its own symbol only. -/
theorem eq_symbol_of_value? (h : value? c = some n) : n < 64 ∧ c = symbol n := by
  have hback : ∀ {m}, m = c.toNat → Char.ofNat m = c := fun hm => hm ▸ Char.ofNat_toNat c
  rw [value?] at h
  split at h
  · next hupper =>
    have hrange : 65 ≤ c.toNat ∧ c.toNat ≤ 90 := hupper
    cases h
    refine ⟨by omega, ?_⟩
    rw [symbol_of_lt (by omega), if_pos (by omega), hback (by omega)]
  split at h
  · next hlower =>
    have hrange : 97 ≤ c.toNat ∧ c.toNat ≤ 122 := hlower
    cases h
    refine ⟨by omega, ?_⟩
    rw [symbol_of_lt (by omega), if_neg (by omega), if_pos (by omega), hback (by omega)]
  split at h
  · next hdigit =>
    have hrange : 48 ≤ c.toNat ∧ c.toNat ≤ 57 := hdigit
    cases h
    refine ⟨by omega, ?_⟩
    rw [symbol_of_lt (by omega), if_neg (by omega), if_neg (by omega), if_pos (by omega),
      hback (by omega)]
  split at h
  · next hplus =>
    cases h
    exact ⟨by decide, hplus⟩
  split at h
  · next hslash =>
    cases h
    exact ⟨by decide, hslash⟩
  · cases h

/-- Two last symbols that are read spell one byte. -/
theorem exists_of_lastByte? (h : lastByte? a b = some bytes) :
    ∃ x : UInt8, bytes = [x] ∧ a = symbol (x.toNat / 4) ∧ b = symbol (x.toNat % 4 * 16) := by
  unfold lastByte? at h
  split at h
  · next m n hm hn =>
    obtain ⟨hm, rfl⟩ := eq_symbol_of_value? hm
    obtain ⟨hn, rfl⟩ := eq_symbol_of_value? hn
    obtain ⟨hspare, hbytes⟩ := Option.ite_none_right_eq_some.mp h
    have hfirst : (m * 4 + n / 16) / 4 = m := by omega
    have hsecond : (m * 4 + n / 16) % 4 * 16 = n := by omega
    refine ⟨_, (Option.some.inj hbytes).symm, ?_⟩
    rw [toNat_ofNat_of_lt (by omega), hfirst, hsecond]
    exact ⟨rfl, rfl⟩
  · cases h

/-- Three last symbols that are read spell two bytes. -/
theorem exists_of_lastBytes? (h : lastBytes? a b c = some bytes) :
    ∃ x y : UInt8, bytes = [x, y] ∧ a = symbol (x.toNat / 4) ∧
      b = symbol (x.toNat % 4 * 16 + y.toNat / 16) ∧ c = symbol (y.toNat % 16 * 4) := by
  unfold lastBytes? at h
  split at h
  · next m n k hm hn hk =>
    obtain ⟨hm, rfl⟩ := eq_symbol_of_value? hm
    obtain ⟨hn, rfl⟩ := eq_symbol_of_value? hn
    obtain ⟨hk, rfl⟩ := eq_symbol_of_value? hk
    obtain ⟨hspare, hbytes⟩ := Option.ite_none_right_eq_some.mp h
    have hfirst : (m * 4 + n / 16) / 4 = m := by omega
    have hsecond : (m * 4 + n / 16) % 4 * 16 + (n % 16 * 16 + k / 4) / 16 = n := by omega
    have hthird : (n % 16 * 16 + k / 4) % 16 * 4 = k := by omega
    refine ⟨_, _, (Option.some.inj hbytes).symm, ?_⟩
    rw [toNat_ofNat_of_lt (by omega), toNat_ofNat_of_lt (by omega), hfirst, hsecond,
      hthird]
    exact ⟨rfl, rfl, rfl⟩
  · cases h

theorem spells_of_lastByte? (h : lastByte? a b = some bytes) {pad : List Char}
    (hpad : pad <+: ['=', '=']) : Spells (a :: b :: pad) bytes := by
  obtain ⟨x, rfl, rfl, rfl⟩ := exists_of_lastByte? h
  exact (spells_singleton_iff x).mpr ⟨pad, hpad, rfl⟩

theorem spells_of_lastBytes? (h : lastBytes? a b c = some bytes) {pad : List Char}
    (hpad : pad <+: ['=']) : Spells (a :: b :: c :: pad) bytes := by
  obtain ⟨x, y, rfl, rfl, rfl, rfl⟩ := exists_of_lastBytes? h
  exact (spells_pair_iff x y).mpr ⟨pad, hpad, rfl⟩

/-- **What is read is spelled**: nothing but what is written for the bytes is read as them. -/
theorem spells_of_decode? (h : decode? text = some bytes) : Spells text bytes := by
  fun_induction decode? text generalizing bytes with
  | case1 =>
    cases h
    exact spells_nil_iff.mpr rfl
  | case2 => cases h
  | case3 a b => exact spells_of_lastByte? h List.nil_prefix
  | case4 a b => exact spells_of_lastByte? h (by simp)
  | case5 a b c => exact spells_of_lastBytes? h List.nil_prefix
  | case6 a b d rest hlast =>
    obtain ⟨rfl, rfl⟩ := hlast
    exact spells_of_lastByte? h List.prefix_rfl
  | case7 a b c d rest hlast =>
    obtain ⟨rfl, rfl⟩ := hlast
    exact spells_of_lastBytes? h List.prefix_rfl
  | case8 a b c d rest _ m n k l bytes' hbytes' hl hk hn hm ih =>
    cases h
    obtain ⟨hm64, rfl⟩ := eq_symbol_of_value? hm
    obtain ⟨hn64, rfl⟩ := eq_symbol_of_value? hn
    obtain ⟨hk64, rfl⟩ := eq_symbol_of_value? hk
    obtain ⟨hl64, rfl⟩ := eq_symbol_of_value? hl
    have hfirst : (m * 4 + n / 16) / 4 = m := by omega
    have hsecond : (m * 4 + n / 16) % 4 * 16 + (n % 16 * 16 + k / 4) / 16 = n := by omega
    have hthird : (n % 16 * 16 + k / 4) % 16 * 4 + (k % 4 * 64 + l) / 64 = k := by omega
    have hfourth : (k % 4 * 64 + l) % 64 = l := by omega
    refine (spells_cons_iff _ _ _).mpr ⟨rest, ih hbytes', ?_⟩
    rw [toNat_ofNat_of_lt (by omega), toNat_ofNat_of_lt (by omega),
      toNat_ofNat_of_lt (by omega), hfirst, hsecond, hthird, hfourth]
  | case9 => cases h

theorem decode?_eq_some_iff : decode? text = some bytes ↔ Spells text bytes :=
  ⟨spells_of_decode?, decode?_of_spells⟩

end Read
end Base64

namespace Utf8

theorem encodeChar_ascii {c : Char} (h : c.toNat < 128) :
    String.utf8EncodeChar c = [UInt8.ofNat c.toNat] := by
  have hle : c.val.toNat ≤ 127 := Nat.le_of_lt_succ h
  rw [String.utf8EncodeChar, if_pos hle]
  rfl

theorem toNat_ofNat_ascii {c : Char} (h : c.toNat < 128) :
    (UInt8.ofNat c.toNat).toNat = c.toNat :=
  UInt8.toNat_ofNat_of_lt' (Nat.lt_trans h (by decide))

/-- An ASCII text has one byte for each character. -/
theorem encode_ascii {text : List Char} (h : ∀ c ∈ text, c.toNat < 128) :
    encode text = text.map fun c => UInt8.ofNat c.toNat := by
  induction text with
  | nil => rfl
  | cons c text ih =>
    have hrest := ih fun d hd => h d (List.mem_cons_of_mem c hd)
    rw [encode] at hrest ⊢
    rw [List.flatMap_cons, encodeChar_ascii (h c List.mem_cons_self), hrest]
    rfl

end Utf8

end EndpointPool
