import EndpointPool.Encoding.Percent
import EndpointPool.Proofs.Encoding.Base64
import EndpointPool.Unicode.Alphanumeric

/-!
# Bytes written in texts

The bytes of a text determine the text. Bytes may be written with percent signs: letters and digits
may stand for themselves, and any byte may be a triple, with digits of either case. However bytes
are written, they are what is read.

## Main definitions

* `Percent.Escapes written bytes`: a text writes bytes

## Main results

* `Utf8.decode?_eq_some_iff`: the bytes that have a text
* `Percent.Escapes.decode_eq`: what is written is read
* `Percent.escapes_encode`: every text can be written
-/

namespace EndpointPool

/-! ### The text of bytes -/

namespace Utf8

/-- Bytes have a text if they are the bytes of it. -/
theorem decode?_eq_some_iff {bytes : List UInt8} {text : String} :
    decode? bytes = some text ↔ encode text.toList = bytes := by
  have hbytes : (encode text.toList).toByteArray = text.toByteArray := String.utf8Encode_toList
  rw [← List.toByteArray_inj, hbytes]
  unfold decode? String.fromUTF8?
  constructor
  · intro h
    split at h
    · cases h
      rfl
    · cases h
  · intro h
    have hvalid : bytes.toByteArray.IsValidUTF8 := h ▸ text.isValidUTF8
    rw [dif_pos hvalid]
    exact congrArg some (String.toByteArray_inj.mp h.symm)

theorem encode_injective {s t : String} (h : encode s.toList = encode t.toList) : s = t := by
  have hs := decode?_eq_some_iff.mpr h
  rw [decode?_eq_some_iff.mpr rfl] at hs
  exact (Option.some.inj hs).symm

end Utf8

/-! ### Percent signs -/

/-- The digits of hexadecimal numbers are letters and digits. -/
theorem Hex.isAlphanum_of_value? {c : Char} {n : Nat} (h : value? c = some n) :
    c.isAlphanum = true := by
  unfold value? at h
  split at h
  · next hdigit =>
    apply (Bool.or_eq_true _ _).mpr
    right
    exact (Bool.and_eq_true _ _).mpr ⟨decide_eq_true hdigit.1, decide_eq_true hdigit.2⟩
  · apply (Bool.or_eq_true _ _).mpr
    left
    apply (Bool.or_eq_true _ _).mpr
    split at h
    · next hlower =>
      right
      exact (Bool.and_eq_true _ _).mpr
        ⟨decide_eq_true hlower.1, decide_eq_true (UInt32.le_trans hlower.2 (by decide))⟩
    · split at h
      · next hupper =>
        left
        exact decide_eq_true ⟨hupper.1, UInt32.le_trans hupper.2 (by decide)⟩
      · cases h

namespace Percent

/-- A text writes bytes: each character is a letter or a digit of ASCII and stands for itself, or
it is part of a triple. -/
inductive Escapes : List Char → List UInt8 → Prop
  | nil : Escapes [] []
  | plain {c : Char} {written : List Char} {bytes : List UInt8} (hc : c.isAlphanum = true)
    (h : Escapes written bytes) : Escapes (c :: written) (UInt8.ofNat c.toNat :: bytes)
  | triple {high low : Char} {x y : Nat} {written : List Char} {bytes : List UInt8}
    (hx : Hex.value? high = some x) (hy : Hex.value? low = some y) (h : Escapes written bytes) :
    Escapes ('%' :: high :: low :: written) (UInt8.ofNat (16 * x + y) :: bytes)

variable {written written' text : List Char} {bytes bytes' : List UInt8} {c : Char}

theorem decode_cons_of_ne (hc : c ≠ '%') (rest : List Char) :
    decode (c :: rest) = String.utf8EncodeChar c ++ decode rest := by
  rw [decode]
  intro h l rest' heq
  exact absurd heq hc

/-- Without percent signs, a text is its own bytes. -/
theorem decode_of_not_mem (h : '%' ∉ text) : decode text = Utf8.encode text := by
  induction text with
  | nil => rfl
  | cons c text ih =>
    obtain ⟨hc, htext⟩ := List.ne_and_not_mem_of_not_mem_cons h
    rw [decode_cons_of_ne hc.symm, ih htext]
    rfl

/-- **What is written is read.** -/
theorem Escapes.decode_eq (h : Escapes written bytes) : decode written = bytes := by
  induction h with
  | nil => rfl
  | @plain c written bytes hc h ih =>
    have hne : c ≠ '%' := by
      rintro rfl
      cases hc
    rw [decode_cons_of_ne hne, Utf8.encodeChar_ascii (Unicode.toNat_lt_of_isAlphanum hc), ih]
    rfl
  | triple hx hy h ih =>
    rw [decode, hx, hy, ih]

theorem Escapes.append (h : Escapes written bytes) (h' : Escapes written' bytes') :
    Escapes (written ++ written') (bytes ++ bytes') := by
  induction h with
  | nil => exact h'
  | plain hc _ ih => exact .plain hc ih
  | triple hx hy _ ih => exact .triple hx hy ih

theorem escapes_triples (bytes : List UInt8) : Escapes (bytes.flatMap triple) bytes := by
  induction bytes with
  | nil => exact .nil
  | cons b bytes ih =>
    have hb := Escapes.triple (Hex.value?_upper (b.toNat / 16)) (Hex.value?_upper b.toNat) ih
    have hbyte : 16 * (b.toNat / 16 % 16) + b.toNat % 16 = b.toNat := by
      have := b.toNat_lt
      omega
    rwa [hbyte, UInt8.ofNat_toNat] at hb

/-- Every text can be written, with triples for all but letters and digits. -/
theorem escapes_encode (text : List Char) :
    Escapes (encode Char.isAlphanum text) (Utf8.encode text) := by
  induction text with
  | nil => exact .nil
  | cons c text ih =>
    refine Escapes.append ?_ ih
    beta_reduce
    by_cases hc : c.isAlphanum = true
    · rw [if_pos hc, Utf8.encodeChar_ascii (Unicode.toNat_lt_of_isAlphanum hc)]
      exact .plain hc .nil
    · rw [if_neg hc]
      exact escapes_triples _

/-- A text that writes bytes has no other characters than letters, digits and percent signs. -/
theorem Escapes.of_mem (h : Escapes written bytes) (hc : c ∈ written) :
    c = '%' ∨ c.isAlphanum = true := by
  induction h with
  | nil => cases hc
  | plain hplain _ ih =>
    rcases List.mem_cons.mp hc with rfl | hc
    · exact .inr hplain
    · exact ih hc
  | triple hx hy _ ih =>
    rcases List.mem_cons.mp hc with rfl | hc
    · exact .inl rfl
    · rcases List.mem_cons.mp hc with rfl | hc
      · exact .inr (Hex.isAlphanum_of_value? hx)
      · rcases List.mem_cons.mp hc with rfl | hc
        · exact .inr (Hex.isAlphanum_of_value? hy)
        · exact ih hc

/-- Only no bytes are written as nothing. -/
theorem Escapes.eq_nil_iff (h : Escapes written bytes) : written = [] ↔ bytes = [] := by
  cases h <;> simp

end Percent

end EndpointPool
