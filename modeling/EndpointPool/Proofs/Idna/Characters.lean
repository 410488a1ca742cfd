import EndpointPool.Idna.Domain
import EndpointPool.Proofs.Text.Parts

/-!
# The characters of domain names in ASCII

What a label stands for has none of the characters that delimit the parts of a URL, and neither has
what is written for it: Punycode shows only characters of the label, hyphens, and digits. So a
domain name in ASCII can stand in a URL as it is.

## Main definitions

* `Idna.IsHostChar c`: an ASCII character that hosts may contain

## Main results

* `Punycode.of_mem_encode`, `Punycode.of_mem_of_decode?`: the characters of Punycode that is
  written, and of Punycode that is read
* `Idna.isHostChar_of_mem_domainToAscii?`: the characters of a domain name in ASCII
-/

namespace EndpointPool

namespace Punycode

/-- A digit of Punycode. -/
def IsDigit (c : Char) : Prop := (digitValue? c).isSome = true

theorem isDigit_digit {n : Nat} (h : n < 36) : IsDigit (digit n) := by
  have hall : ∀ k : Fin 36, (digitValue? (digit k.val)).isSome = true := by decide
  exact hall ⟨n, h⟩

/-! ### What is written -/

theorem isDigit_of_mem_encodeNumber {bias place n : Nat} {c : Char}
    (h : c ∈ encodeNumber bias place n) : IsDigit c := by
  fun_induction encodeNumber bias place n with
  | case1 place n t hlt =>
    have hbound : t ≤ 26 := threshold_le bias place
    rw [List.mem_singleton.mp h]
    exact isDigit_digit (by omega)
  | case2 place n t hle ih =>
    have hbound : t ≤ 26 := threshold_le bias place
    have hmod : (n - t) % (36 - t) < 36 - t := Nat.mod_lt _ (by omega)
    rcases List.mem_cons.mp h with rfl | h
    · exact isDigit_digit (by omega)
    · exact ih h

theorem isDigit_of_mem_encodeInsertions {bias count : Nat} {isFirst : Bool} {next : Insertion}
    {insertions : List Insertion} {c : Char}
    (h : c ∈ encodeInsertions bias count isFirst next insertions) : IsDigit c := by
  induction insertions generalizing bias count isFirst next with
  | nil => cases h
  | cons i rest ih =>
    rcases List.mem_append.mp h with h | h
    · exact isDigit_of_mem_encodeNumber h
    · exact ih h

/-- What is written has ASCII characters of the text, hyphens, and digits. -/
theorem of_mem_encode {text : List Char} {c : Char} (h : c ∈ encode text) :
    c ∈ text ∧ c.toNat < firstCode ∨ c = '-' ∨ IsDigit c := by
  rcases List.mem_append.mp h with h | h
  · split at h
    · cases h
    · rcases List.mem_append.mp h with h | h
      · obtain ⟨hmem, hascii⟩ := List.mem_filter.mp h
        exact .inl ⟨hmem, of_decide_eq_true hascii⟩
      · exact .inr (.inl (List.mem_singleton.mp h))
  · exact .inr (.inr (isDigit_of_mem_encodeInsertions h))

/-! ### What is read -/

/-- A number that is read consists of digits. -/
theorem exists_of_decodeNumber? {bias place weight n m : Nat} {text rest : List Char}
    (h : decodeNumber? bias place weight n text = some (m, rest)) :
    ∃ digits, text = digits ++ rest ∧ ∀ c ∈ digits, IsDigit c := by
  fun_induction decodeNumber? bias place weight n text with
  | case1 | case2 | case3 | case5 => cases h
  | case4 place weight n c rest' d hd t hfits hlast =>
    cases h
    exact ⟨[c], rfl, fun x hx => by rw [List.mem_singleton.mp hx, IsDigit, hd]; rfl⟩
  | case6 place weight n c rest' d hd t hfits hmore hweight ih =>
    obtain ⟨digits, rfl, hdigits⟩ := ih h
    refine ⟨c :: digits, rfl, List.forall_mem_cons.mpr ⟨?_, hdigits⟩⟩
    rw [IsDigit, hd]
    rfl

/-- Insertions are written in digits, and keep what was there. -/
theorem of_decodeInsertions? {bias : Nat} {isFirst : Bool} {next : Insertion}
    {text written result : List Char}
    (h : decodeInsertions? bias isFirst next text written = some result) :
    (∀ c ∈ text, c ∈ result) ∧ ∀ c ∈ written, IsDigit c := by
  fun_induction decodeInsertions? bias isFirst next text written with
  | case1 =>
    cases h
    exact ⟨fun _ hc => hc, nofun⟩
  | case2 | case3 => cases h
  | case4 bias isFirst next text c rest n rest' hnumber count code inserted hchar ih =>
    obtain ⟨hkept, hrest⟩ := ih h
    obtain ⟨digits, hwritten, hdigits⟩ := exists_of_decodeNumber? hnumber
    have hplace : n % count ≤ text.length := Nat.le_of_lt_succ (Nat.mod_lt _ (Nat.succ_pos _))
    refine ⟨fun d hd => hkept d ?_, fun d hd => ?_⟩
    · exact (List.mem_insertIdx hplace).mpr (.inr hd)
    · rw [hwritten] at hd
      exact (List.mem_append.mp hd).elim (hdigits d) (hrest d)

/-- What is read has characters of the text, hyphens, and digits. -/
theorem of_mem_of_decode? {written text : List Char} (h : decode? written = some text) {c : Char}
    (hc : c ∈ written) : c ∈ text ∨ c = '-' ∨ IsDigit c := by
  unfold decode? at h
  split at h
  · next first basic rest hcut =>
    obtain ⟨hkept, hdigits⟩ := of_decodeInsertions? h
    obtain ⟨rfl, -⟩ := Text.cutLast?_eq_some_iff.mp hcut
    rcases List.mem_append.mp hc with hc | hc
    · exact .inl (hkept c hc)
    · rcases List.mem_cons.mp hc with rfl | hc
      · exact .inr (.inl rfl)
      · exact .inr (.inr (hdigits c hc))
  · exact .inr (.inr ((of_decodeInsertions? h).2 c hc))

end Punycode

namespace Idna

/-- An ASCII character that hosts may contain. -/
def IsHostChar (c : Char) : Prop := isAscii c = true ∧ isForbidden c = false

instance (c : Char) : Decidable (IsHostChar c) := inferInstanceAs (Decidable (_ ∧ _))

/-- What holds of the characters of the first 128 code points holds of the ASCII characters. -/
theorem forall_ascii {p : Char → Prop} (h : ∀ n : Fin 128, p (Char.ofNat n.val)) {c : Char}
    (hc : c.toNat < 128) : p c := by
  have hn := h ⟨c.toNat, hc⟩
  rwa [Char.ofNat_toNat] at hn

/-- A digit of Punycode is an ASCII letter or digit. -/
theorem isHostChar_of_isDigit {c : Char} (h : Punycode.IsDigit c) : IsHostChar c := by
  have hlt : c.toNat < 128 := by
    unfold Punycode.IsDigit Punycode.digitValue? at h
    split at h
    · next hletter => exact Nat.lt_of_le_of_lt (show c.toNat ≤ 122 from hletter.2) (by decide)
    · split at h
      · next hdigit => exact Nat.lt_of_le_of_lt (show c.toNat ≤ 57 from hdigit.2) (by decide)
      · cases h
  refine forall_ascii (p := fun c => (Punycode.digitValue? c).isSome = true → IsHostChar c) ?_ hlt h
  decide

section Label

variable {label meaning written : List Char} {c : Char}

/-- Punycode that is read stands in a label as it is. -/
theorem isHostChar_of_mem_of_decode? (h : decode? label = some meaning)
    (hmeaning : ∀ c ∈ meaning, isForbidden c = false) (hc : c ∈ label) : IsHostChar c := by
  unfold decode? at h
  split at h
  · next hcode =>
    split at h
    · next text htext =>
      obtain ⟨-, heq⟩ := Option.ite_none_right_eq_some.mp h
      cases heq
      rcases Punycode.of_mem_of_decode? htext hc with hmem | rfl | hdigit
      · exact ⟨List.all_eq_true.mp hcode.1 c hc, hmeaning c hmem⟩
      · decide
      · exact isHostChar_of_isDigit hdigit
    · cases h
  · cases h

theorem isHostChar_of_mem_codeMark (h : c ∈ codeMark) : IsHostChar c := by
  have hall : codeMark.all (fun c => decide (IsHostChar c)) = true := by decide
  exact of_decide_eq_true (List.all_eq_true.mp hall c h)

/-- A label is written with characters that hosts may contain, if what it stands for has no others
that are ASCII. -/
theorem isHostChar_of_mem_ascii? (hunicode : unicode? label = some meaning)
    (hmeaning : ∀ c ∈ meaning, isForbidden c = false) (hascii : ascii? label = some written)
    (hc : c ∈ written) : IsHostChar c := by
  unfold unicode? at hunicode
  unfold ascii? at hascii
  split at hascii
  · next hall =>
    -- an ASCII label is written as it is
    cases hascii
    split at hunicode
    · next hmark =>
      obtain ⟨code, rfl⟩ := List.isPrefixOf_iff_prefix.mp hmark
      rw [List.drop_left] at hunicode
      rcases List.mem_append.mp hc with hc | hc
      · exact isHostChar_of_mem_codeMark hc
      · exact isHostChar_of_mem_of_decode? hunicode hmeaning hc
    · cases hunicode
      exact ⟨List.all_eq_true.mp hall c hc, hmeaning c hc⟩
  · next hall =>
    obtain ⟨-, heq⟩ := Option.ite_none_right_eq_some.mp hascii
    cases heq
    -- it is not Punycode already, for that is ASCII
    have hself : label = meaning := by
      split at hunicode
      · next hmark =>
        obtain ⟨code, rfl⟩ := List.isPrefixOf_iff_prefix.mp hmark
        rw [List.drop_left] at hunicode
        have hcode : ∀ c ∈ code, isAscii c = true := fun c hc =>
          (isHostChar_of_mem_of_decode? hunicode hmeaning hc).1
        refine absurd (List.all_eq_true.mpr fun c hc => ?_) hall
        rcases List.mem_append.mp hc with hc | hc
        · exact (isHostChar_of_mem_codeMark hc).1
        · exact hcode c hc
      · exact Option.some.inj hunicode
    rcases List.mem_append.mp hc with hc | hc
    · exact isHostChar_of_mem_codeMark hc
    · rcases Punycode.of_mem_encode hc with ⟨hmem, hlt⟩ | rfl | hdigit
      · exact ⟨decide_eq_true hlt, hmeaning c (hself ▸ hmem)⟩
      · decide
      · exact isHostChar_of_isDigit hdigit

end Label

/-- Labels that are well formed have no forbidden characters. -/
theorem isForbidden_eq_false_of_areLabels {labels : List (List Char)} (h : areLabels labels = true)
    {label : List Char} (hlabel : label ∈ labels) : ∀ c ∈ label, isForbidden c = false := by
  unfold areLabels at h
  have hall := List.all_eq_true.mp (Bool.and_eq_true_iff.mp h).1 label hlabel
  unfold isLabel at hall
  intro c hc
  have hany := (Bool.and_eq_true_iff.mp (Bool.and_eq_true_iff.mp hall).1).2
  rw [Bool.not_eq_true', List.any_eq_false] at hany
  exact Bool.eq_false_iff.mpr (hany c hc)

/-- **A domain name in ASCII has only characters that hosts may contain.** -/
theorem isHostChar_of_mem_domainToAscii? {name ascii : List Char}
    (h : domainToAscii? name = some ascii) {c : Char} (hc : c ∈ ascii) : IsHostChar c := by
  unfold domainToAscii? at h
  split at h
  · cases h
  · next mapped hmapped =>
    simp only at h
    split at h
    · cases h
    · next meanings hmeanings =>
      obtain ⟨hlabels, h⟩ := Option.ite_none_right_eq_some.mp h
      obtain ⟨parts, hparts, rfl⟩ := Option.map_eq_some_iff.mp h
      rcases Text.of_mem_intercalate hc with rfl | ⟨part, hpart, hc⟩
      · decide
      · obtain ⟨label, hlabel, hascii⟩ := (Text.exists_of_mapM hparts).1 part hpart
        obtain ⟨meaning, hmeaning, hunicode⟩ := (Text.exists_of_mapM hmeanings).2 label hlabel
        have hallowed := isForbidden_eq_false_of_areLabels hlabels hmeaning
        exact isHostChar_of_mem_ascii? hunicode hallowed hascii hc

end Idna

end EndpointPool
