import EndpointPool.Proofs.Idna.Characters
import EndpointPool.Url.Host

/-!
# The texts of hosts

A host is written with characters that hosts may contain, and with colons if it is an address of
version 6, and only then. So it is written in brackets exactly if it was read from brackets, and
nothing in it can be taken for what stands around it in a URL.

## Main results

* `Ipv4.of_mem_text`, `Ipv6.of_mem_text`, `Ipv6.colon_mem_text`: the characters of addresses
* `Host.of_mem_text`, `Host.colon_mem_text_iff`: the characters of a host that is read
-/

namespace EndpointPool

open EndpointPool.Idna (IsHostChar forall_ascii)

/-! ### Digits -/

theorem Decimal.isHostChar_of_isDigit {c : Char} (h : c.isDigit = true) : IsHostChar c := by
  have hlt : c.toNat < 128 := by
    simp only [Char.isDigit, Bool.and_eq_true, decide_eq_true_eq] at h
    exact Nat.lt_of_le_of_lt (show c.toNat ≤ 57 from h.2) (by decide)
  refine forall_ascii (p := fun c => c.isDigit = true → IsHostChar c) ?_ hlt h
  decide

theorem Hex.isHostChar_lower (n : Nat) : IsHostChar (lower n) ∧ lower n ≠ ':' ∧ lower n ≠ '.' := by
  have hall : ∀ k : Fin 16,
      IsHostChar (lower k.val) ∧ lower k.val ≠ ':' ∧ lower k.val ≠ '.' := by decide
  have h := hall ⟨n % 16, Nat.mod_lt _ (by decide)⟩
  simpa only [lower, Nat.mod_mod] using h

/-- The digits of a number are characters of hosts, and neither colons nor points. -/
theorem Hex.of_mem_digits {n : Nat} {c : Char} (h : c ∈ digits n) :
    IsHostChar c ∧ c ≠ ':' ∧ c ≠ '.' := by
  fun_induction digits n with
  | case1 n => exact List.mem_singleton.mp h ▸ isHostChar_lower n
  | case2 n _ ih =>
    rcases List.mem_append.mp h with h | h
    · exact ih h
    · exact List.mem_singleton.mp h ▸ isHostChar_lower n

/-! ### Addresses -/

theorem Ipv4.of_mem_text {a : Ipv4} {c : Char} (h : c ∈ a.text) : c = '.' ∨ c.isDigit = true := by
  rcases Text.of_mem_intercalate h with rfl | ⟨part, hpart, hc⟩
  · exact .inl rfl
  · obtain ⟨n, -, rfl⟩ := List.mem_map.mp hpart
    exact .inr (Decimal.isDigit_of_mem_digits hc)

theorem Ipv4.isHostChar_of_mem_text {a : Ipv4} {c : Char} (h : c ∈ a.text) :
    IsHostChar c ∧ c ≠ ':' := by
  rcases of_mem_text h with rfl | hdigit
  · decide
  · refine ⟨Decimal.isHostChar_of_isDigit hdigit, fun heq => ?_⟩
    rw [heq] at hdigit
    cases hdigit

namespace Ipv6

theorem of_mem_writePieces {pieces : List UInt16} {c : Char} (h : c ∈ writePieces pieces) :
    c = ':' ∨ IsHostChar c := by
  rcases Text.of_mem_intercalate h with rfl | ⟨part, hpart, hc⟩
  · exact .inl rfl
  · obtain ⟨p, -, rfl⟩ := List.mem_map.mp hpart
    exact .inr (Hex.of_mem_digits hc).1

theorem of_mem_text {a : Ipv6} {c : Char} (h : c ∈ a.text) : c = ':' ∨ IsHostChar c := by
  unfold text at h
  split at h
  · rcases List.mem_append.mp h with h | h
    · have hall : "::ffff:".toList.all (fun c => c = ':' || decide (IsHostChar c)) = true := by
        decide
      simpa using List.all_eq_true.mp hall c h
    · exact .inr (Ipv4.isHostChar_of_mem_text h).1
  · simp only at h
    split at h
    · rcases List.mem_append.mp h with h | h
      · rcases List.mem_append.mp h with h | h
        · exact of_mem_writePieces h
        · exact .inl (by simpa using h)
      · exact of_mem_writePieces h
    · exact of_mem_writePieces h

/-- Two pieces or more have a colon between them. -/
theorem colon_mem_writePieces {pieces : List UInt16} (h : 1 < pieces.length) :
    ':' ∈ writePieces pieces := by
  match pieces, h with
  | p :: q :: rest, _ =>
    rw [writePieces, List.map_cons, Text.intercalate_cons, List.map_cons, List.flatMap_cons]
    exact List.mem_append_right _ (List.mem_append_left _ List.mem_cons_self)

theorem colon_mem_text (a : Ipv6) : ':' ∈ a.text := by
  unfold text
  split
  · exact List.mem_append_left _ (by decide)
  · simp only
    split
    · exact List.mem_append_left _ (List.mem_append_right _ List.mem_cons_self)
    · exact colon_mem_writePieces (by rw [a.eight]; decide)

end Ipv6

/-! ### Hosts -/

namespace Host

variable {written : List Char} {host : Host} {c : Char}

/-- A domain name that is read is one in ASCII. -/
theorem exists_of_parse?_domain {name : List Char} (h : parse? written = some (.domain name)) :
    domain? written = some name ∧ name ≠ [] ∧ Ipv4.endsInNumber name = false := by
  unfold parse? at h
  split at h
  · obtain ⟨-, h⟩ := Option.ite_none_right_eq_some.mp h
    obtain ⟨a, -, ha⟩ := Option.map_eq_some_iff.mp h
    cases ha
  · unfold parseName? at h
    split at h
    · cases h
    · cases h
    · next name' hne hname =>
      split at h
      · obtain ⟨a, -, ha⟩ := Option.map_eq_some_iff.mp h
        cases ha
      · next hnumber =>
        cases h
        exact ⟨hname, hne, Bool.eq_false_iff.mpr hnumber⟩

theorem isHostChar_of_mem_domain? {name : List Char} (h : domain? written = some name)
    (hc : c ∈ name) : IsHostChar c := by
  unfold domain? at h
  split at h
  · exact Idna.isHostChar_of_mem_domainToAscii? h hc
  · cases h

/-- **A host that is read is written with characters of hosts**, and with colons. -/
theorem of_mem_text (h : parse? written = some host) (hc : c ∈ host.text.toList) :
    c = ':' ∨ IsHostChar c := by
  cases host with
  | domain name =>
    rw [text, String.toList_ofList] at hc
    exact .inr (isHostChar_of_mem_domain? (exists_of_parse?_domain h).1 hc)
  | ipv4 a =>
    rw [text, String.toList_ofList] at hc
    exact .inr (Ipv4.isHostChar_of_mem_text hc).1
  | ipv6 a =>
    rw [text, String.toList_ofList] at hc
    exact Ipv6.of_mem_text hc

/-- Only addresses of version 6 are written with colons. -/
theorem colon_mem_text_iff (h : parse? written = some host) :
    ':' ∈ host.text.toList ↔ ∃ a, host = .ipv6 a := by
  cases host with
  | domain name =>
    rw [text, String.toList_ofList]
    refine iff_of_false (fun hmem => ?_) nofun
    have hchar := isHostChar_of_mem_domain? (exists_of_parse?_domain h).1 hmem
    revert hchar
    decide
  | ipv4 a =>
    rw [text, String.toList_ofList]
    exact iff_of_false (fun hmem => (Ipv4.isHostChar_of_mem_text hmem).2 rfl) nofun
  | ipv6 a =>
    rw [text, String.toList_ofList]
    exact iff_of_true (Ipv6.colon_mem_text a) ⟨a, rfl⟩

end Host

end EndpointPool
