import EndpointPool.Proofs.CloudId.Acceptance

/-!
# Cloud IDs put together

A Cloud ID can be put together from the name of its cluster, the host with a port or without, and
the labels of its services. What is put together is taken apart into the same parts, so that reading
it gives the name and the addresses back, whether the payload is padded or not.

## Main definitions

* `CloudId.carried host port labels`, `CloudId.payload text`: the ASCII text that a payload carries,
  and the payload that carries a text

## Main results

* `CloudId.ascii_encode`: the bytes of an ASCII text stand for its characters
* `CloudId.namesHost_written`: the host and the port are named
* `CloudId.parse_payload`: a Cloud ID read back
-/

namespace EndpointPool.CloudId

/-- The ASCII text that a payload carries: the host, the port if there is one, and the labels of the
services, the search service first and its user interface next. -/
def carried (host : String) (port : Option UInt16) (labels : List String) : String :=
  host ++ port.elim "" (fun p => ":" ++ Decimal.render p.toNat) ++
    String.join (labels.map ("$" ++ ·))

/-- The payload that carries a text. -/
def payload (text : String) : List Char := Base64.encode (Utf8.encode text.toList)

/-! ### The payload -/

theorem toNat_of_isDigit {c : Char} (h : c.isDigit = true) : 48 ≤ c.toNat ∧ c.toNat ≤ 57 := by
  simp only [Char.isDigit, Bool.and_eq_true, decide_eq_true_eq] at h
  exact h

/-- The bytes of an ASCII text are ASCII, and stand for its characters. -/
theorem ascii_encode {text : List Char} (h : ∀ c ∈ text, c.toNat < 128) :
    (∀ b ∈ Utf8.encode text, b < 128) ∧
      (Utf8.encode text).map (fun b => Char.ofNat b.toNat) = text := by
  have hchar : ∀ c ∈ text, (UInt8.ofNat c.toNat).toNat = c.toNat :=
    fun c hc => Utf8.toNat_ofNat_ascii (h c hc)
  rw [Utf8.encode_ascii h]
  constructor
  · intro b hb
    obtain ⟨c, hc, rfl⟩ := List.mem_map.mp hb
    rw [UInt8.lt_iff_toNat_lt, hchar c hc]
    exact h c hc
  · rw [List.map_map]
    conv_rhs => rw [← List.map_id text]
    refine List.map_congr_left fun c hc => ?_
    rw [Function.comp_apply, hchar c hc, Char.ofNat_toNat]
    rfl

/-! ### The host -/

theorem spellsPort_digits (p : UInt16) : SpellsPort (Decimal.digits p.toNat) p :=
  ⟨_, .inl rfl, Decimal.digits_ne_nil _, fun _ => Decimal.isDigit_of_mem_digits,
    Decimal.value_digits _⟩

/-- The first part of what is carried names the host and the port. -/
theorem namesHost_written {host : List Char} (hne : host ≠ []) (hcolon : ':' ∉ host)
    (port : Option UInt16) :
    NamesHost (host ++ port.elim [] fun p => ':' :: Decimal.digits p.toNat) host port := by
  cases port with
  | none =>
    rw [Option.elim_none, List.append_nil]
    exact .alone hne hcolon
  | some p =>
    have hport := spellsPort_digits p
    exact .withPort hne hport.colon_not_mem hport

/-! ### The whole -/

section Parts

variable {host : String} (port : Option UInt16) {labels : List String}

/-- What is carried, as a first part and the parts behind the dollar signs. -/
theorem toList_carried :
    (carried host port labels).toList =
      (host.toList ++ port.elim [] fun p => ':' :: Decimal.digits p.toNat) ++
        (labels.map String.toList).flatMap ('$' :: ·) := by
  have hport : (port.elim "" fun p => ":" ++ Decimal.render p.toNat).toList =
      port.elim [] fun p => ':' :: Decimal.digits p.toNat := by
    cases port <;> simp [Decimal.render]
  simp [carried, hport, String.toList_join, List.flatMap_map]

variable (hhost : ∀ c ∈ host.toList, c.toNat < 128 ∧ c ≠ '$' ∧ c ≠ ':')
  (hlabels : ∀ l ∈ labels, ∀ c ∈ l.toList, c.toNat < 128 ∧ c ≠ '$')

include hhost

/-- The first part is ASCII and contains no dollar sign. -/
theorem ascii_of_mem_first {c : Char}
    (hc : c ∈ host.toList ++ port.elim [] fun p => ':' :: Decimal.digits p.toNat) :
    c.toNat < 128 ∧ c ≠ '$' := by
  rcases List.mem_append.mp hc with hc | hc
  · exact ⟨(hhost c hc).1, (hhost c hc).2.1⟩
  · cases port with
    | none => cases hc
    | some p =>
      rcases List.mem_cons.mp hc with rfl | hc
      · decide
      · have hdigit := Decimal.isDigit_of_mem_digits hc
        refine ⟨Nat.lt_of_le_of_lt (toNat_of_isDigit hdigit).2 (by decide), ?_⟩
        rintro rfl
        cases hdigit

include hlabels

theorem ascii_carried {c : Char} (hc : c ∈ (carried host port labels).toList) : c.toNat < 128 := by
  rw [toList_carried] at hc
  rcases List.mem_append.mp hc with hc | hc
  · exact (ascii_of_mem_first port hhost hc).1
  · obtain ⟨l', hl', hc⟩ := List.mem_flatMap.mp hc
    obtain ⟨l, hl, rfl⟩ := List.mem_map.mp hl'
    rcases List.mem_cons.mp hc with rfl | hc
    · decide
    · exact (hlabels l hl c hc).1

/-- A Cloud ID is read back from its name and anything that spells its payload. -/
theorem parse_written {name : String} {written : List Char} (hname : ':' ∉ name.toList)
    (hne : host ≠ "")
    (hspells : Base64.Spells written (Utf8.encode (carried host port labels).toList)) :
    parse (name ++ ":" ++ String.ofList written) = .ok (ofParts name host port labels) := by
  have hbytes := ascii_encode fun c => ascii_carried port hhost hlabels (c := c)
  exact Dissection.parse_eq {
    name
    payload := String.ofList written
    bytes := Utf8.encode (carried host port labels).toList
    first := host.toList ++ port.elim [] fun p => ':' :: Decimal.digits p.toNat
    labels, host, port
    text_eq := rfl
    colon_not_mem := hname
    spells := by simpa using hspells
    ascii := hbytes.1
    carried_eq := hbytes.2.trans (toList_carried port)
    dollar_not_mem := ⟨fun hmem => (ascii_of_mem_first port hhost hmem).2 rfl,
      fun l hl hmem => (hlabels l hl _ hmem).2 rfl⟩
    names := namesHost_written (fun hnil => hne (String.toList_eq_nil_iff.mp hnil))
      (fun hmem => (hhost _ hmem).2.2 rfl) port }

end Parts

/-- **A Cloud ID that is put together is read back**, from its payload with the padding and without
it. -/
theorem parse_payload {name host : String} (port : Option UInt16) {labels : List String}
    (hname : ':' ∉ name.toList) (hne : host ≠ "")
    (hhost : ∀ c ∈ host.toList, c.toNat < 128 ∧ c ≠ '$' ∧ c ≠ ':')
    (hlabels : ∀ l ∈ labels, ∀ c ∈ l.toList, c.toNat < 128 ∧ c ≠ '$') :
    parse (name ++ ":" ++ String.ofList (payload (carried host port labels))) =
        .ok (ofParts name host port labels) ∧
      parse (name ++ ":" ++ String.ofList (Base64.unpad (payload (carried host port labels)))) =
        .ok (ofParts name host port labels) :=
  ⟨parse_written port hhost hlabels hname hne (Base64.spells_encode _),
    parse_written port hhost hlabels hname hne (Base64.spells_unpad_encode _)⟩

theorem parse_payload_noUserInterface :
    ':' ∉ "größe ☁".toList ∧ "h.io" ≠ "" ∧
      (∀ c ∈ "h.io".toList, c.toNat < 128 ∧ c ≠ '$' ∧ c ≠ ':') ∧
      (∀ l ∈ ["es:1", ""], ∀ c ∈ l.toList, c.toNat < 128 ∧ c ≠ '$') ∧
      ofParts "größe ☁" "h.io" (some 9243) ["es:1", ""] =
        ⟨"größe ☁", some ("es:1.h.io", 9243), none⟩ ∧
      parse ("größe ☁" ++ ":" ++
          String.ofList (payload (carried "h.io" (some 9243) ["es:1", ""]))) =
        .ok (ofParts "größe ☁" "h.io" (some 9243) ["es:1", ""]) ∧
      parse ("größe ☁" ++ ":" ++
          String.ofList (Base64.unpad (payload (carried "h.io" (some 9243) ["es:1", ""])))) =
        .ok (ofParts "größe ☁" "h.io" (some 9243) ["es:1", ""]) :=
  have hname : ':' ∉ "größe ☁".toList := by decide
  have hne : "h.io" ≠ "" := by decide
  have hhost : ∀ c ∈ "h.io".toList, c.toNat < 128 ∧ c ≠ '$' ∧ c ≠ ':' := by simp
  have hlabels : ∀ l ∈ ["es:1", ""], ∀ c ∈ l.toList, c.toNat < 128 ∧ c ≠ '$' := by simp
  ⟨hname, hne, hhost, hlabels, by decide, parse_payload (some 9243) hname hne hhost hlabels⟩

end EndpointPool.CloudId
