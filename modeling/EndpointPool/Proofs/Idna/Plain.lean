import EndpointPool.Proofs.Idna.Characters

/-!
# Domain names that are their own ASCII form

In a domain name of lower-case ASCII without Punycode there is nothing to replace, to compose, to
decode or to refuse: it is its own ASCII form.

## Main definitions

* `Idna.IsPlain name`: a lower-case domain name without Punycode

## Main results

* `Idna.IsPlain.domainToAscii?_eq`: it is its own ASCII form
-/

namespace EndpointPool.Idna

/-- A domain name of ASCII characters that hosts may contain, in lower case, without Punycode. -/
structure IsPlain (name : List Char) : Prop where
  char : ∀ c ∈ name, IsHostChar c ∧ c.isUpper = false
  label : ∀ label ∈ Text.pieces '.' name, codeMark.isPrefixOf label = false

theorem isPlain_iff {name : List Char} :
    IsPlain name ↔
      name.all (fun c => decide (IsHostChar c) && !c.isUpper) = true ∧
        (Text.pieces '.' name).all (fun label => !codeMark.isPrefixOf label) = true := by
  simp only [List.all_eq_true, Bool.and_eq_true, decide_eq_true_eq, Bool.not_eq_true']
  exact ⟨fun h => ⟨h.char, h.label⟩, fun h => ⟨h.1, h.2⟩⟩

instance (name : List Char) : Decidable (IsPlain name) := decidable_of_iff' _ isPlain_iff

theorem IsHostChar.toNat_lt {c : Char} (h : IsHostChar c) : c.toNat < 128 := of_decide_eq_true h.1

/-- A text in which every character stands for itself is left as it is. -/
theorem map?_of_isValid {text : List Char} (h : ∀ c ∈ text, isValid c = true) :
    map? text = some text := by
  induction text with
  | nil => rfl
  | cons c text ih =>
    obtain ⟨hc, htext⟩ := List.forall_mem_cons.mp h
    obtain ⟨hknown, himage⟩ := (Bool.and_eq_true _ _).mp hc
    rw [map?, Option.isNone_iff_eq_none.mp himage]
    simp only [hknown, if_true, ih htext, Option.map_some]

theorem isValid_of_ascii {c : Char} (h : c.toNat < 128) (hlower : c.isUpper = false) :
    isValid c = true := by
  simp [isValid, isKnown, image?, h, hlower]

/-- Without joiners there is nothing to fit. -/
theorem joinersFit_of_ascii {label : List Char} (h : ∀ c ∈ label, c.toNat < 128)
    (before : List Char) : joinersFit before label = true := by
  induction label generalizing before with
  | nil => rfl
  | cons c label ih =>
    obtain ⟨hc, hlabel⟩ := List.forall_mem_cons.mp h
    have hjoiner : ¬ (c = joiner ∨ c = nonJoiner) := by
      rintro (rfl | rfl) <;> exact absurd hc (by decide)
    rw [joinersFit, if_neg hjoiner, ih hlabel]
    rfl

theorem isLabel_of_isHostChar {label : List Char} (h : ∀ c ∈ label, IsHostChar c) :
    isLabel label = true := by
  have hmark : label.head?.any Unicode.isMark = false := by
    cases label with
    | nil => rfl
    | cons c label =>
      have hascii : ¬ 128 ≤ c.toNat := Nat.not_le.mpr (h c List.mem_cons_self).toNat_lt
      simp [Unicode.isMark, hascii]
  have hforbidden : label.any isForbidden = false :=
    List.any_eq_false.mpr fun c hc => Bool.eq_false_iff.mp (h c hc).2
  rw [isLabel, hmark, hforbidden, joinersFit_of_ascii fun c hc => (h c hc).toNat_lt]
  rfl

theorem isBidirectional_of_ascii {label : List Char} (h : ∀ c ∈ label, c.toNat < 128) :
    isBidirectional label = false :=
  List.any_eq_false.mpr fun c hc => Bool.eq_false_iff.mp (Unicode.bidiClass_of_ascii (h c hc))

theorem areLabels_of_isHostChar {labels : List (List Char)}
    (h : ∀ label ∈ labels, ∀ c ∈ label, IsHostChar c) : areLabels labels = true := by
  have hlabel : labels.all isLabel = true :=
    List.all_eq_true.mpr fun label hlabel => isLabel_of_isHostChar (h label hlabel)
  have hdirection : labels.any isBidirectional = false :=
    List.any_eq_false.mpr fun label hlabel =>
      Bool.eq_false_iff.mp (isBidirectional_of_ascii fun c hc => (h label hlabel c hc).toNat_lt)
  rw [areLabels, hlabel, hdirection]
  rfl

/-- Parts that are all left as they are. -/
theorem mapM_eq_self {f : List Char → Option (List Char)} {labels : List (List Char)}
    (h : ∀ label ∈ labels, f label = some label) : labels.mapM f = some labels :=
  Text.mapM_eq_some_iff.mpr (List.forall₂_same.mpr h)

/-- **A lower-case domain name without Punycode is its own ASCII form.** -/
theorem IsPlain.domainToAscii?_eq {name : List Char} (h : IsPlain name) :
    domainToAscii? name = some name := by
  have hlt : ∀ c ∈ name, c.toNat < 128 := fun c hc => (h.char c hc).1.toNat_lt
  have hmap : map? name = some name :=
    map?_of_isValid fun c hc => isValid_of_ascii (hlt c hc) (h.char c hc).2
  have hnormal : Normalization.normalize name = name := by
    apply if_pos
    exact List.all_eq_true.mpr fun c hc => decide_eq_true ((hlt c hc).trans (by decide))
  have hchar : ∀ label ∈ Text.pieces '.' name, ∀ c ∈ label, IsHostChar c :=
    fun label hlabel c hc => (h.char c ((Text.of_mem_pieces hlabel).2 c hc)).1
  have hunicode : (Text.pieces '.' name).mapM unicode? = some (Text.pieces '.' name) :=
    mapM_eq_self fun label hlabel => by rw [unicode?, h.label label hlabel]; rfl
  have hascii : (Text.pieces '.' name).mapM ascii? = some (Text.pieces '.' name) :=
    mapM_eq_self fun label hlabel =>
      if_pos (List.all_eq_true.mpr fun c hc => (hchar label hlabel c hc).1)
  rw [domainToAscii?, hmap]
  simp only [hnormal, hunicode, areLabels_of_isHostChar hchar, if_true, hascii, Option.map_some,
    Text.intercalate_pieces]

end EndpointPool.Idna
