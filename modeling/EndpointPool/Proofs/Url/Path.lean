import EndpointPool.Proofs.Endpoint.Obtaining

/-!
# Paths read again

A path that was read has no segments of dots, and no characters that would be encoded or taken for
the end of the path. So has the path of an endpoint, which is what is left of it between its
slashes, and it is read as it stands.

## Main definitions

* `Path.IsResolved path`: a path that was read once, perhaps without slashes at its ends

## Main results

* `Path.isResolved_parse`, `Path.IsResolved.normalizePrefix`: what is read, and what an endpoint
  makes of it
* `Path.IsResolved.normalizePrefix_parse`: reading the path of an endpoint keeps it
-/

namespace EndpointPool.Path

/-! ### Segments -/

/-- A segment that is neither one dot nor two. -/
def IsName (segment : List Char) : Prop := isDots 1 segment = false ∧ isDots 2 segment = false

theorem isName_nil : IsName [] := ⟨by decide, by decide⟩

/-- Names are left as they are. -/
theorem resolve_of_isName (before : List (List Char)) {segments : List (List Char)}
    (h : ∀ s ∈ segments, IsName s) : resolve before segments = before ++ segments := by
  induction segments generalizing before with
  | nil => simp [resolve]
  | cons s segments ih =>
    obtain ⟨hs, hrest⟩ := List.forall_mem_cons.mp h
    rw [resolve, if_neg (by simp [hs.2]), if_neg (by simp [hs.1]), ih _ hrest]
    simp

theorem mem_of_mem_goUp {segments : List (List Char)} {s : List Char} (h : s ∈ goUp segments) :
    s ∈ segments := by
  unfold goUp at h
  split at h
  · exact h
  · exact List.dropLast_subset _ h

/-- Nothing but names and empty segments is left. -/
theorem of_mem_resolve {before segments : List (List Char)} {s : List Char}
    (h : s ∈ resolve before segments) : s ∈ before ∨ IsName s ∧ (s = [] ∨ s ∈ segments) := by
  induction segments generalizing before with
  | nil => exact .inl h
  | cons segment rest ih =>
    -- dots add no segment but the empty one that closes the path
    have hdots : ∀ l, s ∈ resolve (if rest.isEmpty then l ++ [[]] else l) rest →
        s ∈ l ∨ IsName s ∧ (s = [] ∨ s ∈ segment :: rest) := by
      intro l hmem
      rcases ih hmem with hmem | ⟨hname, hmem⟩
      · split at hmem
        · rcases List.mem_append.mp hmem with hmem | hmem
          · exact .inl hmem
          · obtain rfl := List.mem_singleton.mp hmem
            exact .inr ⟨isName_nil, .inl rfl⟩
        · exact .inl hmem
      · exact .inr ⟨hname, hmem.imp_right (List.mem_cons_of_mem _)⟩
    rw [resolve] at h
    simp only at h
    split at h
    · exact (hdots _ h).imp_left mem_of_mem_goUp
    · next hdouble =>
      split at h
      · exact hdots _ h
      · next hsingle =>
        rcases ih h with hmem | ⟨hname, hmem⟩
        · rcases List.mem_append.mp hmem with hmem | hmem
          · exact .inl hmem
          · obtain rfl := List.mem_singleton.mp hmem
            exact .inr ⟨⟨Bool.eq_false_iff.mpr hsingle, Bool.eq_false_iff.mpr hdouble⟩,
              .inr List.mem_cons_self⟩
        · exact .inr ⟨hname, hmem.imp_right (List.mem_cons_of_mem _)⟩

/-! ### Characters -/

/-- The characters of a path that was read. -/
def IsPathChar (c : Char) : Prop := isSafe c = true ∧ c ≠ '\\'

instance (c : Char) : Decidable (IsPathChar c) := inferInstanceAs (Decidable (_ ∧ _))

/-- Nothing that is safe is encoded. -/
theorem encode_of_isSafe {text : List Char} (h : ∀ c ∈ text, isSafe c = true) :
    Percent.encode isSafe text = text := by
  induction text with
  | nil => rfl
  | cons c text ih =>
    obtain ⟨hc, hrest⟩ := List.forall_mem_cons.mp h
    rw [Percent.encode, List.flatMap_cons, if_pos hc]
    exact congrArg (c :: ·) (ih hrest)

theorem isPathChar_upper (n : Nat) : IsPathChar (Hex.upper n) := by
  have hall : ∀ k : Fin 16, IsPathChar (Hex.upper k.val) := by decide
  have h := hall ⟨n % 16, Nat.mod_lt _ (by decide)⟩
  simpa only [Hex.upper, Nat.mod_mod] using h

/-- What is written of a character is safe, and a backslash only for a backslash. -/
theorem isPathChar_of_mem_encode {text : List Char} (h : '\\' ∉ text) {c : Char}
    (hc : c ∈ Percent.encode isSafe text) : IsPathChar c := by
  obtain ⟨d, hd, hc⟩ := List.mem_flatMap.mp hc
  split at hc
  · next hsafe =>
    obtain rfl := List.mem_singleton.mp hc
    exact ⟨hsafe, fun heq => h (heq ▸ hd)⟩
  · obtain ⟨b, -, hc⟩ := List.mem_flatMap.mp hc
    rcases List.mem_cons.mp hc with rfl | hc
    · decide
    · rcases List.mem_cons.mp hc with rfl | hc
      · exact isPathChar_upper _
      · exact List.mem_singleton.mp hc ▸ isPathChar_upper _

/-! ### Paths -/

/-- A path that was read once, perhaps without slashes at its ends: it has the characters of one,
and its segments are names. -/
structure IsResolved (path : String) : Prop where
  char : ∀ c ∈ path.toList, IsPathChar c
  name : ∀ s ∈ Text.pieces '/' path.toList, IsName s

theorem toList_write (segments : List (List Char)) :
    (write segments).toList = segments.flatMap ('/' :: ·) := String.toList_ofList

/-- **What is read as a path is resolved.** -/
theorem isResolved_parse (written : List Char) : IsResolved (parse written) := by
  let slashed := written.map fun c => if c = '\\' then '/' else c
  have hback : '\\' ∉ slashed.drop 1 := by
    intro hmem
    obtain ⟨c, -, hc⟩ := List.mem_map.mp (List.mem_of_mem_drop hmem)
    split at hc
    · cases hc
    · next hne => exact hne hc
  have hsegment : ∀ s ∈ resolve [] (Text.pieces '/' (Percent.encode isSafe (slashed.drop 1))),
      IsName s ∧ '/' ∉ s ∧ ∀ c ∈ s, IsPathChar c := by
    intro s hs
    obtain hnil | ⟨hname, rfl | hmem⟩ := of_mem_resolve hs
    · cases hnil
    · exact ⟨hname, List.not_mem_nil, nofun⟩
    · obtain ⟨hslash, hchar⟩ := Text.of_mem_pieces hmem
      exact ⟨hname, hslash, fun c hc => isPathChar_of_mem_encode hback (hchar c hc)⟩
  constructor
  · intro c hc
    obtain ⟨s, hs, hc⟩ := List.mem_flatMap.mp (toList_write _ ▸ hc)
    rcases List.mem_cons.mp hc with rfl | hc
    · decide
    · exact (hsegment s hs).2.2 c hc
  · intro s hs
    have hpieces := Text.pieces_flatMap List.not_mem_nil fun t ht => (hsegment t ht).2.1
    rw [List.nil_append, ← toList_write] at hpieces
    rw [parse, hpieces] at hs
    rcases List.mem_cons.mp hs with rfl | hs
    · exact isName_nil
    · exact (hsegment s hs).1

theorem IsResolved.of_cons {path : String} {inner : List Char} (h : IsResolved path)
    (hpath : path.toList = '/' :: inner) :
    (∀ c ∈ inner, IsPathChar c) ∧ ∀ s ∈ Text.pieces '/' inner, IsName s := by
  refine ⟨fun c hc => h.char c ?_, fun s hs => h.name s ?_⟩
  · rw [hpath]
    exact List.mem_cons_of_mem _ hc
  · simp [hpath, Text.pieces, hs]

/-- What an endpoint makes of a resolved path is resolved. -/
theorem IsResolved.normalizePrefix {path : String} (h : IsResolved path) :
    IsResolved (normalizePrefix path) := by
  unfold EndpointPool.normalizePrefix
  split
  · exact ⟨nofun, by simp [Text.pieces, isName_nil]⟩
  · next inner hinner =>
    constructor
    · intro c hc
      rw [String.toList_ofList] at hc
      rcases List.mem_cons.mp hc with rfl | hc
      · decide
      · exact h.char c (Text.mem_of_mem_trim hc)
    · intro s hs
      rw [String.toList_ofList] at hs
      simp only [Text.pieces, if_true] at hs
      rcases List.mem_cons.mp hs with rfl | hs
      · exact isName_nil
      · exact h.name s (Text.mem_pieces_of_mem_pieces_trim hs)

/-- **The path of an endpoint is read as it stands.** -/
theorem IsResolved.normalizePrefix_parse {path : String} (h : IsResolved path)
    (hnormal : IsNormalPrefix path) :
    EndpointPool.normalizePrefix (parse path.toList) = path := by
  rcases hnormal with rfl | ⟨c, rest, hpath, hc, hlast⟩
  · decide
  · obtain ⟨hchar, hname⟩ := h.of_cons hpath
    -- there is nothing to replace, to encode or to resolve
    have hmap : path.toList.map (fun c => if c = '\\' then '/' else c) = path.toList := by
      conv_rhs => rw [← List.map_id path.toList]
      apply List.map_congr_left
      intro d hd
      exact if_neg (h.char d hd).2
    have hparse : parse path.toList = path := by
      rw [parse, hmap, hpath, List.drop_one, List.tail_cons,
        encode_of_isSafe fun d hd => (hchar d hd).1, resolve_of_isName _ hname, List.nil_append,
        write, Text.flatMap_pieces, ← hpath, String.ofList_toList]
    rw [hparse]
    exact normalizePrefix_of_isNormalPrefix (.inr ⟨c, rest, hpath, hc, hlast⟩)

end EndpointPool.Path
