import EndpointPool.Text
import Mathlib.Data.List.DropRight
import Mathlib.Data.List.Forall2

/-!
# Trimmed texts and the parts of a text

Trimming leaves a text that begins and ends with characters to be kept, and it leaves such a text as
it is. Cutting and taking to pieces undo putting together, as long as no part contains the
separator.

## Main definitions

* `Text.IsTrimmed p text`: nothing can be trimmed at either end

## Main results

* `Text.isTrimmed_trim`, `Text.trim_of_isTrimmed`: what trimming leaves, and when it leaves all
* `Text.cut?_append`, `Text.cutLast?_append`, `Text.cutAt?_append`, `Text.pieces_flatMap`,
  `Text.pieces_intercalate`, `Text.pieces_append_cons`: texts put together are cut where they were
  joined
* `Text.cut?_eq_some_iff`, `Text.cutLast?_eq_some_iff`, `Text.pieces_eq_cons_iff`: and nowhere else
* `Text.append_cons_inj`, `Text.append_cons_inj_last`: texts joined are equal part by part
-/

namespace EndpointPool.Text

variable {p : Char → Bool} {sep : Char}

/-! ### Trimming -/

/-- Neither the first nor the last character satisfies the test. -/
def IsTrimmed (p : Char → Bool) (text : List Char) : Prop :=
  (∀ c ∈ text.head?, p c = false) ∧ ∀ c ∈ text.getLast?, p c = false

theorem isTrimmed_trim (p : Char → Bool) (text : List Char) : IsTrimmed p (trim p text) := by
  have htrim : trim p text = (text.dropWhile p).rdropWhile p := rfl
  rw [htrim]
  constructor
  · intro c hc
    -- what is left at the front is a prefix of what the front was trimmed to
    obtain ⟨rest, hrest⟩ := List.rdropWhile_prefix p (l := text.dropWhile p)
    have hfirst : (text.dropWhile p).head? = some c := by
      rw [← hrest, List.head?_append, Option.mem_def.mp hc]
      rfl
    have hnot := List.head?_dropWhile_not p text
    rw [hfirst] at hnot
    exact hnot
  · intro c hc
    have hne : (text.dropWhile p).rdropWhile p ≠ [] := by
      intro hnil
      rw [hnil] at hc
      cases hc
    have hlast := List.rdropWhile_last_not p (text.dropWhile p) hne
    rw [List.getLast?_eq_some_getLast hne] at hc
    rw [Option.mem_some_iff.mp hc] at hlast
    exact Bool.not_eq_true _ ▸ hlast

theorem trim_of_isTrimmed {text : List Char} (h : IsTrimmed p text) : trim p text = text := by
  have htrim : trim p text = (text.dropWhile p).rdropWhile p := rfl
  cases text with
  | nil => rfl
  | cons c rest =>
    have hc : p c = false := h.1 c rfl
    rw [htrim, List.dropWhile_cons_of_neg (by simp [hc]), List.rdropWhile_eq_self_iff]
    intro hne
    rw [h.2 _ (List.getLast?_eq_some_getLast hne)]
    exact Bool.false_ne_true

theorem trim_cons_of_pos {c : Char} (h : p c = true) (text : List Char) :
    trim p (c :: text) = trim p text := by
  rw [trim, trim, List.dropWhile_cons_of_pos h]

theorem mem_of_mem_trim {c : Char} {text : List Char} (h : c ∈ trim p text) : c ∈ text := by
  have htrim : trim p text = (text.dropWhile p).rdropWhile p := rfl
  rw [htrim] at h
  exact (List.dropWhile_suffix p).subset ((List.rdropWhile_prefix p _).subset h)

theorem dropWhile_append_of_stop (left : List Char) {right : List Char}
    (h : ∀ c ∈ right.head?, p c = false) :
    (left ++ right).dropWhile p = left.dropWhile p ++ right := by
  induction left with
  | nil =>
    cases right with
    | nil => rfl
    | cons c right => exact List.dropWhile_cons_of_neg (by simp [h c rfl])
  | cons c left ih =>
    by_cases hc : p c = true
    · rw [List.cons_append, List.dropWhile_cons_of_pos hc, List.dropWhile_cons_of_pos hc, ih]
    · rw [List.cons_append, List.dropWhile_cons_of_neg hc, List.dropWhile_cons_of_neg hc,
        List.cons_append]

/-- Trimming does not reach beyond a part that is not to be trimmed. -/
theorem trim_append {left middle right : List Char} (h : IsTrimmed p middle) (hne : middle ≠ []) :
    trim p (left ++ (middle ++ right)) = left.dropWhile p ++ (middle ++ right.rdropWhile p) := by
  obtain ⟨c, rest, rfl⟩ := List.exists_cons_of_ne_nil hne
  have hfront : ∀ d ∈ (c :: rest ++ right).head?, p d = false := by
    intro d hd
    exact h.1 d hd
  have hback : ∀ d ∈ ((c :: rest).reverse ++ (left.dropWhile p).reverse).head?, p d = false := by
    intro d hd
    rw [List.head?_append_of_ne_nil _ (by simp), List.head?_reverse] at hd
    exact h.2 d hd
  rw [trim, dropWhile_append_of_stop left hfront, List.reverse_append, List.reverse_append,
    List.append_assoc, dropWhile_append_of_stop _ hback]
  simp [List.rdropWhile]

/-! ### Cutting -/

theorem cut?_append {left : List Char} (h : sep ∉ left) (right : List Char) :
    cut? sep (left ++ sep :: right) = some (left, right) := by
  induction left with
  | nil => simp [cut?]
  | cons c left ih =>
    obtain ⟨hne, hleft⟩ := List.ne_and_not_mem_of_not_mem_cons h
    simp [cut?, hne.symm, ih hleft]

theorem cutLast?_of_not_mem {text : List Char} (h : sep ∉ text) : cutLast? sep text = none := by
  induction text with
  | nil => rfl
  | cons c text ih =>
    obtain ⟨hne, htext⟩ := List.ne_and_not_mem_of_not_mem_cons h
    simp [cutLast?, hne.symm, ih htext]

theorem cutLast?_append (left : List Char) {right : List Char} (h : sep ∉ right) :
    cutLast? sep (left ++ sep :: right) = some (left, right) := by
  induction left with
  | nil => simp [cutLast?, cutLast?_of_not_mem h]
  | cons c left ih => simp [cutLast?, ih]

/-- A text is cut where its first separator stands. -/
theorem cut?_eq_some_iff {text left right : List Char} :
    cut? sep text = some (left, right) ↔ text = left ++ sep :: right ∧ sep ∉ left := by
  constructor
  · intro h
    induction text generalizing left with
    | nil => cases h
    | cons c text ih =>
      rw [cut?] at h
      split at h
      · next hc =>
        subst hc
        cases h
        exact ⟨rfl, List.not_mem_nil⟩
      · next hne =>
        obtain ⟨⟨left', right'⟩, hcut, heq⟩ := Option.map_eq_some_iff.mp h
        cases heq
        obtain ⟨rfl, hleft⟩ := ih hcut
        exact ⟨rfl, List.not_mem_cons_of_ne_of_not_mem (Ne.symm hne) hleft⟩
  · rintro ⟨rfl, hleft⟩
    exact cut?_append hleft right

/-- Texts joined by a separator are equal part by part, if it does not occur before it. -/
theorem append_cons_inj {left left' right right' : List Char} (hleft : sep ∉ left)
    (hleft' : sep ∉ left') :
    left ++ sep :: right = left' ++ sep :: right' ↔ left = left' ∧ right = right' := by
  refine ⟨fun h => ?_, by rintro ⟨rfl, rfl⟩; rfl⟩
  have hcut := cut?_append hleft right
  rw [h, cut?_append hleft' right'] at hcut
  cases hcut
  exact ⟨rfl, rfl⟩

/-- And so they are if it does not occur behind it. -/
theorem append_cons_inj_last {left left' right right' : List Char} (hright : sep ∉ right)
    (hright' : sep ∉ right') :
    left ++ sep :: right = left' ++ sep :: right' ↔ left = left' ∧ right = right' := by
  refine ⟨fun h => ?_, by rintro ⟨rfl, rfl⟩; rfl⟩
  have hcut := cutLast?_append left hright
  rw [h, cutLast?_append left' hright'] at hcut
  cases hcut
  exact ⟨rfl, rfl⟩

theorem cutLast?_eq_none_iff {text : List Char} : cutLast? sep text = none ↔ sep ∉ text := by
  refine ⟨fun h => ?_, cutLast?_of_not_mem⟩
  induction text with
  | nil => exact List.not_mem_nil
  | cons c text ih =>
    rw [cutLast?] at h
    cases hcut : cutLast? sep text with
    | some parts =>
      rw [hcut] at h
      cases h
    | none =>
      rw [hcut] at h
      have hne : c ≠ sep := by simpa using h
      exact List.not_mem_cons_of_ne_of_not_mem hne.symm (ih hcut)

theorem cutLast?_eq_some_iff {text left right : List Char} :
    cutLast? sep text = some (left, right) ↔ text = left ++ sep :: right ∧ sep ∉ right := by
  constructor
  · intro h
    induction text generalizing left with
    | nil => cases h
    | cons c text ih =>
      rw [cutLast?] at h
      cases hcut : cutLast? sep text with
      | some parts =>
        rw [hcut] at h
        cases h
        obtain ⟨rfl, hright⟩ := ih hcut
        exact ⟨rfl, hright⟩
      | none =>
        rw [hcut] at h
        obtain ⟨rfl, heq⟩ := Option.ite_none_right_eq_some.mp h
        cases heq
        exact ⟨rfl, cutLast?_eq_none_iff.mp hcut⟩
  · rintro ⟨rfl, hright⟩
    exact cutLast?_append left hright

/-- A text is cut at the first separator, if that begins with a character which does not come back
in it: no separator can begin in the text before and end in that one. -/
theorem cutAt?_append {first : Char} {rest left : List Char} (hrest : first ∉ rest)
    (hleft : ¬ first :: rest <:+: left) (right : List Char) :
    cutAt? (first :: rest) (left ++ first :: rest ++ right) = some (left, right) := by
  induction left with
  | nil => simp [cutAt?]
  | cons c left ih =>
    have hnot : ¬ first :: rest <+: c :: (left ++ first :: rest ++ right) := by
      rintro ⟨behind, heq⟩
      rw [List.append_assoc, ← List.cons_append] at heq
      rcases List.append_eq_append_iff.mp heq with ⟨left', hfirst, -⟩ | ⟨begun, hsep, hright⟩
      · exact hleft ⟨[], left', hfirst.symm⟩
      · cases begun with
        | nil => exact hleft ⟨[], [], by simpa using hsep⟩
        | cons o begun =>
          -- the separator at hand begins inside of the one that was found
          obtain ⟨rfl, -⟩ := List.cons.inj hright
          apply hrest
          rw [(List.cons.inj hsep).2]
          exact List.mem_append_right _ List.mem_cons_self
    have hleft' : ¬ first :: rest <:+: left :=
      fun h => hleft (h.trans (List.suffix_cons c left).isInfix)
    have hprefix : (first :: rest).isPrefixOf (c :: (left ++ first :: rest ++ right)) = false :=
      Bool.eq_false_iff.mpr fun h => hnot (List.isPrefixOf_iff_prefix.mp h)
    rw [List.cons_append, List.cons_append, cutAt?, if_neg (Bool.eq_false_iff.mp hprefix),
      ih hleft']
    rfl

/-- Where a text does not occur, nothing is cut. -/
theorem cutAt?_of_not_isInfix {part text : List Char} (h : ¬ part <:+: text) :
    cutAt? part text = none := by
  induction text with
  | nil => rfl
  | cons c text ih =>
    have hprefix : ¬ part.isPrefixOf (c :: text) = true := by
      intro hp
      exact h (List.isPrefixOf_iff_prefix.mp hp).isInfix
    rw [cutAt?, if_neg hprefix, ih fun hrest => h (hrest.trans (List.suffix_cons c text).isInfix)]
    rfl

/-- A text is cut at a doubled separator, if no two come together before its second half. -/
theorem cutAt?_double {left : List Char} (h : ¬ [sep, sep] <:+: left ++ [sep])
    (right : List Char) : cutAt? [sep, sep] (left ++ [sep, sep] ++ right) = some (left, right) := by
  induction left with
  | nil => simp [cutAt?]
  | cons c left ih =>
    have hleft : ¬ [sep, sep] <:+: left ++ [sep] :=
      fun hrest => h (hrest.trans (List.suffix_cons c _).isInfix)
    have hprefix : ¬ [sep, sep].isPrefixOf (c :: (left ++ [sep, sep] ++ right)) = true := by
      intro hp
      apply h
      obtain ⟨behind, heq⟩ := List.isPrefixOf_iff_prefix.mp hp
      cases left with
      | nil =>
        obtain ⟨hc, -⟩ := List.cons.inj heq
        exact ⟨[], [], by rw [← hc]; rfl⟩
      | cons d left =>
        obtain ⟨hc, heq⟩ := List.cons.inj heq
        obtain ⟨hd, -⟩ := List.cons.inj heq
        exact ⟨[], left ++ [sep], by rw [← hc, ← hd]; rfl⟩
    rw [List.cons_append, List.cons_append, cutAt?, if_neg hprefix, ih hleft]
    rfl

/-- What is taken ends where it was joined with something that is not to be taken. -/
theorem takeWhile_append_of_stop {left right : List Char} (hleft : ∀ c ∈ left, p c = true)
    (hright : ∀ c ∈ right.head?, p c = false) : (left ++ right).takeWhile p = left := by
  rw [List.takeWhile_append_of_pos hleft]
  cases right with
  | nil => simp
  | cons c right =>
    rw [List.takeWhile_cons_of_neg (by simp [hright c rfl]), List.append_nil]

/-! ### Pieces -/

theorem pieces_of_not_mem {text : List Char} (h : sep ∉ text) : pieces sep text = [text] := by
  induction text with
  | nil => rfl
  | cons c text ih =>
    obtain ⟨hne, htext⟩ := List.ne_and_not_mem_of_not_mem_cons h
    simp [pieces, hne.symm, ih htext]

theorem pieces_append {part : List Char} (h : sep ∉ part) (rest : List Char) :
    pieces sep (part ++ sep :: rest) = part :: pieces sep rest := by
  induction part with
  | nil => simp [pieces]
  | cons c part ih =>
    obtain ⟨hne, hpart⟩ := List.ne_and_not_mem_of_not_mem_cons h
    simp [pieces, hne.symm, ih hpart]

/-- Pieces come apart at every separator. -/
theorem pieces_append_cons (left right : List Char) :
    pieces sep (left ++ sep :: right) = pieces sep left ++ pieces sep right := by
  induction left with
  | nil => simp [pieces]
  | cons c left ih =>
    by_cases hc : c = sep
    · simp [pieces, hc, ih]
    · obtain ⟨first, parts, hleft⟩ := List.exists_cons_of_ne_nil (pieces_ne_nil sep left)
      simp [pieces, hc, ih, hleft]

/-- What is left of a text when separators are trimmed has no other pieces. -/
theorem mem_pieces_of_mem_pieces_trim {part text : List Char}
    (h : part ∈ pieces sep (trim (fun c => decide (c = sep)) text)) : part ∈ pieces sep text := by
  have hfront : ∀ text : List Char,
      part ∈ pieces sep (text.dropWhile fun c => decide (c = sep)) → part ∈ pieces sep text := by
    intro text hmem
    induction text with
    | nil => exact hmem
    | cons c text ih =>
      by_cases hc : c = sep
      · rw [List.dropWhile_cons_of_pos (by simpa using hc)] at hmem
        simp [pieces, hc, ih hmem]
      · rwa [List.dropWhile_cons_of_neg (by simpa using hc)] at hmem
  have hback : ∀ text : List Char,
      part ∈ pieces sep (text.rdropWhile fun c => decide (c = sep)) → part ∈ pieces sep text := by
    intro text hmem
    induction text using List.reverseRecOn with
    | nil => exact hmem
    | append_singleton text c ih =>
      by_cases hc : c = sep
      · rw [List.rdropWhile_concat_pos _ _ _ (by simpa using hc)] at hmem
        rw [hc, pieces_append_cons]
        exact List.mem_append_left _ (ih hmem)
      · rwa [List.rdropWhile_concat_neg _ _ _ (by simpa using hc)] at hmem
  exact hfront _ (hback _ h)

/-- A text put together from parts, each behind a separator, is taken to the same parts. -/
theorem pieces_flatMap {first : List Char} (hfirst : sep ∉ first) {parts : List (List Char)}
    (hparts : ∀ part ∈ parts, sep ∉ part) :
    pieces sep (first ++ parts.flatMap (sep :: ·)) = first :: parts := by
  induction parts generalizing first with
  | nil => simpa using pieces_of_not_mem hfirst
  | cons part parts ih =>
    have hpart : sep ∉ part := hparts part List.mem_cons_self
    have hrest := ih hpart fun q hq => hparts q (List.mem_cons_of_mem part hq)
    rw [List.flatMap_cons, List.cons_append, pieces_append hfirst, hrest]

/-- The pieces of a text are its parts between the separators. -/
theorem pieces_eq_cons_iff {text first : List Char} {parts : List (List Char)} :
    pieces sep text = first :: parts ↔
      text = first ++ parts.flatMap (sep :: ·) ∧ sep ∉ first ∧ ∀ part ∈ parts, sep ∉ part := by
  constructor
  · intro h
    induction text generalizing first parts with
    | nil =>
      cases h
      simp
    | cons c text ih =>
      rw [pieces] at h
      split at h
      · next hc =>
        subst hc
        cases h
        obtain ⟨first, parts, hpieces⟩ := List.exists_cons_of_ne_nil (pieces_ne_nil c text)
        obtain ⟨htext, hfirst, hparts⟩ := ih hpieces
        rw [hpieces]
        exact ⟨by simpa using htext, List.not_mem_nil, List.forall_mem_cons.mpr ⟨hfirst, hparts⟩⟩
      · next hne =>
        split at h
        · next hnil => exact absurd hnil (pieces_ne_nil sep text)
        · next first' parts' hpieces =>
          cases h
          obtain ⟨htext, hfirst, hparts⟩ := ih hpieces
          have hcons := List.not_mem_cons_of_ne_of_not_mem (Ne.symm hne) hfirst
          exact ⟨by rw [htext]; rfl, hcons, hparts⟩
  · rintro ⟨rfl, hfirst, hparts⟩
    exact pieces_flatMap hfirst hparts

/-- A piece has the characters of the text, without separators. -/
theorem of_mem_pieces {part text : List Char} (h : part ∈ pieces sep text) :
    sep ∉ part ∧ ∀ c ∈ part, c ∈ text := by
  obtain ⟨first, parts, hpieces⟩ := List.exists_cons_of_ne_nil (pieces_ne_nil sep text)
  obtain ⟨htext, hfirst, hparts⟩ := pieces_eq_cons_iff.mp hpieces
  rw [hpieces] at h
  rw [htext]
  rcases List.mem_cons.mp h with rfl | hmem
  · exact ⟨hfirst, fun c hc => List.mem_append_left _ hc⟩
  · refine ⟨hparts part hmem, fun c hc => List.mem_append_right _ ?_⟩
    exact List.mem_flatMap.mpr ⟨part, hmem, List.mem_cons_of_mem _ hc⟩

theorem intercalate_cons (sep : Char) (first : List Char) (parts : List (List Char)) :
    List.intercalate [sep] (first :: parts) = first ++ parts.flatMap (sep :: ·) := by
  induction parts generalizing first with
  | nil => simp
  | cons part parts ih => rw [List.intercalate_cons_cons, ih, List.flatMap_cons]; simp

/-- The pieces of a text, each behind a separator, are the text behind one. -/
theorem flatMap_pieces (text : List Char) : (pieces sep text).flatMap (sep :: ·) = sep :: text := by
  obtain ⟨first, parts, hpieces⟩ := List.exists_cons_of_ne_nil (pieces_ne_nil sep text)
  rw [hpieces, List.flatMap_cons, (pieces_eq_cons_iff.mp hpieces).1]
  rfl

/-- The pieces of a text, with separators between them, are the text. -/
theorem intercalate_pieces (text : List Char) :
    List.intercalate [sep] (pieces sep text) = text := by
  obtain ⟨first, parts, hpieces⟩ := List.exists_cons_of_ne_nil (pieces_ne_nil sep text)
  rw [hpieces, intercalate_cons, ← (pieces_eq_cons_iff.mp hpieces).1]

/-- A text put together from parts with separators between them is taken to the same parts. -/
theorem pieces_intercalate {parts : List (List Char)} (hne : parts ≠ [])
    (hparts : ∀ part ∈ parts, sep ∉ part) : pieces sep (List.intercalate [sep] parts) = parts := by
  obtain ⟨first, parts, rfl⟩ := List.exists_cons_of_ne_nil hne
  obtain ⟨hfirst, hparts⟩ := List.forall_mem_cons.mp hparts
  rw [intercalate_cons, pieces_flatMap hfirst hparts]

theorem of_mem_intercalate {c : Char} {parts : List (List Char)}
    (h : c ∈ List.intercalate [sep] parts) : c = sep ∨ ∃ part ∈ parts, c ∈ part := by
  cases parts with
  | nil => cases h
  | cons first parts =>
    rw [intercalate_cons] at h
    rcases List.mem_append.mp h with hc | hc
    · exact .inr ⟨first, List.mem_cons_self, hc⟩
    · obtain ⟨part, hpart, hc⟩ := List.mem_flatMap.mp hc
      rcases List.mem_cons.mp hc with rfl | hc
      · exact .inl rfl
      · exact .inr ⟨part, List.mem_cons_of_mem first hpart, hc⟩

/-- The parts of a text that are read one by one. -/
theorem mapM_eq_some_iff {β : Type} {f : List Char → Option β} {parts : List (List Char)}
    {values : List β} :
    parts.mapM f = some values ↔
      List.Forall₂ (fun part value => f part = some value) parts values := by
  induction parts generalizing values with
  | nil => simp [List.forall₂_nil_left_iff, eq_comm]
  | cons part parts ih =>
    rw [List.mapM_cons]
    constructor
    · intro h
      obtain ⟨value, hvalue, h⟩ := Option.bind_eq_some_iff.mp h
      obtain ⟨rest, hrest, h⟩ := Option.bind_eq_some_iff.mp h
      cases h
      exact .cons hvalue (ih.mp hrest)
    · rintro (_ | ⟨hvalue, hrest⟩)
      rw [hvalue, ih.mpr hrest]
      rfl

/-- Each value is that of a part, and each part has one. -/
theorem exists_of_mapM {β : Type} {f : List Char → Option β} {parts : List (List Char)}
    {values : List β} (h : parts.mapM f = some values) :
    (∀ value ∈ values, ∃ part ∈ parts, f part = some value) ∧
      ∀ part ∈ parts, ∃ value ∈ values, f part = some value := by
  induction mapM_eq_some_iff.mp h with
  | nil => exact ⟨nofun, nofun⟩
  | @cons part value parts values hvalue hrest ih =>
    obtain ⟨hvalues, hparts⟩ := ih (mapM_eq_some_iff.mpr hrest)
    refine ⟨List.forall_mem_cons.mpr ⟨⟨part, List.mem_cons_self, hvalue⟩, fun v hv => ?_⟩,
      List.forall_mem_cons.mpr ⟨⟨value, List.mem_cons_self, hvalue⟩, fun p hp => ?_⟩⟩
    · obtain ⟨p, hp, hpv⟩ := hvalues v hv
      exact ⟨p, List.mem_cons_of_mem part hp, hpv⟩
    · obtain ⟨v, hv, hpv⟩ := hparts p hp
      exact ⟨v, List.mem_cons_of_mem value hv, hpv⟩

end EndpointPool.Text
