import EndpointPool.Proofs.Url.Hosts
import Mathlib.Algebra.Group.Nat.Defs

/-!
# Addresses read again

An address is read back from its text. One of version 4 is written as its four bytes, one of
version 6 as its pieces between colons, without the first of the longest runs of zeros, or with an
address of version 4 at its end. Only at the place of a run that is left out do two colons meet, so
the text is cut there.

## Main results

* `Ipv4.parse?_text`, `Ipv4.endsInNumber_text`: addresses of version 4
* `Ipv6.parse?_text`: addresses of version 6
-/

namespace EndpointPool

/-! ### Decimal numbers -/

/-- No number but zero begins with a zero. -/
theorem Decimal.head?_digits_ne {n : Nat} (h : 0 < n) : (digits n).head? ≠ some '0' := by
  induction n using Nat.strongRecOn with
  | _ n ih =>
    unfold digits
    split
    · next hlt =>
      intro hzero
      have hvalue : digitValue (digit n) = digitValue '0' :=
        congrArg digitValue (Option.some.inj hzero)
      rw [digitValue_digit, Nat.mod_eq_of_lt hlt] at hvalue
      exact Nat.ne_of_gt h hvalue
    · next hle =>
      rw [List.head?_append_of_ne_nil _ (digits_ne_nil _)]
      exact ih (n / 10) (by omega) (by omega)

theorem Decimal.digits_zero : digits 0 = ['0'] := by
  unfold digits
  rfl

/-! ### Version 4 -/

namespace Ipv4

/-- The bytes of an address, one by one. -/
theorem bytes_eq (a : Ipv4) :
    a.bytes = [a.value.toNat / 16777216 % 256, a.value.toNat / 65536 % 256,
      a.value.toNat / 256 % 256, a.value.toNat / 1 % 256] := rfl

theorem lt_of_mem_bytes {a : Ipv4} {n : Nat} (h : n ∈ a.bytes) : n < 256 := by
  obtain ⟨k, -, rfl⟩ := List.mem_map.mp h
  exact Nat.mod_lt _ (by decide)

/-- Decimal digits are not taken for octal or hexadecimal ones. -/
theorem number?_digits (n : Nat) : number? (Decimal.digits n) = some n := by
  by_cases hzero : n = 0
  · subst hzero
    rw [Decimal.digits_zero]
    rfl
  · have hhead := Decimal.head?_digits_ne (Nat.pos_of_ne_zero hzero)
    unfold number?
    split
    · next hdigits => exact absurd (by rw [hdigits]; rfl) hhead
    · next hdigits => exact absurd (by rw [hdigits]; rfl) hhead
    · next hdigits => exact absurd (by rw [hdigits]; rfl) hhead
    · exact Decimal.read?_digits n

/-- The parts of the text are the digits of the bytes. -/
theorem pieces_text (a : Ipv4) : Text.pieces '.' a.text = a.bytes.map Decimal.digits := by
  apply Text.pieces_intercalate
  · simp [bytes_eq]
  · intro part hpart hdot
    obtain ⟨n, -, rfl⟩ := List.mem_map.mp hpart
    have hdigit := Decimal.isDigit_of_mem_digits hdot
    cases hdigit

theorem parts_text (a : Ipv4) : parts a.text = a.bytes.map Decimal.digits := by
  unfold parts
  rw [pieces_text, bytes_eq]
  simp [Decimal.digits_ne_nil]

theorem dot_mem_text (a : Ipv4) : '.' ∈ a.text := by
  rw [text, bytes_eq, List.map_cons, Text.intercalate_cons, List.map_cons, List.flatMap_cons]
  exact List.mem_append_right _ List.mem_cons_self

/-- The bytes are read one by one. -/
theorem mapM_digits {f : List Char → Option Nat}
    (h : ∀ n < 256, f (Decimal.digits n) = some n) (a : Ipv4) :
    (a.bytes.map Decimal.digits).mapM f = some a.bytes := by
  apply Text.mapM_eq_some_iff.mpr
  rw [List.forall₂_map_left_iff, List.forall₂_same]
  exact fun n hn => h n (lt_of_mem_bytes hn)

theorem combine?_bytes (a : Ipv4) : combine? 4 a.bytes = some a.value.toNat := by
  have hlt := a.value.toNat_lt
  have hmod : ∀ n, n % 256 < 256 := fun n => Nat.mod_lt n (by decide)
  have hsum : a.value.toNat / 16777216 % 256 * 16777216 +
      (a.value.toNat / 65536 % 256 * 65536 +
        (a.value.toNat / 256 % 256 * 256 + a.value.toNat / 1 % 256)) = a.value.toNat := by
    omega
  rw [bytes_eq]
  simp only [combine?, hmod, if_true, Option.map_some]
  exact congrArg some hsum

/-- **An address is read from its text.** -/
theorem parse?_text (a : Ipv4) : parse? a.text = some a := by
  unfold parse?
  rw [parts_text, mapM_digits (fun n _ => number?_digits n)]
  simp only [combine?_bytes, Option.map_some]
  have hfour : a.bytes.length ≤ 4 := Nat.le_refl 4
  rw [if_pos hfour, UInt32.ofNat_toNat]

/-- The last part of the text is a number. -/
theorem endsInNumber_text (a : Ipv4) : endsInNumber a.text = true := by
  have hdigits : ∀ n, (Decimal.digits n).all Char.isDigit = true := fun n =>
    List.all_eq_true.mpr fun _ hc => Decimal.isDigit_of_mem_digits hc
  unfold endsInNumber
  rw [parts_text, bytes_eq]
  simp [hdigits, Decimal.digits_ne_nil]

end Ipv4

/-! ### Hexadecimal numbers -/

namespace Hex

theorem digits_ne_nil (n : Nat) : digits n ≠ [] := by
  unfold digits
  split <;> simp

theorem value_append_singleton (text : List Char) (c : Char) :
    value (text ++ [c]) = 16 * value text + (value? c).getD 0 := by
  simp [value]

/-- The digits of a number spell it. -/
theorem value_digits (n : Nat) : value (digits n) = n := by
  fun_induction digits n with
  | case1 n hlt => simp [value, value?_lower, Nat.mod_eq_of_lt hlt]
  | case2 n _ ih =>
    rw [value_append_singleton, ih, value?_lower, Option.getD_some]
    omega

theorem isSome_value?_of_mem_digits {n : Nat} {c : Char} (h : c ∈ digits n) :
    (value? c).isSome = true := by
  fun_induction digits n with
  | case1 n => rw [List.mem_singleton.mp h, value?_lower]; rfl
  | case2 n _ ih =>
    rcases List.mem_append.mp h with h | h
    · exact ih h
    · rw [List.mem_singleton.mp h, value?_lower]
      rfl

/-- A number below a power of sixteen has no more digits than that. -/
theorem length_digits_le {n k : Nat} (h : n < 16 ^ (k + 1)) : (digits n).length ≤ k + 1 := by
  fun_induction digits n generalizing k with
  | case1 n => simp
  | case2 n hle ih =>
    cases k with
    | zero => omega
    | succ k =>
      have hdiv : n / 16 < 16 ^ (k + 1) := by
        apply Nat.div_lt_of_lt_mul
        rwa [← Nat.pow_succ']
      have hlength := ih hdiv
      rw [List.length_append, List.length_singleton]
      omega

end Hex

/-! ### Version 6 -/

namespace Ipv6

variable {pieces : List UInt16}

theorem piece?_digits (p : UInt16) : piece? (Hex.digits p.toNat) = some p := by
  have hlength : (Hex.digits p.toNat).length ≤ 4 := Hex.length_digits_le p.toNat_lt
  have hpos : 0 < (Hex.digits p.toNat).length := List.length_pos_of_ne_nil (Hex.digits_ne_nil _)
  have hall : ((Hex.digits p.toNat).all fun c => (Hex.value? c).isSome) = true :=
    List.all_eq_true.mpr fun _ hc => Hex.isSome_value?_of_mem_digits hc
  rw [piece?, if_pos ⟨hpos, hlength, hall⟩, Hex.value_digits, UInt16.ofNat_toNat]

/-- The pieces between the colons are the digits. -/
theorem pieces_writePieces (h : pieces ≠ []) :
    Text.pieces ':' (writePieces pieces) = pieces.map fun p => Hex.digits p.toNat := by
  apply Text.pieces_intercalate
  · simpa using h
  · intro part hpart hcolon
    obtain ⟨p, -, rfl⟩ := List.mem_map.mp hpart
    exact (Hex.of_mem_digits hcolon).2.1 rfl

theorem dot_not_mem_digits (n : Nat) : '.' ∉ Hex.digits n := fun h => (Hex.of_mem_digits h).2.2 rfl

theorem readParts?_digits (pieces : List UInt16) :
    readParts? (pieces.map fun p => Hex.digits p.toNat) = some pieces := by
  induction pieces with
  | nil => rfl
  | cons p pieces ih =>
    cases pieces with
    | nil =>
      simp [readParts?, dot_not_mem_digits, piece?_digits]
    | cons q pieces =>
      rw [List.map_cons] at ih ⊢
      rw [List.map_cons, readParts?, piece?_digits, ih]
      nofun

/-- **Pieces are read as they were written.** -/
theorem readPieces?_writePieces (pieces : List UInt16) :
    readPieces? (writePieces pieces) = some pieces := by
  by_cases hne : pieces = []
  · subst hne
    rfl
  · have hwritten : writePieces pieces ≠ [] := by
      intro hnil
      have hpieces := pieces_writePieces hne
      obtain ⟨p, rest, rfl⟩ := List.exists_cons_of_ne_nil hne
      rw [hnil, Text.pieces, List.map_cons, List.cons.injEq] at hpieces
      exact Hex.digits_ne_nil _ hpieces.1.symm
    rw [readPieces?, if_neg (by simpa using hwritten), pieces_writePieces hne]
    exact readParts?_digits pieces

/-- No two colons come together in pieces, nor at their end. -/
theorem not_double (pieces : List UInt16) : ¬ [':', ':'] <:+: writePieces pieces ++ [':'] := by
  intro hdouble
  by_cases hne : pieces = []
  · subst hne
    exact absurd hdouble.length_le (by decide)
  · obtain ⟨left, right, heq⟩ := hdouble
    rw [List.append_assoc, List.cons_append, List.singleton_append] at heq
    have hpieces := congrArg (Text.pieces ':') heq
    have hcolon : ∀ rest, Text.pieces ':' (':' :: rest) = [] :: Text.pieces ':' rest :=
      fun _ => if_pos rfl
    rw [Text.pieces_append_cons, Text.pieces_append_cons, hcolon, pieces_writePieces hne] at hpieces
    obtain ⟨init, last, hright⟩ :=
      (List.eq_nil_or_concat (Text.pieces ':' right)).resolve_left (Text.pieces_ne_nil ':' right)
    -- between two colons there is an empty piece, which is not the last
    rw [hright, List.concat_eq_append, ← List.cons_append, ← List.append_assoc] at hpieces
    have hempty : [] ∈ pieces.map fun p => Hex.digits p.toNat := by
      rw [← (List.append_inj' hpieces rfl).1]
      exact List.mem_append_right _ List.mem_cons_self
    obtain ⟨p, -, hp⟩ := List.mem_map.mp hempty
    exact Hex.digits_ne_nil _ hp

/-- The longest run of zeros is one. -/
theorem longestZeros_snd (pieces : List UInt16) :
    (longestZeros pieces).2 = 0 ∨
      (longestZeros pieces).2 =
        ((pieces.drop (longestZeros pieces).1).takeWhile (· = 0)).length := by
  unfold longestZeros
  generalize List.range pieces.length = places
  induction places using List.reverseRecOn with
  | nil => exact .inl rfl
  | append_singleton places i ih =>
    rw [List.foldl_append, List.foldl_cons, List.foldl_nil]
    simp only
    split
    · exact .inr rfl
    · exact ih

/-- Around the longest run of zeros stand the other pieces. -/
theorem eq_append_zeros (h : 0 < (longestZeros pieces).2) :
    pieces = pieces.take (longestZeros pieces).1 ++
      (List.replicate (longestZeros pieces).2 0 ++
        pieces.drop ((longestZeros pieces).1 + (longestZeros pieces).2)) := by
  rcases hlongest : longestZeros pieces with ⟨start, run⟩
  rw [hlongest] at h
  have hrun : run = ((pieces.drop start).takeWhile (· = 0)).length := by
    have hspec := longestZeros_snd pieces
    rw [hlongest] at hspec
    exact hspec.resolve_left (Nat.ne_of_gt h)
  have hzeros : (pieces.drop start).takeWhile (· = 0) = List.replicate run 0 := by
    apply List.eq_replicate_iff.mpr
    refine ⟨hrun.symm, fun p hp => ?_⟩
    simpa using List.mem_takeWhile_imp hp
  have hsplit := List.takeWhile_append_dropWhile (p := (· = 0)) (l := pieces.drop start)
  have hbehind : pieces.drop (start + run) = (pieces.drop start).dropWhile (· = 0) := by
    rw [← List.drop_drop]
    conv_lhs => rw [← hsplit]
    exact List.drop_left' hrun.symm
  rw [hzeros, ← hbehind] at hsplit
  show pieces = pieces.take start ++ (List.replicate run 0 ++ pieces.drop (start + run))
  rw [hsplit, List.take_append_drop]

theorem ofPieces?_eq {a : Ipv6} (h : pieces = a.pieces) : ofPieces? pieces = some a := by
  subst h
  rw [ofPieces?, dif_pos a.eight]

theorem dot_not_mem_writePieces (pieces : List UInt16) : '.' ∉ writePieces pieces := by
  intro hdot
  rcases Text.of_mem_intercalate hdot with hc | ⟨part, hpart, hdot⟩
  · cases hc
  · obtain ⟨p, -, rfl⟩ := List.mem_map.mp hpart
    exact dot_not_mem_digits _ hdot

/-- Pieces with a run of zeros left out are read, with as many zeros as there were. -/
theorem parse?_without_zeros {left right : List UInt16} {run : Nat} (hrun : 1 < run)
    {a : Ipv6} (ha : a.pieces = left ++ (List.replicate run 0 ++ right)) :
    parse? (writePieces left ++ [':', ':'] ++ writePieces right) = some a := by
  have hdot : (writePieces left).contains '.' = false := by
    simpa using dot_not_mem_writePieces left
  have hlength : left.length + (run + right.length) = 8 := by
    rw [← a.eight, ha]
    simp
  have hmissing : 8 - left.length - right.length = run := by omega
  rw [parse?, Text.cutAt?_double (not_double left)]
  simp only [hdot, Bool.false_eq_true, if_false, readPieces?_writePieces]
  rw [if_pos (by omega), hmissing]
  exact ofPieces?_eq (by rw [ha, List.append_assoc])

theorem byte?_digits {n : Nat} (h : n < 256) : byte? (Decimal.digits n) = some n := by
  have hzero : (Decimal.digits n).head? = some '0' → Decimal.digits n = ['0'] := by
    intro hhead
    obtain rfl : n = 0 := by
      by_contra hne
      exact Decimal.head?_digits_ne (Nat.pos_of_ne_zero hne) hhead
    exact Decimal.digits_zero
  rw [byte?, Decimal.read?_digits]
  exact if_pos ⟨h, hzero⟩

/-- An address of version 4 is read as two pieces. -/
theorem embedded?_text (high low : UInt16) :
    embedded? (Ipv4.mk (UInt32.ofNat (high.toNat * 65536 + low.toNat))).text =
      some [high, low] := by
  have hhigh := high.toNat_lt
  have hlow := low.toNat_lt
  have hvalue : (UInt32.ofNat (high.toNat * 65536 + low.toNat)).toNat =
      high.toNat * 65536 + low.toNat := by
    apply UInt32.toNat_ofNat_of_lt'
    show _ < 4294967296
    omega
  rw [embedded?, Ipv4.pieces_text, Ipv4.mapM_digits fun _ => byte?_digits, Ipv4.bytes_eq]
  simp only [hvalue]
  -- the bytes are those of the two pieces
  have hfirst : 256 * ((high.toNat * 65536 + low.toNat) / 16777216 % 256) +
      (high.toNat * 65536 + low.toNat) / 65536 % 256 = high.toNat := by omega
  have hsecond : 256 * ((high.toNat * 65536 + low.toNat) / 256 % 256) +
      (high.toNat * 65536 + low.toNat) / 1 % 256 = low.toNat := by omega
  rw [hfirst, hsecond, UInt16.ofNat_toNat, UInt16.ofNat_toNat]

/-- An address of version 4 that is mapped into this version is read. -/
theorem parse?_mapped {a : Ipv6} {high low : UInt16}
    (ha : a.pieces = [0, 0, 0, 0, 0, 0xffff, high, low]) {written : Ipv4}
    (hread : embedded? written.text = some [high, low]) :
    parse? ("::ffff:".toList ++ written.text) = some a := by
  have hfirst : piece? ['f', 'f', 'f', 'f'] = some 0xffff := by decide
  have hcolon : ':' ∉ written.text := fun hmem => (Ipv4.isHostChar_of_mem_text hmem).2 rfl
  have hparts : readParts? [['f', 'f', 'f', 'f'], written.text] = some [0xffff, high, low] := by
    simp [readParts?, hfirst, hread, Ipv4.dot_mem_text]
  have hright : readPieces? (['f', 'f', 'f', 'f'] ++ ':' :: written.text) =
      some [0xffff, high, low] := by
    rw [readPieces?, if_neg (by simp), Text.pieces_append (by decide),
      Text.pieces_of_not_mem hcolon, hparts]
  have htext : "::ffff:".toList ++ written.text =
      [] ++ [':', ':'] ++ (['f', 'f', 'f', 'f'] ++ ':' :: written.text) := by
    simp
  rw [htext, parse?, Text.cutAt?_double (by decide)]
  simp only [hright]
  exact ofPieces?_eq ha.symm

/-- **An address is read from its text.** -/
theorem parse?_text (a : Ipv6) : parse? a.text = some a := by
  unfold text
  split
  · next high low hpieces => exact parse?_mapped hpieces (embedded?_text high low)
  · simp only
    split
    · next hrun => exact parse?_without_zeros hrun (eq_append_zeros (Nat.lt_of_succ_lt hrun))
    · have hinfix : ¬ [':', ':'] <:+: writePieces a.pieces := fun h =>
        not_double a.pieces (h.trans (List.prefix_append _ _).isInfix)
      rw [parse?, Text.cutAt?_of_not_isInfix hinfix]
      simp only [readPieces?_writePieces, Option.bind_some]
      exact ofPieces?_eq rfl

end Ipv6

end EndpointPool
