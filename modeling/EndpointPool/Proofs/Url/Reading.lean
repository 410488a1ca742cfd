import EndpointPool.Proofs.Url.Authority

/-!
# Reading a URL put together from its parts

A URL that is put together from its parts is read part by part: the scheme is that of the name, the
host and the port are those that were written, the user is what stands before the last at sign, and
the path is what follows up to a question mark or a number sign. Characters that do not count are
taken out first; the parts without them are the parts of what is read, if a port keeps the two ends
of the text apart.

## Main definitions

* `Url.namedScheme? name`: the scheme of a name
* `Url.Parts.Reads w u`: the parts of a text are read as those of a URL
* `Url.Parts.cleaned w`: the parts without the characters that do not count

## Main results

* `Url.Parts.Readable.parse?_eq_some_iff`: the URL of a text put together
* `Url.Parts.Readable.clean_text`, `Url.Parts.Readable.cleaned`: the parts that count
-/

namespace EndpointPool.Url

variable {text : List Char} {u : Url}

/-! ### The parts that are read -/

/-- The scheme of a name, if it is one of the web. -/
def namedScheme? : List Char → Option Scheme
  | [] => none
  | c :: name =>
    if c.isAlpha && name.all isSchemeChar then Scheme.ofText? (String.ofList (c :: name)) else none

/-- The name of the scheme is what stands before the first colon. -/
theorem scheme?_append {name : List Char} (h : ':' ∉ name) (rest : List Char) :
    scheme? (name ++ ':' :: rest) = (namedScheme? name).map fun s => (s, rest) := by
  unfold scheme?
  rw [Text.cut?_append h]
  cases name with
  | nil => rfl
  | cons c name =>
    simp only [namedScheme?]
    split <;> rfl

namespace Parts

variable {w : Parts}

/-- The parts are read as those of a URL. -/
structure Reads (w : Parts) (u : Url) : Prop where
  scheme : namedScheme? w.name = some u.scheme
  username : (splitUser w.authority).1 = u.username
  password : (splitUser w.authority).2.1 = u.password
  host : Host.parse? w.writtenHost = some u.host
  port : readPort? u.scheme w.port = some u.port
  path : Path.parse (w.tail.takeWhile fun c => !endsPath c) = u.path

/-- **A text put together from parts is read part by part.** -/
theorem Readable.parse?_eq_some_iff (h : w.Readable) (hclean : clean text = w.text) :
    parse? text = some u ↔ w.Reads u := by
  have hauthority : (w.authority ++ w.tail).takeWhile inAuthority = w.authority :=
    Text.takeWhile_append_of_stop (fun _ => h.inAuthority_of_mem) h.not_inAuthority_tail
  have htail : (w.authority ++ w.tail).dropWhile inAuthority = w.tail := by
    rw [Text.dropWhile_append_of_stop _ h.not_inAuthority_tail,
      List.dropWhile_eq_nil_iff.mpr fun _ => h.inAuthority_of_mem, List.nil_append]
  have hsplit := h.splitHost_written
  rw [← h.hostAndPort_authority] at hsplit
  rw [parse?_eq, hclean, text_eq, scheme?_append h.name_colon]
  cases hscheme : namedScheme? w.name with
  | none =>
    refine iff_of_false (Option.some_ne_none u).symm fun hreads => ?_
    exact Option.some_ne_none _ (hreads.scheme.symm.trans hscheme)
  | some scheme =>
    simp only [Option.map_some, Option.bind_some, h.dropWhile_slashes, hauthority, htail]
    rw [read?_eq_some_iff]
    constructor
    · rintro ⟨rfl, hread⟩
      have hhost := hread.host
      have hport := hread.port
      rw [hsplit] at hhost
      rw [h.portText?_authority] at hport
      exact ⟨hscheme, hread.username, hread.password, hhost, hport, hread.path⟩
    · intro hreads
      refine ⟨Option.some.inj (hreads.scheme.symm.trans hscheme), hreads.username,
        hreads.password, ?_, ?_, hreads.path⟩
      · rw [hsplit]
        exact hreads.host
      · rw [h.portText?_authority]
        exact hreads.port

/-! ### The characters that count -/

/-- The parts without the characters that do not count. -/
def cleaned (w : Parts) : Parts where
  name := (w.name.dropWhile (· ≤ ' ')).filter counts
  user := w.user
  bracketed := w.bracketed
  host := w.host.filter counts
  port := w.port
  tail := (w.tail.rdropWhile (· ≤ ' ')).filter counts

/-- A port is written with characters that count. -/
theorem Scannable.lt_of_mem_writtenPort (h : w.Scannable) {c : Char} (hc : c ∈ w.writtenPort) :
    ' ' < c := by
  rcases h.of_mem_writtenPort hc with rfl | hdigit
  · decide
  · have hle := of_decide_eq_true ((Bool.and_eq_true _ _).mp hdigit).1
    exact UInt32.lt_of_lt_of_le (show ' '.val < '0'.val by decide) hle

theorem Scannable.authority_cleaned (h : w.Scannable)
    (huser : ∀ user ∈ w.user, ∀ c ∈ user, ' ' < c) :
    w.cleaned.authority = w.authority.filter counts := by
  have hhost : w.cleaned.writtenHost = w.writtenHost.filter counts := by
    unfold writtenHost cleaned
    cases w.bracketed <;> simp [counts]
  have hport : w.cleaned.writtenPort = w.writtenPort.filter counts :=
    (filter_counts_eq_self fun _ => h.lt_of_mem_writtenPort).symm
  have huser : w.cleaned.user.elim [] (· ++ ['@']) =
      (w.user.elim [] (· ++ ['@'])).filter counts := by
    show w.user.elim [] (· ++ ['@']) = _
    cases hw : w.user with
    | none => rfl
    | some user => simp [filter_counts_eq_self (huser user hw), counts]
  rw [authority, authority, List.filter_append, List.filter_append, hhost, hport, huser]

/-- **What is left of the text is put together from what is left of its parts**, if a port keeps the
blanks at the end from the rest. -/
theorem Scannable.clean_text (h : w.Scannable) (hport : w.port.isSome = true)
    (huser : ∀ user ∈ w.user, ∀ c ∈ user, ' ' < c) : clean w.text = w.cleaned.text := by
  have hne : w.writtenPort ≠ [] := by
    obtain ⟨digits, hdigits⟩ := Option.isSome_iff_exists.mp hport
    simp [writtenPort, hdigits]
  have htrimmed : Text.IsTrimmed (· ≤ ' ') (':' :: '/' :: '/' :: w.authority) := by
    refine ⟨fun c hc => ?_, fun c hc => ?_⟩
    · cases hc
      rfl
    · -- the last character is one of the port
      have hlast : c ∈ w.writtenPort.getLast? := by
        rw [authority, ← List.append_assoc, ← List.cons_append, ← List.cons_append,
          ← List.cons_append, List.getLast?_append_of_ne_nil _ hne] at hc
        exact hc
      exact decide_eq_false (Char.not_le.mpr
        (h.lt_of_mem_writtenPort (List.mem_of_getLast? hlast)))
  have htext : w.text = w.name ++ (':' :: '/' :: '/' :: w.authority ++ w.tail) := by
    rw [text_eq]
    rfl
  have hclean : ∀ t, clean t = (Text.trim (· ≤ ' ') t).filter counts := fun _ => rfl
  rw [hclean, htext, Text.trim_append htrimmed (List.cons_ne_nil _ _), text_eq,
    h.authority_cleaned huser]
  simp [cleaned, counts]

/-- The parts that are left are as readable as they were. -/
theorem Readable.cleaned (h : w.Readable) (hport : w.port.isSome = true)
    (huser : ∀ user ∈ w.user, ∀ c ∈ user, ' ' < c) : w.cleaned.Readable := by
  have hname : ∀ c ∈ w.cleaned.name, c ∈ w.name := by
    intro c hc
    exact (List.dropWhile_suffix _).subset (List.mem_of_mem_filter hc)
  have hhost : ∀ c ∈ w.cleaned.host, c ∈ w.host := fun c hc => List.mem_of_mem_filter hc
  have hauthority : ∀ c ∈ w.cleaned.authority, c ∈ w.authority := by
    intro c hc
    rw [h.authority_cleaned huser] at hc
    exact List.mem_of_mem_filter hc
  have htail : ∀ c ∈ w.cleaned.tail.head?, c = '/' ∨ endsPath c = true := by
    intro c hc
    cases hrest : w.tail.rdropWhile (· ≤ ' ') with
    | nil => simp [Parts.cleaned, hrest] at hc
    | cons d rest =>
      -- what ends the authority counts, so it is still the first
      have hprefix := List.rdropWhile_prefix (· ≤ ' ') (l := w.tail)
      rw [hrest] at hprefix
      obtain ⟨behind, hbehind⟩ := hprefix
      have hd : d = '/' ∨ endsPath d = true := h.tail d (by rw [← hbehind]; rfl)
      have hcounts : counts d = true := by
        rcases hd with rfl | hends
        · rfl
        · simp only [endsPath, Bool.or_eq_true, decide_eq_true_eq] at hends
          rcases hends with rfl | rfl <;> rfl
      rw [Parts.cleaned, hrest, List.filter_cons_of_pos hcounts] at hc
      cases hc
      exact hd
  have hcolon : ':' ∉ w.cleaned.name := fun hmem => h.name_colon (hname _ hmem)
  exact {
    name := fun hin => hcolon (hin.subset List.mem_cons_self)
    user := h.user
    host := fun c hc => h.host c (hhost c hc)
    colon := fun hb hmem => h.colon hb (hhost _ hmem)
    port := h.port
    tail := htail
    name_colon := hcolon
    backslash := fun hmem => h.backslash (hauthority _ hmem)
    bracket := fun hmem => h.bracket (hhost _ hmem)
    authority_ne := by
      obtain ⟨digits, hdigits⟩ := Option.isSome_iff_exists.mp hport
      have hdigits' : w.cleaned.port = some digits := hdigits
      simp [authority, writtenPort, hdigits'] }

end Parts

end EndpointPool.Url
