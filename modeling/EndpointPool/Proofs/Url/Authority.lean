import EndpointPool.Proofs.Text.Parts
import EndpointPool.Url.Basic

/-!
# The authority of a URL, and the port in it

Two ways of looking for a port meet in a URL. Reading the URL, the authority is what stands behind
the scheme and any slashes, and its port is what follows a colon outside of brackets. Looking for a
colon in the raw text, the authority is what stands behind the first `://`, and only a slash of the
usual kind ends it. In a URL that is put together from its parts the two find the same port.

## Main definitions

* `Url.authority? text`: the authority that is read
* `Url.portText? authority`: what an authority writes as its port
* `Url.IsRead u authority tail`: a URL is read from an authority and what follows
* `Url.SpellsPort authority n`, `Url.SpellsNoPort authority`: the port that is spelled
* `Url.Parts`: the parts of a URL, and the text put together from them
* `Url.Parts.Scannable`, `Url.Parts.Readable`, `Url.Parts.Plain`: the parts can be told apart in the
  raw text, when it is read as it stands, and when it is read

## Main results

* `Url.exists_isRead_of_parse?`, `Url.spells_of_readPort?`: a URL is read from the authority of its
  text, and its port is the one spelled there
* `Url.Parts.Scannable.writesPort_text`, `Url.Parts.writesPort_of_parts`: the raw text shows a port
  where one is put, and nowhere else
* `Url.Parts.Readable.splitHost_written`: the host and the port come apart
* `Url.Parts.Plain.eq_authority`, `Url.Parts.Plain.portText?_authority`: and so does the authority
-/

namespace EndpointPool

namespace Url

/-! ### Reading -/

/-- Whether a character may stand in an authority that is read. -/
def inAuthority (c : Char) : Bool := !isSlash c && !endsPath c

/-- The authority of a text with a scheme of the web. -/
def authority? (text : List Char) : Option (List Char) :=
  (scheme? (clean text)).map fun (_, rest) => (rest.dropWhile isSlash).takeWhile inAuthority

/-- The host and the port that an authority writes behind the user. -/
def hostAndPort (authority : List Char) : List Char := (splitUser authority).2.2

/-- What an authority writes behind the colon of its port, if it has one. -/
def portText? (authority : List Char) : Option (List Char) :=
  (splitHost false (hostAndPort authority)).2

/-- Whether a host with a port shows a colon that stands for a port: behind its last bracket, or
anywhere. -/
def showsColon (hostAndPort : List Char) : Bool :=
  match Text.cutLast? ']' hostAndPort with
  | some (_, r) => r.head? = some ':'
  | none => hostAndPort.contains ':'

/-- An authority spells a port with digits, at least one. -/
def SpellsPort (authority : List Char) (n : Nat) : Prop :=
  ∃ digits, portText? authority = some digits ∧ digits ≠ [] ∧ (∀ c ∈ digits, c.isDigit = true) ∧
    Decimal.value digits = n

/-- An authority has no port, or none behind the colon. -/
def SpellsNoPort (authority : List Char) : Prop :=
  portText? authority = none ∨ portText? authority = some []

/-- The URL of a scheme, an authority and what follows. -/
def read? (scheme : Scheme) (authority tail : List Char) : Option Url :=
  (Host.parse? (splitHost false (hostAndPort authority)).1).bind fun host =>
    (readPort? scheme (portText? authority)).map fun port =>
      { scheme, host, port
        username := (splitUser authority).1
        password := (splitUser authority).2.1
        path := Path.parse (tail.takeWhile fun c => !endsPath c) }

/-- The parts of a URL are those that an authority and what follows write. -/
structure IsRead (u : Url) (authority tail : List Char) : Prop where
  username : (splitUser authority).1 = u.username
  password : (splitUser authority).2.1 = u.password
  host : Host.parse? (splitHost false (hostAndPort authority)).1 = some u.host
  port : readPort? u.scheme (portText? authority) = some u.port
  path : Path.parse (tail.takeWhile fun c => !endsPath c) = u.path

section Reading

variable {text authority : List Char} {scheme : Scheme} {u : Url}

/-- A text is read by its scheme, its authority and what follows. -/
theorem parse?_eq (text : List Char) :
    parse? text =
      (scheme? (clean text)).bind fun found =>
        read? found.1 ((found.2.dropWhile isSlash).takeWhile inAuthority)
          ((found.2.dropWhile isSlash).dropWhile inAuthority) := by
  unfold parse?
  cases scheme? (clean text) with
  | none => rfl
  | some found =>
    obtain ⟨scheme, rest⟩ := found
    have hin : (fun c => !isSlash c && !endsPath c) = inAuthority := rfl
    simp only [hin, Option.bind_some, read?, portText?, hostAndPort]
    -- what is read for the host and for the port decides
    generalize Host.parse? _ = host
    generalize readPort? scheme _ = port
    cases host with
    | none => rfl
    | some host => cases port <;> rfl

theorem read?_eq_some_iff {tail : List Char} :
    read? scheme authority tail = some u ↔ u.scheme = scheme ∧ u.IsRead authority tail := by
  constructor
  · intro h
    obtain ⟨host, hhost, h⟩ := Option.bind_eq_some_iff.mp h
    obtain ⟨port, hport, rfl⟩ := Option.map_eq_some_iff.mp h
    exact ⟨rfl, rfl, rfl, hhost, hport, rfl⟩
  · rintro ⟨rfl, husername, hpassword, hhost, hport, hpath⟩
    rw [read?, hhost, hport, husername, hpassword, hpath]
    rfl

/-- A URL is read from the authority of its text. -/
theorem exists_isRead_of_parse? (h : parse? text = some u) :
    ∃ authority tail, authority? text = some authority ∧ u.IsRead authority tail := by
  rw [parse?_eq] at h
  obtain ⟨found, hscheme, h⟩ := Option.bind_eq_some_iff.mp h
  refine ⟨_, _, ?_, (read?_eq_some_iff.mp h).2⟩
  rw [authority?, hscheme]
  rfl

theorem hostAndPort_eq (authority : List Char) :
    hostAndPort authority =
      match Text.cutLast? '@' authority with
      | some (_, r) => r
      | none => authority := by
  unfold hostAndPort splitUser
  cases Text.cutLast? '@' authority with
  | none => rfl
  | some parts =>
    obtain ⟨user, rest⟩ := parts
    cases hcut : Text.cut? ':' user with
    | none => simp only [hcut]
    | some parts => simp only [hcut]

/-- The raw text is searched for a colon behind the first `://`, up to a slash of the usual kind. -/
theorem writesPort_eq (text : List Char) :
    writesPort text =
      match Text.cutAt? [':', '/', '/'] text with
      | none => false
      | some (_, rest) =>
        showsColon (hostAndPort (rest.takeWhile fun c => c ≠ '/' && !endsPath c)) := by
  unfold writesPort
  cases Text.cutAt? [':', '/', '/'] text with
  | none => rfl
  | some parts =>
    show _ = showsColon (hostAndPort _)
    rw [hostAndPort_eq]
    rfl

/-- A port that is read is spelled, unless none is; the scheme's own is left out. -/
theorem spells_of_readPort? {port : Option UInt16}
    (h : readPort? scheme (portText? authority) = some port) :
    port = none ∧ SpellsNoPort authority ∨
      SpellsPort authority (port.getD scheme.defaultPort).toNat := by
  unfold readPort? at h
  split at h
  · next hnone =>
    cases h
    exact .inl ⟨rfl, .inl hnone⟩
  · next hempty =>
    cases h
    exact .inl ⟨rfl, .inr hempty⟩
  · next digits _ hdigits =>
    right
    split at h
    · next n hread =>
      obtain ⟨hne, hall, hvalue⟩ := Decimal.read?_eq_some_iff.mp hread
      refine ⟨digits, hdigits, hne, hall, ?_⟩
      split at h
      · cases h
      · next hfits =>
        have hn : (UInt16.ofNat n).toNat = n :=
          UInt16.toNat_ofNat_of_lt (Nat.lt_of_not_le hfits)
        split at h
        · next hown =>
          cases h
          rw [Option.getD_none, ← hown, hn, hvalue]
        · cases h
          rw [Option.getD_some, hn, hvalue]
    · cases h

theorem SpellsNoPort.not_spellsPort (h : SpellsNoPort authority) (n : Nat) :
    ¬ SpellsPort authority n := by
  rintro ⟨digits, hdigits, hne, -⟩
  rcases h with hnone | hempty
  · exact Option.some_ne_none _ (hdigits.symm.trans hnone)
  · exact hne (Option.some.inj (hdigits.symm.trans hempty))

/-- Where no port is spelled, none is read. -/
theorem SpellsNoPort.port_eq_none (h : SpellsNoPort authority)
    (hauthority : authority? text = some authority) (hparse : parse? text = some u) :
    u.port = none := by
  obtain ⟨authority', tail, hauthority', hread⟩ := exists_isRead_of_parse? hparse
  obtain rfl := Option.some.inj (hauthority.symm.trans hauthority')
  have hport := hread.port
  rcases h with hnone | hempty
  · rw [hnone] at hport
    exact (Option.some.inj hport).symm
  · rw [hempty] at hport
    exact (Option.some.inj hport).symm

/-- What follows the scheme is what stands behind the first colon. -/
theorem rest_of_scheme? {name rest rest' : List Char} (hname : ':' ∉ name)
    (h : scheme? (name ++ ':' :: rest) = some (scheme, rest')) : rest' = rest := by
  unfold scheme? at h
  rw [Text.cut?_append hname] at h
  split at h
  · next hcut =>
    cases hcut
    split at h
    · obtain ⟨s, -, hs⟩ := Option.map_eq_some_iff.mp h
      cases hs
      rfl
    · cases h
  · cases h

end Reading

/-! ### Putting together -/

/-- The parts of a URL: the name of the scheme, the user, the host, which may be put in brackets,
the port, and what follows. -/
structure Parts where
  name : List Char
  user : Option (List Char)
  bracketed : Bool
  host : List Char
  port : Option (List Char)
  tail : List Char

namespace Parts

/-- The host as it is written. -/
def writtenHost (w : Parts) : List Char := if w.bracketed then '[' :: (w.host ++ [']']) else w.host

/-- The port as it is written. -/
def writtenPort (w : Parts) : List Char := w.port.elim [] (':' :: ·)

/-- The user, the host and the port. -/
def authority (w : Parts) : List Char :=
  w.user.elim [] (· ++ ['@']) ++ (w.writtenHost ++ w.writtenPort)

/-- The text put together from the parts. -/
def text (w : Parts) : List Char := w.name ++ ':' :: ['/', '/'] ++ (w.authority ++ w.tail)

/-- The parts can be told apart in the raw text. -/
structure Scannable (w : Parts) : Prop where
  name : ¬ ':' :: ['/', '/'] <:+: w.name
  user : ∀ u ∈ w.user, ∀ c ∈ u, c ≠ '/' ∧ endsPath c = false
  host : ∀ c ∈ w.host, (c ≠ '/' ∧ endsPath c = false) ∧ c ≠ '@' ∧ c ≠ ']'
  colon : w.bracketed = false → ':' ∉ w.host
  port : ∀ digits ∈ w.port, ∀ c ∈ digits, c.isDigit = true
  tail : ∀ c ∈ w.tail.head?, c = '/' ∨ endsPath c = true

/-- Where the text is read as it stands, it has these parts, too: only a slash of the usual kind
comes behind the authority, and no bracket is left open. -/
structure Readable (w : Parts) : Prop extends Scannable w where
  name_colon : ':' ∉ w.name
  backslash : '\\' ∉ w.authority
  bracket : '[' ∉ w.host
  authority_ne : w.authority ≠ []

/-- What is read as a URL has these parts, too: every character counts, only a slash of the usual
kind comes behind the authority, and no bracket is left open. -/
structure Plain (w : Parts) : Prop extends Scannable w where
  visible : ∀ c ∈ w.text, ' ' < c
  name_colon : ':' ∉ w.name
  backslash : '\\' ∉ w.authority
  bracket : '[' ∉ w.host
  host_ne : w.writtenHost ≠ []

variable {w : Parts} {c : Char}

/-- A port adds only digits and a colon. -/
theorem Scannable.of_mem_writtenPort (h : w.Scannable) (hc : c ∈ w.writtenPort) :
    c = ':' ∨ c.isDigit = true := by
  unfold writtenPort at hc
  cases hport : w.port with
  | none =>
    rw [hport] at hc
    cases hc
  | some digits =>
    rw [hport] at hc
    rcases List.mem_cons.mp hc with rfl | hc
    · exact .inl rfl
    · exact .inr (h.port digits hport c hc)

/-- Brackets add only themselves. -/
theorem of_mem_writtenHost (hc : c ∈ w.writtenHost) :
    w.bracketed = true ∧ (c = '[' ∨ c = ']') ∨ c ∈ w.host := by
  unfold writtenHost at hc
  split at hc
  · next hb =>
    rcases List.mem_cons.mp hc with rfl | hc
    · exact .inl ⟨hb, .inl rfl⟩
    · rcases List.mem_append.mp hc with hc | hc
      · exact .inr hc
      · exact .inl ⟨hb, .inr (List.mem_singleton.mp hc)⟩
  · exact .inr hc

theorem Scannable.at_not_mem (h : w.Scannable) : '@' ∉ w.writtenHost ++ w.writtenPort := by
  intro hmem
  rcases List.mem_append.mp hmem with hmem | hmem
  · rcases of_mem_writtenHost hmem with ⟨-, hc | hc⟩ | hmem
    · cases hc
    · cases hc
    · exact (h.host _ hmem).2.1 rfl
  · rcases h.of_mem_writtenPort hmem with hc | hc <;> cases hc

/-! #### The raw text -/

/-- Nothing in the authority ends it in the raw text. -/
theorem Scannable.of_mem_authority (h : w.Scannable) (hc : c ∈ w.authority) :
    c ≠ '/' ∧ endsPath c = false := by
  have hdigit : ∀ c : Char, c.isDigit = true → c ≠ '/' ∧ endsPath c = false := by
    intro c hc
    refine ⟨fun heq => ?_, ?_⟩
    · rw [heq] at hc
      cases hc
    · by_contra hends
      simp only [endsPath, Bool.or_eq_true, Bool.not_eq_false, decide_eq_true_eq] at hends
      rcases hends with rfl | rfl <;> cases hc
  rcases List.mem_append.mp hc with hc | hc
  · cases huser : w.user with
    | none =>
      rw [huser] at hc
      cases hc
    | some u =>
      rw [huser] at hc
      rcases List.mem_append.mp hc with hc | hc
      · exact h.user u huser c hc
      · rw [List.mem_singleton.mp hc]
        decide
  · rcases List.mem_append.mp hc with hc | hc
    · rcases of_mem_writtenHost hc with ⟨-, rfl | rfl⟩ | hc
      · decide
      · decide
      · exact (h.host c hc).1
    · rcases h.of_mem_writtenPort hc with rfl | hc
      · decide
      · exact hdigit c hc

/-- The host and the port are found behind the user. -/
theorem Scannable.hostAndPort_authority (h : w.Scannable) :
    hostAndPort w.authority = w.writtenHost ++ w.writtenPort := by
  rw [hostAndPort_eq, authority]
  cases w.user with
  | none => rw [Option.elim_none, List.nil_append, Text.cutLast?_of_not_mem h.at_not_mem]
  | some u =>
    rw [Option.elim_some, List.append_assoc, List.singleton_append,
      Text.cutLast?_append u h.at_not_mem]

/-- A colon is shown if there is a port. -/
theorem Scannable.showsColon_eq (h : w.Scannable) :
    showsColon (w.writtenHost ++ w.writtenPort) = w.port.isSome := by
  have hbracket : ']' ∉ w.writtenPort := by
    intro hmem
    rcases h.of_mem_writtenPort hmem with hc | hc <;> cases hc
  unfold showsColon writtenHost
  cases hb : w.bracketed with
  | true =>
    rw [if_pos rfl, List.cons_append, List.append_assoc, List.singleton_append, ← List.cons_append,
      Text.cutLast?_append _ hbracket]
    unfold writtenPort
    cases w.port <;> rfl
  | false =>
    have hnone : ']' ∉ w.host ++ w.writtenPort := by
      intro hmem
      rcases List.mem_append.mp hmem with hmem | hmem
      · exact (h.host _ hmem).2.2 rfl
      · exact hbracket hmem
    rw [if_neg Bool.false_ne_true, Text.cutLast?_of_not_mem hnone]
    have hcolon := h.colon hb
    unfold writtenPort
    cases w.port with
    | none => simpa using hcolon
    | some digits => simp

/-- **The raw text shows a port where one is put.** -/
theorem Scannable.writesPort_text (h : w.Scannable) : writesPort w.text = w.port.isSome := by
  have hauthority : (w.authority ++ w.tail).takeWhile (fun c => c ≠ '/' && !endsPath c) =
      w.authority := by
    apply Text.takeWhile_append_of_stop
    · intro c hc
      obtain ⟨hslash, hends⟩ := h.of_mem_authority hc
      simp [hslash, hends]
    · intro c hc
      rcases h.tail c hc with rfl | hends
      · rfl
      · simp [hends]
  rw [writesPort_eq, text, Text.cutAt?_append (by decide) h.name]
  simp only [hauthority, h.hostAndPort_authority, h.showsColon_eq]

/-- **A port is shown just where one is put**, whatever the parts contain, and none is shown in a
text without `://`. -/
theorem writesPort_of_parts :
    (∀ w : Parts, w.Scannable → (writesPort w.text = true ↔ ∃ digits, w.port = some digits)) ∧
      ∀ text, ¬ ':' :: ['/', '/'] <:+: text → writesPort text = false := by
  constructor
  · intro w h
    rw [h.writesPort_text]
    exact Option.isSome_iff_exists
  · intro text h
    rw [writesPort_eq, Text.cutAt?_of_not_isInfix h]

/-- Parts that contain what the others are told apart by. -/
def tangled : Parts where
  name := "x:/]@".toList
  user := some "[u]:p@q:".toList
  bracketed := true
  host := "a:[b:".toList
  port := some "80".toList
  tail := "/c://d@e]:1?f".toList

theorem scannable_tangled : tangled.Scannable where
  name := by decide
  user := by simp [tangled, endsPath]
  host := by simp [tangled, endsPath]
  colon := nofun
  port := by simp [tangled, Char.isDigit]
  tail := by simp [tangled, endsPath]

/-- A host in brackets among such parts, with a port and without. -/
theorem writesPort_of_parts_tangled :
    tangled.Scannable ∧ { tangled with port := none }.Scannable ∧
      tangled.text = "x:/]@://[u]:p@q:@[a:[b:]:80/c://d@e]:1?f".toList ∧
      { tangled with port := none }.text = "x:/]@://[u]:p@q:@[a:[b:]/c://d@e]:1?f".toList ∧
      ¬ ':' :: ['/', '/'] <:+: "h:80".toList ∧
      writesPort tangled.text = true ∧ ¬ writesPort { tangled with port := none }.text = true ∧
      writesPort "h:80".toList = false := by
  have hnone : { tangled with port := none }.Scannable :=
    { scannable_tangled with port := nofun }
  have hnot : ¬ ':' :: ['/', '/'] <:+: "h:80".toList := by decide
  refine ⟨scannable_tangled, hnone, by decide, by decide, hnot, ?_, ?_, ?_⟩
  · exact (writesPort_of_parts.1 tangled scannable_tangled).mpr ⟨_, rfl⟩
  · intro hwrites
    obtain ⟨digits, hport⟩ := (writesPort_of_parts.1 _ hnone).mp hwrites
    cases hport
  · exact writesPort_of_parts.2 _ hnot

/-! #### Reading the URL -/

/-- A host without a colon or an open bracket is passed over. -/
theorem splitHost_name {host : List Char} (hcolon : ':' ∉ host) (hopen : '[' ∉ host)
    (rest : List Char) :
    splitHost false (host ++ rest) =
      (host ++ (splitHost false rest).1, (splitHost false rest).2) := by
  induction host with
  | nil => rfl
  | cons c host ih =>
    obtain ⟨hc, hcolon⟩ := List.ne_and_not_mem_of_not_mem_cons hcolon
    obtain ⟨hc', hopen⟩ := List.ne_and_not_mem_of_not_mem_cons hopen
    rw [List.cons_append, splitHost, if_neg (fun h => hc h.1.symm)]
    simp [hc'.symm, ih hcolon hopen]

/-- In brackets everything is passed over up to the closing one. -/
theorem splitHost_brackets {host : List Char} (hclose : ']' ∉ host) (rest : List Char) :
    splitHost true (host ++ ']' :: rest) =
      (host ++ ']' :: (splitHost false rest).1, (splitHost false rest).2) := by
  induction host with
  | nil => simp [splitHost]
  | cons c host ih =>
    obtain ⟨hc, hclose⟩ := List.ne_and_not_mem_of_not_mem_cons hclose
    rw [List.cons_append, splitHost, if_neg (fun h => h.2 rfl)]
    simp [hc.symm, ih hclose]

/-- The host and the port come apart where they were put together. -/
theorem Readable.splitHost_written (h : w.Readable) :
    splitHost false (w.writtenHost ++ w.writtenPort) = (w.writtenHost, w.port) := by
  have hport : splitHost false w.writtenPort = ([], w.port) := by
    unfold writtenPort
    cases w.port <;> simp [splitHost]
  have hclose : ']' ∉ w.host := fun hmem => (h.host _ hmem).2.2 rfl
  rw [writtenHost]
  cases hb : w.bracketed with
  | true =>
    have hopened : ∀ rest, splitHost false ('[' :: rest) =
        ('[' :: (splitHost true rest).1, (splitHost true rest).2) := by
      simp [splitHost]
    rw [if_pos rfl, List.cons_append, List.append_assoc, List.singleton_append, hopened,
      splitHost_brackets hclose, hport]
  | false =>
    rw [if_neg Bool.false_ne_true, splitHost_name (h.colon hb) h.bracket, hport, List.append_nil]

/-- **The authority that is read writes a port where one is put.** -/
theorem Readable.portText?_authority (h : w.Readable) : portText? w.authority = w.port := by
  rw [portText?, h.hostAndPort_authority, h.splitHost_written]

/-- Whether a character counts inside of a text. -/
def counts (c : Char) : Bool := c ≠ '\t' && c ≠ '\n' && c ≠ '\r'

theorem counts_of_lt {c : Char} (h : ' ' < c) : counts c = true := by
  have hne : ∀ d, d ≤ ' ' → c ≠ d := fun d hd heq => absurd h (Char.not_lt.mpr (heq ▸ hd))
  simp [counts, hne '\t' (by decide), hne '\n' (by decide), hne '\r' (by decide)]

theorem filter_counts_eq_self {l : List Char} (h : ∀ c ∈ l, ' ' < c) : l.filter counts = l :=
  List.filter_eq_self.mpr fun c hc => counts_of_lt (h c hc)

theorem Plain.clean_text (h : w.Plain) : clean w.text = w.text := by
  have hvisible : ∀ c ∈ w.text, decide (c ≤ ' ') = false := by
    intro c hc
    exact decide_eq_false (Char.not_le.mpr (h.visible c hc))
  have htrimmed : Text.IsTrimmed (· ≤ ' ') w.text :=
    ⟨fun c hc => hvisible c (List.mem_of_mem_head? hc),
      fun c hc => hvisible c (List.mem_of_getLast? hc)⟩
  rw [clean, Text.trim_of_isTrimmed htrimmed]
  exact filter_counts_eq_self h.visible

/-- Nothing in the authority ends it when it is read. -/
theorem Readable.inAuthority_of_mem (h : w.Readable) (hc : c ∈ w.authority) :
    inAuthority c = true := by
  obtain ⟨hslash, hends⟩ := h.of_mem_authority hc
  have hback : c ≠ '\\' := fun heq => h.backslash (heq ▸ hc)
  simp [inAuthority, isSlash, hslash, hback, hends]

/-- The slashes before the authority are passed over, and no more. -/
theorem Readable.dropWhile_slashes (h : w.Readable) :
    ('/' :: '/' :: (w.authority ++ w.tail)).dropWhile isSlash = w.authority ++ w.tail := by
  obtain ⟨c, rest, heq⟩ := List.exists_cons_of_ne_nil h.authority_ne
  have hc : inAuthority c = true := h.inAuthority_of_mem (heq ▸ List.mem_cons_self)
  have hslash : isSlash c = false := by
    unfold inAuthority at hc
    simp only [Bool.and_eq_true, Bool.not_eq_true'] at hc
    exact hc.1
  rw [List.dropWhile_cons_of_pos (by rfl), List.dropWhile_cons_of_pos (by rfl), heq,
    List.cons_append, List.dropWhile_cons_of_neg (by simp [hslash])]

/-- What follows the authority ends it. -/
theorem Readable.not_inAuthority_tail (h : w.Readable) :
    ∀ c ∈ w.tail.head?, inAuthority c = false := by
  intro c hc
  rcases h.tail c hc with rfl | hends
  · rfl
  · simp [inAuthority, hends]

theorem Plain.readable (h : w.Plain) : w.Readable where
  toScannable := h.toScannable
  name_colon := h.name_colon
  backslash := h.backslash
  bracket := h.bracket
  authority_ne := by
    intro hnil
    obtain ⟨-, hrest⟩ := List.append_eq_nil_iff.mp hnil
    exact h.host_ne (List.append_eq_nil_iff.mp hrest).1

theorem Plain.portText?_authority (h : w.Plain) : portText? w.authority = w.port :=
  h.readable.portText?_authority

/-- The text, with the name of the scheme and what follows the colon apart. -/
theorem text_eq (w : Parts) :
    w.text = w.name ++ ':' :: '/' :: '/' :: (w.authority ++ w.tail) := by
  simp [text]

/-- **The authority that is read is the one put into the text.** -/
theorem Plain.eq_authority (h : w.Plain) {authority : List Char}
    (hread : authority? w.text = some authority) : authority = w.authority := by
  obtain ⟨⟨scheme, rest⟩, hscheme, rfl⟩ := Option.map_eq_some_iff.mp hread
  rw [h.clean_text, text_eq] at hscheme
  obtain rfl := rest_of_scheme? h.name_colon hscheme
  show (List.dropWhile isSlash _).takeWhile inAuthority = _
  rw [h.readable.dropWhile_slashes]
  exact Text.takeWhile_append_of_stop (fun _ => h.readable.inAuthority_of_mem)
    h.readable.not_inAuthority_tail

end Parts

end Url

end EndpointPool
