import EndpointPool.Proofs.Endpoint.Url
import EndpointPool.Proofs.Pool.Run

/-!
# The text that names an endpoint

The URL of an endpoint is put together from the parts of its identity, without escapes. It can be
taken apart again if no bracket stands in the host: the name of the scheme ends at the first colon,
the host at the first bracket that closes or else at the next colon, and the port where the path
begins, since a path in normal form does not begin with a digit. So the text names the endpoint, and
whatever shows the text tells endpoints apart: the listing of nodes, and the log lines, which can be
read back from their end.

## Main definitions

* `Endpoint.Unbracketed e`: no bracket stands in the host
* `Event.endpoint?`, `Event.words`: the endpoint that an event is about, and how its log line begins
* `Endpoint.ToldApart e e'`: the texts tell two endpoints apart

## Main results

* `Endpoint.url_eq_iff`: two endpoints with one URL have one identity
* `Event.url_eq_of_line_eq`: two endpoints with one log line have one URL
* `Endpoint.unbracketed_of_ofUrl`: a URL never makes a host with a bracket in it
* `Endpoint.toldApart_of_obtainable`: endpoints are told apart by their texts
-/

namespace EndpointPool

/-! ### Numbers and names in texts -/

namespace Decimal

theorem not_mem_digits {c : Char} (h : c.isDigit = false) (n : Nat) : c ∉ digits n := by
  intro hmem
  rw [isDigit_of_mem_digits hmem] at h
  cases h

/-- Digits end where something else begins. -/
theorem digits_append_inj {m n : Nat} {behind behind' : List Char}
    (h : ∀ c ∈ behind.head?, c.isDigit = false) (h' : ∀ c ∈ behind'.head?, c.isDigit = false) :
    digits m ++ behind = digits n ++ behind' ↔ m = n ∧ behind = behind' := by
  refine ⟨fun heq => ?_, by rintro ⟨rfl, rfl⟩; rfl⟩
  have htake : ∀ (k : Nat) {rest : List Char}, (∀ c ∈ rest.head?, c.isDigit = false) →
      (digits k ++ rest).takeWhile Char.isDigit = digits k := by
    intro k rest hrest
    exact Text.takeWhile_append_of_stop (fun _ => isDigit_of_mem_digits) hrest
  have hdigits : digits m = digits n := by rw [← htake m h, heq, htake n h']
  -- the digits spell the numbers
  obtain rfl : m = n := by rw [← value_digits m, hdigits, value_digits]
  exact ⟨rfl, List.append_cancel_left heq⟩

end Decimal

namespace Scheme

theorem colon_not_mem_name (s : Scheme) : ':' ∉ s.name.toList := by cases s <;> decide

theorem eq_of_name_eq {s t : Scheme} (h : s.name.toList = t.name.toList) : s = t := by
  have hname : ofName? s.name = ofName? t.name := by rw [String.toList_inj.mp h]
  rw [ofName?_name, ofName?_name] at hname
  exact Option.some.inj hname

end Scheme

namespace Endpoint

variable {e e' : Endpoint}

/-! ### The URL of an endpoint, taken apart -/

/-- No bracket stands in the host. -/
def Unbracketed (e : Endpoint) : Prop := '[' ∉ e.host.toList ∧ ']' ∉ e.host.toList

theorem toList_writtenHost (host : String) :
    (writtenHost host).toList =
      if ':' ∈ host.toList then '[' :: (host.toList ++ [']']) else host.toList := by
  unfold writtenHost
  by_cases h : ':' ∈ host.toList
  · rw [if_pos (List.contains_iff_mem.mpr h), if_pos h]
    simp
  · rw [if_neg (fun hc => h (List.contains_iff_mem.mp hc)), if_neg h]

theorem toList_url (e : Endpoint) :
    e.url.toList =
      e.scheme.name.toList ++ ':' :: '/' :: '/' ::
        ((writtenHost e.host).toList ++ ':' ::
          (Decimal.digits e.port.toNat ++ e.pathPrefix.toList)) := by
  simp [url, Decimal.render]

/-- A host in brackets is not a host without, whatever follows. -/
theorem bracketed_ne {host host' : String} (h : '[' ∉ host.toList) {behind behind' : List Char} :
    host.toList ++ ':' :: behind ≠ '[' :: host'.toList ++ behind' := by
  intro heq
  cases hhost : host.toList with
  | nil =>
    rw [hhost] at heq
    cases heq
  | cons c rest =>
    rw [hhost] at heq h
    obtain ⟨rfl, -⟩ := List.cons.inj heq
    exact h List.mem_cons_self

/-- A host ends where its port begins. -/
theorem writtenHost_append_inj (h : e.Unbracketed) (h' : e'.Unbracketed)
    {behind behind' : List Char} :
    (writtenHost e.host).toList ++ ':' :: behind = (writtenHost e'.host).toList ++ ':' :: behind' ↔
      e.host = e'.host ∧ behind = behind' := by
  refine ⟨fun heq => ?_, by rintro ⟨hhost, rfl⟩; rw [hhost]⟩
  rw [toList_writtenHost, toList_writtenHost] at heq
  rw [← String.toList_inj]
  -- one host in brackets and one without begin with different characters
  split at heq
  · split at heq
    · simp only [List.cons_append, List.append_assoc, List.nil_append, List.cons.injEq,
        true_and] at heq
      obtain ⟨hhost, hbehind⟩ := (Text.append_cons_inj h.2 h'.2).mp heq
      exact ⟨hhost, (List.cons.inj hbehind).2⟩
    · rw [List.cons_append, List.append_assoc] at heq
      exact absurd heq.symm (bracketed_ne h'.1)
  · next hcolon =>
    split at heq
    · rw [List.cons_append, List.append_assoc] at heq
      exact absurd heq (bracketed_ne h.1)
    · next hcolon' => exact (Text.append_cons_inj hcolon hcolon').mp heq

/-- A path in normal form begins with a slash, if it is not empty. -/
theorem isDigit_head?_of_isNormalPrefix {path : String} (h : IsNormalPrefix path) :
    ∀ c ∈ path.toList.head?, c.isDigit = false := by
  intro c hc
  rcases h with rfl | ⟨d, rest, htext, -⟩
  · cases hc
  · rw [htext] at hc
    cases hc
    rfl

/-- **Two endpoints with one URL have one identity.** -/
theorem url_eq_iff (h : e.Unbracketed) (h' : e'.Unbracketed) (hpath : IsNormalPrefix e.pathPrefix)
    (hpath' : IsNormalPrefix e'.pathPrefix) : e.url = e'.url ↔ e.id = e'.id := by
  have hids : e.id = e'.id ↔
      e.scheme = e'.scheme ∧ e.host = e'.host ∧ e.port = e'.port ∧
        e.pathPrefix = e'.pathPrefix := by
    simp [id]
  rw [hids]
  constructor
  · intro heq
    rw [← String.toList_inj, toList_url, toList_url] at heq
    -- the parts come apart from the left, one by one
    obtain ⟨hscheme, hrest⟩ :=
      (Text.append_cons_inj (Scheme.colon_not_mem_name _) (Scheme.colon_not_mem_name _)).mp heq
    simp only [List.cons.injEq, true_and] at hrest
    obtain ⟨hhost, hrest⟩ := (writtenHost_append_inj h h').mp hrest
    obtain ⟨hport, hpath⟩ := (Decimal.digits_append_inj
      (isDigit_head?_of_isNormalPrefix hpath) (isDigit_head?_of_isNormalPrefix hpath')).mp hrest
    exact ⟨Scheme.eq_of_name_eq hscheme, hhost, UInt16.toNat_inj.mp hport,
      String.toList_inj.mp hpath⟩
  · rintro ⟨hscheme, hhost, hport, hprefix⟩
    rw [url, url, hscheme, hhost, hport, hprefix]

end Endpoint

/-! ### Log lines -/

namespace Event

/-- The endpoint that an event is about. -/
def endpoint? : Event → Option Endpoint
  | added e | removed e | died e _ _ | revived e | resurrected e _ => some e
  | created _ _ _ | fellBack | cloudIdIgnored => none

/-- The words that a log line begins with. -/
def words : Event → String
  | created _ _ _ => "DEBUG Created node pool"
  | added _ => "DEBUG Adding node to pool"
  | removed _ => "DEBUG Removed node from pool"
  | died _ _ _ => "WARN Node marked dead"
  | revived _ => "INFO Node marked live"
  | resurrected _ _ => "INFO Resurrecting node after backoff"
  | fellBack => "DEBUG No alive nodes, falling back to the next node due for resurrection"
  | cloudIdIgnored => "WARN NODE_POOL_CLOUD_ID is ignored because NODE_POOL_HOSTS is set"

theorem exists_line_eq (a : Event) : ∃ fields, a.line = a.words ++ fields := by
  cases a with
  | created | died | resurrected =>
    unfold line words
    simp only [String.append_assoc]
    exact ⟨_, rfl⟩
  | added | removed | revived => exact ⟨_, rfl⟩
  | fellBack | cloudIdIgnored => exact ⟨"", rfl⟩

/-- The words of all kinds of lines: none of them begin like others. -/
def allWords : List String :=
  ["DEBUG Created node pool", "DEBUG Adding node to pool", "DEBUG Removed node from pool",
    "WARN Node marked dead", "INFO Node marked live", "INFO Resurrecting node after backoff",
    "DEBUG No alive nodes, falling back to the next node due for resurrection",
    "WARN NODE_POOL_CLOUD_ID is ignored because NODE_POOL_HOSTS is set"]

theorem words_mem_allWords (a : Event) : a.words ∈ allWords := by
  cases a <;> simp [words, allWords]

theorem eq_of_isPrefix :
    ∀ v ∈ allWords, ∀ w ∈ allWords, v.toList <+: w.toList → v = w := by
  decide

/-- Lines of different kinds begin with different words. -/
theorem words_eq_of_line_eq {a b : Event} (h : a.line = b.line) : a.words = b.words := by
  obtain ⟨fields, ha⟩ := exists_line_eq a
  obtain ⟨fields', hb⟩ := exists_line_eq b
  rw [ha, hb, ← String.toList_inj, String.toList_append, String.toList_append] at h
  have hprefix : a.words.toList <+: b.words.toList ++ fields'.toList := ⟨_, h⟩
  rcases List.prefix_or_prefix_of_prefix hprefix (List.prefix_append _ _) with hab | hba
  · exact eq_of_isPrefix _ (words_mem_allWords a) _ (words_mem_allWords b) hab
  · exact (eq_of_isPrefix _ (words_mem_allWords b) _ (words_mem_allWords a) hba).symm

/-- A number in the last field of a line is read back from the end. -/
theorem append_number_inj {line line' name : String} {m n : Nat}
    (h : line ++ (" " ++ name ++ "=" ++ Decimal.render m) =
      line' ++ (" " ++ name ++ "=" ++ Decimal.render n)) : line = line' := by
  have htext : ∀ (l : String) (k : Nat), (l ++ (" " ++ name ++ "=" ++ Decimal.render k)).toList =
      (l.toList ++ ' ' :: name.toList) ++ '=' :: Decimal.digits k := by
    simp [Decimal.render]
  have hdigits : ∀ k, '=' ∉ Decimal.digits k := Decimal.not_mem_digits rfl
  rw [← String.toList_inj, htext, htext,
    Text.append_cons_inj_last (hdigits m) (hdigits n)] at h
  exact String.toList_inj.mp (List.append_cancel_right h.1)

/-- The URL in a line is what stands between the words and the numbers. -/
theorem append_url_inj {words url url' : String}
    (h : words ++ (" " ++ "node" ++ "=" ++ url) = words ++ (" " ++ "node" ++ "=" ++ url')) :
    url = url' := by
  rw [← String.toList_inj] at h ⊢
  simpa using h

/-- Lines about endpoints that are equal show the same URL. -/
theorem url_eq_of_line_eq {a b : Event} {e e' : Endpoint} (ha : a.endpoint? = some e)
    (hb : b.endpoint? = some e') (h : a.line = b.line) : e.url = e'.url := by
  have hwords := words_eq_of_line_eq h
  -- equal words leave the events of one kind only
  cases a with
  | created | fellBack | cloudIdIgnored => cases ha
  | added d =>
    obtain ⟨d', rfl⟩ : ∃ d', b = added d' := by cases b <;> simp [words] at hwords ⊢
    cases ha
    cases hb
    exact append_url_inj h
  | removed d =>
    obtain ⟨d', rfl⟩ : ∃ d', b = removed d' := by cases b <;> simp [words] at hwords ⊢
    cases ha
    cases hb
    exact append_url_inj h
  | revived d =>
    obtain ⟨d', rfl⟩ : ∃ d', b = revived d' := by cases b <;> simp [words] at hwords ⊢
    cases ha
    cases hb
    exact append_url_inj h
  | died d failures delay =>
    obtain ⟨d', failures', delay', rfl⟩ : ∃ d' failures' delay', b = died d' failures' delay' := by
      cases b <;> simp [words] at hwords ⊢
    cases ha
    cases hb
    exact append_url_inj (append_number_inj (append_number_inj h))
  | resurrected d failures =>
    obtain ⟨d', failures', rfl⟩ : ∃ d' failures', b = resurrected d' failures' := by
      cases b <;> simp [words] at hwords ⊢
    cases ha
    cases hb
    exact append_url_inj (append_number_inj h)

/-- A line about an endpoint shows its URL behind the words. -/
theorem exists_line_eq_url {a : Event} {e : Endpoint} (h : a.endpoint? = some e) :
    ∃ numbers, a.line = a.words ++ (" " ++ "node" ++ "=" ++ e.url) ++ numbers := by
  cases a with
  | created | fellBack | cloudIdIgnored => cases h
  | added | removed | revived =>
    cases h
    exact ⟨"", (String.append_empty).symm⟩
  | resurrected =>
    cases h
    exact ⟨_, rfl⟩
  | died =>
    cases h
    exact ⟨_, String.append_assoc⟩

end Event

/-! ### Telling endpoints apart -/

theorem Node.describe_eq_iff {C D : Type} {n : Node C} {n' : Node D} :
    n.describe = n'.describe ↔ n.url = n'.url := by
  rw [← String.toList_inj, ← String.toList_inj]
  simp [describe]

/-- Two nodes of a pool with one identity are one. -/
theorem Pool.eq_of_id_eq {C σ : Type} [Selector σ] {p : Pool C σ} (hp : p.Created)
    (ops : List (Operation C)) {n n' : Node C} (hn : n ∈ (p.after ops).roster.nodes)
    (hn' : n' ∈ (p.after ops).roster.nodes) (hid : n.endpoint.id = n'.endpoint.id) : n = n' := by
  have hnodup := (hp.sound.after ops).roster.coherent.registered_nodup
  obtain ⟨r, hr, rfl⟩ := List.mem_map.mp hn
  obtain ⟨r', hr', rfl⟩ := List.mem_map.mp hn'
  rw [List.inj_on_of_nodup_map hnodup hr hr' hid]

namespace Endpoint

/-- The texts that show two endpoints tell them apart. -/
structure ToldApart (e e' : Endpoint) : Prop where
  /-- They have one URL if they have one identity, and only then. -/
  url : e.id = e'.id ↔ e.url = e'.url
  /-- The same holds of the listings of their nodes. -/
  describe : ∀ {C D : Type} (c : C) (d : D),
    e.id = e'.id ↔ (Node.mk e c).describe = (Node.mk e' d).describe
  /-- A log line about one of them shows its URL, and is no line about the other. -/
  line : ∀ {a b : Event}, a.endpoint? = some e → b.endpoint? = some e' →
    (∃ numbers, a.line = a.words ++ (" " ++ "node" ++ "=" ++ e.url) ++ numbers) ∧
      (a.line = b.line → e.id = e'.id)
  /-- Nodes of one pool for the two that are shown alike are one node. -/
  member : ∀ {C σ : Type} [Selector σ] {p : Pool C σ}, p.Created → ∀ ops : List (Operation C),
    ∀ n ∈ (p.after ops).roster.nodes, ∀ n' ∈ (p.after ops).roster.nodes,
      n.endpoint = e → n'.endpoint = e' → n.url = n'.url ∨ n.describe = n'.describe → n = n'

variable {e e' : Endpoint}

/-- A URL never makes a host with a bracket in it. -/
theorem unbracketed_of_ofUrl {text : String} {defaultPorts : Bool}
    (h : ofUrl text defaultPorts = .ok e) : e.Unbracketed := by
  obtain ⟨written, host, hread, hhost⟩ := exists_host_of_ofUrl h
  rw [Unbracketed, hhost]
  constructor
  · intro hmem
    have hc := Host.of_mem_text hread hmem
    revert hc
    decide
  · intro hmem
    have hc := Host.of_mem_text hread hmem
    revert hc
    decide

/-- **The URL names the endpoint**, and with it do all texts that show it. -/
theorem toldApart_of_obtainable (h : e.Obtainable) (h' : e'.Obtainable) (hhost : e.Unbracketed)
    (hhost' : e'.Unbracketed) :
    ToldApart e e' ∧
      ∀ text defaultPorts d, ofUrl text defaultPorts = .ok d → d.Unbracketed := by
  have hurl := url_eq_iff hhost hhost' h.valid.isNormalPrefix h'.valid.isNormalPrefix
  refine ⟨⟨hurl.symm, fun c d => ?_, fun {a b} ha hb => ?_, ?_⟩,
    fun _ _ _ => unbracketed_of_ofUrl⟩
  · rw [Node.describe_eq_iff]
    exact hurl.symm
  · exact ⟨Event.exists_line_eq_url ha, fun hline => hurl.mp (Event.url_eq_of_line_eq ha hb hline)⟩
  · rintro C σ _ p hp ops n hn n' hn' rfl rfl hshown
    apply Pool.eq_of_id_eq hp ops hn hn'
    rw [Node.describe_eq_iff, or_self] at hshown
    exact hurl.mp hshown

/-- Two addresses of the same characters, with the colons, the bracket and the port of one in the
path of the other. -/
theorem toldApart_shifted :
    let e := { new .http "a:80" 9200 with pathPrefix := "/]:1" }
    let e' := { new .http "a" 80 with pathPrefix := "/]:9200/]:1" }
    e.Obtainable ∧ e'.Obtainable ∧ e.Unbracketed ∧ e'.Unbracketed ∧
      e.url = "http://[a:80]:9200/]:1" ∧ e'.url = "http://a:80/]:9200/]:1" ∧ ToldApart e e' := by
  intro e e'
  have hrevise : (new .http "a:80" 9200).revise [.pathPrefix "/]:1/"] = .ok e := by decide
  have hrevise' : (new .http "a" 80).revise [.pathPrefix "]:9200/]:1"] = .ok e' := by decide
  have h : e.Obtainable := .revise (.new .http "a:80" 9200) hrevise
  have h' : e'.Obtainable := .revise (.new .http "a" 80) hrevise'
  have hhost : e.Unbracketed := by
    show '[' ∉ "a:80".toList ∧ ']' ∉ "a:80".toList
    decide
  have hhost' : e'.Unbracketed := by
    show '[' ∉ "a".toList ∧ ']' ∉ "a".toList
    decide
  exact ⟨h, h', hhost, hhost', by decide +kernel, by decide +kernel,
    (toldApart_of_obtainable h h' hhost hhost').1⟩

end Endpoint

end EndpointPool
