import EndpointPool.CloudId
import EndpointPool.Proofs.Encoding.Base64
import EndpointPool.Proofs.Text.Parts

/-!
# Which Cloud IDs are read

A text is read as a Cloud ID iff it can be taken apart into a name, a payload and what the payload
carries: the name ends at the first colon, the payload is Base64 of ASCII bytes, the parts of what
it carries stand between dollar signs, and the first of them is a host that is not empty, with a
port behind its last colon or without a colon. There is one fault for all other texts.

## Main definitions

* `CloudId.ofParts name host port labels`: the Cloud ID of a name, a host, a port and labels
* `CloudId.SpellsPort text p`, `CloudId.NamesHost text host port`: the port and the host that a text
  names
* `CloudId.portOfDigits? digits`: the port that is read behind the sign
* `CloudId.Dissection text`: a text taken apart
* `CloudId.Dissection.Yields d id`: the Cloud ID of a text that is taken apart

## Main results

* `CloudId.readPort?_eq_some_iff`, `CloudId.readHost?_eq_some_iff`,
  `CloudId.decodePayload?_eq_some_iff`: what each reader reads
* `CloudId.Dissection.parse_eq`, `CloudId.nonempty_dissection`: the texts that are read
* `CloudId.read_by_parts`: exactly these are read, and as what
-/

namespace EndpointPool.CloudId

/-- The address of a service: none if its label is empty or missing, and otherwise its label in
front of the host, at the port, or at port 443 if there is none. -/
def address (host : String) (port : Option UInt16) (label : Option String) :
    Option (String × UInt16) :=
  (label.filter (· ≠ "")).map fun l => (l ++ "." ++ host, port.getD 443)

/-- The Cloud ID of a cluster with these services. -/
def ofParts (name host : String) (port : Option UInt16) (labels : List String) : CloudId where
  clusterName := name
  elasticsearch := address host port labels[0]?
  kibana := address host port labels[1]?

/-! ### The port -/

/-- The text is the port in decimal digits, perhaps behind a plus sign. -/
def SpellsPort (text : List Char) (p : UInt16) : Prop :=
  ∃ digits, (text = digits ∨ text = '+' :: digits) ∧ digits ≠ [] ∧
    (∀ c ∈ digits, c.isDigit = true) ∧ Decimal.value digits = p.toNat

section Port

variable {text : List Char} {p : UInt16}

theorem SpellsPort.colon_not_mem (h : SpellsPort text p) : ':' ∉ text := by
  obtain ⟨digits, htext, -, hdigits, -⟩ := h
  have hcolon : ':' ∉ digits := by
    intro hmem
    cases hdigits _ hmem
  rcases htext with rfl | rfl
  · exact hcolon
  · exact List.not_mem_cons_of_ne_of_not_mem (by decide) hcolon

/-- The port that digits without a sign spell. -/
def portOfDigits? (digits : List Char) : Option UInt16 :=
  (Decimal.read? digits).bind fun n => if n < 65536 then some (UInt16.ofNat n) else none

theorem portOfDigits?_eq_some_iff :
    portOfDigits? text = some p ↔
      text ≠ [] ∧ (∀ c ∈ text, c.isDigit = true) ∧ Decimal.value text = p.toNat := by
  rw [← Decimal.read?_eq_some_iff]
  constructor
  · intro h
    obtain ⟨n, hn, h⟩ := Option.bind_eq_some_iff.mp h
    obtain ⟨hlt, heq⟩ := Option.ite_none_right_eq_some.mp h
    rw [hn, ← Option.some.inj heq, UInt16.toNat_ofNat_of_lt' hlt]
  · intro h
    simp [portOfDigits?, h, p.toNat_lt]

theorem readPort?_plus (digits : List Char) : readPort? ('+' :: digits) = portOfDigits? digits := by
  unfold readPort? portOfDigits?
  cases hread : Decimal.read? digits <;> simp [hread]

theorem readPort?_of_ne_plus (h : ∀ digits, text ≠ '+' :: digits) :
    readPort? text = portOfDigits? text := by
  unfold readPort? portOfDigits?
  split
  · next digits => exact absurd rfl (h digits)
  · cases hread : Decimal.read? text <;> simp [hread]

theorem readPort?_eq_some_iff : readPort? text = some p ↔ SpellsPort text p := by
  by_cases hplus : ∃ digits, text = '+' :: digits
  · obtain ⟨digits, rfl⟩ := hplus
    rw [readPort?_plus, portOfDigits?_eq_some_iff]
    refine ⟨fun h => ⟨digits, .inr rfl, h⟩, ?_⟩
    rintro ⟨digits', rfl | htext, h⟩
    · -- a plus sign is no digit
      cases h.2.1 '+' List.mem_cons_self
    · exact (List.cons.inj htext).2 ▸ h
  · rw [readPort?_of_ne_plus (not_exists.mp hplus), portOfDigits?_eq_some_iff]
    refine ⟨fun h => ⟨text, .inl rfl, h⟩, ?_⟩
    rintro ⟨digits, rfl | htext, h⟩
    · exact h
    · exact absurd ⟨digits, htext⟩ hplus

end Port

/-! ### The host -/

/-- The text names a host that is not empty: alone, or with a port behind its last colon. -/
inductive NamesHost : List Char → List Char → Option UInt16 → Prop
  | alone {host : List Char} (hne : host ≠ []) (hcolon : ':' ∉ host) : NamesHost host host none
  | withPort {host port : List Char} {p : UInt16} (hne : host ≠ []) (hcolon : ':' ∉ port)
    (hport : SpellsPort port p) : NamesHost (host ++ ':' :: port) host (some p)

theorem readHost?_eq_some_iff {text host : List Char} {p : UInt16} :
    readHost? text = some (host, p) ↔
      ∃ port, NamesHost text host port ∧ p = port.getD defaultPort := by
  constructor
  · intro h
    unfold readHost? at h
    split at h
    · next hcut =>
      obtain ⟨hne, heq⟩ := Option.ite_none_left_eq_some.mp h
      cases heq
      exact ⟨none, .alone (by simpa using hne) (Text.cutLast?_eq_none_iff.mp hcut), rfl⟩
    · next host' port hcut =>
      obtain ⟨rfl, hcolon⟩ := Text.cutLast?_eq_some_iff.mp hcut
      obtain ⟨hne, hread⟩ := Option.ite_none_left_eq_some.mp h
      obtain ⟨q, hq, heq⟩ := Option.map_eq_some_iff.mp hread
      cases heq
      exact ⟨some p, .withPort (by simpa using hne) hcolon (readPort?_eq_some_iff.mp hq), rfl⟩
  · rintro ⟨port, hnames, rfl⟩
    cases hnames with
    | alone hne hcolon => simp [readHost?, Text.cutLast?_of_not_mem hcolon, hne]
    | withPort hne hcolon hport =>
      simp [readHost?, Text.cutLast?_append host hcolon, readPort?_eq_some_iff.mpr hport, hne]

/-! ### The payload -/

theorem decodePayload?_eq_some_iff {payload text : List Char} :
    decodePayload? payload = some text ↔
      ∃ bytes, Base64.Spells payload bytes ∧ (∀ b ∈ bytes, b < 128) ∧
        bytes.map (fun b => Char.ofNat b.toNat) = text := by
  simp only [← Base64.decode?_eq_some_iff]
  rw [decodePayload?]
  cases Base64.decode? payload with
  | none => simp
  | some bytes => simp [Option.ite_none_right_eq_some]

/-! ### The whole -/

/-- A text taken apart: a name, a payload, and what the payload carries. -/
structure Dissection (text : String) where
  name : String
  payload : String
  bytes : List UInt8
  /-- What is carried in front of the first dollar sign. -/
  first : List Char
  /-- What is carried behind each dollar sign. -/
  labels : List String
  host : String
  port : Option UInt16
  text_eq : text = name ++ ":" ++ payload
  colon_not_mem : ':' ∉ name.toList
  spells : Base64.Spells payload.toList bytes
  ascii : ∀ b ∈ bytes, b < 128
  carried_eq : bytes.map (fun b => Char.ofNat b.toNat) =
    first ++ (labels.map String.toList).flatMap ('$' :: ·)
  dollar_not_mem : '$' ∉ first ∧ ∀ l ∈ labels, '$' ∉ l.toList
  names : NamesHost first host.toList port

/-- The Cloud ID has the name and the addresses that the parts of a text give: a service lives in
front of the host if it has a label that is not empty, at the port, or at port 443 if there is
none. -/
structure Dissection.Yields {text : String} (d : Dissection text) (id : CloudId) : Prop where
  clusterName_eq : id.clusterName = d.name
  elasticsearch_iff : ∀ a, id.elasticsearch = some a ↔
    ∃ l, d.labels[0]? = some l ∧ l ≠ "" ∧ a = (l ++ "." ++ d.host, d.port.getD 443)
  kibana_iff : ∀ a, id.kibana = some a ↔
    ∃ l, d.labels[1]? = some l ∧ l ≠ "" ∧ a = (l ++ "." ++ d.host, d.port.getD 443)

/-- The addresses are those that the labels are for. -/
theorem address?_toList (host : String) (port : Option UInt16) (label : Option String) :
    address? host.toList (port.getD defaultPort) (label.map String.toList) =
      address host port label := by
  cases label with
  | none => rfl
  | some l =>
    by_cases hl : l = ""
    · subst hl
      rfl
    · have hne : l.toList ≠ [] := fun hnil => hl (String.toList_eq_nil_iff.mp hnil)
      have htext : String.ofList (l.toList ++ '.' :: host.toList) = l ++ "." ++ host := by
        rw [← String.toList_inj]
        simp
      have hfilter : (some l).filter (· ≠ "") = some l :=
        Option.filter_eq_some_iff.mpr ⟨rfl, decide_eq_true hl⟩
      rw [address, hfilter]
      simp [address?, hne, htext, defaultPort]

theorem address_eq_some_iff {host : String} {port : Option UInt16} {label : Option String}
    {a : String × UInt16} :
    address host port label = some a ↔
      ∃ l, label = some l ∧ l ≠ "" ∧ a = (l ++ "." ++ host, port.getD 443) := by
  rw [address, Option.map_eq_some_iff]
  simp only [Option.filter_eq_some_iff, decide_eq_true_eq, and_assoc, eq_comm (a := a)]

section Whole

variable {text : String}

/-- **What can be taken apart is read**, as the Cloud ID of its parts. -/
theorem Dissection.parse_eq (d : Dissection text) :
    parse text = .ok (ofParts d.name d.host d.port d.labels) := by
  have htext : text.toList = d.name.toList ++ ':' :: d.payload.toList := by
    have h := congrArg String.toList d.text_eq
    simpa using h
  have hdecode := decodePayload?_eq_some_iff.mpr ⟨d.bytes, d.spells, d.ascii, d.carried_eq⟩
  have hlabels : ∀ part ∈ d.labels.map String.toList, '$' ∉ part := by
    simpa using d.dollar_not_mem.2
  have hpieces := Text.pieces_flatMap d.dollar_not_mem.1 hlabels
  have hread := readHost?_eq_some_iff.mpr ⟨d.port, d.names, rfl⟩
  rw [parse, htext, parse?, Text.cut?_append d.colon_not_mem]
  simp only [hdecode, hpieces, List.headD_cons, hread, List.getElem?_cons_succ, List.getElem?_map,
    address?_toList, String.ofList_toList]
  rfl

theorem Dissection.yields (d : Dissection text) :
    d.Yields (ofParts d.name d.host d.port d.labels) where
  clusterName_eq := rfl
  elasticsearch_iff _ := address_eq_some_iff
  kibana_iff _ := address_eq_some_iff

theorem Dissection.yields_of_parse (d : Dissection text) {id : CloudId}
    (h : parse text = .ok id) : d.Yields id := by
  obtain rfl := Except.ok.inj (d.parse_eq.symm.trans h)
  exact d.yields

/-- **What is read can be taken apart.** -/
theorem nonempty_dissection {id : CloudId} (h : parse text = .ok id) :
    Nonempty (Dissection text) := by
  -- a reader that fails makes the whole fail, and each that reads gives the parts it has read
  unfold parse parse? at h
  cases hcut : Text.cut? ':' text.toList with
  | none => simp [hcut] at h
  | some cut =>
    obtain ⟨name, payload⟩ := cut
    cases hdecode : decodePayload? payload with
    | none => simp [hcut, hdecode] at h
    | some decoded =>
      obtain ⟨first, labels, hpieces⟩ :=
        List.exists_cons_of_ne_nil (Text.pieces_ne_nil '$' decoded)
      cases hread : readHost? first with
      | none => simp [hcut, hdecode, hpieces, hread] at h
      | some read =>
        obtain ⟨host, p⟩ := read
        obtain ⟨htext, hcolon⟩ := Text.cut?_eq_some_iff.mp hcut
        obtain ⟨bytes, hspells, hascii, hbytes⟩ := decodePayload?_eq_some_iff.mp hdecode
        obtain ⟨hcarried, hfirst, hlabels⟩ := Text.pieces_eq_cons_iff.mp hpieces
        obtain ⟨port, hnames, -⟩ := readHost?_eq_some_iff.mp hread
        exact ⟨{
          name := String.ofList name
          payload := String.ofList payload
          bytes, first
          labels := labels.map String.ofList
          host := String.ofList host
          port
          text_eq := by
            rw [← String.toList_inj, htext]
            simp
          colon_not_mem := by simpa using hcolon
          spells := by simpa using hspells
          ascii := hascii
          carried_eq := by simpa [hbytes] using hcarried
          dollar_not_mem := ⟨hfirst, by simpa using hlabels⟩
          names := by simpa using hnames }⟩

theorem eq_cloudIdFormat_of_parse {f : Fault} (h : parse text = .error f) : f = .cloudIdFormat := by
  unfold parse at h
  split at h
  · cases h
  · cases h
    rfl

/-- What cannot be taken apart is malformed. -/
theorem parse_eq_error_iff {f : Fault} :
    parse text = .error f ↔ f = .cloudIdFormat ∧ IsEmpty (Dissection text) := by
  constructor
  · intro h
    refine ⟨eq_cloudIdFormat_of_parse h, ⟨fun d => ?_⟩⟩
    rw [d.parse_eq] at h
    cases h
  · rintro ⟨rfl, hempty⟩
    cases hparse : parse text with
    | ok id =>
      obtain ⟨d⟩ := nonempty_dissection hparse
      exact (hempty.false d).elim
    | error f => rw [eq_cloudIdFormat_of_parse hparse]

/-- The labels behind the first two are not looked at. -/
theorem ofParts_congr {name host : String} {port port' : Option UInt16}
    {labels labels' : List String} (hport : port'.getD 443 = port.getD 443)
    (hlabels : labels'.take 2 = labels.take 2) :
    ofParts name host port' labels' = ofParts name host port labels := by
  have hlabel : ∀ i < 2, labels'[i]? = labels[i]? := by
    intro i hi
    rw [← List.getElem?_take_of_lt hi, hlabels, List.getElem?_take_of_lt hi]
  simp only [ofParts, address, hport, hlabel 0 (by decide), hlabel 1 (by decide)]

/-- What is read of a text, and as what. -/
structure ReadByParts (text : String) : Prop where
  /-- The texts that are read are those that can be taken apart. -/
  ok_iff : (∃ id, parse text = .ok id) ↔ Nonempty (Dissection text)
  /-- All other texts are malformed, and there is no other fault. -/
  error_iff : ∀ f, parse text = .error f ↔ f = .cloudIdFormat ∧ IsEmpty (Dissection text)
  /-- The name and the addresses are those of the parts. -/
  yields : ∀ id, parse text = .ok id → ∀ d : Dissection text, d.Yields id
  /-- Labels behind the first two have no influence. -/
  eq_of_take : ∀ (other : String) (d : Dissection text) (d' : Dissection other),
    d'.name = d.name → d'.host = d.host → d'.port.getD 443 = d.port.getD 443 →
      d'.labels.take 2 = d.labels.take 2 → parse other = parse text

end Whole

/-- **A text is read iff it can be taken apart, and as the Cloud ID that its parts yield.** -/
theorem read_by_parts (text : String) : ReadByParts text where
  ok_iff := ⟨fun ⟨_, h⟩ => nonempty_dissection h, fun ⟨d⟩ => ⟨_, d.parse_eq⟩⟩
  error_iff _ := parse_eq_error_iff
  yields _ h d := d.yields_of_parse h
  eq_of_take other d d' hname hhost hport hlabels := by
    rw [d.parse_eq, d'.parse_eq, hname, hhost, ofParts_congr hport hlabels]

/-- Half of the padding, and a label too many. -/
example : parse "c:aC5pbyRlJGskeA=" =
    .ok ⟨"c", some ("e.h.io", 443), some ("k.h.io", 443)⟩ := by decide +kernel

end EndpointPool.CloudId
