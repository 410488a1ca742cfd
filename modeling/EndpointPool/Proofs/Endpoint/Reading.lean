import EndpointPool.Proofs.Endpoint.Fields

/-!
# Reading an endpoint is making it by settings

An endpoint that is read from a text is made by the settings of its fields, and refused when the
settings are. It does not matter in which order the fields stand, what stands between them, and
whether they are the members of an object or the items of an array.

## Main results

* `Endpoint.ofJson_eq_revise`: the endpoint of a record is that of its settings
* `Endpoint.parse_eq_revise`: the endpoint of a text is that of the settings of its fields
-/

namespace EndpointPool.Endpoint

variable {members : List (Key × Json)} {r : Record Field Field.Value} {scheme : Scheme}
  {host : String} {port : UInt16}

theorem name_injective : Function.Injective schema.name := by
  intro f g h
  have hf := field?_name f
  rw [h, field?_name g] at hf
  exact (Option.some.inj hf).symm

/-- The fields in the order of their declaration, in which the items of an array stand for them. -/
theorem map_name_all : schema.all.map schema.name =
    ["scheme", "host", "port", "path_prefix", "headers", "connections_per_node",
      "request_timeout", "http_compress", "verify_certs", "ca_certs", "client_cert", "client_key",
      "ssl_assert_hostname", "ssl_assert_fingerprint", "ssl_show_warn"] :=
  rfl

theorem mem_all (f : Field) : f ∈ schema.all := List.mem_of_find?_eq_some (field?_name f)

theorem ofJson_eq_revise {v : Json} {r' : Record Field Field.Value}
    (hread : schema.readRecord v = .ok r') (hperm : r'.Perm r) (hnodup : r.fields.Nodup)
    (hscheme : ⟨.scheme, scheme⟩ ∈ r) (hhost : ⟨.host, host⟩ ∈ r) (hport : ⟨.port, port⟩ ∈ r) :
    ofJson v = ((new scheme host port).revise (settings r)).mapError .refused := by
  have hrecord := ofRecord_eq hnodup hperm hscheme hhost hport
  simp only [ofJson, hread, hrecord, bind, Except.bind, revise]
  cases checked ((settings r).foldl set (new scheme host port)) <;> rfl

/-- The record of an object that spells it. -/
theorem readRecord_object (h : schema.Spells Field.Holds members r) (hnodup : r.fields.Nodup) :
    schema.readRecord (.object members) = .ok r :=
  (Schema.readRecord_object_eq_ok_iff field?_name Field.read_eq_ok_iff members r).mpr ⟨h, hnodup⟩

/-- The record of an array of all the values of an object. -/
theorem exists_readRecord_array (h : schema.Spells Field.Holds members r) (hnodup : r.fields.Nodup)
    {items : List Json}
    (hitems : List.Forall₂ (fun f v => (.text (schema.name f), v) ∈ members) schema.all items) :
    ∃ r' : Record Field Field.Value, schema.readRecord (.array items) = .ok r' ∧ r'.Perm r := by
  obtain ⟨r', hfields, hmem, hholds⟩ := h.exists_forall₂ name_injective hitems
  have hread : schema.readRecord (.array items) = .ok r' :=
    (Schema.readRecord_array_eq_ok_iff Field.read_eq_ok_iff items r').mpr ⟨hfields, hholds⟩
  have hnodup' : r'.fields.Nodup := hfields ▸ nodup_all
  exact ⟨r', hread, Record.perm_of_subset hnodup hnodup' hmem fun f _ => hfields ▸ mem_all f⟩

/-- **The endpoint of a text is that of the settings of its fields.** The text is an object whose
members spell a record without repetitions that has an address. The settings may be made in any
order; so may the members be written, and the values of all fifteen fields may be the items of an
array, in the order in which the fields are declared. -/
theorem parse_eq_revise {text : String}
    (htext : Json.Document.parse text = ⟨.object members, false⟩)
    (hspells : schema.Spells Field.Holds members r) (hnodup : r.fields.Nodup)
    (hscheme : ⟨.scheme, scheme⟩ ∈ r) (hhost : ⟨.host, host⟩ ∈ r) (hport : ⟨.port, port⟩ ∈ r) :
    (∀ r' : Record Field Field.Value, r'.Perm r →
      parse text = ((new scheme host port).revise (settings r')).mapError .refused) ∧
    (∀ text' members', Json.Document.parse text' = ⟨.object members', false⟩ →
      members'.Perm members → parse text' = parse text) ∧
    ∀ text' items, Json.Document.parse text' = ⟨.array items, false⟩ →
      List.Forall₂ (fun name v => (.text name, v) ∈ members)
        ["scheme", "host", "port", "path_prefix", "headers", "connections_per_node",
          "request_timeout", "http_compress", "verify_certs", "ca_certs", "client_cert",
          "client_key", "ssl_assert_hostname", "ssl_assert_fingerprint", "ssl_show_warn"] items →
      parse text' = parse text := by
  have hread := readRecord_object hspells hnodup
  have hparse : parse text = ((new scheme host port).revise (settings r)).mapError .refused := by
    rw [parse, htext, Json.Document.read_value]
    exact ofJson_eq_revise hread (.refl r) hnodup hscheme hhost hport
  refine ⟨fun r' hperm => ?_, fun text' members' htext' hperm => ?_,
    fun text' items htext' hitems => ?_⟩
  · rw [parse, htext, Json.Document.read_value]
    exact ofJson_eq_revise hread hperm.symm ((hperm.map _).nodup_iff.mpr hnodup)
      (hperm.mem_iff.mpr hscheme) (hperm.mem_iff.mpr hhost) (hperm.mem_iff.mpr hport)
  · obtain ⟨r', hspells', hperm'⟩ := hspells.perm hperm.symm
    have hnodup' : r'.fields.Nodup := (hperm'.map _).nodup_iff.mp hnodup
    rw [hparse, parse, htext', Json.Document.read_value]
    have hread' := readRecord_object hspells' hnodup'
    exact ofJson_eq_revise hread' hperm'.symm hnodup hscheme hhost hport
  · rw [← map_name_all, List.forall₂_map_left_iff] at hitems
    obtain ⟨r', hread', hperm'⟩ := exists_readRecord_array hspells hnodup hitems
    rw [hparse, parse, htext', Json.Document.read_value]
    exact ofJson_eq_revise hread' hperm' hnodup hscheme hhost hport

/-! ### A text with much in between -/

/-- A text with two things wrong, and with something in it that is no field. -/
def crowdedText : String :=
  " \x7b\"x\":[\x7b\"host\":0\x7d],\"ca_certs\":\"\",\"port\":1,\"connections_per_node\":0,"
    ++ "\"request_timeout\":null,\"host\":\"\",\"scheme\":\"http\"\x7d"

/-- The members of that text. -/
def crowdedMembers : List (Key × Json) :=
  let digit (c : Char) : Json := .number ⟨false, [c], [], none⟩
  [(.text "x", .array [.ofFields [("host", digit '0')]]),
    (.text "ca_certs", .ofText ""),
    (.text "port", digit '1'),
    (.text "connections_per_node", digit '0'),
    (.text "request_timeout", .null),
    (.text "host", .ofText ""),
    (.text "scheme", .ofText "http")]

/-- Its fields. -/
def crowdedFields : Record Field Field.Value := [⟨.tls .caCerts, some ""⟩, ⟨.port, (1 : UInt16)⟩,
  ⟨.connections, some (0 : UInt64)⟩, ⟨.timeout, none⟩, ⟨.host, ""⟩, ⟨.scheme, Scheme.http⟩]

theorem spells_crowdedFields : schema.Spells Field.Holds crowdedMembers crowdedFields := by
  have hother : ∀ f, schema.name f ≠ "x" :=
    Schema.name_ne_of_field?_eq_none field?_name (by decide)
  refine .other hother rfl rfl ?_
  refine .field (f := Field.tls .caCerts) rfl ?_
  refine .field (f := Field.port) ⟨['1'], rfl, by decide⟩ ?_
  refine .field (f := Field.connections) ⟨['0'], rfl, by decide⟩ ?_
  refine .field (f := Field.timeout) rfl ?_
  refine .field (f := Field.host) rfl ?_
  exact .field (f := Field.scheme) (.inl rfl) .nil

set_option maxRecDepth 10000 in
/-- The endpoint of that text is refused for the fault that is looked for first. -/
theorem parse_eq_revise_crowdedText :
    Json.Document.parse crowdedText = ⟨.object crowdedMembers, false⟩ ∧
      schema.Spells Field.Holds crowdedMembers crowdedFields ∧ crowdedFields.fields.Nodup ∧
      parse crowdedText = .error (.refused (.configuration .noConnections)) := by
  have htext : Json.Document.parse crowdedText = ⟨.object crowdedMembers, false⟩ := by rfl
  have hnodup : crowdedFields.fields.Nodup := by decide
  have hscheme : ⟨.scheme, Scheme.http⟩ ∈ crowdedFields := by simp [crowdedFields]
  have hhost : ⟨.host, ""⟩ ∈ crowdedFields := by simp [crowdedFields]
  have hport : ⟨.port, (1 : UInt16)⟩ ∈ crowdedFields := by simp [crowdedFields]
  obtain ⟨hparse, -, -⟩ := parse_eq_revise htext spells_crowdedFields hnodup hscheme hhost hport
  exact ⟨htext, spells_crowdedFields, hnodup, (hparse crowdedFields (.refl _)).trans rfl⟩

end EndpointPool.Endpoint
