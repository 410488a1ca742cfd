import EndpointPool.Endpoint.Json
import EndpointPool.Proofs.Endpoint.Obtaining
import EndpointPool.Proofs.Endpoint.Reading

/-!
# Reading undoes writing for endpoints

An endpoint is written as an object that spells the record of all its fields, and the settings of
these fields make an endpoint that differs from it in nothing but the normal form of its path. So
the valid endpoints, and no others, are read back from what is written for them.

## Main definitions

* `Endpoint.record e`: the fields of an endpoint

## Main results

* `Endpoint.spells_toJson`, `Endpoint.fill_record`: what is written for an endpoint, and what is
  made of it
* `Endpoint.parse_toJson_eq_ok_iff`, `Endpoint.obtainable_iff_valid`: the endpoints that are read
  back, and those that can be obtained, are the valid ones
* `Endpoint.parse_toJson_of_obtainable`: an endpoint that can be obtained is read back, and written
  as before
-/

namespace EndpointPool

namespace Duration

theorem proper_toJson (d : Duration) : d.toJson.Proper := by
  refine .fields fun f hf => ?_
  rcases List.mem_pair.mp hf with rfl | rfl <;> exact Json.proper_ofNat _

theorem holds_toJson (d : Duration) : Holds d.toJson d := by
  have hseconds : d.seconds < UInt64.size := Nat.div_lt_of_lt_mul (Nat.mul_comm _ _ ▸ d.lt_limit)
  have hsubsecond : d.subsecond < UInt32.size :=
    Nat.lt_trans (Nat.mod_lt _ (by decide)) (by decide : nanosPerSecond < UInt32.size)
  have hnanos : d.nanos = d.seconds * nanosPerSecond + d.subsecond :=
    (Nat.div_add_mod' d.nanos nanosPerSecond).symm
  exact ⟨d.seconds, d.subsecond, _, _, ⟨Json.isNumber_ofNat _, hseconds⟩,
    ⟨Json.isNumber_ofNat _, hsubsecond⟩, hnanos, .inl rfl⟩

end Duration

namespace Endpoint

/-- The fields of an endpoint, in the order in which they are written. -/
def record (e : Endpoint) : Record Field Field.Value := [
  ⟨.scheme, e.scheme⟩,
  ⟨.host, e.host⟩,
  ⟨.port, e.port⟩,
  ⟨.pathPrefix, e.pathPrefix⟩,
  ⟨.headers, e.headers⟩,
  ⟨.connections, some e.connections⟩,
  ⟨.timeout, e.timeout⟩,
  ⟨.compress, e.compress⟩,
  ⟨.verifyCerts, some e.verifyCerts⟩,
  ⟨.tls .caCerts, e.tls.caCerts⟩,
  ⟨.tls .clientCert, e.tls.clientCert⟩,
  ⟨.tls .clientKey, e.tls.clientKey⟩,
  ⟨.tls .assertHostname, e.tls.assertHostname⟩,
  ⟨.tls .assertFingerprint, e.tls.assertFingerprint⟩,
  ⟨.showWarnings, some e.showWarnings⟩]

/-- What is written for an endpoint spells the record of its fields. -/
theorem spells_toJson (e : Endpoint) :
    ∃ members, e.toJson = .object members ∧ schema.Spells Field.Holds members e.record := by
  have htext : ∀ o : Option String,
      (Json.ofOption Json.ofText o).OrNull (fun v t => v = .ofText t) o :=
    Json.orNull_ofOption fun _ => rfl
  refine ⟨_, rfl, ?_⟩
  refine .field (f := Field.scheme) (.inl rfl) ?_
  refine .field (f := Field.host) rfl ?_
  refine .field (f := Field.port) (Json.isNumber_ofNat _) ?_
  refine .field (f := Field.pathPrefix) rfl ?_
  refine .field (f := Field.headers) ⟨e.headers.entries, rfl, (NameMap.ofList_entries _).symm⟩ ?_
  refine .field (f := Field.connections) (Json.isNumber_ofNat _) ?_
  refine .field (f := Field.timeout) (Json.orNull_ofOption Duration.holds_toJson _) ?_
  refine .field (f := Field.compress) rfl ?_
  refine .field (f := Field.verifyCerts) rfl ?_
  refine .field (f := Field.tls .caCerts) (htext _) ?_
  refine .field (f := Field.tls .clientCert) (htext _) ?_
  refine .field (f := Field.tls .clientKey) (htext _) ?_
  refine .field (f := Field.tls .assertHostname) (htext _) ?_
  refine .field (f := Field.tls .assertFingerprint) (htext _) ?_
  exact .field (f := Field.showWarnings) rfl .nil

/-- The fields of an endpoint make it again, with its path in normal form. -/
theorem fill_record (e : Endpoint) :
    (new e.scheme e.host e.port).fill e.record =
      { e with pathPrefix := normalizePrefix e.pathPrefix } := by
  simp only [fill, new, TlsValues.none, Option.or_none]
  rfl

theorem proper_toJson (e : Endpoint) : e.toJson.Proper := by
  have htext : ∀ o : Option String, (Json.ofOption Json.ofText o).Proper :=
    Json.proper_ofOption .text
  have hheaders : ∀ f ∈ e.headers.entries.map fun h => (h.1, Json.ofText h.2), f.2.Proper := by
    intro f hf
    obtain ⟨h, -, rfl⟩ := List.mem_map.mp hf
    exact .text h.2
  refine .fields ?_
  simp only [List.forall_mem_cons]
  exact ⟨.text _, .text _, Json.proper_ofNat _, .text _, .fields hheaders, Json.proper_ofNat _,
    Json.proper_ofOption Duration.proper_toJson _, .bool _, .bool _, htext _, htext _, htext _,
    htext _, htext _, .bool _, nofun⟩

/-- What is read from what is written for an endpoint. -/
theorem parse_toJson_eq (e : Endpoint) :
    parse e.toJson.render =
      (checked { e with pathPrefix := normalizePrefix e.pathPrefix }).mapError .refused := by
  have hnodup : e.record.fields.Nodup := nodup_all
  obtain ⟨members, hmembers, hspells⟩ := e.spells_toJson
  rw [parse, Json.Document.parse_render e.proper_toJson, Json.Document.read_value, hmembers,
    ofJson_eq_revise (readRecord_object hspells hnodup) (.refl _) hnodup (.head _)
      (.tail _ (.head _)) (.tail _ (.tail _ (.head _))),
    revise, foldl_settings hnodup, fill_record]

/-- The endpoints that are read back from what is written for them are the valid ones. -/
theorem parse_toJson_eq_ok_iff (e : Endpoint) : parse e.toJson.render = .ok e ↔ e.Valid := by
  constructor
  · exact valid_of_parse
  · intro h
    rw [parse_toJson_eq, normalizePrefix_of_isNormalPrefix h.isNormalPrefix, h.checked]
    rfl

/-- The endpoints that can be obtained are the valid ones, for all of them are read back. -/
theorem obtainable_iff_valid (e : Endpoint) : e.Obtainable ↔ e.Valid := by
  constructor
  · exact Obtainable.valid
  · intro h
    exact .parse ((parse_toJson_eq_ok_iff e).mpr h)

/-- **An endpoint that can be obtained is read back** from what is written for it, in all its
fields, and is then written as before. -/
theorem parse_toJson_of_obtainable {e : Endpoint} (h : e.Obtainable) :
    parse e.toJson.render = .ok e ∧
      (parse e.toJson.render).map (fun e' => e'.toJson.render) = .ok e.toJson.render := by
  have hread := (parse_toJson_eq_ok_iff e).mpr h.valid
  refine ⟨hread, ?_⟩
  rw [hread]
  rfl

/-- An endpoint of which nearly every text has something to be escaped. -/
def escaped : Endpoint :=
  { new .https "\"\\\n\x00" 65535 with
    pathPrefix := "/\x01é/𐍈\\"
    headers := NameMap.empty.insert "x\"" "\t\x7f"
    connections := 18446744073709551615
    timeout := none
    tls := { TlsValues.none with clientKey := some "" } }

/-- That endpoint is obtained by settings, and read back. -/
theorem parse_toJson_escaped :
    escaped.Obtainable ∧ parse escaped.toJson.render = .ok escaped ∧
      (parse escaped.toJson.render).map (fun e' => e'.toJson.render) =
        .ok escaped.toJson.render := by
  have hrevise : revise (new .https "\"\\\n\x00" 65535) [.pathPrefix "\x01é/𐍈\\//",
      .header "x\"" "\t\x7f", .connections 18446744073709551615, .timeout none,
      .tls .clientKey ""] = .ok escaped := by decide
  have h : escaped.Obtainable := .revise (.new _ _ _) hrevise
  exact ⟨h, parse_toJson_of_obtainable h⟩

end Endpoint

end EndpointPool
