import EndpointPool.Proofs.CloudId.Acceptance
import EndpointPool.Proofs.Endpoint.Obtaining

/-!
# The endpoint of a Cloud ID

Whatever address of a search service a Cloud ID gives, there is an endpoint at it, and without an
address there is none. The host is the label of the service, a dot, and the host that the payload
names. The label is meant to be the leftmost DNS label of that host, and only IPv6 hosts are meant
to be in brackets in a URL. Both hold of proper labels and hosts, but reading a Cloud ID refuses
none but the empty ones: a label with a dot is not the leftmost label of its host, and a colon in
the label or in the host puts the whole in brackets, whether or not it is an IPv6 address.

## Main definitions

* `CloudId.served host port`: the endpoint at an address
* `CloudId.IsServed e host port`: what such an endpoint is like, and its URL
* `CloudId.Dissection.Labels d label host`: how the host of an address is put together

## Main results

* `CloudId.endpoint_of_some`, `CloudId.endpoint_eq_error_iff`: which Cloud IDs have an endpoint
* `CloudId.bracketed_of_label`: a label that is let through although it is no DNS label
* `CloudId.endpoint_of_parse`: the endpoint of a Cloud ID that is read, with the labels and hosts
  for which it is the intended one
-/

namespace EndpointPool.CloudId

section Endpoint

variable {id : CloudId} {host : String} {port : UInt16}

/-! ### The endpoint -/

/-- The endpoint at an address. -/
def served (host : String) (port : UInt16) : Endpoint :=
  { Endpoint.new .https host port with compress := true }

theorem valid_served (host : String) (port : UInt16) : (served host port).Valid :=
  have hnew := Endpoint.valid_new .https host port
  ⟨hnew.connections_pos, hnew.tls_eq_none, hnew.isNormalPrefix⟩

/-- Wherever the search service is, its endpoint is valid. -/
theorem endpoint_of_some (h : id.elasticsearch = some (host, port)) :
    id.endpoint = .ok (served host port) := by
  rw [endpoint, h]
  exact (valid_served host port).checked

theorem endpoint_of_none (h : id.elasticsearch = none) :
    id.endpoint = .error (.configuration .cloudIdWithoutAddress) := by
  rw [endpoint, h]

theorem endpoint_eq_error_iff {f : Fault} :
    id.endpoint = .error f ↔
      id.elasticsearch = none ∧ f = .configuration .cloudIdWithoutAddress := by
  cases h : id.elasticsearch with
  | none => simp [endpoint_of_none h, eq_comm]
  | some a =>
    obtain ⟨host, port⟩ := a
    simp [endpoint_of_some h]

/-! ### Its URL -/

theorem url_served_of_not_mem (h : ':' ∉ host.toList) :
    (served host port).url = "https://" ++ host ++ ":" ++ Decimal.render port.toNat := by
  simp [served, Endpoint.url, Endpoint.writtenHost, Endpoint.new, Scheme.name, h]

theorem url_served_of_mem (h : ':' ∈ host.toList) :
    (served host port).url = "https://[" ++ host ++ "]:" ++ Decimal.render port.toNat := by
  rw [← String.toList_inj]
  simp [served, Endpoint.url, Endpoint.writtenHost, Endpoint.new, Scheme.name, h]

/-- The URL writes the host without brackets iff there is no colon in it. -/
theorem url_served_eq_iff :
    (served host port).url = "https://" ++ host ++ ":" ++ Decimal.render port.toNat ↔
      ':' ∉ host.toList := by
  refine ⟨fun hplain hmem => ?_, url_served_of_not_mem⟩
  -- brackets would make it longer
  rw [url_served_of_mem hmem] at hplain
  have hlength := congrArg String.length hplain
  have hopen : "https://[".length = "https://".length + 1 := rfl
  have hclose : "]:".length = ":".length + 1 := rfl
  simp only [String.length_append] at hlength
  omega

/-- What the endpoint at an address is like. -/
structure IsServed (e : Endpoint) (host : String) (port : UInt16) : Prop where
  scheme_eq : e.scheme = .https
  host_eq : e.host = host
  port_eq : e.port = port
  pathPrefix_eq : e.pathPrefix = ""
  compress_eq : e.compress = true
  url_eq_iff : e.url = "https://" ++ host ++ ":" ++ Decimal.render port.toNat ↔ ':' ∉ host.toList
  url_of_mem : ':' ∈ host.toList →
    e.url = "https://[" ++ host ++ "]:" ++ Decimal.render port.toNat

theorem isServed (host : String) (port : UInt16) : IsServed (served host port) host port where
  scheme_eq := rfl
  host_eq := rfl
  port_eq := rfl
  pathPrefix_eq := rfl
  compress_eq := rfl
  url_eq_iff := url_served_eq_iff
  url_of_mem := url_served_of_mem

end Endpoint

/-! ### Its host -/

/-- How the host of an address is put together from a label and the host that the payload names. -/
structure Dissection.Labels {text : String} (d : Dissection text) (label host : String) : Prop where
  label_eq : d.labels[0]? = some label
  label_ne : label ≠ ""
  host_eq : host = label ++ "." ++ d.host
  colon_mem_iff : ':' ∈ host.toList ↔ ':' ∈ label.toList ∨ ':' ∈ d.host.toList
  /-- The label is what stands in front of the first dot iff there is no dot in it. -/
  leftmost_iff : (Text.pieces '.' host.toList).head? = some label.toList ↔ '.' ∉ label.toList

theorem head?_pieces_iff (label rest : List Char) :
    (Text.pieces '.' (label ++ '.' :: rest)).head? = some label ↔ '.' ∉ label := by
  constructor
  · intro h
    obtain ⟨pieces, hpieces⟩ := List.head?_eq_some_iff.mp h
    exact (Text.pieces_eq_cons_iff.mp hpieces).2.1
  · intro h
    rw [Text.pieces_append h]
    rfl

section Host

variable {text : String} {id : CloudId}

/-- The host of the address is put together from the first label, which is not empty. -/
theorem Dissection.exists_labels (d : Dissection text) (hparse : parse text = .ok id)
    {host : String} {port : UInt16} (h : id.elasticsearch = some (host, port)) :
    ∃ label, d.Labels label host := by
  obtain ⟨label, hlabel, hne, heq⟩ := ((d.yields_of_parse hparse).elasticsearch_iff _).mp h
  have hhost : host = label ++ "." ++ d.host := congrArg Prod.fst heq
  have htext : host.toList = label.toList ++ '.' :: d.host.toList := by simp [hhost]
  refine ⟨label, hlabel, hne, hhost, ?_, ?_⟩
  · simp [htext]
  · rw [htext]
    exact head?_pieces_iff _ _

/-- The label `e.s:1` for the host `h.io` is let through. It should be the leftmost label of the host
of the address, and the URL should be without brackets; but the leftmost label is `e`, and the URL
has brackets. -/
theorem bracketed_of_label :
    parse "c:aC5pbyRlLnM6MQ==" = .ok ⟨"c", some ("e.s:1" ++ "." ++ "h.io", 443), none⟩ ∧
    ∃ e, endpoint ⟨"c", some ("e.s:1" ++ "." ++ "h.io", 443), none⟩ = .ok e ∧
      e.url = "https://[e.s:1.h.io]:443" ∧
      e.url ≠ "https://" ++ "e.s:1.h.io" ++ ":" ++ Decimal.render 443 ∧
      (Text.pieces '.' e.host.toList).head? ≠ some "e.s:1".toList := by
  refine ⟨by decide +kernel, _, endpoint_of_some rfl, ?_⟩
  decide +kernel

/-- **A Cloud ID that is read has an endpoint iff it has an address**, and the endpoint is at that
address. Its URL is without brackets iff neither the label nor the host that the payload names has a
colon, and the label is the leftmost of the host iff it has no dot. -/
theorem endpoint_of_parse (hparse : parse text = .ok id) :
    (∀ host port, id.elasticsearch = some (host, port) →
      (∃ e, id.endpoint = .ok e ∧ IsServed e host port) ∧
      Nonempty (Dissection text) ∧ ∀ d : Dissection text, ∃ label, d.Labels label host) ∧
    ((∃ f, id.endpoint = .error f) ↔ id.elasticsearch = none) ∧
    ∀ f, id.endpoint = .error f → f.isConfiguration = true := by
  refine ⟨fun host port h => ⟨⟨_, endpoint_of_some h, isServed host port⟩, ?_⟩, ?_, ?_⟩
  · exact ⟨nonempty_dissection hparse, fun d => d.exists_labels hparse h⟩
  · simp [endpoint_eq_error_iff]
  · intro f hf
    rw [(endpoint_eq_error_iff.mp hf).2]
    rfl

/-- A host with a colon, and a port behind a plus sign. -/
theorem endpoint_of_parse_colonInHost :
    parse "c:YTpiOis5MjQzJGVzJGti" = .ok ⟨"c", some ("es.a:b", 9243), some ("kb.a:b", 9243)⟩ ∧
    ∃ e, endpoint ⟨"c", some ("es.a:b", 9243), some ("kb.a:b", 9243)⟩ = .ok e ∧
      IsServed e "es.a:b" 9243 ∧ e.url = "https://[es.a:b]:9243" ∧
      Nonempty (Dissection "c:YTpiOis5MjQzJGVzJGti") := by
  have hparse :
      parse "c:YTpiOis5MjQzJGVzJGti" = .ok ⟨"c", some ("es.a:b", 9243), some ("kb.a:b", 9243)⟩ := by
    decide +kernel
  obtain ⟨⟨e, he, hserved⟩, hdissection, -⟩ := (endpoint_of_parse hparse).1 "es.a:b" 9243 rfl
  refine ⟨hparse, e, he, hserved, ?_, hdissection⟩
  rw [hserved.url_of_mem (by decide)]
  decide +kernel

end Host

end EndpointPool.CloudId
