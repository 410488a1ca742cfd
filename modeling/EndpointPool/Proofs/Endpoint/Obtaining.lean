import EndpointPool.CloudId
import EndpointPool.Endpoint.Reader
import EndpointPool.Endpoint.Url
import EndpointPool.Proofs.Json.Records
import EndpointPool.Proofs.Text.Parts

/-!
# The endpoints that can be obtained

An endpoint is obtained from an address, by settings from another endpoint, or it is read from JSON,
from a URL or from a Cloud ID. However it is obtained, it passes the check and its path is in normal
form: the check at the end of every way is the same, the one way without it has nothing to refuse,
and no setting leaves a path as it was given.

## Main definitions

* `IsNormalPrefix text`: the paths in normal form
* `Endpoint.Valid e`: an endpoint that passes the check and has a path in normal form
* `Endpoint.Obtainable e`: an endpoint that can be obtained

## Main results

* `isNormalPrefix_normalizePrefix`, `normalizePrefix_of_isNormalPrefix`: normalizing gives the
  normal form, and keeps it
* `Endpoint.checked_eq_ok_iff`: the endpoints that pass the check
* `Endpoint.Obtainable.valid_and_kept`: an endpoint that can be obtained is valid, and kept by
  normalizing its path and by checking it once more
-/

namespace EndpointPool

/-! ### Paths in normal form -/

/-- A path in normal form: nothing, or a slash before a text that is not empty and has no slash at
either end. -/
def IsNormalPrefix (text : String) : Prop :=
  text = "" ∨ ∃ c rest, text.toList = '/' :: c :: rest ∧ c ≠ '/' ∧ text.toList.getLast? ≠ some '/'

theorem isNormalPrefix_of_isTrimmed {inner : List Char} (h : Text.IsTrimmed (· = '/') inner)
    (hne : inner ≠ []) : IsNormalPrefix (String.ofList ('/' :: inner)) := by
  obtain ⟨c, rest, rfl⟩ := List.exists_cons_of_ne_nil hne
  refine .inr ⟨c, rest, String.toList_ofList, by simpa using h.1 c rfl, ?_⟩
  rw [String.toList_ofList, List.getLast?_cons_cons]
  intro hlast
  simpa using h.2 '/' hlast

theorem isNormalPrefix_normalizePrefix (text : String) : IsNormalPrefix (normalizePrefix text) := by
  unfold normalizePrefix
  split
  · exact .inl rfl
  · next hne => exact isNormalPrefix_of_isTrimmed (Text.isTrimmed_trim _ text.toList) hne

theorem normalizePrefix_of_isNormalPrefix {text : String} (h : IsNormalPrefix text) :
    normalizePrefix text = text := by
  rcases h with rfl | ⟨c, rest, htext, hc, hlast⟩
  · rfl
  · rw [htext, List.getLast?_cons_cons] at hlast
    -- the slash in front is all there is to trim, and is put back
    have htrimmed : Text.IsTrimmed (· = '/') (c :: rest) := by
      refine ⟨fun d hd => ?_, fun d hd => ?_⟩
      · rw [← Option.some.inj hd]
        simpa using hc
      · simpa using fun hslash : d = '/' => hlast (hslash ▸ hd)
    have htrim : Text.trim (· = '/') text.toList = c :: rest := by
      rw [htext, Text.trim_cons_of_pos (by simp), Text.trim_of_isTrimmed htrimmed]
    rw [normalizePrefix, htrim, ← String.ofList_toList (s := text), htext]

namespace Endpoint

/-! ### The check -/

/-- An endpoint that has connections, no options for certificates without `https`, and a path in
normal form. -/
structure Valid (e : Endpoint) : Prop where
  connections_pos : 0 < e.connections
  tls_eq_none : e.scheme = .http → e.tls = .none
  isNormalPrefix : IsNormalPrefix e.pathPrefix

theorem defect?_eq_none_iff (e : Endpoint) :
    e.defect? = none ↔ 0 < e.connections ∧ (e.scheme = .http → e.tls = .none) := by
  have htls : TlsOption.all.find? (fun o => (e.tls.get o).isSome) = none ↔ e.tls = .none := by
    rcases e.tls with ⟨caCerts, clientCert, clientKey, assertHostname, assertFingerprint⟩
    simp [TlsOption.all, TlsValues.get, TlsValues.none]
  unfold defect?
  split
  · next hzero => simp [hzero]
  · next hconnections =>
    have hpos : 0 < e.connections := UInt64.pos_iff_ne_zero.mpr hconnections
    split
    · next hscheme => simp [hpos, hscheme]
    · next hscheme =>
      have hhttp : e.scheme = .http := by
        cases hs : e.scheme with
        | http => rfl
        | https => exact absurd hs hscheme
      rw [Option.map_eq_none_iff, htls]
      simp [hpos, hhttp]

theorem checked_eq_ok_iff (e e' : Endpoint) : e.checked = .ok e' ↔ e' = e ∧ e.defect? = none := by
  unfold checked
  split
  · next hdefect => simp [hdefect]
  · next hdefect => simp [hdefect, eq_comm]

/-- An endpoint that passes the check is valid if its path is in normal form. -/
theorem valid_of_checked {e e' : Endpoint} (h : e.checked = .ok e')
    (hpath : IsNormalPrefix e.pathPrefix) : e'.Valid := by
  obtain ⟨rfl, hdefect⟩ := (checked_eq_ok_iff e e').mp h
  obtain ⟨hconnections, htls⟩ := (defect?_eq_none_iff e').mp hdefect
  exact ⟨hconnections, htls, hpath⟩

theorem Valid.checked {e : Endpoint} (h : e.Valid) : e.checked = .ok e :=
  (checked_eq_ok_iff e e).mpr ⟨rfl, (defect?_eq_none_iff e).mpr ⟨h.connections_pos, h.tls_eq_none⟩⟩

/-! ### The ways to an endpoint -/

/-- No setting leaves a path that is not in normal form. -/
theorem isNormalPrefix_set {e : Endpoint} (h : IsNormalPrefix e.pathPrefix) (setting : Setting) :
    IsNormalPrefix (e.set setting).pathPrefix := by
  cases setting with
  | pathPrefix text => exact isNormalPrefix_normalizePrefix text
  | header | headers | connections | timeout | compress | verifyCerts | tls | showWarnings =>
    exact h

theorem isNormalPrefix_foldl_set {e : Endpoint} (h : IsNormalPrefix e.pathPrefix)
    (settings : List Setting) : IsNormalPrefix (settings.foldl set e).pathPrefix := by
  induction settings generalizing e with
  | nil => exact h
  | cons setting settings ih => exact ih (isNormalPrefix_set h setting)

theorem valid_new (scheme : Scheme) (host : String) (port : UInt16) :
    (new scheme host port).Valid where
  connections_pos := show (0 : UInt64) < 10 by decide
  tls_eq_none _ := rfl
  isNormalPrefix := .inl rfl

theorem Valid.revise {e e' : Endpoint} (h : e.Valid) {settings : List Setting}
    (hrevise : e.revise settings = .ok e') : e'.Valid :=
  valid_of_checked hrevise (isNormalPrefix_foldl_set h.isNormalPrefix settings)

/-- What is read for the path is brought into normal form before the check. -/
theorem isNormalPrefix_of_ofRecord {r : Record Field Field.Value} {e : Endpoint}
    (h : ofRecord r = .ok e) : IsNormalPrefix e.pathPrefix := by
  obtain ⟨scheme, -, h⟩ := bind_eq_ok_iff.mp h
  obtain ⟨host, -, h⟩ := bind_eq_ok_iff.mp h
  obtain ⟨port, -, h⟩ := bind_eq_ok_iff.mp h
  cases h
  exact isNormalPrefix_normalizePrefix _

theorem valid_of_ofJson {v : Json} {e : Endpoint} (h : ofJson v = .ok e) : e.Valid := by
  obtain ⟨r, -, h⟩ := bind_eq_ok_iff.mp h
  obtain ⟨e', he', h⟩ := bind_eq_ok_iff.mp h
  split at h
  · next hchecked =>
    cases h
    exact valid_of_checked hchecked (isNormalPrefix_of_ofRecord he')
  · cases h

theorem valid_of_parse {text : String} {e : Endpoint} (h : parse text = .ok e) : e.Valid := by
  unfold parse Json.Document.read at h
  split at h
  · next hread =>
    split at h
    · cases h
    · cases h
      exact valid_of_ofJson hread
  · cases h

theorem valid_of_ofUrl {text : String} {defaultPorts : Bool} {e : Endpoint}
    (h : ofUrl text defaultPorts = .ok e) : e.Valid := by
  unfold ofUrl at h
  split at h
  · cases h
  · split at h
    · cases h
    · cases h
    · exact (valid_new _ _ _).revise h

theorem valid_of_cloudId {id : CloudId} {e : Endpoint} (h : id.endpoint = .ok e) : e.Valid := by
  unfold CloudId.endpoint at h
  split at h
  · exact (valid_new _ _ _).revise h
  · cases h

/-- The endpoints that can be obtained: from an address, by settings, and from texts. -/
inductive Obtainable : Endpoint → Prop
  | new (scheme : Scheme) (host : String) (port : UInt16) : Obtainable (new scheme host port)
  | revise {e e' : Endpoint} (h : Obtainable e) {settings : List Setting}
    (hrevise : e.revise settings = .ok e') : Obtainable e'
  | parse {text : String} {e : Endpoint} (hread : parse text = .ok e) : Obtainable e
  | ofUrl {text : String} {defaultPorts : Bool} {e : Endpoint}
    (hread : ofUrl text defaultPorts = .ok e) : Obtainable e
  | ofCloudId {id : CloudId} {e : Endpoint} (hread : id.endpoint = .ok e) : Obtainable e

theorem Obtainable.valid {e : Endpoint} (h : e.Obtainable) : e.Valid := by
  induction h with
  | new scheme host port => exact valid_new scheme host port
  | revise _ hrevise ih => exact ih.revise hrevise
  | parse hread => exact valid_of_parse hread
  | ofUrl hread => exact valid_of_ofUrl hread
  | ofCloudId hread => exact valid_of_cloudId hread

/-- **Every endpoint that can be obtained is valid.** Normalizing its path changes nothing, nor does
checking it once more. -/
theorem Obtainable.valid_and_kept {e : Endpoint} (h : e.Obtainable) :
    e.Valid ∧ normalizePrefix e.pathPrefix = e.pathPrefix ∧ e.revise [] = .ok e :=
  ⟨h.valid, normalizePrefix_of_isNormalPrefix h.valid.isNormalPrefix, h.valid.checked⟩

/-- An endpoint with a path of two names and a certificate. -/
def nested : Endpoint :=
  { new .https "es.h" 9243 with
    pathPrefix := "/ü//x"
    compress := true
    tls := { TlsValues.none with caCerts := some "ca" } }

/-- A path given with slashes around it, for the endpoint of a Cloud ID. -/
theorem nested_valid_and_kept :
    nested.Obtainable ∧ nested.Valid ∧ normalizePrefix "/ü//x" = "/ü//x" ∧
      nested.revise [] = .ok nested := by
  let id : CloudId := ⟨"c", some ("es.h", 9243), none⟩
  have hcloud : Obtainable { new .https "es.h" 9243 with compress := true } :=
    .ofCloudId (show id.endpoint = .ok _ by rfl)
  have h : nested.Obtainable := by
    have hrevise : revise { new .https "es.h" 9243 with compress := true }
        [.tls .caCerts "ca", .pathPrefix "//ü//x//"] = .ok nested := by decide
    exact .revise hcloud hrevise
  exact ⟨h, h.valid_and_kept⟩

end Endpoint

end EndpointPool
