import EndpointPool.Endpoint.Reader
import EndpointPool.Proofs.Json.Records
import Mathlib.Data.List.Permutation

/-!
# The fields of an endpoint

What each field of an endpoint may have for a value, and which setting the field makes. The fields
that a record has make the same endpoint as their settings, in any order.

## Main definitions

* `Scheme.Holds`, `Duration.Holds`, `Endpoint.Field.Holds`: the values of a type, and what they hold
* `Endpoint.Field.setting? f x`, `Endpoint.settings r`: the setting of a field, and of the fields of
  a record

## Main results

* `Scheme.ofJson_eq_ok_iff`, `Duration.ofJson_eq_ok_iff`, `Endpoint.Field.read_eq_ok_iff`: what is
  read for a field is what its value holds
* `Endpoint.ofRecord_eq`: the endpoint of a record is made by its settings
-/

namespace EndpointPool

/-! ### Schemes and durations -/

namespace Scheme

theorem ofName?_eq_some_iff (name : String) (s : Scheme) :
    ofName? name = some s ↔ name = s.name := by
  constructor
  · intro h
    unfold ofName? at h
    split at h
    · next hname =>
      cases h
      exact hname
    · split at h
      · next hname =>
        cases h
        exact hname
      · cases h
  · rintro rfl
    exact ofName?_name s

theorem ofVariant_eq_ok_iff (name : String) (s : Scheme) :
    ofVariant name = .ok s ↔ name = s.name := by
  rw [← ofName?_eq_some_iff, ofVariant]
  cases ofName? name <;> simp

/-- A value that holds a scheme: its name, or an object of its name and null. -/
def Holds (v : Json) (s : Scheme) : Prop := v = .ofText s.name ∨ v = .ofFields [(s.name, .null)]

/-- What is read as a scheme. -/
theorem ofJson_eq_ok_iff (v : Json) (s : Scheme) : ofJson v = .ok s ↔ Holds v s := by
  constructor
  · intro h
    unfold ofJson at h
    split at h
    · next name =>
      rw [(ofVariant_eq_ok_iff name s).mp h]
      exact .inl rfl
    · next name v rest =>
      split at h
      · cases h
      · next s' hname =>
        split at h
        · next hrest =>
          cases h
          rw [(ofVariant_eq_ok_iff name s).mp hname, List.isEmpty_iff.mp hrest]
          exact .inr rfl
        · cases h
      · cases h
    · cases h
    · cases h
  · have hvariant : ofVariant s.name = .ok s := (ofVariant_eq_ok_iff _ s).mpr rfl
    rintro (rfl | rfl)
    · exact hvariant
    · simp [Json.ofFields, ofJson, hvariant]

end Scheme

namespace Duration

theorem field?_name (f : Field) : schema.field? (schema.name f) = some f := by
  cases f <;> rfl

/-- A value that holds what a field of a duration may have: a number of 64 or of 32 bits. -/
def Field.Holds : Field → Json → Nat → Prop
  | .seconds, v, k => v.IsNumber k ∧ k < UInt64.size
  | .nanos, v, k => v.IsNumber k ∧ k < UInt32.size

/-- A value that holds a duration: its seconds and nanoseconds as the fields of an object in either
order, or as the items of an array. The nanoseconds may be those of several seconds. -/
def Holds (v : Json) (d : Duration) : Prop :=
  ∃ seconds nanos : Nat, ∃ s n : Json, Field.seconds.Holds s seconds ∧ Field.nanos.Holds n nanos ∧
    d.nanos = seconds * nanosPerSecond + nanos ∧
    (v = .ofFields [("secs", s), ("nanos", n)] ∨ v = .ofFields [("nanos", n), ("secs", s)] ∨
      v = .array [s, n])

/-- A record of a duration without repetitions has its two fields in one order or the other. -/
theorem record_eq_pair {r : Record Field fun _ => Nat} (hnodup : r.fields.Nodup)
    {seconds nanos : Nat} (hs : ⟨.seconds, seconds⟩ ∈ r) (hn : ⟨.nanos, nanos⟩ ∈ r) :
    r = [⟨.seconds, seconds⟩, ⟨.nanos, nanos⟩] ∨ r = [⟨.nanos, nanos⟩, ⟨.seconds, seconds⟩] := by
  have hpair : r.Perm [⟨.seconds, seconds⟩, ⟨.nanos, nanos⟩] := by
    refine (List.perm_ext_iff_of_nodup (List.Nodup.of_map _ hnodup) (by simp)).mpr fun x => ?_
    rw [List.mem_cons, List.mem_singleton]
    constructor
    · intro hx
      rcases x with ⟨f, k⟩
      have hget := (Record.get?_eq_some_iff hnodup f k).mpr hx
      cases f with
      | seconds =>
        rw [(Record.get?_eq_some_iff hnodup _ _).mpr hs] at hget
        exact .inl (Option.some.inj hget ▸ rfl)
      | nanos =>
        rw [(Record.get?_eq_some_iff hnodup _ _).mpr hn] at hget
        exact .inr (Option.some.inj hget ▸ rfl)
    · rintro (rfl | rfl) <;> assumption
  exact List.perm_pair.mp hpair

theorem Field.read_eq_ok_iff (f : Field) (v : Json) (k : Nat) :
    schema.read f v = .ok k ↔ f.Holds v k := by
  cases f with
  | seconds => exact Json.asWord_eq_ok_iff (Nat.le_refl _) v k
  | nanos => exact Json.asWord_eq_ok_iff (by decide) v k

/-- A duration has no members but its fields. -/
theorem members_eq_of_spells {members : List (Key × Json)} {f g : Field} {j k : Nat}
    (h : schema.Spells Field.Holds members [⟨f, j⟩, ⟨g, k⟩]) :
    ∃ v w, f.Holds v j ∧ g.Holds w k ∧
      members = [(.text (schema.name f), v), (.text (schema.name g), w)] := by
  cases h with
  | other _ hunknown => cases hunknown
  | field hj rest =>
    cases rest with
    | other _ hunknown => cases hunknown
    | field hk rest =>
      cases rest with
      | other _ hunknown => cases hunknown
      | nil => exact ⟨_, _, hj, hk, rfl⟩

/-- What is read as the record of a duration that has both its fields. -/
theorem readRecord_eq_ok_iff (v : Json) (seconds nanos : Nat) :
    (∃ r, schema.readRecord v = .ok r ∧ r.get? .seconds = some seconds ∧
      r.get? .nanos = some nanos) ↔
    ∃ s n, Field.seconds.Holds s seconds ∧ Field.nanos.Holds n nanos ∧
      (v = .ofFields [("secs", s), ("nanos", n)] ∨ v = .ofFields [("nanos", n), ("secs", s)] ∨
        v = .array [s, n]) := by
  constructor
  · rintro ⟨r, hr, hseconds, hnanos⟩
    cases v with
    | object members =>
      obtain ⟨hspells, hnodup⟩ :=
        (Schema.readRecord_object_eq_ok_iff field?_name Field.read_eq_ok_iff members r).mp hr
      rw [Record.get?_eq_some_iff hnodup] at hseconds hnanos
      -- both fields and no repetitions leave only the order open
      rcases record_eq_pair hnodup hseconds hnanos with rfl | rfl
      · obtain ⟨s, n, hs, hn, rfl⟩ := members_eq_of_spells hspells
        exact ⟨s, n, hs, hn, .inl rfl⟩
      · obtain ⟨n, s, hn, hs, rfl⟩ := members_eq_of_spells hspells
        exact ⟨s, n, hs, hn, .inr (.inl rfl)⟩
    | array items =>
      obtain ⟨hfields, hitems⟩ :=
        (Schema.readRecord_array_eq_ok_iff Field.read_eq_ok_iff items r).mp hr
      have hnodup : r.fields.Nodup := hfields ▸ (by decide)
      rw [Record.get?_eq_some_iff hnodup] at hseconds hnanos
      -- the items of an array stand in one order only
      rcases record_eq_pair hnodup hseconds hnanos with rfl | rfl
      · obtain _ | ⟨hs, _ | ⟨hn, _ | _⟩⟩ := hitems
        exact ⟨_, _, hs, hn, .inr (.inr rfl)⟩
      · cases hfields
    | null | bool | number | string | broken => cases hr
  · rintro ⟨s, n, hs, hn, rfl | rfl | rfl⟩
    · have hspells : schema.Spells Field.Holds [(.text "secs", s), (.text "nanos", n)]
          [⟨.seconds, seconds⟩, ⟨.nanos, nanos⟩] :=
        .field (f := Field.seconds) hs (.field (f := Field.nanos) hn .nil)
      exact ⟨_, (Schema.readRecord_object_eq_ok_iff field?_name Field.read_eq_ok_iff _ _).mpr
        ⟨hspells, by simp [Record.fields]⟩, rfl, rfl⟩
    · have hspells : schema.Spells Field.Holds [(.text "nanos", n), (.text "secs", s)]
          [⟨.nanos, nanos⟩, ⟨.seconds, seconds⟩] :=
        .field (f := Field.nanos) hn (.field (f := Field.seconds) hs .nil)
      exact ⟨_, (Schema.readRecord_object_eq_ok_iff field?_name Field.read_eq_ok_iff _ _).mpr
        ⟨hspells, by simp [Record.fields]⟩, rfl, rfl⟩
    · exact ⟨[⟨.seconds, seconds⟩, ⟨.nanos, nanos⟩],
        (Schema.readRecord_array_eq_ok_iff Field.read_eq_ok_iff _ _).mpr
          ⟨rfl, .cons hs (.cons hn .nil)⟩, rfl, rfl⟩

/-- What is read as a duration. -/
theorem ofJson_eq_ok_iff (v : Json) (d : Duration) : ofJson v = .ok d ↔ Holds v d := by
  simp only [ofJson, bind_eq_ok_iff, Schema.need_eq_ok_iff]
  constructor
  · rintro ⟨r, hr, seconds, hseconds, nanos, hnanos, htotal⟩
    split at htotal
    · next d' hd =>
      cases htotal
      obtain ⟨s, n, hs, hn, hv⟩ :=
        (readRecord_eq_ok_iff v seconds nanos).mp ⟨r, hr, hseconds, hnanos⟩
      exact ⟨seconds, nanos, s, n, hs, hn, ofNanos?_eq_some_iff.mp hd, hv⟩
    · cases htotal
  · rintro ⟨seconds, nanos, s, n, hs, hn, hd, hv⟩
    obtain ⟨r, hr, hseconds, hnanos⟩ :=
      (readRecord_eq_ok_iff v seconds nanos).mpr ⟨s, n, hs, hn, hv⟩
    exact ⟨r, hr, seconds, hseconds, nanos, hnanos, by rw [ofNanos?_eq_some_iff.mpr hd]⟩

end Duration

namespace Endpoint

/-! ### The values of fields -/

theorem field?_name (f : Field) : schema.field? (schema.name f) = some f := by
  cases f with
  | tls option => cases option <;> decide
  | _ => decide

theorem nodup_all : schema.all.Nodup := by decide

/-- A value that holds what a field may have. -/
def Field.Holds : (f : Field) → Json → f.Value → Prop
  | .scheme, v, s => Scheme.Holds v s
  | .host, v, t => v = .ofText t
  | .port, v, p => v.IsNumber (UInt16.toNat p)
  | .pathPrefix, v, t => v = .ofText t
  | .headers, v, m => ∃ l : List (String × String),
    v = .ofFields (l.map fun e => (e.1, .ofText e.2)) ∧ m = NameMap.ofList l
  | .connections, v, n => v.OrNull (fun v (n : UInt64) => v.IsNumber n.toNat) n
  | .timeout, v, d => v.OrNull Duration.Holds d
  | .compress, v, b => v = .bool b
  | .verifyCerts, v, b => v.OrNull (fun v b => v = .bool b) b
  | .tls _, v, t => v.OrNull (fun v t => v = .ofText t) t
  | .showWarnings, v, b => v.OrNull (fun v b => v = .bool b) b

theorem not_isNumber_null (k : Nat) : ¬ Json.null.IsNumber k := by
  rintro ⟨digits, h, -⟩
  cases h

theorem not_holds_null (d : Duration) : ¬ Duration.Holds .null d := by
  rintro ⟨seconds, nanos, s, n, -, -, -, h | h | h⟩ <;> cases h

/-- **What is read for a field is what its value holds.** -/
theorem Field.read_eq_ok_iff (f : Field) (v : Json) (x : f.Value) :
    schema.read f v = .ok x ↔ f.Holds v x := by
  cases f with
  | scheme => exact Scheme.ofJson_eq_ok_iff v x
  | host => exact Json.asText_eq_ok_iff v x
  | port => exact Json.asWord_uint16_eq_ok_iff v x
  | pathPrefix => exact Json.asText_eq_ok_iff v x
  | headers => exact Json.asTextMap_eq_ok_iff v x
  | connections =>
    exact Json.asOption_eq_ok_iff Json.asWord_uint64_eq_ok_iff (fun n => not_isNumber_null _) v x
  | timeout => exact Json.asOption_eq_ok_iff Duration.ofJson_eq_ok_iff not_holds_null v x
  | compress => exact Json.asBool_eq_ok_iff v x
  | verifyCerts => exact Json.asOption_eq_ok_iff Json.asBool_eq_ok_iff nofun v x
  | tls option => exact Json.asOption_eq_ok_iff Json.asText_eq_ok_iff nofun v x
  | showWarnings => exact Json.asOption_eq_ok_iff Json.asBool_eq_ok_iff nofun v x

/-! ### The settings of fields -/

/-- The setting that a field makes. The address is no setting, and null is none where it stands for
the default; a timeout that is null sets that there is none. -/
def Field.setting? : (f : Field) → f.Value → Option Setting
  | .scheme, _ => none
  | .host, _ => none
  | .port, _ => none
  | .pathPrefix, text => some (.pathPrefix text)
  | .headers, all => some (.headers all)
  | .connections, count => count.map .connections
  | .timeout, limit => some (.timeout limit)
  | .compress, on => some (.compress on)
  | .verifyCerts, on => on.map .verifyCerts
  | .tls option, text => text.map (.tls option)
  | .showWarnings, on => on.map .showWarnings

/-- The settings that the fields of a record make, in their order. -/
def settings (r : Record Field Field.Value) : List Setting := r.filterMap fun x => x.1.setting? x.2

/-- An endpoint with the fields of a record in place of its own. -/
def fill (e : Endpoint) (r : Record Field Field.Value) : Endpoint :=
  { e with
    pathPrefix := ((r.get? .pathPrefix).map normalizePrefix).getD e.pathPrefix
    headers := (r.get? .headers).getD e.headers
    connections := (r.get? .connections).join.getD e.connections
    timeout := (r.get? .timeout).getD e.timeout
    compress := (r.get? .compress).getD e.compress
    verifyCerts := (r.get? .verifyCerts).join.getD e.verifyCerts
    tls := {
      caCerts := (r.get? (.tls .caCerts)).join.or e.tls.caCerts
      clientCert := (r.get? (.tls .clientCert)).join.or e.tls.clientCert
      clientKey := (r.get? (.tls .clientKey)).join.or e.tls.clientKey
      assertHostname := (r.get? (.tls .assertHostname)).join.or e.tls.assertHostname
      assertFingerprint := (r.get? (.tls .assertFingerprint)).join.or e.tls.assertFingerprint }
    showWarnings := (r.get? .showWarnings).join.getD e.showWarnings }

theorem fill_cons (e : Endpoint) (f : Field) (x : f.Value) {r : Record Field Field.Value}
    (h : r.get? f = none) :
    e.fill (⟨f, x⟩ :: r) = ((f.setting? x).elim e e.set).fill r := by
  -- the first field is the only one of its name, so the others fill what its setting leaves alone
  have hself := Record.get?_cons_self f x r
  have hother : ∀ g, f ≠ g → Record.get? (⟨f, x⟩ :: r) g = r.get? g :=
    fun g hg => Record.get?_cons_of_ne hg x r
  cases f with
  | tls option =>
    cases option <;> cases x <;> simp only [fill, hself, hother, h, ne_eq, reduceCtorEq,
      Field.tls.injEq, not_false_eq_true] <;> rfl
  | connections | verifyCerts | showWarnings =>
    cases x <;> simp only [fill, hself, hother, h, ne_eq, reduceCtorEq, not_false_eq_true] <;> rfl
  | _ =>
    simp only [fill, hself, hother, h, ne_eq, reduceCtorEq, not_false_eq_true]
    rfl

/-- The settings of the fields put them in place. -/
theorem foldl_settings {r : Record Field Field.Value} (h : r.fields.Nodup) (e : Endpoint) :
    (settings r).foldl set e = e.fill r := by
  induction r generalizing e with
  | nil => rfl
  | cons x r ih =>
    rcases x with ⟨f, x⟩
    rw [Record.fields, List.map_cons, List.nodup_cons] at h
    rw [fill_cons e f x (Record.get?_eq_none h.1), ← ih h.2]
    rw [settings, List.filterMap_cons]
    cases f.setting? x <;> rfl

/-- **The endpoint of a record is made by its settings**, in any order. -/
theorem ofRecord_eq {r r' : Record Field Field.Value} (h : r.fields.Nodup) (hperm : r'.Perm r)
    {scheme : Scheme} {host : String} {port : UInt16} (hscheme : ⟨.scheme, scheme⟩ ∈ r)
    (hhost : ⟨.host, host⟩ ∈ r) (hport : ⟨.port, port⟩ ∈ r) :
    ofRecord r' = .ok ((settings r).foldl set (new scheme host port)) := by
  have hget : r'.get? = r.get? := funext fun f => Record.get?_eq_of_perm hperm h f
  have hneed : ∀ (f : Field) (x : f.Value), ⟨f, x⟩ ∈ r → schema.need r' f = .ok x := by
    intro f x hx
    rw [Schema.need_eq_ok_iff, hget]
    exact (Record.get?_eq_some_iff h f x).mpr hx
  have hpath : normalizePrefix ((r.get? .pathPrefix).getD "") =
      ((r.get? .pathPrefix).map normalizePrefix).getD "" :=
    (Option.getD_map normalizePrefix "" _).symm
  rw [foldl_settings h]
  simp only [ofRecord, hneed .scheme scheme hscheme, hneed .host host hhost, hneed .port port hport,
    hget, hpath, fill, new, TlsValues.none, Option.or_none]
  rfl

end Endpoint

end EndpointPool
