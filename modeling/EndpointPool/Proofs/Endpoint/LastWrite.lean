import EndpointPool.Endpoint.Reader
import EndpointPool.Proofs.Endpoint.Obtaining

/-!
# The last write wins

An endpoint has cells that settings write to: one for each of its parameters, for each option for
certificates, and for each name that a header may have. Setting one header writes to the cell of its
name; setting all headers at once writes to the cells of all names, also of those that it leaves
without a value. What a cell holds in the end is what was written to it last, and the check at the
end looks at nothing else, so the order of settings for different fields does not matter.

## Main definitions

* `Cell`, `Endpoint.read e c`, `Setting.write? s c`: the cells, what they hold, and what a setting
  writes to them
* `Setting.last? settings c`: the last write to a cell
* `Endpoint.LastWriteWins scheme host port settings`: what the settings of a new endpoint come to

## Main results

* `TlsOption.map_name_all`: the options and their names, in the order in which they are checked
* `NameMap.ext_find?`: maps that give each name the same value are equal
* `Endpoint.read_set`, `Endpoint.read_foldl_set`: a cell after one setting, and after all
* `Endpoint.revise_congr`, `Endpoint.revise_append`: what settings come to is decided by the cells,
  and settings may be made in two goes
* `Endpoint.lastWriteWins`: all of this for a new endpoint, and why it is refused
-/

namespace EndpointPool

/-! ### The options by their names -/

/-- The options and their names, in the order in which they are checked. -/
theorem TlsOption.map_name_all : TlsOption.all.map (fun o => (o, o.name)) =
    [(.caCerts, "ca_certs"), (.clientCert, "client_cert"), (.clientKey, "client_key"),
      (.assertHostname, "ssl_assert_hostname"), (.assertFingerprint, "ssl_assert_fingerprint")] :=
  rfl

/-- An option stands at the place of its name. -/
theorem TlsOption.exists_all_eq {before after : List (TlsOption × String)} {option : TlsOption}
    {name : String}
    (h : [(.caCerts, "ca_certs"), (.clientCert, "client_cert"), (.clientKey, "client_key"),
      (.assertHostname, "ssl_assert_hostname"),
      (.assertFingerprint, "ssl_assert_fingerprint")] = before ++ (option, name) :: after) :
    ∃ before' after', TlsOption.all = before' ++ option :: after' ∧
      before'.map (fun o => (o, o.name)) = before ∧ option.name = name := by
  rw [← TlsOption.map_name_all] at h
  obtain ⟨before', rest, hall, hbefore, hrest⟩ := List.map_eq_append_iff.mp h
  obtain ⟨o, after', rfl, ho, -⟩ := List.map_eq_cons_iff.mp hrest
  obtain ⟨rfl, hname⟩ := Prod.mk.inj ho
  exact ⟨before', after', hall, hbefore, hname⟩

/-! ### Maps by their values -/

namespace NameMap

variable {β : Type} {m n : NameMap β}

theorem nodup_keys (m : NameMap β) : m.keys.Nodup :=
  (List.pairwise_map.mpr m.sorted).imp String.ne_of_lt

/-- The entries of a map are the values that it gives. -/
theorem mem_entries_iff {key : String} {value : β} :
    (key, value) ∈ m.entries ↔ m.find? key = some value := by
  rw [find?, List.lookup_eq_some_iff]
  constructor
  · intro hmem
    obtain ⟨before, after, hentries⟩ := List.append_of_mem hmem
    have hnodup : (before.map Prod.fst ++ key :: after.map Prod.fst).Nodup := by
      simpa [keys, hentries] using m.nodup_keys
    obtain ⟨hnot, -⟩ := List.nodup_cons.mp (List.nodup_middle.mp hnodup)
    refine ⟨before, after, hentries, fun e he => ?_⟩
    rw [bne_iff_ne]
    exact fun heq =>
      hnot (List.mem_append_left _ (heq ▸ List.mem_map_of_mem he))
  · rintro ⟨before, after, hentries, -⟩
    rw [hentries]
    exact List.mem_append_right _ List.mem_cons_self

/-- Maps that give each name the same value are equal. -/
theorem ext_find? (h : ∀ key, m.find? key = n.find? key) : m = n := by
  have hnodup : ∀ m : NameMap β, m.entries.Nodup := fun m => List.Nodup.of_map _ m.nodup_keys
  have hperm : m.entries.Perm n.entries := by
    refine (List.perm_ext_iff_of_nodup (hnodup m) (hnodup n)).mpr fun e => ?_
    rw [mem_entries_iff, mem_entries_iff, h]
  -- both are in the order of their keys
  refine NameMap.ext (hperm.eq_of_pairwise (fun a b _ _ hab hba => ?_) m.sorted n.sorted)
  exact absurd hba (String.lt_asymm hab)

end NameMap

/-! ### Cells -/

/-- A part of an endpoint that settings write to. -/
inductive Cell
  | pathPrefix
  | header (name : String)
  | connections
  | timeout
  | compress
  | verifyCerts
  | tls (option : TlsOption)
  | showWarnings

/-- What a cell holds. -/
@[reducible] def Cell.Value : Cell → Type
  | .pathPrefix => String
  | .header _ => Option String
  | .connections => UInt64
  | .timeout => Option Duration
  | .compress => Bool
  | .verifyCerts => Bool
  | .tls _ => Option String
  | .showWarnings => Bool

/-- The field that a cell belongs to. The headers are one field. -/
def Cell.field : Cell → Endpoint.Field
  | .pathPrefix => .pathPrefix
  | .header _ => .headers
  | .connections => .connections
  | .timeout => .timeout
  | .compress => .compress
  | .verifyCerts => .verifyCerts
  | .tls option => .tls option
  | .showWarnings => .showWarnings

namespace Setting

/-- The field that a setting is for. -/
def field : Setting → Endpoint.Field
  | .pathPrefix _ => .pathPrefix
  | .header _ _ => .headers
  | .headers _ => .headers
  | .connections _ => .connections
  | .timeout _ => .timeout
  | .compress _ => .compress
  | .verifyCerts _ => .verifyCerts
  | .tls option _ => .tls option
  | .showWarnings _ => .showWarnings

/-- What a setting writes to a cell, if it does. -/
def write? : Setting → (c : Cell) → Option c.Value
  | .pathPrefix text, .pathPrefix => some (normalizePrefix text)
  | .header name value, .header n => if n = name then some (some value) else none
  | .headers all, .header n => some (all.find? n)
  | .connections count, .connections => some count
  | .timeout limit, .timeout => some limit
  | .compress on, .compress => some on
  | .verifyCerts on, .verifyCerts => some on
  | .tls option text, .tls o => if o = option then some (some text) else none
  | .showWarnings on, .showWarnings => some on
  | _, _ => none

/-- The last write to a cell. -/
def last? (settings : List Setting) (c : Cell) : Option c.Value :=
  (settings.filterMap (·.write? c)).getLast?

/-- A setting writes to the cells of its field only. -/
theorem write?_eq_none {s : Setting} {c : Cell} (h : s.field ≠ c.field) : s.write? c = none := by
  cases s <;> cases c <;> first | rfl | exact absurd rfl h | skip
  next option text o =>
    have hne : o ≠ option := fun heq => h (congrArg Endpoint.Field.tls heq.symm)
    simp [write?, hne]

/-- Only the settings of its field decide what is written to a cell last. -/
theorem last?_filter (settings : List Setting) (c : Cell) :
    last? (settings.filter (·.field = c.field)) c = last? settings c := by
  rw [last?, last?, List.filterMap_filter]
  congr 1
  refine List.filterMap_congr fun s _ => ?_
  by_cases h : s.field = c.field
  · simp [h]
  · simp [h, write?_eq_none h]

theorem last?_concat (settings : List Setting) (s : Setting) (c : Cell) :
    last? (settings ++ [s]) c = (s.write? c).or (last? settings c) := by
  rw [last?, List.filterMap_append, List.getLast?_append, last?]
  cases h : s.write? c <;> simp [h]

end Setting

namespace Endpoint

/-- What a cell of an endpoint holds. -/
def read (e : Endpoint) : (c : Cell) → c.Value
  | .pathPrefix => e.pathPrefix
  | .header name => e.headers.find? name
  | .connections => e.connections
  | .timeout => e.timeout
  | .compress => e.compress
  | .verifyCerts => e.verifyCerts
  | .tls option => e.tls.get option
  | .showWarnings => e.showWarnings

/-- What a cell of an endpoint holds in the end: the last write to it, if there is any. -/
def final (e : Endpoint) (settings : List Setting) (c : Cell) : c.Value :=
  (Setting.last? settings c).getD (e.read c)

/-- The cells and the address are all there is to an endpoint. -/
theorem ext_read {e e' : Endpoint} (hscheme : e.scheme = e'.scheme) (hhost : e.host = e'.host)
    (hport : e.port = e'.port) (hread : ∀ c, e.read c = e'.read c) : e = e' := by
  have htls : e.tls = e'.tls := by
    have hget : ∀ o, e.tls.get o = e'.tls.get o := fun o => hread (.tls o)
    rcases htls : e.tls with ⟨v₁, v₂, v₃, v₄, v₅⟩
    rcases htls' : e'.tls with ⟨w₁, w₂, w₃, w₄, w₅⟩
    rw [htls, htls'] at hget
    rw [show v₁ = w₁ from hget .caCerts, show v₂ = w₂ from hget .clientCert,
      show v₃ = w₃ from hget .clientKey, show v₄ = w₄ from hget .assertHostname,
      show v₅ = w₅ from hget .assertFingerprint]
  have hheaders : e.headers = e'.headers := NameMap.ext_find? fun name => hread (.header name)
  have hpath := hread .pathPrefix
  have hconnections := hread .connections
  have htimeout := hread .timeout
  have hcompress := hread .compress
  have hverify := hread .verifyCerts
  have hwarnings := hread .showWarnings
  cases e
  cases e'
  simp only [read] at *
  simp only [mk.injEq]
  exact ⟨hscheme, hhost, hport, hpath, hheaders, hconnections, htimeout, hcompress, hverify, htls,
    hwarnings⟩

/-- A setting changes what it writes to, and nothing else. -/
theorem read_set (e : Endpoint) (s : Setting) (c : Cell) :
    (e.set s).read c = (s.write? c).getD (e.read c) := by
  cases s with
  | header name value =>
    cases c with
    | header n =>
      show (e.headers.insert name value).find? n = _
      rw [NameMap.find?_insert, Setting.write?]
      split <;> rfl
    | _ => rfl
  | tls option text =>
    cases c with
    | tls o =>
      show (e.tls.set text option).get o = _
      rw [TlsValues.get_set, Setting.write?]
      split <;> rfl
    | _ => rfl
  | _ => cases c <;> rfl

theorem read_foldl_set (e : Endpoint) (settings : List Setting) (c : Cell) :
    (settings.foldl set e).read c = e.final settings c := by
  induction settings using List.reverseRecOn with
  | nil => rfl
  | append_singleton settings s ih =>
    rw [List.foldl_concat, read_set, ih, final, final, Setting.last?_concat]
    cases s.write? c <;> rfl

/-- No setting changes the address. -/
theorem address_foldl_set (e : Endpoint) (settings : List Setting) :
    (settings.foldl set e).scheme = e.scheme ∧ (settings.foldl set e).host = e.host ∧
      (settings.foldl set e).port = e.port := by
  induction settings generalizing e with
  | nil => exact ⟨rfl, rfl, rfl⟩
  | cons s settings ih =>
    obtain ⟨hscheme, hhost, hport⟩ := ih (e.set s)
    have hset :
        (e.set s).scheme = e.scheme ∧ (e.set s).host = e.host ∧ (e.set s).port = e.port := by
      cases s <;> exact ⟨rfl, rfl, rfl⟩
    exact ⟨hscheme.trans hset.1, hhost.trans hset.2.1, hport.trans hset.2.2⟩

/-- **What settings come to is decided by what the cells hold in the end.** -/
theorem revise_congr {e : Endpoint} {settings settings' : List Setting}
    (h : ∀ c, e.final settings c = e.final settings' c) :
    e.revise settings = e.revise settings' := by
  obtain ⟨hscheme, hhost, hport⟩ := e.address_foldl_set settings
  obtain ⟨hscheme', hhost', hport'⟩ := e.address_foldl_set settings'
  have heq : settings.foldl set e = settings'.foldl set e :=
    ext_read (hscheme.trans hscheme'.symm) (hhost.trans hhost'.symm) (hport.trans hport'.symm)
      fun c => by rw [read_foldl_set, read_foldl_set, h]
  rw [revise, revise, heq]

/-- The order between settings for different fields does not matter. -/
theorem revise_of_filter_field (e : Endpoint) {settings settings' : List Setting}
    (h : ∀ f, settings.filter (·.field = f) = settings'.filter (·.field = f)) :
    e.revise settings = e.revise settings' := by
  refine revise_congr fun c => ?_
  rw [final, final, ← Setting.last?_filter settings, ← Setting.last?_filter settings', h]

/-- Settings may be made in two goes, if the first ends with an endpoint. -/
theorem revise_append {e e' : Endpoint} {settings : List Setting}
    (h : e.revise settings = .ok e') (more : List Setting) :
    e'.revise more = e.revise (settings ++ more) := by
  obtain ⟨rfl, -⟩ := (checked_eq_ok_iff _ _).mp h
  rw [revise, revise, List.foldl_append]

/-- A changed endpoint is still the same if its path is. -/
theorem id_foldl_set_iff (e : Endpoint) (settings : List Setting) :
    (settings.foldl set e).id = e.id ↔
      ∀ path ∈ Setting.last? settings .pathPrefix, path = e.pathPrefix := by
  obtain ⟨hscheme, hhost, hport⟩ := e.address_foldl_set settings
  have hpath : (settings.foldl set e).pathPrefix = e.final settings .pathPrefix :=
    e.read_foldl_set settings .pathPrefix
  rw [id, id, hscheme, hhost, hport, hpath, final]
  simp only [Identity.mk.injEq, true_and]
  cases Setting.last? settings .pathPrefix with
  | none => exact iff_of_true rfl nofun
  | some path => simp

/-! ### What is refused -/

/-- An option that is set once stays set. -/
theorem isSome_get_foldl_set (e : Endpoint) (settings : List Setting) (option : TlsOption) :
    ((settings.foldl set e).tls.get option).isSome ↔
      (e.tls.get option).isSome ∨ ∃ text, .tls option text ∈ settings := by
  induction settings generalizing e with
  | nil => simp
  | cons s settings ih =>
    rw [List.foldl_cons, ih]
    cases s with
    | tls o text =>
      show ((e.tls.set text o).get option).isSome = true ∨ _ ↔ _
      rw [TlsValues.get_set]
      by_cases ho : option = o
      · simp [ho]
      · simp [ho]
    | _ => simp [set]

theorem connections_foldl_set_eq_zero_iff (scheme : Scheme) (host : String) (port : UInt16)
    (settings : List Setting) :
    (settings.foldl set (new scheme host port)).connections = 0 ↔
      Setting.last? settings .connections = some (0 : UInt64) := by
  have hread : (settings.foldl set (new scheme host port)).connections =
      (new scheme host port).final settings .connections :=
    read_foldl_set _ settings .connections
  rw [hread, final]
  cases Setting.last? settings .connections with
  | none => exact iff_of_false (show ¬ (10 : UInt64) = 0 by decide) nofun
  | some count => exact (Option.some.injEq count 0).symm ▸ Iff.rfl

theorem isSome_defect?_iff (e : Endpoint) :
    e.defect?.isSome ↔
      e.connections = 0 ∨ e.scheme = .http ∧ ∃ option, (e.tls.get option).isSome := by
  have hall : ∀ option, option ∈ TlsOption.all := by
    intro option
    cases option <;> simp [TlsOption.all]
  unfold defect?
  split
  · next hzero => simp [hzero]
  · next hzero =>
    split
    · next hscheme => simp [hzero, hscheme]
    · next hscheme =>
      have hhttp : e.scheme = .http := by
        cases hs : e.scheme with
        | http => rfl
        | https => exact absurd hs hscheme
      rw [Option.isSome_map, List.find?_isSome]
      simp [hzero, hhttp, hall]

/-- A new endpoint is refused for the lack of connections, whatever else is wrong. -/
theorem revise_new_of_noConnections {scheme : Scheme} {host : String} {port : UInt16}
    {settings : List Setting} (h : Setting.last? settings .connections = some 0) :
    (new scheme host port).revise settings = .error (.configuration .noConnections) := by
  rw [revise, checked, defect?, if_pos ((connections_foldl_set_eq_zero_iff ..).mpr h)]

/-- Otherwise it is refused for the first option that is set, in the order of the options. -/
theorem revise_new_of_tls {host : String} {port : UInt16} {settings : List Setting}
    (h : Setting.last? settings .connections ≠ some 0) {before after : List TlsOption}
    {option : TlsOption} (hall : TlsOption.all = before ++ option :: after)
    (hset : ∃ text, .tls option text ∈ settings)
    (hbefore : ∀ o ∈ before, ∀ text, .tls o text ∉ settings) :
    (new .http host port).revise settings = .error (.configuration (.tlsWithoutHttps option)) := by
  obtain ⟨hscheme, -⟩ := (new .http host port).address_foldl_set settings
  have hget : ∀ o, (((settings.foldl set (new .http host port)).tls.get o).isSome = true ↔
      ∃ text, .tls o text ∈ settings) := by
    intro o
    rw [isSome_get_foldl_set]
    have hnone : ((new .http host port).tls.get o).isSome = false := by cases o <;> rfl
    simp [hnone]
  have hfind : TlsOption.all.find? (fun o =>
      ((settings.foldl set (new .http host port)).tls.get o).isSome) = some option := by
    refine List.find?_eq_some_iff_append.mpr ⟨(hget option).mpr hset, before, after, hall, ?_⟩
    intro o ho
    rw [Bool.not_eq_true', Bool.eq_false_iff, ne_eq, hget]
    rintro ⟨text, htext⟩
    exact hbefore o ho text htext
  have hhttps : ¬ (settings.foldl set (new .http host port)).scheme = .https := by
    rw [hscheme]
    exact nofun
  rw [revise, checked, defect?, if_neg ((connections_foldl_set_eq_zero_iff ..).not.mpr h),
    if_neg hhttps, hfind]
  rfl

/-- A new endpoint is refused for nothing else. -/
theorem exists_revise_new_eq_error_iff (scheme : Scheme) (host : String) (port : UInt16)
    (settings : List Setting) :
    (∃ fault, (new scheme host port).revise settings = .error fault) ↔
      Setting.last? settings .connections = some 0 ∨
        scheme = .http ∧ ∃ option text, .tls option text ∈ settings := by
  obtain ⟨hscheme, -⟩ := (new scheme host port).address_foldl_set settings
  have hnone : ∀ o, ((new scheme host port).tls.get o).isSome = false := by
    intro o
    cases o <;> rfl
  have hdefect := isSome_defect?_iff (settings.foldl set (new scheme host port))
  simp only [connections_foldl_set_eq_zero_iff, hscheme, isSome_get_foldl_set, hnone,
    Bool.false_eq_true, false_or] at hdefect
  refine Iff.trans ?_ hdefect
  rw [revise, checked]
  cases (settings.foldl set (new scheme host port)).defect? <;> simp

/-! ### A new endpoint -/

/-- What the settings of a new endpoint come to. -/
structure LastWriteWins (scheme : Scheme) (host : String) (port : UInt16)
    (settings : List Setting) : Prop where
  /-- An endpoint that is made is at the address, and holds what was written last. -/
  made : ∀ e, (new scheme host port).revise settings = .ok e →
    e.scheme = scheme ∧ e.host = host ∧ e.port = port ∧
      ∀ c, e.read c = (new scheme host port).final settings c
  /-- Other settings with the same last writes come to the same, be it an endpoint or a fault. -/
  decided : ∀ settings',
    (∀ c, (new scheme host port).final settings' c = (new scheme host port).final settings c) →
      (new scheme host port).revise settings' = (new scheme host port).revise settings
  /-- So do the same settings in an order that differs between fields only. -/
  reordered : ∀ settings' : List Setting,
    (∀ f, settings'.filter (·.field = f) = settings.filter (·.field = f)) →
      (new scheme host port).revise settings' = (new scheme host port).revise settings
  /-- What is refused. -/
  refused_iff : (∃ fault, (new scheme host port).revise settings = .error fault) ↔
    Setting.last? settings .connections = some 0 ∨
      scheme = .http ∧ ∃ option text, .tls option text ∈ settings
  /-- A lack of connections is the first fault. -/
  noConnections : Setting.last? settings .connections = some 0 →
    (new scheme host port).revise settings = .error (.configuration .noConnections)
  /-- The other faults come in the order of the options, whatever that of the settings is, and each
  is worded with the name of its option. -/
  firstOption : Setting.last? settings .connections ≠ some 0 → scheme = .http →
    ∀ before option name after,
      [(.caCerts, "ca_certs"), (.clientCert, "client_cert"), (.clientKey, "client_key"),
        (.assertHostname, "ssl_assert_hostname"),
        (.assertFingerprint, "ssl_assert_fingerprint")] = before ++ (option, name) :: after →
      (∃ text, .tls option text ∈ settings) →
      (∀ o ∈ before, ∀ text, .tls o.1 text ∉ settings) →
        (new scheme host port).revise settings =
            .error (.configuration (.tlsWithoutHttps option)) ∧
          (ConfigFault.tlsWithoutHttps option).message =
            "'" ++ name ++ "' option should be only set for 'https' scheme"
  /-- More settings of the endpoint that is made come to what all of them do at once, and a copy
  made by them is the same endpoint iff the last path set is the endpoint's. -/
  continued : ∀ e, (new scheme host port).revise settings = .ok e → ∀ more,
    e.revise more = (new scheme host port).revise (settings ++ more) ∧
      ∀ e', e.revise more = .ok e' →
        (e'.id = e.id ↔ ∀ path ∈ Setting.last? more .pathPrefix, path = e.pathPrefix)
  /-- Without more settings the copy is the endpoint itself. -/
  kept : ∀ e, (new scheme host port).revise settings = .ok e → e.revise [] = .ok e

/-- **The last write wins**: what the settings of a new endpoint come to. -/
theorem lastWriteWins (scheme : Scheme) (host : String) (port : UInt16)
    (settings : List Setting) : LastWriteWins scheme host port settings where
  made := by
    intro e h
    obtain ⟨rfl, -⟩ := (checked_eq_ok_iff _ _).mp h
    obtain ⟨hscheme, hhost, hport⟩ := (new scheme host port).address_foldl_set settings
    exact ⟨hscheme, hhost, hport, read_foldl_set _ settings⟩
  decided := fun _ h => revise_congr h
  reordered := fun _ h => revise_of_filter_field _ h
  refused_iff := exists_revise_new_eq_error_iff scheme host port settings
  noConnections := revise_new_of_noConnections
  firstOption := by
    rintro hconnections rfl before option name after hnames hset hbefore
    obtain ⟨before, after, hall, rfl, rfl⟩ := TlsOption.exists_all_eq hnames
    refine ⟨revise_new_of_tls hconnections hall hset fun o ho => ?_, rfl⟩
    exact hbefore (o, o.name) (List.mem_map_of_mem ho)
  continued := by
    intro e h more
    refine ⟨revise_append h more, fun e' h' => ?_⟩
    obtain ⟨rfl, -⟩ := (checked_eq_ok_iff _ _).mp h'
    exact id_foldl_set_iff e more
  kept := fun e h => by rw [revise_append h, List.append_nil, h]

/-- Settings that take back some of what they wrote, and set options out of their order. -/
def crossed : List Setting :=
  [.tls .clientKey "k", .header "a" "1", .connections 0, .headers .empty, .header "b" "2",
    .tls .caCerts "c", .connections 5]

/-- They are refused for the first option, or leave one header and five connections. -/
theorem lastWriteWins_crossed :
    (new .http "h" 1).revise crossed = .error (.configuration (.tlsWithoutHttps .caCerts)) ∧
      ∃ e, (new .https "h" 1).revise crossed = .ok e ∧ e.read (.header "a") = none ∧
        e.read (.header "b") = some "2" ∧ e.read .connections = 5 := by
  have hlast : Setting.last? crossed .connections ≠ some 0 := by decide
  have hset : ∃ text, .tls .caCerts text ∈ crossed := ⟨"c", by simp [crossed]⟩
  have hwins := lastWriteWins .http "h" 1 crossed
  obtain ⟨hfirst, -⟩ := hwins.firstOption hlast rfl [] .caCerts "ca_certs" _ rfl hset nofun
  refine ⟨hfirst, ?_⟩
  cases hrevise : (new .https "h" 1).revise crossed with
  | error fault =>
    rcases (lastWriteWins .https "h" 1 crossed).refused_iff.mp ⟨fault, hrevise⟩ with hzero | htls
    · exact absurd hzero hlast
    · cases htls.1
  | ok e =>
    obtain ⟨-, -, -, hread⟩ := (lastWriteWins .https "h" 1 crossed).made e hrevise
    exact ⟨e, rfl, (hread _).trans (by decide), (hread _).trans (by decide),
      (hread _).trans (by decide)⟩

end Endpoint

end EndpointPool
