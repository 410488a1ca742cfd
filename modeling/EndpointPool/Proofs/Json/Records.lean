import EndpointPool.Json.Record
import EndpointPool.Proofs.Json.Reading
import Mathlib.Data.List.Nodup
import Mathlib.Data.List.Perm.Basic

/-!
# What is read from JSON values

For each simple type, the values that are read as something of that type, and what they are read as.
A record is read from the members of an object whenever they spell it: each of its fields once, with
a value of the field's type, in any order and with other members in between.

## Main definitions

* `Json.IsNumber v n`, `Json.OrNull holds v o`: natural numbers, and values that may be null
* `Schema.Spells s holds members r`: the members of an object spell the record `r`

## Main results

* `Json.asText_eq_ok_iff`, `Json.asBool_eq_ok_iff`, `Json.asWord_eq_ok_iff`,
  `Json.asOption_eq_ok_iff`, `Json.asTextMap_eq_ok_iff`: what is read as a simple value
* `Schema.readRecord_object_eq_ok_iff`, `Schema.readRecord_array_eq_ok_iff`: what is read as a
  record
* `Record.get?_eq_some_iff`: the value of a field of a record without repetitions
-/

namespace EndpointPool

/-! ### Values or faults -/

theorem bind_eq_ok_iff {ε α β : Type} {x : Except ε α} {f : α → Except ε β} {b : β} :
    x >>= f = .ok b ↔ ∃ a, x = .ok a ∧ f a = .ok b := by
  cases x with
  | error fault => exact ⟨nofun, nofun⟩
  | ok a => exact ⟨fun h => ⟨a, rfl, h⟩, fun ⟨_, ha, h⟩ => Except.ok.inj ha ▸ h⟩

theorem map_eq_ok_iff {ε α β : Type} {x : Except ε α} {f : α → β} {b : β} :
    x.map f = .ok b ↔ ∃ a, x = .ok a ∧ f a = b := by
  cases x with
  | error fault => exact ⟨nofun, nofun⟩
  | ok a => simp [Except.map]

/-! ### Simple values -/

namespace Numeral

theorem realValue_ne_natural (n : Numeral) (k : Nat) : n.realValue ≠ .natural k := by
  intro h
  simp only [realValue] at h
  split at h
  · split at h <;> cases h
  · split at h
    · split at h <;> cases h
    · split at h <;> cases h

/-- The numerals of natural numbers have no sign, no fraction and no exponent. -/
theorem value_eq_natural_iff (n : Numeral) (k : Nat) :
    n.value = .natural k ↔ n.negative = false ∧ n.fraction = [] ∧ n.exponent = none ∧
      Decimal.value n.integer = k ∧ k < UInt64.size := by
  rcases n with ⟨negative, integer, fraction, exponent⟩
  unfold value
  split
  · next hplain =>
    rw [Bool.and_eq_true, List.isEmpty_iff, Option.isNone_iff_eq_none] at hplain
    obtain ⟨rfl, rfl⟩ := hplain
    dsimp only
    split
    · next hnatural =>
      rw [NumberValue.natural.injEq]
      constructor
      · rintro rfl
        exact ⟨by simpa using hnatural.1, rfl, rfl, rfl, hnatural.2⟩
      · rintro ⟨-, -, -, rfl, -⟩
        rfl
    · next hnatural =>
      have hright : ¬ (negative = false ∧ Decimal.value integer = k ∧ k < UInt64.size) := by
        rintro ⟨rfl, rfl, hlt⟩
        exact hnatural ⟨by simp, hlt⟩
      split
      · exact ⟨nofun, fun h => absurd ⟨h.1, h.2.2.2⟩ hright⟩
      · exact ⟨fun h => absurd h (realValue_ne_natural _ k), fun h => absurd ⟨h.1, h.2.2.2⟩ hright⟩
  · next hplain =>
    refine ⟨fun h => absurd h (realValue_ne_natural _ k), ?_⟩
    rintro ⟨-, rfl, rfl, -⟩
    exact absurd rfl hplain

end Numeral

namespace Json

/-- The numeral of a natural number. -/
def IsNumber (v : Json) (k : Nat) : Prop :=
  ∃ digits, v = .number ⟨false, digits, [], none⟩ ∧ Decimal.value digits = k

/-- Null for nothing, or else a value that holds something. -/
def OrNull {α : Type} (holds : Json → α → Prop) (v : Json) : Option α → Prop
  | none => v = .null
  | some a => holds v a

theorem isNumber_ofNat (k : Nat) : (ofNat k).IsNumber k :=
  ⟨Decimal.digits k, rfl, Decimal.value_digits k⟩

theorem orNull_ofOption {α : Type} {holds : Json → α → Prop} {write : α → Json}
    (h : ∀ a, holds (write a) a) (o : Option α) : (ofOption write o).OrNull holds o := by
  cases o with
  | none => rfl
  | some a => exact h a

theorem asText_eq_ok_iff (v : Json) (s : String) : asText v = .ok s ↔ v = .ofText s := by
  constructor
  · intro h
    unfold asText at h
    split at h
    · cases h
      rfl
    · cases h
  · rintro rfl
    rfl

theorem asBool_eq_ok_iff (v : Json) (b : Bool) : asBool v = .ok b ↔ v = .bool b := by
  constructor
  · intro h
    unfold asBool at h
    split at h
    · cases h
      rfl
    · cases h
  · rintro rfl
    rfl

theorem asWord_eq_ok_iff {limit : Nat} (hlimit : limit ≤ UInt64.size) (v : Json) (k : Nat) :
    asWord limit v = .ok k ↔ v.IsNumber k ∧ k < limit := by
  constructor
  · intro h
    unfold asWord at h
    split at h
    · next n =>
      split at h
      · next k' hvalue =>
        split at h
        · next hlt =>
          cases h
          obtain ⟨hsign, hfraction, hexponent, hdigits, -⟩ :=
            (Numeral.value_eq_natural_iff n k).mp hvalue
          refine ⟨⟨n.integer, ?_, hdigits⟩, hlt⟩
          rw [← hsign, ← hfraction, ← hexponent]
        · cases h
      · cases h
      · cases h
      · cases h
    · cases h
  · rintro ⟨⟨digits, rfl, hdigits⟩, hlt⟩
    have hvalue : Numeral.value ⟨false, digits, [], none⟩ = .natural k :=
      (Numeral.value_eq_natural_iff _ k).mpr
        ⟨rfl, rfl, rfl, hdigits, Nat.lt_of_lt_of_le hlt hlimit⟩
    simp [asWord, hvalue, hlt]

theorem asOption_eq_ok_iff {α : Type} {read : Json → Except ReadFault α}
    {holds : Json → α → Prop} (hread : ∀ v a, read v = .ok a ↔ holds v a)
    (hnull : ∀ a, ¬ holds .null a) (v : Json) (o : Option α) :
    asOption read v = .ok o ↔ v.OrNull holds o := by
  by_cases hv : v = .null
  · subst hv
    cases o with
    | none => simp [asOption, OrNull]
    | some a => simp [asOption, OrNull, hnull a]
  · have hsome : asOption read v = (read v).map some := by
      cases v <;> first | exact absurd rfl hv | rfl
    rw [hsome]
    cases o with
    | none => cases hr : read v <;> simp [Except.map, OrNull, hv]
    | some a =>
      rw [OrNull, ← hread v a]
      cases hr : read v <;> simp [Except.map]

theorem asWord_uint16_eq_ok_iff (v : Json) (p : UInt16) :
    (asWord UInt16.size v).map UInt16.ofNat = .ok p ↔ v.IsNumber p.toNat := by
  rw [map_eq_ok_iff]
  constructor
  · rintro ⟨k, hk, rfl⟩
    obtain ⟨hnumber, hlt⟩ := (asWord_eq_ok_iff (by decide) v k).mp hk
    rwa [UInt16.toNat_ofNat_of_lt' hlt]
  · intro h
    exact ⟨p.toNat, (asWord_eq_ok_iff (by decide) v _).mpr ⟨h, p.toNat_lt_size⟩,
      UInt16.ofNat_toNat⟩

theorem asWord_uint64_eq_ok_iff (v : Json) (n : UInt64) :
    (asWord UInt64.size v).map UInt64.ofNat = .ok n ↔ v.IsNumber n.toNat := by
  rw [map_eq_ok_iff]
  constructor
  · rintro ⟨k, hk, rfl⟩
    obtain ⟨hnumber, hlt⟩ := (asWord_eq_ok_iff (Nat.le_refl _) v k).mp hk
    rwa [UInt64.toNat_ofNat_of_lt' hlt]
  · intro h
    exact ⟨n.toNat, (asWord_eq_ok_iff (Nat.le_refl _) v _).mpr ⟨h, n.toNat_lt_size⟩,
      UInt64.ofNat_toNat⟩

theorem addTexts_eq_ok_iff (members : List (Key × Json)) (m m' : NameMap String) :
    addTexts m members = .ok m' ↔
      ∃ l : List (String × String), members = l.map (fun e => (.text e.1, .ofText e.2)) ∧
        m' = l.foldl (fun m e => m.insert e.1 e.2) m := by
  induction members generalizing m with
  | nil =>
    constructor
    · intro h
      cases h
      exact ⟨[], rfl, rfl⟩
    · rintro ⟨l, hl, rfl⟩
      rw [eq_comm, List.map_eq_nil_iff] at hl
      subst hl
      rfl
  | cons member rest ih =>
    rcases member with ⟨key, v⟩
    constructor
    · intro h
      cases key with
      | text name =>
        rw [addTexts] at h
        split at h
        · next s hs =>
          obtain ⟨l, rfl, rfl⟩ := (ih (m.insert name s)).mp h
          exact ⟨(name, s) :: l, by rw [(asText_eq_ok_iff v s).mp hs]; rfl, rfl⟩
        · cases h
      | unpaired => cases h
      | absent => cases h
    · rintro ⟨l, hl, rfl⟩
      cases l with
      | nil => cases hl
      | cons e l =>
        rw [List.map_cons, List.cons.injEq, Prod.mk.injEq] at hl
        obtain ⟨⟨rfl, rfl⟩, rfl⟩ := hl
        exact (ih (m.insert e.1 e.2)).mpr ⟨l, rfl, rfl⟩

theorem asTextMap_eq_ok_iff (v : Json) (m : NameMap String) :
    asTextMap v = .ok m ↔
      ∃ l : List (String × String), v = .ofFields (l.map fun e => (e.1, .ofText e.2)) ∧
        m = .ofList l := by
  constructor
  · intro h
    unfold asTextMap at h
    split at h
    · obtain ⟨l, rfl, rfl⟩ := (addTexts_eq_ok_iff _ _ m).mp h
      exact ⟨l, by rw [ofFields, List.map_map]; rfl, rfl⟩
    · cases h
  · rintro ⟨l, rfl, rfl⟩
    rw [ofFields, List.map_map]
    exact (addTexts_eq_ok_iff _ _ _).mpr ⟨l, rfl, rfl⟩

/-- A document behind which nothing stands is read as its value is. -/
theorem Document.read_value {α : Type} (read : Json → Except ReadFault α) (v : Json) :
    Document.read read ⟨v, false⟩ = read v := by
  rw [Document.read]
  cases read v <;> rfl

end Json

/-! ### Records -/

namespace Record

variable {F : Type} {V : F → Type} [DecidableEq F]

/-- The fields that a record has. -/
def fields (r : Record F V) : List F := r.map Sigma.fst

theorem has_eq_true_iff (r : Record F V) (f : F) : r.has f = true ↔ f ∈ r.fields := by
  simp [has, fields]

theorem get?_eq_none {r : Record F V} {f : F} (h : f ∉ r.fields) : r.get? f = none := by
  induction r with
  | nil => rfl
  | cons x r ih =>
    rw [fields, List.map_cons, List.mem_cons, not_or] at h
    rw [get?, dif_neg (Ne.symm h.1), ih h.2]

theorem get?_cons_self (f : F) (x : V f) (r : Record F V) : get? (⟨f, x⟩ :: r) f = some x := by
  simp [get?]

theorem get?_cons_of_ne {f g : F} (h : g ≠ f) (x : V g) (r : Record F V) :
    get? (⟨g, x⟩ :: r) f = r.get? f := by
  simp [get?, h]

/-- A record without repetitions has the values that are in it. -/
theorem get?_eq_some_iff {r : Record F V} (h : r.fields.Nodup) (f : F) (x : V f) :
    r.get? f = some x ↔ ⟨f, x⟩ ∈ r := by
  induction r with
  | nil => simp [get?]
  | cons y r ih =>
    rcases y with ⟨g, y⟩
    rw [fields, List.map_cons, List.nodup_cons] at h
    by_cases hgf : g = f
    · subst hgf
      have hnot : (⟨g, x⟩ : Sigma V) ∉ r := fun hmem => h.1 (List.mem_map.mpr ⟨_, hmem, rfl⟩)
      rw [get?_cons_self, Option.some.injEq, List.mem_cons, or_iff_left hnot, Sigma.mk.injEq,
        eq_comm]
      simp
    · rw [get?_cons_of_ne hgf, ih h.2, List.mem_cons, or_iff_right]
      intro heq
      exact hgf (congrArg Sigma.fst heq).symm

/-- The order of a record without repetitions does not matter. -/
theorem get?_eq_of_perm {r r' : Record F V} (hperm : r'.Perm r) (h : r.fields.Nodup) (f : F) :
    r'.get? f = r.get? f := by
  have h' : r'.fields.Nodup := (hperm.map Sigma.fst).nodup_iff.mpr h
  refine Option.ext fun x => ?_
  rw [get?_eq_some_iff h', get?_eq_some_iff h, hperm.mem_iff]

omit [DecidableEq F] in
/-- A record without repetitions has the fields of another in another order, if it has no fields but
those of the other, and each with the value that the other has. -/
theorem perm_of_subset {r r' : Record F V} (h : r.fields.Nodup) (h' : r'.fields.Nodup)
    (hmem : ∀ x ∈ r', x ∈ r) (hfields : ∀ f ∈ r.fields, f ∈ r'.fields) : r'.Perm r := by
  refine (List.perm_ext_iff_of_nodup (.of_map _ h') (.of_map _ h)).mpr fun x =>
    ⟨hmem x, fun hx => ?_⟩
  obtain ⟨y, hy, hfield⟩ := List.mem_map.mp (hfields x.1 (List.mem_map_of_mem hx))
  rwa [← List.inj_on_of_nodup_map h (hmem y hy) hx hfield]

end Record

namespace Schema

variable {F : Type} {V : F → Type} [DecidableEq F] (s : Schema F V)
  (holds : (f : F) → Json → V f → Prop)

/-- The members of an object spell a record: each is a field with a value that holds the field's, or
it has a name of no field, and nothing in it is broken off. -/
inductive Spells : List (Key × Json) → Record F V → Prop
  | nil : Spells [] []
  | field {f : F} {v : Json} {x : V f} {members : List (Key × Json)} {r : Record F V}
    (h : holds f v x) (rest : Spells members r) :
    Spells ((.text (s.name f), v) :: members) (⟨f, x⟩ :: r)
  | other {name : String} {v : Json} {members : List (Key × Json)} {r : Record F V}
    (h : ∀ f, s.name f ≠ name) (hunknown : s.unknown name = none) (hwhole : v.isWhole = true)
    (rest : Spells members r) : Spells ((.text name, v) :: members) r

variable {s holds}

omit [DecidableEq F] in
theorem field?_eq_none {name : String} (h : ∀ f, s.name f ≠ name) : s.field? name = none := by
  rw [field?, List.find?_eq_none]
  intro f _
  simpa using h f

omit [DecidableEq F] in
theorem name_ne_of_field?_eq_none (hfield : ∀ f, s.field? (s.name f) = some f) {name : String}
    (h : s.field? name = none) (f : F) : s.name f ≠ name := by
  rintro rfl
  rw [hfield f] at h
  cases h

/-- A record without repetitions is read from the members that spell it. -/
theorem readMembers_of_spells (hfield : ∀ f, s.field? (s.name f) = some f)
    (hread : ∀ f v x, holds f v x → s.read f v = .ok x) {members : List (Key × Json)}
    {r : Record F V} (h : s.Spells holds members r) {before : Record F V}
    (hnodup : (before ++ r).fields.Nodup) : s.readMembers before members = .ok (before ++ r) := by
  induction h generalizing before with
  | nil => rw [readMembers, List.append_nil]
  | @field f v x members r hholds _ ih =>
    -- the fields read before are none of those to come
    have hnew : before.has f = false := by
      rw [← Bool.not_eq_true, Record.has_eq_true_iff]
      intro hmem
      rw [Record.fields, List.map_append, List.nodup_append] at hnodup
      exact hnodup.2.2 f hmem f List.mem_cons_self rfl
    rw [readMembers, hfield f]
    simp only [hnew, Bool.false_eq_true, if_false, hread f v x hholds]
    have hassoc : before ++ ⟨f, x⟩ :: r = before ++ [⟨f, x⟩] ++ r := List.append_cons _ _ _
    rw [hassoc] at hnodup ⊢
    exact ih hnodup
  | other hname hunknown hwhole _ ih =>
    rw [readMembers, field?_eq_none hname]
    simp only [hunknown, hwhole, if_true]
    exact ih hnodup

/-- What is read from the members of an object is a record without repetitions that they spell. -/
theorem exists_spells_of_readMembers (hfield : ∀ f, s.field? (s.name f) = some f)
    (hread : ∀ f v x, s.read f v = .ok x → holds f v x) {members : List (Key × Json)}
    {before after : Record F V} (hbefore : before.fields.Nodup)
    (h : s.readMembers before members = .ok after) :
    ∃ r, after = before ++ r ∧ s.Spells holds members r ∧ after.fields.Nodup := by
  induction members generalizing before with
  | nil =>
    cases h
    exact ⟨[], (List.append_nil _).symm, .nil, hbefore⟩
  | cons member rest ih =>
    rcases member with ⟨key, v⟩
    cases key with
    | text name =>
      rw [readMembers] at h
      split at h
      · next f hf =>
        split at h
        · cases h
        · next hnew =>
          split at h
          · next x hx =>
            have hname : s.name f = name := by
              have hfind := List.find?_some hf
              simpa using hfind
            rw [Record.has_eq_true_iff] at hnew
            have hnodup : (before ++ [⟨f, x⟩] : Record F V).fields.Nodup := by
              rw [Record.fields, List.map_append, List.map_singleton]
              exact List.nodup_append.mpr ⟨hbefore, List.nodup_singleton f, by
                rintro a ha b hb rfl
                rw [List.mem_singleton.mp hb] at ha
                exact hnew ha⟩
            obtain ⟨r, rfl, hr, hafter⟩ := ih hnodup h
            refine ⟨⟨f, x⟩ :: r, (List.append_cons _ _ _).symm, hname ▸ ?_, hafter⟩
            exact .field (hread f v x hx) hr
          · cases h
      · next hnone =>
        have hname : ∀ f, s.name f ≠ name := name_ne_of_field?_eq_none hfield hnone
        split at h
        · cases h
        · next hunknown =>
          split at h
          · next hwhole =>
            obtain ⟨r, rfl, hr, hafter⟩ := ih hbefore h
            exact ⟨r, rfl, .other hname hunknown hwhole hr, hafter⟩
          · cases h
    | unpaired => cases h
    | absent => cases h

omit [DecidableEq F] in
/-- The members of an object in another order spell the record in another order. -/
theorem Spells.perm {members members' : List (Key × Json)} (hperm : members.Perm members')
    {r : Record F V} (h : s.Spells holds members r) :
    ∃ r', s.Spells holds members' r' ∧ r.Perm r' := by
  induction hperm generalizing r with
  | nil => exact ⟨r, h, .refl r⟩
  | cons member _ ih =>
    cases h with
    | field hx rest =>
      obtain ⟨r', hr', hp⟩ := ih rest
      exact ⟨_, .field hx hr', hp.cons _⟩
    | other hname hunknown hwhole rest =>
      obtain ⟨r', hr', hp⟩ := ih rest
      exact ⟨r', .other hname hunknown hwhole hr', hp⟩
  | swap first second members =>
    -- of two neighbours both are fields, or one, or none; only two fields change the record
    cases h with
    | field hx rest =>
      cases rest with
      | field hy rest => exact ⟨_, .field hy (.field hx rest), .swap _ _ _⟩
      | other hname hunknown hwhole rest =>
        exact ⟨_, .other hname hunknown hwhole (.field hx rest), .refl _⟩
    | other hname hunknown hwhole rest =>
      cases rest with
      | field hy rest => exact ⟨_, .field hy (.other hname hunknown hwhole rest), .refl _⟩
      | other hname' hunknown' hwhole' rest =>
        exact ⟨_, .other hname' hunknown' hwhole' (.other hname hunknown hwhole rest), .refl _⟩
  | trans _ _ ih ih' =>
    obtain ⟨r', hr', hp⟩ := ih h
    obtain ⟨r'', hr'', hp'⟩ := ih' hr'
    exact ⟨r'', hr'', hp.trans hp'⟩

omit [DecidableEq F] in
/-- A member of the name of a field holds a value that the record has. -/
theorem Spells.exists_of_mem (hname : Function.Injective s.name) {members : List (Key × Json)}
    {r : Record F V} (h : s.Spells holds members r) {f : F} {v : Json}
    (hmem : (.text (s.name f), v) ∈ members) : ∃ x, holds f v x ∧ ⟨f, x⟩ ∈ r := by
  induction h with
  | nil => cases hmem
  | @field g w x members r hx _ ih =>
    rcases List.mem_cons.mp hmem with heq | hmem
    · rw [Prod.mk.injEq, Key.text.injEq] at heq
      obtain ⟨hfg, rfl⟩ := heq
      cases hname hfg
      exact ⟨x, hx, List.mem_cons_self⟩
    · obtain ⟨y, hy, hr⟩ := ih hmem
      exact ⟨y, hy, List.mem_cons_of_mem _ hr⟩
  | other hother _ _ _ ih =>
    rcases List.mem_cons.mp hmem with heq | hmem
    · rw [Prod.mk.injEq, Key.text.injEq] at heq
      exact absurd heq.1 (hother f)
    · exact ih hmem

omit [DecidableEq F] in
/-- The values of members hold the fields of their names, with the values that the record has. -/
theorem Spells.exists_forall₂ (hname : Function.Injective s.name) {members : List (Key × Json)}
    {r : Record F V} (h : s.Spells holds members r) {fields : List F} {items : List Json}
    (hitems : List.Forall₂ (fun f v => (.text (s.name f), v) ∈ members) fields items) :
    ∃ r' : Record F V, r'.fields = fields ∧ (∀ x ∈ r', x ∈ r) ∧
      List.Forall₂ (fun v (x : Sigma V) => holds x.1 v x.2) items r' := by
  induction hitems with
  | nil => exact ⟨[], rfl, nofun, .nil⟩
  | @cons f v fields items hv _ ih =>
    obtain ⟨x, hx, hmem⟩ := h.exists_of_mem hname hv
    obtain ⟨r', rfl, hr', hitems⟩ := ih
    exact ⟨⟨f, x⟩ :: r', rfl, List.forall_mem_cons.mpr ⟨hmem, hr'⟩, .cons hx hitems⟩

omit [DecidableEq F] in
/-- A record is read from the values of its fields in the order of their declaration. -/
theorem readItems_of_forall₂ (hread : ∀ f v x, holds f v x → s.read f v = .ok x)
    {items : List Json} {r : Record F V}
    (h : List.Forall₂ (fun v (x : Sigma V) => holds x.1 v x.2) items r) :
    s.readItems r.fields items = .ok r := by
  induction h with
  | nil => rfl
  | @cons v x items r hx _ ih =>
    rw [Record.fields, List.map_cons, readItems, hread x.1 v x.2 hx]
    simp only
    rw [← Record.fields, ih]
    rfl

omit [DecidableEq F] in
/-- What is read from the items of an array are the values of the fields in their order. -/
theorem forall₂_of_readItems (hread : ∀ f v x, s.read f v = .ok x → holds f v x)
    {fields : List F} {items : List Json} {r : Record F V}
    (h : s.readItems fields items = .ok r) :
    r.fields = fields ∧ List.Forall₂ (fun v (x : Sigma V) => holds x.1 v x.2) items r := by
  induction fields generalizing items r with
  | nil =>
    cases items with
    | nil =>
      cases h
      exact ⟨rfl, .nil⟩
    | cons v items => cases h
  | cons f fields ih =>
    cases items with
    | nil => cases h
    | cons v items =>
      rw [readItems] at h
      split at h
      · next x hx =>
        obtain ⟨rest, hrest, rfl⟩ := map_eq_ok_iff.mp h
        obtain ⟨hfields, hitems⟩ := ih hrest
        exact ⟨congrArg (f :: ·) hfields, .cons (hread f v x hx) hitems⟩
      · cases h

/-- What is read as a record from an object. -/
theorem readRecord_object_eq_ok_iff (hfield : ∀ f, s.field? (s.name f) = some f)
    (hread : ∀ f v x, s.read f v = .ok x ↔ holds f v x) (members : List (Key × Json))
    (r : Record F V) :
    s.readRecord (.object members) = .ok r ↔ s.Spells holds members r ∧ r.fields.Nodup := by
  constructor
  · intro h
    have hnil : Record.fields ([] : Record F V) |>.Nodup := List.nodup_nil
    obtain ⟨_, rfl, hspells, hnodup⟩ :=
      exists_spells_of_readMembers hfield (fun f v x => (hread f v x).mp) hnil h
    exact ⟨hspells, hnodup⟩
  · rintro ⟨hspells, hnodup⟩
    rw [← List.nil_append r] at hnodup ⊢
    exact readMembers_of_spells hfield (fun f v x => (hread f v x).mpr) hspells hnodup

/-- What is read as a record from an array. -/
theorem readRecord_array_eq_ok_iff (hread : ∀ f v x, s.read f v = .ok x ↔ holds f v x)
    (items : List Json) (r : Record F V) :
    s.readRecord (.array items) = .ok r ↔
      r.fields = s.all ∧ List.Forall₂ (fun v (x : Sigma V) => holds x.1 v x.2) items r := by
  constructor
  · exact forall₂_of_readItems fun f v x => (hread f v x).mp
  · rintro ⟨hfields, hitems⟩
    rw [readRecord, ← hfields]
    exact readItems_of_forall₂ (fun f v x => (hread f v x).mpr) hitems

/-- A field that a record must have. -/
theorem need_eq_ok_iff (r : Record F V) (f : F) (x : V f) :
    s.need r f = .ok x ↔ r.get? f = some x := by
  rw [need]
  split
  · next y hy => rw [hy, Except.ok.injEq, Option.some.injEq]
  · next hnone => simp [hnone]

end Schema

end EndpointPool
