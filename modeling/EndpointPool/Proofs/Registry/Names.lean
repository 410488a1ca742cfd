import EndpointPool.Proofs.Encoding.Utf8
import EndpointPool.Proofs.Pool.Checks

/-!
# What a registry knows

A registry that is made by registrations, one after another, knows the names that were registered
and for each name what was registered last. It lists the names in the order of their bytes, and
refuses any other name with this list.

## Main definitions

* `Registry.registerAll r registrations`: a registry after registrations
* `Registry.latest? registrations name`: what was registered last under a name
* `Registry.Knows r registrations`: a registry knows what was registered

## Main results

* `Registry.find?_registerAll`: what is found after registrations
* `Registry.knows_registerAll`: a registry knows what was registered
-/

namespace EndpointPool.Registry

variable {σ : Type} {name : String} {value : σ}

/-- The registry after registrations, one after another. -/
def registerAll (r : Registry σ) (registrations : List (String × σ)) : Registry σ :=
  registrations.foldl (fun r e => r.register e.1 e.2) r

/-- What was registered last under a name. -/
def latest? (registrations : List (String × σ)) (name : String) : Option σ :=
  (registrations.filterMap fun e => if e.1 = name then some e.2 else none).getLast?

/-- A registry knows what was registered. -/
structure Knows (r : Registry σ) (registrations : List (String × σ)) : Prop where
  /-- The names are listed in the order of their bytes, so none is listed twice. -/
  increasing : (r.names.map fun name => Utf8.encode name.toList).Pairwise (· < ·)
  /-- They are the names that were registered. -/
  mem_names_iff : ∀ name, name ∈ r.names ↔ ∃ value, (name, value) ∈ registrations
  contains_iff : ∀ name, r.contains name = true ↔ name ∈ r.names
  /-- A name stands for what was registered last under it. -/
  create_eq_ok_iff : ∀ name value, r.create name = .ok value ↔ latest? registrations name = some value
  /-- Any other name is refused, with the list of the names. -/
  refused_iff : ∀ name fault, r.create name = .error fault ↔
    name ∉ r.names ∧ fault = .configuration (.unknownSelector name r.names)

/-- What was registered later counts first. -/
theorem latest?_append (before after : List (String × σ)) (name : String) :
    latest? (before ++ after) name = (latest? after name).or (latest? before name) := by
  rw [latest?, List.filterMap_append, List.getLast?_append]
  rfl

theorem latest?_concat (registrations : List (String × σ)) (name : String) (e : String × σ) :
    latest? (registrations ++ [e]) name =
      if e.1 = name then some e.2 else latest? registrations name := by
  rw [latest?_append]
  by_cases h : e.1 = name
  · simp [latest?, h]
  · simp [latest?, h]

theorem exists_latest?_iff {registrations : List (String × σ)} :
    (∃ value, latest? registrations name = some value) ↔
      ∃ value, (name, value) ∈ registrations := by
  rw [← Option.ne_none_iff_exists', latest?, ne_eq, List.getLast?_eq_none_iff,
    List.filterMap_eq_nil_iff]
  push Not
  constructor
  · rintro ⟨⟨n, value⟩, hmem, hne⟩
    obtain ⟨found, hfound⟩ := Option.ne_none_iff_exists'.mp hne
    obtain ⟨rfl, -⟩ := Option.ite_none_right_eq_some.mp hfound
    exact ⟨value, hmem⟩
  · rintro ⟨value, hmem⟩
    exact ⟨(name, value), hmem, by simp⟩

theorem latest?_eq_none_iff {registrations : List (String × σ)} :
    latest? registrations name = none ↔ ∀ value, (name, value) ∉ registrations := by
  rw [← not_exists, ← exists_latest?_iff, ← Option.ne_none_iff_exists', not_not]

/-- What is found under a name is what was registered last. -/
theorem find?_registerAll (r : Registry σ) (registrations : List (String × σ)) (name : String) :
    NameMap.find? (r.registerAll registrations) name =
      (latest? registrations name).or (NameMap.find? r name) := by
  induction registrations using List.reverseRecOn with
  | nil => rfl
  | append_singleton registrations e ih =>
    rw [registerAll, List.foldl_concat, register, NameMap.find?_insert, latest?_concat]
    by_cases h : e.1 = name
    · rw [if_pos h.symm, if_pos h, Option.some_or]
    · rw [if_neg (Ne.symm h), if_neg h]
      exact ih

theorem mem_names_iff {r : Registry σ} :
    name ∈ r.names ↔ ∃ value, NameMap.find? r name = some value := by
  rw [← Option.ne_none_iff_exists', ne_eq, NameMap.find?_eq_none_iff, not_not]
  rfl

theorem create_eq_ok_iff {r : Registry σ} :
    r.create name = .ok value ↔ NameMap.find? r name = some value := by
  unfold create
  cases NameMap.find? r name with
  | none => exact iff_of_false nofun nofun
  | some found => rw [Except.ok.injEq, Option.some.injEq]

/-- **A registry knows what was registered.** -/
theorem knows_registerAll (registrations : List (String × σ)) :
    (registerAll NameMap.empty registrations).Knows registrations := by
  have hfind : ∀ name, NameMap.find? (registerAll NameMap.empty registrations) name =
      latest? registrations name := by
    intro name
    rw [find?_registerAll]
    exact Option.or_none
  refine ⟨?_, ?_, ?_, ?_, ?_⟩
  · have hsorted := List.pairwise_map.mpr (registerAll NameMap.empty registrations).sorted
    exact List.pairwise_map.mpr (hsorted.imp fun h => Utf8.encode_lt_encode (String.lt_iff.mp h))
  · intro name
    rw [mem_names_iff, hfind, exists_latest?_iff]
  · intro name
    rw [← not_iff_not, Bool.not_eq_true, contains_eq_false_iff]
  · intro name value
    rw [create_eq_ok_iff, hfind]
  · exact fun name fault => create_eq_error_iff

end EndpointPool.Registry
