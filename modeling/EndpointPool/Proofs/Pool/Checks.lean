import EndpointPool.Proofs.Pool.Creation

/-!
# What is checked before a pool is made

Whatever is wrong with the seeds, the registry or the backoff of a pool is found by checks that come
before the first connection. The checks have a fixed order, and the fault is that of the first of
them that fails.

## Main definitions

* `Check`, `FailsFirst checks c`: a check, and the first of the checks that fails
* `SharesIdentity seeds`: two seeds have one identity
* `Plan.checks plan seeds registry`: what is checked, in order, and the fault of each check

## Main results

* `Registry.create_eq_error_iff`, `Backoff.new_eq_error_iff`: what the parts of a pool refuse
* `Plan.resolve_eq_error_iff_or`, `Plan.resolve_eq_error_iff`, `Plan.exists_resolve_iff`: what is
  refused, and why
* `Pool.resolve_of_create_error`: a pool is refused for its plan and its seeds only
-/

namespace EndpointPool

/-! ### Checks -/

/-- What a check looks for, and the fault if it is found. -/
structure Check where
  fails : Prop
  cause : ConfigFault

/-- The first of the checks that fails. -/
def FailsFirst (checks : List Check) (c : Check) : Prop :=
  ∃ passed rest, checks = passed ++ c :: rest ∧ c.fails ∧ ∀ d ∈ passed, ¬ d.fails

section Checks

variable {checks : List Check} {c d : Check}

theorem failsFirst_nil : FailsFirst [] c ↔ False := by
  refine iff_of_false ?_ id
  rintro ⟨passed, rest, hnil, -⟩
  cases passed <;> cases hnil

/-- The first check that fails is the first check, or it is passed and the rest decides. -/
theorem failsFirst_cons :
    FailsFirst (d :: checks) c ↔ d.fails ∧ c = d ∨ ¬ d.fails ∧ FailsFirst checks c := by
  constructor
  · rintro ⟨passed, rest, heq, hc, hpassed⟩
    cases passed with
    | nil =>
      obtain ⟨rfl, -⟩ := List.cons.inj heq
      exact .inl ⟨hc, rfl⟩
    | cons d' passed =>
      obtain ⟨rfl, rfl⟩ := List.cons.inj heq
      obtain ⟨hd, hpassed⟩ := List.forall_mem_cons.mp hpassed
      exact .inr ⟨hd, passed, rest, rfl, hc, hpassed⟩
  · rintro (⟨hd, rfl⟩ | ⟨hd, passed, rest, rfl, hc, hpassed⟩)
    · exact ⟨[], checks, rfl, hd, fun d hd => nomatch hd⟩
    · exact ⟨d :: passed, rest, rfl, hc, List.forall_mem_cons.mpr ⟨hd, hpassed⟩⟩

/-- If a check fails, one is the first that does. -/
theorem exists_failsFirst_iff : (∃ c, FailsFirst checks c) ↔ ∃ c ∈ checks, c.fails := by
  induction checks with
  | nil => simp only [failsFirst_nil, exists_false, List.not_mem_nil, false_and]
  | cons d checks ih =>
    simp only [failsFirst_cons, exists_or, exists_and_left, exists_eq, and_true, ih,
      List.exists_mem_cons_iff]
    by_cases hd : d.fails
    · exact iff_of_true (.inl hd) (.inl hd)
    · simp only [hd, not_false_eq_true, true_and]

end Checks

/-- Endpoints at two places of a list have one identity. -/
def SharesIdentity (seeds : List Endpoint) : Prop :=
  ∃ (i j : Nat) (a b : Endpoint), i < j ∧ seeds[i]? = some a ∧ seeds[j]? = some b ∧ a.id = b.id

theorem sharesIdentity_iff {seeds : List Endpoint} :
    SharesIdentity seeds ↔ ¬ (seeds.map Endpoint.id).Nodup := by
  rw [List.nodup_iff_getElem?_ne_getElem?]
  simp only [List.getElem?_map, List.length_map]
  constructor
  · rintro ⟨i, j, a, b, hij, ha, hb, hid⟩ h
    obtain ⟨hj, -⟩ := List.getElem?_eq_some_iff.mp hb
    apply h i j hij hj
    rw [ha, hb, Option.map_some, Option.map_some, hid]
  · intro h
    by_contra hshared
    apply h
    intro i j hij hj heq
    have hb : seeds[j]? = some seeds[j] := List.getElem?_eq_getElem hj
    have ha : seeds[i]? = some seeds[i] := List.getElem?_eq_getElem (Nat.lt_trans hij hj)
    rw [ha, hb] at heq
    exact hshared ⟨i, j, _, _, hij, ha, hb, Option.some.inj heq⟩

/-! ### What is refused -/

section Refusal

variable {σ : Type} {registry : Registry σ} {name : String} {fault : Fault}

theorem NameMap.find?_eq_none_iff {β : Type} {m : NameMap β} {key : String} :
    m.find? key = none ↔ key ∉ m.keys := by
  rw [find?, List.lookup_eq_none_iff, keys]
  simp only [bne_iff_ne, ne_eq, List.mem_map, not_exists, not_and]
  exact forall₂_congr fun x _ => not_congr eq_comm

/-- A registry knows the names that are registered, and refuses every other. -/
theorem Registry.create_eq_error_iff :
    registry.create name = .error fault ↔
      name ∉ registry.names ∧ fault = .configuration (.unknownSelector name registry.names) := by
  rw [names, ← NameMap.find?_eq_none_iff]
  unfold create
  split
  · next hfound => exact iff_of_false nofun fun h => by rw [hfound] at h; cases h.1
  · next hnone => exact ⟨fun h => ⟨hnone, (Except.error.inj h).symm⟩, fun h => h.2 ▸ rfl⟩

theorem Registry.contains_eq_false_iff :
    registry.contains name = false ↔ name ∉ registry.names := by
  rw [contains, names, ← NameMap.find?_eq_none_iff, Option.isSome_eq_false_iff,
    Option.isNone_iff_eq_none]

/-- A backoff is refused if its first delay is zero, or else if its limit is below that. -/
theorem Backoff.new_eq_error_iff {factor limit : Duration} :
    Backoff.new factor limit = .error fault ↔
      factor = .zero ∧ fault = .configuration .zeroBackoffFactor ∨
      factor ≠ .zero ∧ limit < factor ∧ fault = .configuration .backoffLimitBelowFactor := by
  have hzero : factor = .zero ↔ factor.nanos = 0 := Duration.ext_iff
  unfold new
  rw [Ne, hzero]
  split
  · next hz =>
    simp only [hz, Except.error.injEq, true_and, not_true_eq_false, false_and, or_false, eq_comm]
  · next hz =>
    split
    · next hl =>
      simp only [hz, hl, Except.error.injEq, false_and, false_or, not_false_eq_true, true_and,
        eq_comm]
    · next hl => simp only [hz, hl, reduceCtorEq, false_and, and_false, or_false]

/-- What is checked before a pool is made, in this order. -/
def Plan.checks (plan : Plan) (seeds : List Endpoint) (registry : Registry σ) : List Check :=
  [⟨seeds = [], .noEndpoints⟩,
    ⟨SharesIdentity seeds, .duplicateEndpoints⟩,
    ⟨plan.selector ∉ registry.names, .unknownSelector plan.selector registry.names⟩,
    ⟨plan.factor = .zero, .zeroBackoffFactor⟩,
    ⟨plan.limit < plan.factor, .backoffLimitBelowFactor⟩]

variable {plan : Plan} {seeds : List Endpoint}

/-- What is refused, part by part. -/
theorem Plan.resolve_eq_error_iff_or :
    plan.resolve seeds registry = .error fault ↔
      seeds = [] ∧ fault = .configuration .noEndpoints ∨
      seeds ≠ [] ∧
        (SharesIdentity seeds ∧ fault = .configuration .duplicateEndpoints ∨
        ¬ SharesIdentity seeds ∧
          (registry.create plan.selector = .error fault ∨
          plan.selector ∈ registry.names ∧ Backoff.new plan.factor plan.limit = .error fault)) := by
  unfold resolve
  by_cases hempty : seeds = []
  · simp only [hempty, List.isEmpty_nil, if_true, Except.error.injEq, true_and, ne_eq,
      not_true_eq_false, false_and, or_false, eq_comm]
  rw [if_neg (mt List.isEmpty_iff.mp hempty)]
  by_cases hshared : SharesIdentity seeds
  · rw [if_pos (sharesIdentity_iff.mp hshared)]
    simp only [hempty, hshared, Except.error.injEq, true_and, ne_eq, not_true_eq_false,
      not_false_eq_true, false_and, false_or, or_false, eq_comm]
  rw [if_neg (mt sharesIdentity_iff.mpr hshared)]
  simp only [hempty, hshared, false_and, false_or, ne_eq, not_false_eq_true, true_and]
  cases hcreate : registry.create plan.selector with
  | error fault' =>
    obtain ⟨hname, -⟩ := Registry.create_eq_error_iff.mp hcreate
    simp only [hname, false_and, or_false, Except.error.injEq]
  | ok selector =>
    have hname : plan.selector ∈ registry.names := by
      by_contra hname
      rw [Registry.create_eq_error_iff.mpr ⟨hname, rfl⟩] at hcreate
      cases hcreate
    cases Backoff.new plan.factor plan.limit with
    | error fault' => simp only [hname, true_and, Except.error.injEq, reduceCtorEq, false_or]
    | ok backoff => simp only [reduceCtorEq, and_false, or_false]

/-- **The fault is that of the first check that fails.** -/
theorem Plan.resolve_eq_error_iff :
    plan.resolve seeds registry = .error fault ↔
      ∃ c, FailsFirst (plan.checks seeds registry) c ∧ fault = .configuration c.cause := by
  rw [resolve_eq_error_iff_or, Registry.create_eq_error_iff, Backoff.new_eq_error_iff]
  simp only [checks, failsFirst_cons, failsFirst_nil, or_and_right, exists_or, and_assoc,
    exists_and_left, exists_eq_left, and_false, or_false, not_not, ne_eq]

/-- A plan can be followed if no check fails. -/
theorem Plan.exists_resolve_iff :
    (∃ selector backoff, plan.resolve seeds registry = .ok (selector, backoff)) ↔
      ∀ c ∈ plan.checks seeds registry, ¬ c.fails := by
  have hfails : (∃ fault, plan.resolve seeds registry = .error fault) ↔
      ∃ c ∈ plan.checks seeds registry, c.fails := by
    simp only [resolve_eq_error_iff, ← exists_failsFirst_iff]
    exact ⟨fun ⟨_, c, hc, _⟩ => ⟨c, hc⟩, fun ⟨c, hc⟩ => ⟨_, c, hc, rfl⟩⟩
  rw [← not_iff_not]
  push Not
  rw [← hfails]
  cases plan.resolve seeds registry with
  | error fault => exact iff_of_true nofun ⟨fault, rfl⟩
  | ok made => exact iff_of_false (fun h => h made.1 made.2 rfl) nofun

end Refusal

/-- A pool is refused for its plan and its seeds only. -/
theorem Pool.resolve_of_create_error {C σ τ : Type} {connect : Endpoint → StateT τ Option C}
    {before after : τ} {seeds : List Endpoint} {plan : Plan} {registry : Registry σ}
    {shuffle : List Endpoint → List Endpoint} {fault : Fault}
    (h : (create seeds connect plan registry shuffle).run before = some (.error fault, after)) :
    plan.resolve seeds registry = .error fault := by
  unfold create at h
  split at h
  · next hresolve =>
    cases h
    exact hresolve
  · -- once the plan is resolved, whatever is answered is a pool
    rw [StateT.run_bind] at h
    obtain ⟨⟨nodes, mid⟩, -, h⟩ := Option.bind_eq_some_iff.mp h
    cases h

end EndpointPool
