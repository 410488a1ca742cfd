import EndpointPool.Proofs.Binary64.Value
import EndpointPool.Proofs.Health.Delay
import EndpointPool.Proofs.Pool.Checks
import EndpointPool.Settings.Basic

/-!
# Building a pool from settings

Settings are checked in seconds, and used in nanoseconds. Settings that pass the check have a first
delay above zero and a limit not below it; but a limit from `2 ^ 64` seconds on is no duration, and
a first delay of up to half a nanosecond is rounded to none at all. Rounding keeps the order, so
nothing else can be wrong with the backoff, and the seeds are never missing.

## Main definitions

* `Settings.Buildable s factor limit`: what settings can be used for

## Main results

* `Backoff.exists_new_iff`, `Backoff.new_eq_error_of_le`: what can be wrong with a backoff
* `Settings.exists_plan_iff`, `Settings.durations_of_plan`, `Settings.create_fault`: what becomes of
  settings whose first delay and limit have values in order
* `Settings.buildable_of_check`: what settings that pass the check can be used for
* `Settings.check_not_enough`: passing the check is not enough
-/

namespace EndpointPool

/-! ### Backoffs -/

/-- The durations that make a backoff. -/
theorem Backoff.exists_new_iff (factor limit : Duration) :
    (∃ b, new factor limit = .ok b) ↔ 0 < factor.nanos ∧ factor ≤ limit := by
  constructor
  · rintro ⟨b, hb⟩
    obtain ⟨rfl, rfl⟩ := (new_eq_ok_iff factor limit b).mp hb
    exact ⟨b.factor_pos, b.factor_le⟩
  · rintro ⟨hpos, hle⟩
    exact ⟨⟨factor, limit, hpos, hle⟩, (new_eq_ok_iff factor limit _).mpr ⟨rfl, rfl⟩⟩

/-- With a limit not below it, only a first delay of zero is refused. -/
theorem Backoff.new_eq_error_of_le {factor limit : Duration} {fault : Fault} (hle : factor ≤ limit)
    (h : new factor limit = .error fault) :
    fault = .configuration .zeroBackoffFactor ∧ factor.nanos = 0 := by
  rcases new_eq_error_iff.mp h with ⟨rfl, hfault⟩ | ⟨-, hlt, -⟩
  · exact ⟨hfault, rfl⟩
  · exact absurd hle (Nat.not_le_of_lt hlt)

namespace Settings

variable {s : Settings} {events : List Event}

/-! ### The check -/

/-- Settings that pass the check have a first delay above zero, and a limit not below it. -/
theorem exists_values_of_check (h : s.check = .ok events) :
    ∃ factor limit, s.factor.value? = some factor ∧ s.limit.value? = some limit ∧ 0 < factor ∧
      factor ≤ limit := by
  have hnone : s.defect? = none := by
    unfold check at h
    split at h
    · cases h
    · assumption
  unfold defect? at hnone
  split at hnone
  · cases hnone
  · split at hnone
    · cases hnone
    · next hfactor =>
      split at hnone
      · cases hnone
      · next hlimit =>
        -- both are finite, so the comparisons are those of their values
        simp only [Bool.or_eq_true, Bool.not_eq_true', not_or, Bool.not_eq_false] at hfactor hlimit
        obtain ⟨factor, hv⟩ := (Binary64.isFinite_iff _).mp hfactor.1
        obtain ⟨limit, hw⟩ := (Binary64.isFinite_iff _).mp hlimit.1
        refine ⟨factor, limit, hv, hw, ?_, ?_⟩
        · exact (Binary64.lt_iff Binary64.value?_ofNat_zero hv).mp hfactor.2
        · exact not_lt.mp fun hlt => hlimit.2 ((Binary64.lt_iff hw hv).mpr hlt)

/-! ### The endpoints -/

/-- A list made one for each of another is as long. -/
theorem length_of_mapM {α β ε : Type} {f : α → Except ε β} :
    ∀ {l : List α} {l' : List β}, l.mapM f = .ok l' → l'.length = l.length
  | [], l', h => by
    cases h
    rfl
  | a :: l, l', h => by
    rw [List.mapM_cons] at h
    cases ha : f a with
    | error fault =>
      rw [ha] at h
      cases h
    | ok b =>
      cases hl : l.mapM f with
      | error fault =>
        rw [ha, hl] at h
        cases h
      | ok rest =>
        rw [ha, hl] at h
        cases h
        rw [List.length_cons, List.length_cons, length_of_mapM hl]

/-- Endpoints are never missing: there is one for each host, or one for the Cloud ID. -/
theorem endpoints_ne_nil {es : List Endpoint} (h : s.endpoints = .ok es) : es ≠ [] := by
  unfold endpoints at h
  split at h
  · next hhosts =>
    -- no endpoints would be those of no hosts
    rintro rfl
    have hlength := length_of_mapM h
    rw [List.length_nil, eq_comm, List.length_eq_zero_iff] at hlength
    rw [hlength] at hhosts
    cases hhosts
  · split at h
    · cases h
    · next id _ =>
      cases hcloud : cloudEndpoint id with
      | error fault =>
        rw [hcloud] at h
        cases h
      | ok e =>
        rw [hcloud] at h
        cases h
        exact List.cons_ne_nil e []

/-! ### The plan -/

/-- There is a plan if both numbers of seconds are durations. -/
theorem plan_eq_ok_iff (plan : Plan) :
    s.plan = .ok plan ↔ plan.selector = s.selector ∧ plan.randomize = s.randomize ∧
      Duration.ofSeconds s.factor = .ok plan.factor ∧
      Duration.ofSeconds s.limit = .ok plan.limit := by
  rcases plan with ⟨selector, randomize, factor, limit⟩
  unfold Settings.plan
  cases hf : Duration.ofSeconds s.factor with
  | error cause => simp
  | ok f =>
    cases hl : Duration.ofSeconds s.limit with
    | error cause => simp
    | ok l => simp [eq_comm]

/-- If there is none, the first of the two that is no duration is reported. -/
theorem plan_eq_error {fault : SettingsFault} (h : s.plan = .error fault) :
    (∃ cause, Duration.ofSeconds s.factor = .error cause ∧ fault = .factorNoDuration cause) ∨
      ∃ f cause, Duration.ofSeconds s.factor = .ok f ∧ Duration.ofSeconds s.limit = .error cause ∧
        fault = .limitNoDuration cause := by
  unfold Settings.plan at h
  cases hf : Duration.ofSeconds s.factor with
  | error cause =>
    rw [hf] at h
    exact .inl ⟨cause, rfl, (Except.error.inj h).symm⟩
  | ok f =>
    cases hl : Duration.ofSeconds s.limit with
    | error cause =>
      rw [hf, hl] at h
      exact .inr ⟨f, cause, rfl, rfl, (Except.error.inj h).symm⟩
    | ok l =>
      rw [hf, hl] at h
      cases h

/-- What settings can be used for whose first delay and limit have these values, in seconds. -/
structure Buildable (s : Settings) (factor limit : ℚ) : Prop where
  factor_value : s.factor.value? = some factor
  limit_value : s.limit.value? = some limit
  factor_pos : 0 < factor
  factor_le : factor ≤ limit
  /-- There is a plan, unless the limit is too long for a duration. -/
  plan_iff : (∃ plan, s.plan = .ok plan) ↔ limit < 2 ^ 64
  /-- If there is none, the first of the two that is too long is reported. -/
  plan_error : ∀ fault, s.plan = .error fault →
    (fault = .factorNoDuration .tooLarge ∧ 2 ^ 64 ≤ factor) ∨
      (fault = .limitNoDuration .tooLarge ∧ factor < 2 ^ 64 ∧ 2 ^ 64 ≤ limit)
  /-- The plan has a backoff, unless its first delay is rounded to zero nanoseconds. -/
  backoff_iff : ∀ plan, s.plan = .ok plan →
    ((∃ b, Backoff.new plan.factor plan.limit = .ok b) ↔ 1 / (2 * nanosPerSecond) < factor)
  /-- If it has none, that is what is reported. -/
  backoff_error : ∀ plan fault, s.plan = .ok plan →
    Backoff.new plan.factor plan.limit = .error fault → fault = .configuration .zeroBackoffFactor
  /-- Endpoints are never missing. -/
  endpoints_ne_nil : ∀ es, s.endpoints = .ok es → es ≠ []
  /-- A pool of the plan and the endpoints is refused for endpoints of one identity, for a selector
  that is not registered, or for a first delay that is rounded to zero. -/
  create_error : ∀ {C σ τ : Type} (connect : Endpoint → StateT τ Option C) (before after : τ)
    (registry : Registry σ) (shuffle : List Endpoint → List Endpoint) (plan : Plan)
    (es : List Endpoint) (fault : Fault), s.plan = .ok plan → s.endpoints = .ok es →
    (Pool.create es connect plan registry shuffle).run before = some (.error fault, after) →
    (fault = .configuration .duplicateEndpoints ∧ ¬ (es.map Endpoint.id).Nodup) ∨
      (fault = .configuration (.unknownSelector s.selector registry.names) ∧
        registry.contains s.selector = false) ∨
      (fault = .configuration .zeroBackoffFactor ∧ factor ≤ 1 / (2 * nanosPerSecond))

section Values

variable {factor limit : ℚ} (hv : s.factor.value? = some factor) (hw : s.limit.value? = some limit)
  (hpos : 0 < factor) (hle : factor ≤ limit)

include hv hw hpos hle

/-- There is a plan if the limit is a duration, for then the first delay is one too. -/
theorem exists_plan_iff : (∃ plan, s.plan = .ok plan) ↔ limit < 2 ^ 64 := by
  have hlimit := Duration.exists_ofSeconds_iff hw (hpos.le.trans hle)
  constructor
  · rintro ⟨plan, hplan⟩
    obtain ⟨-, -, -, hl⟩ := (plan_eq_ok_iff plan).mp hplan
    exact hlimit.mp ⟨plan.limit, hl⟩
  · intro hlt
    obtain ⟨l, hl⟩ := hlimit.mpr hlt
    obtain ⟨f, hf⟩ := (Duration.exists_ofSeconds_iff hv hpos.le).mpr (hle.trans_lt hlt)
    exact ⟨⟨s.selector, s.randomize, f, l⟩, (plan_eq_ok_iff _).mpr ⟨rfl, rfl, hf, hl⟩⟩

/-- If there is none, the first of the two that is too long is reported. -/
theorem plan_fault {fault : SettingsFault} (h : s.plan = .error fault) :
    (fault = .factorNoDuration .tooLarge ∧ 2 ^ 64 ≤ factor) ∨
      (fault = .limitNoDuration .tooLarge ∧ factor < 2 ^ 64 ∧ 2 ^ 64 ≤ limit) := by
  rcases plan_eq_error h with ⟨cause, hcause, rfl⟩ | ⟨f, cause, hf, hcause, rfl⟩
  · obtain ⟨rfl, hlong⟩ := Duration.ofSeconds_eq_error hv hpos.le hcause
    exact .inl ⟨rfl, hlong⟩
  · obtain ⟨rfl, hlong⟩ := Duration.ofSeconds_eq_error hw (hpos.le.trans hle) hcause
    exact .inr ⟨rfl, (Duration.exists_ofSeconds_iff hv hpos.le).mp ⟨f, hf⟩, hlong⟩

/-- Rounding keeps the order of the first delay and the limit, but the first delay may be rounded to
zero. -/
theorem durations_of_plan {plan : Plan} (h : s.plan = .ok plan) :
    plan.factor ≤ plan.limit ∧ (plan.factor.nanos = 0 ↔ factor ≤ 1 / (2 * nanosPerSecond)) := by
  obtain ⟨-, -, hf, hl⟩ := (plan_eq_ok_iff plan).mp h
  exact ⟨Duration.ofSeconds_le hv hw hpos.le hle hf hl,
    Duration.ofSeconds_eq_zero_iff hv hpos.le hf⟩

/-- A pool of the plan and the endpoints is refused for endpoints of one identity, for a selector
that is not registered, or for a first delay that is rounded to zero. -/
theorem create_fault {σ : Type} {registry : Registry σ} {plan : Plan} {es : List Endpoint}
    {fault : Fault} (hplan : s.plan = .ok plan) (hes : s.endpoints = .ok es)
    (h : plan.resolve es registry = .error fault) :
    (fault = .configuration .duplicateEndpoints ∧ ¬ (es.map Endpoint.id).Nodup) ∨
      (fault = .configuration (.unknownSelector s.selector registry.names) ∧
        registry.contains s.selector = false) ∨
      (fault = .configuration .zeroBackoffFactor ∧ factor ≤ 1 / (2 * nanosPerSecond)) := by
  obtain ⟨hdle, hzero⟩ := durations_of_plan hv hw hpos hle hplan
  rcases Plan.resolve_eq_error_iff_or.mp h with
    ⟨hnil, -⟩ | ⟨-, ⟨hshared, hfault⟩ | ⟨-, hselector | ⟨-, hbackoff⟩⟩⟩
  · exact absurd hnil (endpoints_ne_nil hes)
  · exact .inl ⟨hfault, sharesIdentity_iff.mp hshared⟩
  · rw [((plan_eq_ok_iff plan).mp hplan).1] at hselector
    obtain ⟨hname, hfault⟩ := Registry.create_eq_error_iff.mp hselector
    exact .inr (.inl ⟨hfault, Registry.contains_eq_false_iff.mpr hname⟩)
  · -- the limit is not below the first delay, so it is the first delay that is refused
    obtain ⟨hfault, hnanos⟩ := Backoff.new_eq_error_of_le hdle hbackoff
    exact .inr (.inr ⟨hfault, hzero.mp hnanos⟩)

end Values

/-- **What settings that pass the check can be used for.** -/
theorem buildable_of_check (h : s.check = .ok events) :
    ∃ factor limit, s.Buildable factor limit := by
  obtain ⟨factor, limit, hv, hw, hpos, hle⟩ := exists_values_of_check h
  refine ⟨factor, limit, hv, hw, hpos, hle, exists_plan_iff hv hw hpos hle,
    fun fault => plan_fault hv hw hpos hle, ?_, ?_, fun es => endpoints_ne_nil, ?_⟩
  · intro plan hplan
    obtain ⟨hdle, hzero⟩ := durations_of_plan hv hw hpos hle hplan
    rw [Backoff.exists_new_iff, Nat.pos_iff_ne_zero, ne_eq, hzero, not_le]
    exact and_iff_left hdle
  · intro plan fault hplan hfault
    exact (Backoff.new_eq_error_of_le (durations_of_plan hv hw hpos hle hplan).1 hfault).1
  · intro C σ τ connect before after registry shuffle plan es fault hplan hes hcreate
    exact create_fault hv hw hpos hle hplan hes (Pool.resolve_of_create_error hcreate)

/-- Settings with a first delay of a tenth of a nanosecond. -/
def tinyFactor : Settings :=
  { standard with hosts := ["http://es1:9200"], factor := .ofDecimal false 1 (-10) }

/-- Settings with a limit of `10 ^ 300` seconds. -/
def hugeLimit : Settings :=
  { standard with hosts := ["http://es1:9200"], limit := .ofDecimal false 1 300 }

theorem buildable_of_check_tinyFactor :
    tinyFactor.check = .ok [] ∧ ∃ factor limit, tinyFactor.Buildable factor limit :=
  have hcheck : tinyFactor.check = .ok [] := by decide +kernel
  ⟨hcheck, buildable_of_check hcheck⟩

/-- **Passing the check is not enough**: the first delay may be rounded to zero, and the limit may
be no duration. -/
theorem check_not_enough :
    tinyFactor.check = .ok [] ∧
      tinyFactor.plan = .ok ⟨"random", true, .zero, Backoff.standard.limit⟩ ∧
      Backoff.new .zero Backoff.standard.limit = .error (.configuration .zeroBackoffFactor) ∧
      Plan.resolve ⟨"random", true, .zero, Backoff.standard.limit⟩ [Pool.plainSeed] .standard =
        .error (.configuration .zeroBackoffFactor) ∧
      hugeLimit.check = .ok [] ∧ hugeLimit.plan = .error (.limitNoDuration .tooLarge) := by
  decide +kernel

end Settings

end EndpointPool
