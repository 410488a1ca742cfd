import EndpointPool.Proofs.Pool.Calls
import Mathlib.Logic.Function.Basic

/-!
# Callers that share a pool

Any number of callers share a pool behind a lock. All calls but additions hold the lock from
beginning to end, so each is one step. An addition is three: the caller looks whether the endpoint
is wanted, makes the connection without the lock, which may crash, and has the node accepted if the
endpoint is still wanted. Steps of different callers come in any order.

Whatever the order, the pool is the one that the calls would have left had each been served as a
whole at its last step under the lock: what an addition does before that step touches the pool in
nothing.

## Main definitions

* `Step`, `Phase`: what a caller does next, and how far it is with its call
* `System`, `System.step? s step`: the pool, the phases and what has taken effect, and a step
* `System.Move`: the six things that a step can be
* `System.Takes`: the call that takes effect with a step
* `System.Records`, `System.Made`: what a phase and an effect tell of the steps made
* `System.Tracked`: what holds of a system after steps

## Main results

* `System.Move.effect`: a step touches neither pool nor effects, or serves a call as a whole
* `System.Tracked.takes`: which call takes effect with a step
* `System.Tracked.of_run?`: what holds of a system after any interleaving
-/

namespace EndpointPool

/-- A step of a caller. Every caller makes one call; a thread that makes several is several callers,
one after another. -/
inductive Step (C : Type)
  /-- A call that is not an addition, from beginning to end. -/
  | serve (caller : Nat) (call : Call C)
  /-- The first step of an addition: whether the endpoint is wanted. -/
  | check (caller : Nat) (endpoint : Endpoint)
  /-- The connection of an addition is made, or making it crashes. -/
  | connect (caller : Nat) (connection : Option C)
  /-- The last step of an addition. -/
  | finish (caller : Nat)

namespace Step

variable {C : Type}

/-- The caller that makes a step. -/
def caller : Step C → Nat
  | serve k _ | check k _ | connect k _ | finish k => k

/-- Whether a step is the first of a caller. -/
def begins (k : Nat) : Step C → Bool
  | serve k' _ | check k' _ => k' = k
  | connect _ _ | finish _ => false

/-- Whether a step makes the connection of a caller. -/
def connects (k : Nat) : Step C → Bool
  | connect k' _ => k' = k
  | serve _ _ | check _ _ | finish _ => false

end Step

/-- How far a caller is with its call. -/
inductive Phase (C : Type)
  | idle
  /-- The endpoint was wanted, and the connection is being made. -/
  | wanting (endpoint : Endpoint)
  /-- The connection is made, and the node is to be accepted. -/
  | holding (node : Node C)
  | ended

/-- A call that has taken effect, with its caller and its response. -/
structure Effect (C : Type) where
  caller : Nat
  call : Call C
  response : Response C

/-- A pool and its callers, with the calls in the order in which they took effect. -/
structure System (C σ : Type) where
  pool : Pool C σ
  phase : Nat → Phase C
  effects : List (Effect C)

namespace System

variable {C σ : Type}

/-- A pool that no caller has called. -/
def start (p : Pool C σ) : System C σ := ⟨p, fun _ => .idle, []⟩

/-- A caller is in another phase. -/
def move (s : System C σ) (k : Nat) (phase : Phase C) : System C σ :=
  { s with phase := Function.update s.phase k phase }

/-- The call of a caller takes effect with this outcome, and has ended. -/
def conclude (s : System C σ) (k : Nat) (call : Call C) (outcome : Pool C σ × Response C) :
    System C σ where
  pool := outcome.1
  phase := Function.update s.phase k .ended
  effects := s.effects ++ [⟨k, call, outcome.2⟩]

variable [Selector σ]

/-- A step, if the caller is in the phase for it. A call takes effect with its last step under the
lock; one whose connection crashes does nothing, and ends with the crash. -/
def step? (s : System C σ) : Step C → Option (System C σ)
  | .serve k call =>
    match s.phase k with
    | .idle => if call.isAddition then none else some (s.conclude k call (s.pool.serve call))
    | _ => none
  | .check k e =>
    match s.phase k with
    | .idle =>
      if s.pool.wants e then some (s.move k (.wanting e))
      else some (s.conclude k (.operate (.add e none)) (s.pool, .done none []))
    | _ => none
  | .connect k connection =>
    match s.phase k, connection with
    | .wanting e, some c => some (s.move k (.holding ⟨e, c⟩))
    | .wanting e, none =>
      some (s.conclude k (.operate (.add e none)) (s.pool, .done none []))
    | _, _ => none
  | .finish k =>
    match s.phase k with
    | .holding n =>
      some (s.conclude k (.operate (.add n.endpoint (some n.connection)))
        ((s.pool.accept n).1, .done none (s.pool.accept n).2))
    | _ => none

/-- Steps one after another, if every caller is in the phase for its step. -/
def run? (s : System C σ) (steps : List (Step C)) : Option (System C σ) := steps.foldlM step? s

/-! ### What a step can be -/

/-- The six things that a step can be. -/
inductive Move (s : System C σ) : Step C → System C σ → Prop
  | serve {k : Nat} {call : Call C} (hphase : s.phase k = .idle) (hcall : call.isAddition = false) :
    Move s (.serve k call) (s.conclude k call (s.pool.serve call))
  | check {k : Nat} {e : Endpoint} (hphase : s.phase k = .idle) (hwants : s.pool.wants e = true) :
    Move s (.check k e) (s.move k (.wanting e))
  | decline {k : Nat} {e : Endpoint} (hphase : s.phase k = .idle)
      (hwants : s.pool.wants e = false) :
    Move s (.check k e) (s.conclude k (.operate (.add e none)) (s.pool, .done none []))
  | connect {k : Nat} {e : Endpoint} {c : C} (hphase : s.phase k = .wanting e) :
    Move s (.connect k (some c)) (s.move k (.holding ⟨e, c⟩))
  | crash {k : Nat} {e : Endpoint} (hphase : s.phase k = .wanting e) :
    Move s (.connect k none) (s.conclude k (.operate (.add e none)) (s.pool, .done none []))
  | accept {k : Nat} {n : Node C} (hphase : s.phase k = .holding n) :
    Move s (.finish k) (s.conclude k (.operate (.add n.endpoint (some n.connection)))
      ((s.pool.accept n).1, .done none (s.pool.accept n).2))

variable {s s' : System C σ} {step : Step C}

theorem move_of_step? (h : s.step? step = some s') : s.Move step s' := by
  cases step with
  | serve k call =>
    simp only [step?] at h
    split at h
    · next hphase =>
      split at h
      · cases h
      · next hcall =>
        cases h
        exact .serve hphase (Bool.eq_false_iff.mpr hcall)
    · cases h
  | check k e =>
    simp only [step?] at h
    split at h
    · next hphase =>
      split at h
      · next hwants =>
        cases h
        exact .check hphase hwants
      · next hwants =>
        cases h
        exact .decline hphase (Bool.eq_false_iff.mpr hwants)
    · cases h
  | connect k connection =>
    simp only [step?] at h
    split at h
    · next hphase =>
      cases h
      exact .connect hphase
    · next hphase =>
      cases h
      exact .crash hphase
    · cases h
  | finish k =>
    simp only [step?] at h
    split at h
    · next hphase =>
      cases h
      exact .accept hphase
    · cases h

/-- **A step touches neither pool nor effects, or it serves a call as a whole.** -/
theorem Move.effect (h : s.Move step s') :
    (s'.pool = s.pool ∧ s'.effects = s.effects) ∨
      ∃ call, s'.pool = (s.pool.serve call).1 ∧
        s'.effects = s.effects ++ [⟨step.caller, call, (s.pool.serve call).2⟩] := by
  cases h with
  | serve => exact .inr ⟨_, rfl, rfl⟩
  | check | connect => exact .inl ⟨rfl, rfl⟩
  | @decline k e | @crash k e =>
    right
    refine ⟨.operate (.add e none), ?_⟩
    rw [Pool.serve_add_none]
    exact ⟨rfl, rfl⟩
  | @accept k n =>
    right
    refine ⟨.operate (.add n.endpoint (some n.connection)), ?_⟩
    rw [Pool.serve_add_some]
    exact ⟨rfl, rfl⟩

/-- A step concerns its caller only, whose call has not ended yet. -/
theorem Move.frame (h : s.Move step s') :
    s.phase step.caller ≠ .ended ∧ ∀ k, k ≠ step.caller → s'.phase k = s.phase k := by
  cases h with
  | serve hphase | decline hphase | crash hphase | accept hphase | check hphase | connect hphase =>
    refine ⟨fun hended => ?_, fun k hk => Function.update_of_ne hk _ _⟩
    cases hphase.symm.trans hended

/-! ### What the phases and the effects tell -/

/-- What the phase of a caller tells of the steps made and of the calls that took effect. -/
def Records (k : Nat) (steps : List (Step C)) (effects : List (Effect C)) : Phase C → Prop
  | .idle => steps.countP (Step.begins k) = 0 ∧ steps.countP (Step.connects k) = 0 ∧
      ∀ f ∈ effects, f.caller ≠ k
  | .wanting e => steps.countP (Step.begins k) = 1 ∧ steps.countP (Step.connects k) = 0 ∧
      .check k e ∈ steps ∧ ∀ f ∈ effects, f.caller ≠ k
  | .holding n => steps.countP (Step.begins k) = 1 ∧ steps.countP (Step.connects k) = 1 ∧
      .check k n.endpoint ∈ steps ∧ .connect k (some n.connection) ∈ steps ∧
      ∀ f ∈ effects, f.caller ≠ k
  | .ended => steps.countP (Step.begins k) = 1 ∧ steps.countP (Step.connects k) ≤ 1 ∧
      ∃ f ∈ effects, f.caller = k

/-- The call that takes effect with a step, if one does, where the steps `before` have led to the
pool `q`. An addition takes effect when its endpoint is found registered at first, when making its
connection crashes, or when it is finished; then it is one of the endpoint that its caller looked
for, with the connection that its caller made. -/
inductive Takes (q : Pool C σ) (before : List (Step C)) : Step C → Option (Call C) → Prop
  | served {k : Nat} {call : Call C} (hcall : call.isAddition = false) :
    Takes q before (.serve k call) (some call)
  | wanted {k : Nat} {e : Endpoint} (hwants : q.wants e = true) : Takes q before (.check k e) none
  | declined {k : Nat} {e : Endpoint} (hwants : q.wants e = false) :
    Takes q before (.check k e) (some (.operate (.add e none)))
  | connected {k : Nat} {c : C} : Takes q before (.connect k (some c)) none
  | crashed {k : Nat} {e : Endpoint} (hcheck : .check k e ∈ before) :
    Takes q before (.connect k none) (some (.operate (.add e none)))
  | finished {k : Nat} {n : Node C} (hcheck : .check k n.endpoint ∈ before)
      (hconnect : .connect k (some n.connection) ∈ before) :
    Takes q before (.finish k) (some (.operate (.add n.endpoint (some n.connection))))

/-- A call that took effect after the effects `before` is that of the steps of its caller. An
addition without a node was declined, as the endpoint was not wanted then, or its connection has
crashed; any other was finished. -/
inductive Made (p : Pool C σ) (steps : List (Step C)) (before : List (Effect C)) : Effect C → Prop
  | served {k : Nat} {call : Call C} {response : Response C} (hcall : call.isAddition = false)
      (hserve : .serve k call ∈ steps) : Made p steps before ⟨k, call, response⟩
  | declined {k : Nat} {e : Endpoint} {response : Response C} (hcheck : .check k e ∈ steps)
      (hwants : (p.afterCalls (before.map (·.call))).wants e = false) :
    Made p steps before ⟨k, .operate (.add e none), response⟩
  | crashed {k : Nat} {e : Endpoint} {response : Response C} (hcheck : .check k e ∈ steps)
      (hconnect : .connect k none ∈ steps) :
    Made p steps before ⟨k, .operate (.add e none), response⟩
  | finished {k : Nat} {n : Node C} {response : Response C} (hcheck : .check k n.endpoint ∈ steps)
      (hconnect : .connect k (some n.connection) ∈ steps) (hfinish : .finish k ∈ steps) :
    Made p steps before ⟨k, .operate (.add n.endpoint (some n.connection)), response⟩

section Records

variable {k : Nat} {steps : List (Step C)} {effects new : List (Effect C)} {phase : Phase C}

theorem caller_eq_of_begins (h : step.begins k = true) : step.caller = k := by
  cases step <;> simp_all [Step.begins, Step.caller]

theorem caller_eq_of_connects (h : step.connects k = true) : step.caller = k := by
  cases step <;> simp_all [Step.connects, Step.caller]

theorem countP_concat_of_neg {f : Step C → Bool} (h : ¬ f step = true) :
    (steps ++ [step]).countP f = steps.countP f := by
  rw [List.countP_append, List.countP_cons_of_neg h, List.countP_nil, Nat.add_zero]

theorem countP_concat_of_pos {f : Step C → Bool} (h : f step = true) :
    (steps ++ [step]).countP f = steps.countP f + 1 := by
  rw [List.countP_append, List.countP_cons_of_pos h, List.countP_nil]

/-- A caller whose call has not ended has had no effect. -/
theorem Records.ne_of_mem (h : Records k steps effects phase) (hended : phase ≠ .ended) :
    ∀ f ∈ effects, f.caller ≠ k := by
  cases phase with
  | idle => exact h.2.2
  | wanting e => exact h.2.2.2
  | holding n => exact h.2.2.2.2
  | ended => exact absurd rfl hended

/-- What a phase tells stays true when another caller makes a step. -/
theorem Records.concat (h : Records k steps effects phase) (hk : k ≠ step.caller)
    (hnew : ∀ f ∈ new, f.caller ≠ k) :
    Records k (steps ++ [step]) (effects ++ new) phase := by
  have hbegins : (steps ++ [step]).countP (Step.begins k) = steps.countP (Step.begins k) :=
    countP_concat_of_neg fun hb => hk (caller_eq_of_begins hb).symm
  have hconnects : (steps ++ [step]).countP (Step.connects k) = steps.countP (Step.connects k) :=
    countP_concat_of_neg fun hc => hk (caller_eq_of_connects hc).symm
  have hfresh : (∀ f ∈ effects, f.caller ≠ k) → ∀ f ∈ effects ++ new, f.caller ≠ k := by
    intro heffects f hf
    rcases List.mem_append.mp hf with hf | hf
    · exact heffects f hf
    · exact hnew f hf
  cases phase with
  | idle =>
    obtain ⟨hb, hc, hf⟩ := h
    exact ⟨hbegins.trans hb, hconnects.trans hc, hfresh hf⟩
  | wanting e =>
    obtain ⟨hb, hc, hcheck, hf⟩ := h
    exact ⟨hbegins.trans hb, hconnects.trans hc, List.mem_append_left _ hcheck, hfresh hf⟩
  | holding n =>
    obtain ⟨hb, hc, hcheck, hconnect, hf⟩ := h
    exact ⟨hbegins.trans hb, hconnects.trans hc, List.mem_append_left _ hcheck,
      List.mem_append_left _ hconnect, hfresh hf⟩
  | ended =>
    obtain ⟨hb, hc, f, hf, hk⟩ := h
    exact ⟨hbegins.trans hb, by rwa [hconnects], f, List.mem_append_left _ hf, hk⟩

theorem Made.concat {p : Pool C σ} {before : List (Effect C)} {f : Effect C}
    (h : Made p steps before f) (step : Step C) : Made p (steps ++ [step]) before f := by
  cases h with
  | served hcall hserve => exact .served hcall (List.mem_append_left _ hserve)
  | declined hcheck hwants => exact .declined (List.mem_append_left _ hcheck) hwants
  | crashed hcheck hconnect =>
    exact .crashed (List.mem_append_left _ hcheck) (List.mem_append_left _ hconnect)
  | finished hcheck hconnect hfinish =>
    exact .finished (List.mem_append_left _ hcheck) (List.mem_append_left _ hconnect)
      (List.mem_append_left _ hfinish)

/-- What takes effect with a step is the call that its caller made. -/
theorem Takes.made {p : Pool C σ} {before : List (Effect C)} {call : Call C}
    (h : Takes (p.afterCalls (before.map (·.call))) steps step (some call))
    (response : Response C) : Made p (steps ++ [step]) before ⟨step.caller, call, response⟩ := by
  have hlast : step ∈ steps ++ [step] := List.mem_append_right _ List.mem_cons_self
  cases h with
  | served hcall => exact .served hcall hlast
  | declined hwants => exact .declined hlast hwants
  | crashed hcheck => exact .crashed (List.mem_append_left _ hcheck) hlast
  | finished hcheck hconnect =>
    exact .finished (List.mem_append_left _ hcheck) (List.mem_append_left _ hconnect) hlast

omit [Selector σ] in
theorem records_move (h : Records k steps s.effects phase) :
    Records k steps (s.move k phase).effects ((s.move k phase).phase k) := by
  have hphase : (s.move k phase).phase k = phase := Function.update_self ..
  rwa [hphase]

omit [Selector σ] in
theorem records_conclude {call : Call C} {outcome : Pool C σ × Response C}
    (hb : steps.countP (Step.begins k) = 1) (hc : steps.countP (Step.connects k) ≤ 1) :
    Records k steps (s.conclude k call outcome).effects ((s.conclude k call outcome).phase k) := by
  have hphase : (s.conclude k call outcome).phase k = .ended := Function.update_self ..
  rw [hphase]
  exact ⟨hb, hc, _, List.mem_append_right _ List.mem_cons_self, rfl⟩

end Records

/-- What holds of a system after steps: the pool and the responses are those of the calls that took
effect, served one after another; and the steps are those that the phases and the effects tell. -/
structure Tracked (p : Pool C σ) (steps : List (Step C)) (s : System C σ) : Prop where
  pool_eq : s.pool = p.afterCalls (s.effects.map (·.call))
  responses_eq : s.effects.map (·.response) = p.responses (s.effects.map (·.call))
  records : ∀ k, Records k steps s.effects (s.phase k)
  callers_nodup : (s.effects.map (·.caller)).Nodup
  made : ∀ before f after, s.effects = before ++ f :: after → Made p steps before f

theorem tracked_start (p : Pool C σ) : Tracked p [] (start p) where
  pool_eq := rfl
  responses_eq := rfl
  records _ := ⟨rfl, rfl, fun f hf => by cases hf⟩
  callers_nodup := .nil
  made before f after h := by
    have hmem : f ∈ before ++ f :: after := List.mem_append_right _ List.mem_cons_self
    rw [← h] at hmem
    cases hmem

section Tracked

variable {p : Pool C σ} {steps : List (Step C)}

/-- The phase of the caller of a step tells of that step too. -/
theorem Tracked.records_caller (h : Tracked p steps s) (m : s.Move step s') :
    Records step.caller (steps ++ [step]) s'.effects (s'.phase step.caller) := by
  -- the phase before the step tells of the steps before it
  have hr := h.records step.caller
  have hlast : step ∈ steps ++ [step] := List.mem_append_right _ List.mem_cons_self
  cases m with
  | @serve k call hphase hcall =>
    obtain ⟨hb, hc, -⟩ : Records k steps s.effects .idle := hphase ▸ hr
    refine records_conclude (k := k) ?_ ?_
    · rw [countP_concat_of_pos (decide_eq_true rfl), hb]
    · rw [countP_concat_of_neg Bool.false_ne_true, hc]
      exact Nat.zero_le 1
  | @check k e hphase hwants =>
    obtain ⟨hb, hc, hf⟩ : Records k steps s.effects .idle := hphase ▸ hr
    refine records_move (k := k) ⟨?_, ?_, hlast, hf⟩
    · rw [countP_concat_of_pos (decide_eq_true rfl), hb]
    · rw [countP_concat_of_neg Bool.false_ne_true, hc]
  | @decline k e hphase hwants =>
    obtain ⟨hb, hc, -⟩ : Records k steps s.effects .idle := hphase ▸ hr
    refine records_conclude (k := k) ?_ ?_
    · rw [countP_concat_of_pos (decide_eq_true rfl), hb]
    · rw [countP_concat_of_neg Bool.false_ne_true, hc]
      exact Nat.zero_le 1
  | @connect k e c hphase =>
    obtain ⟨hb, hc, hcheck, hf⟩ : Records k steps s.effects (.wanting e) := hphase ▸ hr
    refine records_move (k := k) ⟨?_, ?_, List.mem_append_left _ hcheck, hlast, hf⟩
    · rw [countP_concat_of_neg Bool.false_ne_true, hb]
    · rw [countP_concat_of_pos (decide_eq_true rfl), hc]
  | @crash k e hphase =>
    obtain ⟨hb, hc, -⟩ : Records k steps s.effects (.wanting e) := hphase ▸ hr
    refine records_conclude (k := k) ?_ ?_
    · rw [countP_concat_of_neg Bool.false_ne_true, hb]
    · have hone : (steps ++ [Step.connect k none]).countP (Step.connects k) = 1 := by
        rw [countP_concat_of_pos (decide_eq_true rfl), hc]
      exact Nat.le_of_eq hone
  | @accept k n hphase =>
    obtain ⟨hb, hc, -⟩ : Records k steps s.effects (.holding n) := hphase ▸ hr
    refine records_conclude (k := k) ?_ ?_
    · rw [countP_concat_of_neg Bool.false_ne_true, hb]
    · have hone : (steps ++ [Step.finish k]).countP (Step.connects k) = 1 := by
        rw [countP_concat_of_neg Bool.false_ne_true, hc]
      exact Nat.le_of_eq hone

/-- **What takes effect with a step**, and the response to it. -/
theorem Tracked.takes (h : Tracked p steps s) (m : s.Move step s') :
    ∃ call?, Takes s.pool steps step call? ∧ s'.effects = s.effects ++
      call?.toList.map fun call => ⟨step.caller, call, (s.pool.serve call).2⟩ := by
  have hr := h.records step.caller
  cases m with
  | @serve k call hphase hcall => exact ⟨some call, .served hcall, rfl⟩
  | check hphase hwants => exact ⟨none, .wanted hwants, (List.append_nil _).symm⟩
  | @decline k e hphase hwants =>
    refine ⟨some (.operate (.add e none)), .declined hwants, ?_⟩
    rw [Option.toList_some, List.map_singleton, Pool.serve_add_none]
    rfl
  | connect hphase => exact ⟨none, .connected, (List.append_nil _).symm⟩
  | @crash k e hphase =>
    obtain ⟨-, -, hcheck, -⟩ : Records k steps s.effects (.wanting e) := hphase ▸ hr
    refine ⟨some (.operate (.add e none)), .crashed hcheck, ?_⟩
    rw [Option.toList_some, List.map_singleton, Pool.serve_add_none]
    rfl
  | @accept k n hphase =>
    obtain ⟨-, -, hcheck, hconnect, -⟩ : Records k steps s.effects (.holding n) := hphase ▸ hr
    refine ⟨some (.operate (.add n.endpoint (some n.connection))), .finished hcheck hconnect, ?_⟩
    rw [Option.toList_some, List.map_singleton, Pool.serve_add_some]
    rfl

theorem Tracked.made_concat (h : Tracked p steps s) (m : s.Move step s') :
    ∀ before f after, s'.effects = before ++ f :: after → Made p (steps ++ [step]) before f := by
  obtain ⟨call?, htakes, heffects⟩ := h.takes m
  intro before f after heq
  rw [heffects] at heq
  cases call? with
  | none =>
    rw [Option.toList_none, List.map_nil, List.append_nil] at heq
    exact (h.made before f after heq).concat step
  | some call =>
    rcases last_or_before_of_concat_eq heq with ⟨-, rfl, rfl⟩ | ⟨rest, -, hold⟩
    · -- the effect is that of the step
      exact Takes.made (h.pool_eq ▸ htakes) _
    · exact (h.made before f rest hold).concat step

/-- A step keeps what holds of a system. -/
theorem Tracked.move (h : Tracked p steps s) (m : s.Move step s') :
    Tracked p (steps ++ [step]) s' := by
  obtain ⟨hended, hphase⟩ := m.frame
  have hfresh := (h.records step.caller).ne_of_mem hended
  have hrecords : ∀ {new : List (Effect C)}, s'.effects = s.effects ++ new →
      (∀ f ∈ new, f.caller = step.caller) →
      ∀ k, Records k (steps ++ [step]) s'.effects (s'.phase k) := by
    intro new hnew hcaller k
    by_cases hk : k = step.caller
    · rw [hk]
      exact h.records_caller m
    · -- other callers are in the phase in which they were
      rw [hphase k hk, hnew]
      exact (h.records k).concat hk fun f hf hfk => hk (hfk.symm.trans (hcaller f hf))
  rcases m.effect with ⟨hpool, heffects⟩ | ⟨call, hpool, heffects⟩
  · constructor
    · rw [hpool, heffects, h.pool_eq]
    · rw [heffects, h.responses_eq]
    · have hnil : s'.effects = s.effects ++ [] := by rw [heffects, List.append_nil]
      exact hrecords hnil fun f hf => by cases hf
    · rw [heffects]
      exact h.callers_nodup
    · exact h.made_concat m
  · -- the call is served by the pool that the calls before it have left
    constructor
    · rw [hpool, heffects, List.map_append, List.map_singleton, Pool.afterCalls_concat, h.pool_eq]
    · rw [heffects, List.map_append, List.map_append, Pool.responses_append, h.responses_eq,
        ← h.pool_eq]
      rfl
    · refine hrecords heffects fun f hf => ?_
      rw [List.mem_singleton.mp hf]
    · rw [heffects, List.map_append, List.nodup_append]
      -- the caller has had no effect before
      refine ⟨h.callers_nodup, List.nodup_singleton _, ?_⟩
      rintro k hk k' hk' rfl
      obtain ⟨f, hf, rfl⟩ := List.mem_map.mp hk
      exact hfresh f hf (List.mem_singleton.mp hk')
    · exact h.made_concat m

theorem run?_concat (s : System C σ) (steps : List (Step C)) (step : Step C) :
    s.run? (steps ++ [step]) = (s.run? steps).bind fun t => t.step? step := by
  rw [run?, List.foldlM_append]
  refine congrArg _ (funext fun t => ?_)
  rw [List.foldlM_cons]
  exact bind_pure (t.step? step)

/-- **What holds of a system after any interleaving.** -/
theorem Tracked.of_run? (h : (start p).run? steps = some s) : Tracked p steps s := by
  induction steps using List.reverseRecOn generalizing s with
  | nil =>
    cases h
    exact tracked_start p
  | append_singleton steps step ih =>
    rw [run?_concat] at h
    obtain ⟨t, ht, hstep⟩ := Option.bind_eq_some_iff.mp h
    exact (ih ht).move (move_of_step? hstep)

end Tracked

end System

end EndpointPool
