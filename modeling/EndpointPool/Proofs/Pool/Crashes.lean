import EndpointPool.Proofs.Pool.Linearization
import Mathlib.Data.List.Forall2

/-!
# Crashes leave no trace

A selector may crash in a request, and a connection in an addition. When the selector is asked, the
roster is already as the request will leave it, so a request does the same to the roster whatever
the selector answers. An addition whose connection crashes has only looked at the pool. Callers that
share a pool therefore leave the same roster, and get the same responses but for those to requests,
when the additions that crash are left out and the selectors answer anything else, or crash
elsewhere.

## Main definitions

* `Pool.withSelector p x`, `Pool.Agrees p q`: a pool with another selector, and pools that differ in
  nothing else
* `Step.Alike`, `Effect.Alike`, `System.Alike`: the same but for what the selectors do
* `System.without s drop`: a system without the callers to drop
* `System.Unscathed p steps s`: the crashes among `steps` have left no trace in `s`

## Main results

* `Pool.Agrees.serve`, `Pool.Agrees.get`: pools that agree go on to agree
* `System.run?_without`: the steps of additions that crash can be left out
* `System.Alike.run?`: the selectors can answer anything else
* `System.unscathed_of_interleaving`: crashes leave no trace in any interleaving
-/

namespace EndpointPool

variable {C σ τ : Type}

/-- Two steps are the same, or they are the requests of one caller at one instant. -/
inductive Step.Alike : Step C → Step C → Prop
  | refl (step : Step C) : Alike step step
  | request (k : Nat) (now : Instant) (draw draw' : Nat) :
    Alike (.serve k (.operate (.get now draw))) (.serve k (.operate (.get now draw')))

/-- Two calls took effect in the same way, or both are requests of one caller at one instant. -/
inductive Effect.Alike : Effect C → Effect C → Prop
  | refl (f : Effect C) : Alike f f
  | request (k : Nat) (now : Instant) (draw draw' : Nat) (response response' : Response C) :
    Alike ⟨k, .operate (.get now draw), response⟩ ⟨k, .operate (.get now draw'), response'⟩

/-! ### Pools that differ in their selectors -/

namespace Pool

/-- The pool with another selector. -/
def withSelector (p : Pool C σ) (x : τ) : Pool C τ :=
  ⟨p.roster, x, p.seeds, p.backoff, p.selectorName⟩

/-- The pools differ in their selectors at most. -/
def Agrees (p : Pool C σ) (q : Pool C τ) : Prop := ∃ x, q = p.withSelector x

theorem agrees_withSelector (p : Pool C σ) (x : τ) : p.Agrees (p.withSelector x) := ⟨x, rfl⟩

theorem accept_withSelector (p : Pool C σ) (x : τ) (n : Node C) :
    (p.withSelector x).accept n = ((p.accept n).1.withSelector x, (p.accept n).2) := by
  simp only [accept, show (p.withSelector x).wants n.endpoint = p.wants n.endpoint from rfl]
  split <;> rfl

theorem look_withSelector (p : Pool C σ) (x : τ) (query : Query) :
    (p.withSelector x).look query = p.look query := by
  cases query <;> rfl

section Agrees

variable [Selector σ] [Selector τ] {p : Pool C σ} {q : Pool C τ}

/-- **What a request does to the roster is what resurrection does**, whatever the selector does. -/
theorem Agrees.get (h : p.Agrees q) (now : Instant) (draw draw' : Nat) :
    (p.get now draw).1.Agrees (q.get now draw').1 := by
  obtain ⟨x, rfl⟩ := h
  rw [get_fst, get_fst]
  exact ⟨_, rfl⟩

/-- What is no request does not depend on the selector. -/
theorem perform_withSelector (p : Pool C σ) (x : τ) {op : Operation C}
    (hop : ∀ now draw, op ≠ .get now draw) :
    (p.withSelector x).perform op =
      ((p.perform op).1.withSelector x, (p.perform op).2.1, (p.perform op).2.2) := by
  cases op with
  | get now draw => exact absurd rfl (hop now draw)
  | add e connection =>
    simp only [perform, add, accept_withSelector,
      show (p.withSelector x).wants e = p.wants e from rfl]
    split
    · cases connection <;> rfl
    · rfl
  | remove e =>
    simp only [perform, remove, show (p.withSelector x).isSeed e = p.isSeed e from rfl]
    split <;> rfl
  | markDead e now => rfl
  | markLive e => rfl

/-- Pools that agree go on to agree, and their responses are the same but for those to requests. -/
theorem Agrees.serve (h : p.Agrees q) (k : Nat) (call : Call C) :
    (p.serve call).1.Agrees (q.serve call).1 ∧
      Effect.Alike ⟨k, call, (p.serve call).2⟩ ⟨k, call, (q.serve call).2⟩ := by
  obtain ⟨x, rfl⟩ := h
  cases call with
  | look query =>
    refine ⟨⟨x, rfl⟩, ?_⟩
    simp only [Pool.serve, look_withSelector]
    exact .refl _
  | operate op =>
    by_cases hop : ∃ now draw, op = .get now draw
    · obtain ⟨now, draw, rfl⟩ := hop
      exact ⟨(p.agrees_withSelector x).get now draw draw, .request k now draw draw _ _⟩
    · have hsame := p.perform_withSelector x fun now draw heq => hop ⟨now, draw, heq⟩
      simp only [Pool.serve, hsame]
      exact ⟨⟨x, rfl⟩, .refl _⟩

end Agrees

end Pool

namespace System

/-- Two systems are the same but for the selectors and the requests. -/
structure Alike (s : System C σ) (s' : System C τ) : Prop where
  pool : s.pool.Agrees s'.pool
  phase : s'.phase = s.phase
  effects : List.Forall₂ Effect.Alike s.effects s'.effects

/-- The system without the callers to drop: they are idle, and their calls have had no effect. -/
def without (s : System C σ) (drop : Nat → Bool) : System C σ where
  pool := s.pool
  phase := fun k => if drop k then .idle else s.phase k
  effects := s.effects.filter fun f => !drop f.caller

variable [Selector σ] {s t u : System C σ} {step step' : Step C} {steps steps' : List (Step C)}
  {drop : Nat → Bool} {k : Nat}

theorem Move.step?_eq (m : s.Move step t) : s.step? step = some t := by
  cases m with
  | serve hphase hcall => simp [step?, hphase, hcall]
  | check hphase hwants | decline hphase hwants => simp [step?, hphase, hwants]
  | connect hphase | crash hphase | accept hphase => simp [step?, hphase]

/-! ### Other selectors -/

section Alike

variable [Selector τ] {s' : System C τ}

omit [Selector σ] [Selector τ] in
theorem Alike.move (h : Alike s s') (k : Nat) (phase : Phase C) :
    Alike (s.move k phase) (s'.move k phase) where
  pool := h.pool
  phase := by rw [System.move, System.move, h.phase]
  effects := h.effects

omit [Selector σ] [Selector τ] in
theorem Alike.conclude (h : Alike s s') {call call' : Call C} {outcome : Pool C σ × Response C}
    {outcome' : Pool C τ × Response C} (hpool : outcome.1.Agrees outcome'.1)
    (heffect : Effect.Alike ⟨k, call, outcome.2⟩ ⟨k, call', outcome'.2⟩) :
    Alike (s.conclude k call outcome) (s'.conclude k call' outcome') where
  pool := hpool
  phase := by rw [System.conclude, System.conclude, h.phase]
  effects := List.rel_append h.effects (.cons heffect .nil)

/-- Systems that are alike go on to be alike. -/
theorem Alike.step? (h : Alike s s') (hstep : s.step? step = some t) (hlike : step.Alike step') :
    ∃ t', s'.step? step' = some t' ∧ Alike t t' := by
  have m := move_of_step? hstep
  cases hlike with
  | request k now draw draw' =>
    cases m with
    | serve hphase _ =>
      rw [← h.phase] at hphase
      have m' : s'.Move (.serve k (.operate (.get now draw'))) _ := .serve hphase rfl
      exact ⟨_, m'.step?_eq, h.conclude (h.pool.get now draw draw') (.request ..)⟩
  | refl =>
    obtain ⟨x, hx⟩ := id h.pool
    have hwants : ∀ e, s'.pool.wants e = s.pool.wants e := fun e => by rw [hx]; rfl
    have hsame : s.pool.Agrees s'.pool := h.pool
    cases m with
    | @serve k call hphase hcall =>
      rw [← h.phase] at hphase
      obtain ⟨hpool, heffect⟩ := h.pool.serve k call
      exact ⟨_, (Move.serve hphase hcall).step?_eq, h.conclude hpool heffect⟩
    | check hphase hw =>
      rw [← h.phase] at hphase
      exact ⟨_, (Move.check hphase ((hwants _).trans hw)).step?_eq, h.move _ _⟩
    | decline hphase hw =>
      rw [← h.phase] at hphase
      exact ⟨_, (Move.decline hphase ((hwants _).trans hw)).step?_eq, h.conclude hsame (.refl _)⟩
    | connect hphase =>
      rw [← h.phase] at hphase
      exact ⟨_, (Move.connect hphase).step?_eq, h.move _ _⟩
    | crash hphase =>
      rw [← h.phase] at hphase
      exact ⟨_, (Move.crash hphase).step?_eq, h.conclude hsame (.refl _)⟩
    | @accept k n hphase =>
      rw [← h.phase] at hphase
      refine ⟨_, (Move.accept hphase).step?_eq, ?_⟩
      rw [hx, Pool.accept_withSelector]
      exact h.conclude ⟨x, rfl⟩ (.refl _)

/-- **The selectors can answer anything else.** -/
theorem Alike.run? (h : Alike s s') (hrun : s.run? steps = some t)
    (hlike : List.Forall₂ Step.Alike steps steps') :
    ∃ t', s'.run? steps' = some t' ∧ Alike t t' := by
  induction hlike generalizing s s' with
  | nil =>
    cases hrun
    exact ⟨s', rfl, h⟩
  | cons hstep _ ih =>
    rw [run?_cons] at hrun
    obtain ⟨u, hu, hrest⟩ := Option.bind_eq_some_iff.mp hrun
    obtain ⟨u', hu', hlike⟩ := h.step? hu hstep
    obtain ⟨t', ht', ht⟩ := ih hlike hrest
    exact ⟨t', by rw [run?_cons, hu', Option.bind_some, ht'], ht⟩

end Alike

/-! ### Without additions that crash -/

section Without

omit [Selector σ] in
theorem start_without (p : Pool C σ) (drop : Nat → Bool) : (start p).without drop = start p := by
  simp only [without, start, ite_self, List.filter_nil]

omit [Selector σ] in
theorem without_move (s : System C σ) (hk : drop k = false) (phase : Phase C) :
    (s.move k phase).without drop = (s.without drop).move k phase := by
  simp only [without, move, mk.injEq, and_true, true_and]
  funext k'
  by_cases hk' : k' = k
  · simp [hk', hk]
  · simp [Function.update_of_ne hk']

omit [Selector σ] in
theorem without_conclude (s : System C σ) (hk : drop k = false) (call : Call C)
    (outcome : Pool C σ × Response C) :
    (s.conclude k call outcome).without drop = (s.without drop).conclude k call outcome := by
  have hphase := congrArg System.phase (without_move s hk .ended)
  have heffects : (s.effects ++ [(⟨k, call, outcome.2⟩ : Effect C)]).filter (fun f => !drop f.caller) =
      s.effects.filter (fun f => !drop f.caller) ++ [⟨k, call, outcome.2⟩] := by
    rw [List.filter_append, List.filter_cons_of_pos (by simp [hk]), List.filter_nil]
  simp only [without, conclude, mk.injEq, true_and]
  exact ⟨hphase, heffects⟩

/-- The steps of the callers that stay are possible without the others. -/
theorem Move.without_of_not (m : s.Move step t) (hk : drop step.caller = false) :
    (s.without drop).Move step (t.without drop) := by
  have hphase : (s.without drop).phase step.caller = s.phase step.caller := by
    simp only [without, hk, Bool.false_eq_true, if_false]
  cases m with
  | @serve k call h hcall =>
    rw [without_conclude (k := k) s hk]
    exact .serve (hphase.trans h) hcall
  | @check k e h hwants =>
    rw [without_move (k := k) s hk]
    exact .check (hphase.trans h) hwants
  | @decline k e h hwants =>
    rw [without_conclude (k := k) s hk]
    exact .decline (hphase.trans h) hwants
  | @connect k e c h =>
    rw [without_move (k := k) s hk]
    exact .connect (hphase.trans h)
  | @crash k e h =>
    rw [without_conclude (k := k) s hk]
    exact .crash (hphase.trans h)
  | @accept k n h =>
    rw [without_conclude (k := k) s hk]
    exact .accept (hphase.trans h)

/-- A step of a dropped caller that leaves the pool as it is changes nothing else that stays. -/
theorem Move.without_of_drop (m : s.Move step t) (hk : drop step.caller = true)
    (hpool : t.pool = s.pool) : t.without drop = s.without drop := by
  simp only [without, mk.injEq]
  refine ⟨hpool, funext fun k => ?_, ?_⟩
  · by_cases hd : drop k = true
    · simp only [hd, if_true]
    · have hne : k ≠ step.caller := by
        rintro rfl
        exact hd hk
      rw [m.frame.2 k hne]
  · rcases m.effect with ⟨-, h⟩ | ⟨call, -, h⟩
    · rw [h]
    · rw [h, List.filter_append, List.filter_cons_of_neg (by simp [hk]), List.filter_nil,
        List.append_nil]

/-- A caller whose connection is going to crash leaves the pool as it is. -/
theorem Move.pool_eq (m : s.Move step t) (hrun : t.run? steps = some u)
    (hcrash : .connect step.caller none ∈ step :: steps) : t.pool = s.pool := by
  cases m with
  | check | decline | connect | crash => rfl
  | @serve k call | @accept k n =>
    -- the call has ended, so no step of its caller follows
    rcases List.mem_cons.mp hcrash with heq | hmem
    · cases heq
    · exact absurd rfl (caller_ne_of_ended hrun (Function.update_self ..) _ hmem)

/-- **The steps of additions that crash can be left out.** -/
theorem run?_without (hrun : s.run? steps = some t)
    (hdrop : ∀ k, drop k = true → s.phase k = .ended ∨ .connect k none ∈ steps) :
    (s.without drop).run? (steps.filter fun step => !drop step.caller) =
      some (t.without drop) := by
  induction steps generalizing s with
  | nil =>
    cases hrun
    rfl
  | cons step steps ih =>
    rw [run?_cons] at hrun
    obtain ⟨u, hu, hrest⟩ := Option.bind_eq_some_iff.mp hrun
    have m := move_of_step? hu
    -- a dropped caller has still to crash, or its call has ended
    have hdrop' : ∀ k, drop k = true → u.phase k = .ended ∨ .connect k none ∈ steps := by
      intro k hk
      rcases hdrop k hk with hended | hmem
      · refine .inl ((m.frame.2 k ?_).trans hended)
        rintro rfl
        exact m.frame.1 hended
      · rcases List.mem_cons.mp hmem with rfl | hmem
        · cases m with
          | crash => exact .inl (Function.update_self ..)
        · exact .inr hmem
    cases hk : drop step.caller with
    | false =>
      rw [List.filter_cons_of_pos (by simp [hk]), run?_cons, (m.without_of_not hk).step?_eq,
        Option.bind_some]
      exact ih hrest hdrop'
    | true =>
      have hcrash := (hdrop step.caller hk).resolve_left m.frame.1
      rw [List.filter_cons_of_neg (by simp [hk]),
        ← m.without_of_drop hk (m.pool_eq hrest hcrash)]
      exact ih hrest hdrop'

end Without

/-! ### Any interleaving -/

/-- The crashes among the steps that have led from the pool `p` to a system have left no trace. -/
structure Unscathed (p : Pool C σ) (steps : List (Step C)) (s : System C σ) : Prop where
  /-- A request does to the roster what resurrection does, whatever selector is asked and whatever
  it does. -/
  roster_get : ∀ (τ : Type) [Selector τ] (x : τ) (now : Instant) (draw : Nat),
    ((s.pool.withSelector x).get now draw).1.roster = (s.pool.roster.resurrectDue now).1
  /-- The accounts of the roster agree when the selector is asked. -/
  coherent : ∀ now, (s.pool.roster.resurrectDue now).1.Coherent
  /-- Without additions whose connections crash, the other steps lead to the same pool, and the
  other callers get the same responses. -/
  without_crashed : ∀ drop, (∀ k, drop k = true → .connect k none ∈ steps) →
    (start p).run? (steps.filter fun step => !drop step.caller) = some (s.without drop)
  /-- With any selector and any draws instead, the rest leads to a pool with the same roster, and
  the responses to all calls but requests are the same. -/
  with_selector : ∀ (τ : Type) [Selector τ] (x : τ) (drop : Nat → Bool) (steps' : List (Step C)),
    (∀ k, drop k = true → .connect k none ∈ steps) →
    List.Forall₂ Step.Alike (steps.filter fun step => !drop step.caller) steps' →
      ∃ s', (start (p.withSelector x)).run? steps' = some s' ∧ (s.without drop).Alike s'

omit [Selector σ] in
theorem alike_start (p : Pool C σ) (x : τ) : (start p).Alike (start (p.withSelector x)) where
  pool := p.agrees_withSelector x
  phase := rfl
  effects := .nil

/-- **Crashes leave no trace in any interleaving.** -/
theorem unscathed_of_interleaving {p : Pool C σ} (hp : p.Created)
    (h : (start p).run? steps = some s) : Unscathed p steps s := by
  have hsound : s.pool.Sound := by
    rw [(Tracked.of_run? h).pool_eq, Pool.afterCalls_eq_after]
    exact hp.sound.after _
  have hwithout : ∀ drop, (∀ k, drop k = true → .connect k none ∈ steps) →
      (start p).run? (steps.filter fun step => !drop step.caller) = some (s.without drop) := by
    intro drop hdrop
    rw [← start_without p drop]
    exact run?_without h fun k hk => .inr (hdrop k hk)
  constructor
  · intro τ _ x now draw
    rw [Pool.get_fst]
    rfl
  · intro now
    exact (hsound.roster.resurrectDue now).coherent
  · exact hwithout
  · intro τ _ x drop steps' hdrop hlike
    exact (alike_start p x).run? (hwithout drop hdrop) hlike

/-- A selector that does what the draw says: zero makes it crash, another number is one more than
the answer. -/
inductive Dictated
  | dictated

instance : Selector Dictated where
  select s draw _ := (if draw = 0 then .crash else .index (draw - 1), s)

/-- A new pool of two seeds whose selector is dictated. -/
def twoDictated : Pool Nat Dictated := Pool.twoInTurn.withSelector .dictated

theorem created_twoDictated : twoDictated.Created :=
  ⟨Nat, fun _ => do modify (· + 1); getThe Nat, 0, 2, [Pool.plainSeed, Pool.secureSeed], .roundRobin,
    Registry.register NameMap.empty "round_robin" .dictated, fun l => l,
    [.created 2 "round_robin" false], fun l => .refl l, rfl⟩

/-- The selector crashes when a quarantine has just ended, and the first of two connections. -/
def crashing : List (Step Nat) :=
  [.serve 0 (.operate (.markDead Pool.plainSeed Pool.dawn)), .check 1 Pool.guest,
    .serve 2 (.operate (.get Pool.dusk 0)), .check 3 Pool.guest, .connect 1 none,
    .connect 3 (some 7), .finish 3, .serve 4 (.look .alive)]

/-- The same without the addition that crashes, and with an answer of the selector. -/
def calm : List (Step Nat) :=
  [.serve 0 (.operate (.markDead Pool.plainSeed Pool.dawn)), .serve 2 (.operate (.get Pool.dusk 8)),
    .check 3 Pool.guest, .connect 3 (some 7), .finish 3, .serve 4 (.look .alive)]

/-- What is seen alive in the end is the same. -/
theorem unscathed_crashing :
    twoDictated.Created ∧ ∃ s, (start twoDictated).run? crashing = some s ∧
      s.pool.roster.aliveNodes.map (·.connection) = [2, 1, 7] ∧
      Unscathed twoDictated crashing s ∧
      ∃ s', (start twoDictated).run? calm = some s' ∧ (s.without (· = 1)).Alike s' := by
  have hrun : ((start twoDictated).run? crashing).map
      (fun s => s.pool.roster.aliveNodes.map (·.connection)) = some [2, 1, 7] := by
    decide +kernel
  obtain ⟨s, hs, halive⟩ := Option.map_eq_some_iff.mp hrun
  have hunscathed := unscathed_of_interleaving created_twoDictated hs
  refine ⟨created_twoDictated, s, hs, halive, hunscathed, ?_⟩
  refine hunscathed.with_selector Dictated .dictated (· = 1) calm (fun k hk => ?_) ?_
  · rw [of_decide_eq_true hk]
    simp [crashing]
  · exact .cons (.refl _) (.cons (.request ..) (.cons (.refl _) (.cons (.refl _)
      (.cons (.refl _) (.cons (.refl _) .nil)))))

end System

end EndpointPool
