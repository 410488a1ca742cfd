import EndpointPool.Proofs.Pool.Interleaving
import EndpointPool.Proofs.Pool.Presence

/-!
# Callers that share a pool see it one after another

Every interleaving of callers leaves the pool that their calls leave when they are served one after
another, in the order of their last steps under the lock, and every caller gets the response that it
gets then. A call takes effect with just that step: an addition when its endpoint is registered
already, when its connection crashes, or when it is finished, and then with the connection that was
made. So what holds of every run of operations holds of callers that share a pool. Of the
additions of one identity that race, the one that is accepted wins, and the node it registers is of
its own endpoint and of the connection that it has made itself. Nobody ever sees the connection of
an addition that lost.

## Main definitions

* `System.Won`, `System.Lost`: an addition took effect when its endpoint was wanted, or was not
* `System.Linearized p steps s`: `s` is what calls that are served one after another lead to

## Main results

* `System.exists_won_of_mem_nodes`: a registered node is an old one, or that of an addition that won
* `System.Lost.not_won`: who lost has not won
* `System.connects_eq_zero`: who finds the endpoint registered makes no connection
* `System.exists_takes`, `System.isSome_step?`: what takes effect with a step, and who can go on
* `System.linearized_of_interleaving`: every interleaving is linearized
-/

namespace EndpointPool.System

variable {C σ : Type} [Selector σ] {p : Pool C σ} {s t : System C σ} {k : Nat} {n m : Node C}
  {effects : List (Effect C)} {steps : List (Step C)}

/-! ### Runs -/

theorem run?_cons (s : System C σ) (step : Step C) (steps : List (Step C)) :
    s.run? (step :: steps) = (s.step? step).bind fun t => t.run? steps := List.foldlM_cons

theorem run?_append (s : System C σ) (steps steps' : List (Step C)) :
    s.run? (steps ++ steps') = (s.run? steps).bind fun t => t.run? steps' := List.foldlM_append

/-- What has taken effect stays so: steps add to it behind. -/
theorem effects_prefix_of_run? (h : s.run? steps = some t) : s.effects <+: t.effects := by
  induction steps generalizing s with
  | nil =>
    cases h
    exact List.prefix_refl _
  | cons step steps ih =>
    rw [run?_cons] at h
    obtain ⟨u, hstep, hrest⟩ := Option.bind_eq_some_iff.mp h
    refine List.IsPrefix.trans ?_ (ih hrest)
    rcases (move_of_step? hstep).effect with ⟨-, heffects⟩ | ⟨call, -, heffects⟩
    · exact heffects ▸ List.prefix_refl _
    · rw [heffects]
      exact List.prefix_append _ _

/-- A caller whose call has ended makes no more steps. -/
theorem caller_ne_of_ended (h : s.run? steps = some t) (hended : s.phase k = .ended) :
    ∀ step ∈ steps, step.caller ≠ k := by
  induction steps generalizing s with
  | nil =>
    intro step hstep
    cases hstep
  | cons step steps ih =>
    rw [run?_cons] at h
    obtain ⟨u, hstep, hrest⟩ := Option.bind_eq_some_iff.mp h
    obtain ⟨hbusy, hframe⟩ := (move_of_step? hstep).frame
    have hne : step.caller ≠ k := by
      rintro rfl
      exact hbusy hended
    have hstill : u.phase k = .ended := (hframe k (Ne.symm hne)).trans hended
    exact List.forall_mem_cons.mpr ⟨hne, ih hrest hstill⟩

/-- **Who finds the endpoint registered makes no connection.** -/
theorem connects_eq_zero {pre post : List (Step C)} {e : Endpoint}
    (h : (start p).run? (pre ++ .check k e :: post) = some t) (hpre : (start p).run? pre = some s)
    (hwants : s.pool.wants e = false) :
    (pre ++ .check k e :: post).countP (Step.connects k) = 0 := by
  rw [run?_append, hpre, Option.bind_some, run?_cons] at h
  obtain ⟨u, hstep, hrest⟩ := Option.bind_eq_some_iff.mp h
  have hr := (Tracked.of_run? hpre).records k
  cases move_of_step? hstep with
  | check hphase htrue =>
    rw [hwants] at htrue
    cases htrue
  | decline hphase =>
    obtain ⟨-, hbefore, -⟩ : Records k pre s.effects .idle := hphase ▸ hr
    -- the caller was idle before the step, and has ended with it
    have hafter : post.countP (Step.connects k) = 0 := by
      apply List.countP_eq_zero.mpr
      intro step hmem hc
      exact caller_ne_of_ended hrest (Function.update_self ..) step hmem (caller_eq_of_connects hc)
    rw [List.countP_append, hbefore, List.countP_cons_of_neg Bool.false_ne_true, hafter]

/-! ### Additions that won and that lost -/

/-- The addition of `n` by a caller took effect when its endpoint was wanted. -/
def Won (p : Pool C σ) (effects : List (Effect C)) (k : Nat) (n : Node C) : Prop :=
  ∃ pre response post,
    effects = pre ++ ⟨k, .operate (.add n.endpoint (some n.connection)), response⟩ :: post ∧
      (p.afterCalls (pre.map (·.call))).wants n.endpoint = true

/-- The addition of `n` by a caller took effect when its endpoint was registered. -/
def Lost (p : Pool C σ) (effects : List (Effect C)) (k : Nat) (n : Node C) : Prop :=
  ∃ pre response post,
    effects = pre ++ ⟨k, .operate (.add n.endpoint (some n.connection)), response⟩ :: post ∧
      (p.afterCalls (pre.map (·.call))).wants n.endpoint = false

theorem Won.append (h : Won p effects k n) (more : List (Effect C)) :
    Won p (effects ++ more) k n := by
  obtain ⟨pre, response, post, rfl, hwants⟩ := h
  exact ⟨pre, response, post ++ more, List.append_assoc .., hwants⟩

/-- An addition that won was made by its caller: the endpoint is the one that the caller looked for,
and the connection the one that the caller made. -/
theorem Won.made (h : Won p effects k n)
    (hmade : ∀ before f after, effects = before ++ f :: after → Made p steps before f) :
    .check k n.endpoint ∈ steps ∧ .connect k (some n.connection) ∈ steps := by
  obtain ⟨pre, response, post, heffects, -⟩ := h
  have hf := hmade pre _ post heffects
  generalize heq : (⟨k, .operate (.add n.endpoint (some n.connection)), response⟩ : Effect C) = f
    at hf
  cases hf with
  | served hcall =>
    cases heq
    cases hcall
  | declined | crashed => cases heq
  | @finished _ m _ hcheck hconnect =>
    cases n
    cases m
    cases heq
    exact ⟨hcheck, hconnect⟩

/-- **Who lost has not won.** -/
theorem Lost.not_won (h : Lost p effects k n) (hnodup : (effects.map (·.caller)).Nodup) :
    ¬ Won p effects k m := by
  rintro ⟨pre', response', post', heq, hwants'⟩
  obtain ⟨pre, response, post, rfl, hwants⟩ := h
  rw [List.map_append, List.map_cons, List.nodup_middle, List.nodup_cons, List.mem_append,
    not_or] at hnodup
  obtain ⟨⟨hpre, hpost⟩, -⟩ := hnodup
  -- each caller has one effect, so the two are one
  have hnot : ∀ {l : List (Effect C)}, k ∉ l.map (·.caller) →
      ⟨k, .operate (.add m.endpoint (some m.connection)), response'⟩ ∉ l :=
    fun hl hmem => hl (List.mem_map.mpr ⟨_, hmem, rfl⟩)
  obtain ⟨rfl, hf, -⟩ := (List.append_cons_inj_of_notMem (hnot hpre) (hnot hpost)).mp heq
  cases n; cases m; cases hf
  exact Bool.false_ne_true (hwants.symm.trans hwants')

/-- **A registered node is one of a new pool, or that of an addition that won.** -/
theorem exists_won_of_mem_nodes
    (h : n ∈ (p.afterCalls (effects.map (·.call))).roster.nodes) :
    n ∈ p.roster.nodes ∨ ∃ k, Won p effects k n := by
  induction effects using List.reverseRecOn with
  | nil => exact .inl h
  | append_singleton effects f ih =>
    rw [List.map_append, List.map_singleton, Pool.afterCalls_concat] at h
    -- the node was registered before the last call, or the last call has added it
    rcases Pool.mem_nodes_serve h with h | ⟨hcall, hwants⟩
    · rcases ih h with h | ⟨k, hwon⟩
      · exact .inl h
      · exact .inr ⟨k, hwon.append [f]⟩
    · refine .inr ⟨f.caller, effects, f.response, [], ?_, hwants⟩
      rw [← hcall]

/-! ### One after another -/

/-- The response to a call is the one that it gets after the calls before it. -/
theorem response_eq (h : effects.map (·.response) = p.responses (effects.map (·.call)))
    {pre post : List (Effect C)} {f : Effect C} (heffects : effects = pre ++ f :: post) :
    f.response = ((p.afterCalls (pre.map (·.call))).serve f.call).2 := by
  rw [heffects, List.map_append, List.map_append, Pool.responses_append] at h
  have hlen : (pre.map (·.response)).length = (p.responses (pre.map (·.call))).length := by
    rw [Pool.length_responses, List.length_map, List.length_map]
  obtain ⟨-, h⟩ := List.append_inj h hlen
  exact (List.cons_eq_cons.mp h).1

/-- A node that a response shows is one of a new pool, or that of an addition that had won
before. -/
theorem exists_won_of_mem_seen (h : effects.map (·.response) = p.responses (effects.map (·.call)))
    {pre post : List (Effect C)} {f : Effect C} (heffects : effects = pre ++ f :: post)
    (hn : n ∈ f.response.seen) : n ∈ p.roster.nodes ∨ ∃ k, Won p pre k n := by
  rw [response_eq h heffects] at hn
  exact exists_won_of_mem_nodes (Pool.mem_nodes_of_seen hn)

/-- The steps of callers have led from the pool `p` to a system as calls that are served one after
another lead to. -/
structure Linearized (p : Pool C σ) (steps : List (Step C)) (s : System C σ) : Prop where
  /-- The pool is the one that the calls leave in the order in which they took effect. -/
  pool_eq : s.pool = p.afterCalls (s.effects.map (·.call))
  /-- Every response is the one that the call gets in that order. -/
  responses_eq : s.effects.map (·.response) = p.responses (s.effects.map (·.call))
  /-- A call takes effect once, and has done so when it has ended. -/
  callers_nodup : (s.effects.map (·.caller)).Nodup
  ended_iff : ∀ k, s.phase k = .ended ↔ ∃ f ∈ s.effects, f.caller = k
  /-- The order is that of the steps: later steps add to what has taken effect before. -/
  effects_prefix : ∀ pre post t, steps = pre ++ post → (start p).run? pre = some t →
    t.effects <+: s.effects
  /-- With each step the call takes effect whose last step under the lock it is, on the pool as it
  is then; and with any other step, nothing does. -/
  takes : ∀ pre step post t, steps = pre ++ step :: post → (start p).run? pre = some t →
    ∃ call? u, Takes t.pool pre step call? ∧ (start p).run? (pre ++ [step]) = some u ∧
      u.effects = t.effects ++
        call?.toList.map fun call => ⟨step.caller, call, (t.pool.serve call).2⟩
  /-- What has taken effect is the call that the caller has made. -/
  made : ∀ before f after, s.effects = before ++ f :: after → Made p steps before f
  /-- Wanted are the endpoints whose identity is not registered. Whatever its connection would have
  been, an addition of any other does nothing. -/
  wants_iff : ∀ e, s.pool.wants e = true ↔ ¬ Pool.Registered e.id s.pool
  serve_add : ∀ e connection, s.pool.wants e = false →
    s.pool.serve (.operate (.add e connection)) = (s.pool, .done none [])
  /-- Nor does an addition whose connection crashes, whoever is registered. -/
  serve_add_none : ∀ e, s.pool.serve (.operate (.add e none)) = (s.pool, .done none [])
  /-- An addition of a wanted endpoint registers its node, with just the connection that was made. -/
  nodes_serve_add : ∀ e c, s.pool.wants e = true →
    (s.pool.serve (.operate (.add e (some c)))).1.roster.nodes = s.pool.roster.nodes ++ [⟨e, c⟩]
  /-- Until its call has ended, a caller can go on: to begin, to have the connection made or crash,
  or to finish. -/
  goes_on : ∀ k, s.phase k = .ended ∨
    ((∀ e, (s.step? (.check k e)).isSome) ∧
      ∀ call, call.isAddition = false → (s.step? (.serve k call)).isSome) ∨
    (∀ connection, (s.step? (.connect k connection)).isSome) ∨ (s.step? (.finish k)).isSome
  /-- A caller begins once, and makes a connection at most once. -/
  begins_le : ∀ k, steps.countP (Step.begins k) ≤ 1
  connects_le : ∀ k, steps.countP (Step.connects k) ≤ 1
  /-- A caller that finds the endpoint registered at first makes no connection. -/
  connects_eq_zero : ∀ pre k e post t, steps = pre ++ .check k e :: post →
    (start p).run? pre = some t → t.pool.wants e = false →
      steps.countP (Step.connects k) = 0
  /-- No identity is registered twice. -/
  registered_nodup : (s.pool.roster.registered.map (·.node.endpoint.id)).Nodup
  /-- A registered node is one of the new pool, or that of a caller who won: of the endpoint that
  this caller looked for, and of the connection that this caller made. -/
  registered_won : ∀ n ∈ s.pool.roster.nodes, n ∈ p.roster.nodes ∨
    ∃ k, Won p s.effects k n ∧ .check k n.endpoint ∈ steps ∧
      .connect k (some n.connection) ∈ steps
  /-- So is a node that a response shows; the caller had won before. -/
  seen_won : ∀ pre f post, s.effects = pre ++ f :: post → ∀ n ∈ f.response.seen,
    n ∈ p.roster.nodes ∨ ∃ k, Won p pre k n ∧ .check k n.endpoint ∈ steps ∧
      .connect k (some n.connection) ∈ steps
  /-- The connection of a caller who lost, if it is no other's too, is neither registered nor
  seen. -/
  lost_unseen : ∀ k n, Lost p s.effects k n →
    (∀ m ∈ p.roster.nodes, m.connection ≠ n.connection) →
    (∀ k', .connect k' (some n.connection) ∈ steps → k' = k) →
      (∀ m ∈ s.pool.roster.nodes, m.connection ≠ n.connection) ∧
      ∀ f ∈ s.effects, ∀ m ∈ f.response.seen, m.connection ≠ n.connection

section Linearized

theorem Records.begins_le {phase : Phase C} (h : Records k steps effects phase) :
    steps.countP (Step.begins k) ≤ 1 := by
  cases phase with
  | idle => exact Nat.le_trans (Nat.le_of_eq h.1) (Nat.zero_le 1)
  | wanting | holding | ended => exact Nat.le_of_eq h.1

theorem Records.connects_le {phase : Phase C} (h : Records k steps effects phase) :
    steps.countP (Step.connects k) ≤ 1 := by
  cases phase with
  | idle | wanting => exact Nat.le_trans (Nat.le_of_eq h.2.1) (Nat.zero_le 1)
  | holding => exact Nat.le_of_eq h.2.1
  | ended => exact h.2.1

theorem Records.ended_iff {phase : Phase C} (h : Records k steps effects phase) :
    phase = .ended ↔ ∃ f ∈ effects, f.caller = k := by
  constructor
  · rintro rfl
    exact h.2.2
  · rintro ⟨f, hf, hk⟩
    cases phase with
    | ended => rfl
    | idle | wanting | holding => exact absurd hk (h.ne_of_mem (by rintro ⟨⟩) f hf)

/-- A caller whose call has not ended can make its next step. -/
theorem isSome_step? (s : System C σ) (k : Nat) :
    s.phase k = .ended ∨
      ((∀ e, (s.step? (.check k e)).isSome) ∧
        ∀ call, call.isAddition = false → (s.step? (.serve k call)).isSome) ∨
      (∀ connection, (s.step? (.connect k connection)).isSome) ∨ (s.step? (.finish k)).isSome := by
  cases hphase : s.phase k with
  | ended => exact .inl rfl
  | idle =>
    refine .inr (.inl ⟨fun e => ?_, fun call hcall => ?_⟩)
    · simp only [step?, hphase]
      split <;> rfl
    · simp only [step?, hphase, hcall]
      rfl
  | wanting e =>
    refine .inr (.inr (.inl fun connection => ?_))
    cases connection <;> simp only [step?, hphase, Option.isSome_some]
  | holding n =>
    refine .inr (.inr (.inr ?_))
    simp only [step?, hphase, Option.isSome_some]

/-- Each step of an interleaving has its call take effect, if it is the last of the call. -/
theorem exists_takes {pre post : List (Step C)} {step : Step C}
    (h : (start p).run? (pre ++ step :: post) = some s) (hpre : (start p).run? pre = some t) :
    ∃ call? u, Takes t.pool pre step call? ∧ (start p).run? (pre ++ [step]) = some u ∧
      u.effects = t.effects ++
        call?.toList.map fun call => ⟨step.caller, call, (t.pool.serve call).2⟩ := by
  rw [run?_append, hpre, Option.bind_some, run?_cons] at h
  obtain ⟨u, hstep, -⟩ := Option.bind_eq_some_iff.mp h
  obtain ⟨call?, htakes, heffects⟩ := (Tracked.of_run? hpre).takes (move_of_step? hstep)
  refine ⟨call?, u, htakes, ?_, heffects⟩
  rw [run?_concat, hpre]
  exact hstep

/-- **Every interleaving is linearized.** -/
theorem linearized_of_interleaving (hp : p.Created) (h : (start p).run? steps = some s) :
    Linearized p steps s := by
  have ht := Tracked.of_run? h
  -- a caller who has won, now or earlier, has made the steps of the addition
  have hwon : ∀ {pre more : List (Effect C)}, s.effects = pre ++ more → ∀ {k n}, Won p pre k n →
      .check k n.endpoint ∈ steps ∧ .connect k (some n.connection) ∈ steps := by
    intro pre more heq k n hwon
    exact (heq ▸ hwon.append more : Won p s.effects k n).made ht.made
  have hregistered : ∀ n ∈ s.pool.roster.nodes, n ∈ p.roster.nodes ∨ ∃ k, Won p s.effects k n := by
    rw [ht.pool_eq]
    exact fun n hn => exists_won_of_mem_nodes hn
  constructor
  · exact ht.pool_eq
  · exact ht.responses_eq
  · exact ht.callers_nodup
  · intro k
    exact (ht.records k).ended_iff
  · rintro pre post t rfl hpre
    rw [run?_append, hpre, Option.bind_some] at h
    exact effects_prefix_of_run? h
  · rintro pre step post t rfl hpre
    exact exists_takes h hpre
  · exact ht.made
  · intro e
    exact Pool.wants_iff_not_registered
  · intro e connection hwants
    exact s.pool.serve_add_of_not_wants hwants connection
  · exact s.pool.serve_add_none
  · intro e c hwants
    exact Pool.nodes_serve_add_of_wants hwants c
  · exact s.isSome_step?
  · intro k
    exact (ht.records k).begins_le
  · intro k
    exact (ht.records k).connects_le
  · rintro pre k e post t rfl hpre hwants
    exact connects_eq_zero h hpre hwants
  · rw [ht.pool_eq, Pool.afterCalls_eq_after]
    exact (hp.sound.after _).roster.coherent.registered_nodup
  · intro n hn
    rcases hregistered n hn with hn | ⟨k, hk⟩
    · exact .inl hn
    · exact .inr ⟨k, hk, hwon (List.append_nil _).symm hk⟩
  · intro pre f post heq n hn
    rcases exists_won_of_mem_seen ht.responses_eq heq hn with hn | ⟨k, hk⟩
    · exact .inl hn
    · exact .inr ⟨k, hk, hwon heq hk⟩
  · intro k n hlost hfresh hown
    -- a node with this connection would be that of this caller, who has not won
    have hne : ∀ {pre more : List (Effect C)}, s.effects = pre ++ more → ∀ m,
        (m ∈ p.roster.nodes ∨ ∃ k', Won p pre k' m) → m.connection ≠ n.connection := by
      rintro pre more heq m (hm | ⟨k', hk'⟩) hc
      · exact hfresh m hm hc
      · have hconnect := (hwon heq hk').2
        rw [hc] at hconnect
        obtain rfl := hown k' hconnect
        exact hlost.not_won ht.callers_nodup (heq ▸ hk'.append more)
    constructor
    · intro m hm
      exact hne (List.append_nil _).symm m (hregistered m hm)
    · intro f hf m hm
      obtain ⟨pre, post, heq⟩ := List.append_of_mem hf
      exact hne heq m (exists_won_of_mem_seen ht.responses_eq heq hm)

/-- Two additions of the guest race, and a third comes late. The guest is removed then, and added
again. -/
def race : List (Step Nat) :=
  [.check 0 Pool.guest, .check 1 Pool.guest, .connect 0 (some 7), .connect 1 (some 8), .finish 1,
    .serve 2 (.operate (.markDead Pool.guest Pool.dawn)), .finish 0, .check 3 Pool.guest,
    .serve 4 (.look .all), .serve 5 (.operate (.remove Pool.guest)), .check 6 Pool.guest,
    .connect 6 (some 9), .finish 6]

/-- The second of the two makes it, with its own connection, and so does the last. -/
theorem linearized_race :
    Pool.twoInTurn.Created ∧ ∃ s, (start Pool.twoInTurn).run? race = some s ∧
      s.pool.roster.nodes.map (·.connection) = [1, 2, 9] ∧
      s.effects.map (·.caller) = [1, 2, 0, 3, 4, 5, 6] ∧ Linearized Pool.twoInTurn race s := by
  have hrun : ((start Pool.twoInTurn).run? race).map
      (fun s => (s.pool.roster.nodes.map (·.connection), s.effects.map (·.caller))) =
        some ([1, 2, 9], [1, 2, 0, 3, 4, 5, 6]) := by
    decide +kernel
  obtain ⟨s, hs, heq⟩ := Option.map_eq_some_iff.mp hrun
  obtain ⟨hnodes, hcallers⟩ := Prod.mk.inj heq
  exact ⟨Pool.created_twoInTurn, s, hs, hnodes, hcallers,
    linearized_of_interleaving Pool.created_twoInTurn hs⟩

end Linearized

end EndpointPool.System
