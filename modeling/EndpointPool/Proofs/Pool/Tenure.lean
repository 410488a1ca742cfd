import EndpointPool.Proofs.Pool.Run
import Mathlib.Data.List.Infix

/-!
# Health during a tenure

Each registered node has a health of its own, which the operations on other nodes do not touch. A
tenure of an endpoint is the time since its latest registration. All that the health hears during
a tenure are the failures and the successes reported under the identity of the endpoint, and the
instants of the requests, whoever makes them: a quarantine that has run out by then is over. So the
health is that of a machine which is fresh at the beginning of the tenure and hears those signals in
order, and its failures are those reported since the last success of the tenure.

## Main definitions

* `Signal`, `Health.feed b h signal`: what a health hears, and the health afterwards
* `Signal.failuresSinceSuccess`: the failures that are not forgotten
* `Operation.signal? i`, `Operation.signals i ops`: what the health of identity `i` hears of
  operations
* `Pool.Tenure p e pre post`: the latest registration of `e` in a run is the last of `pre`

## Main results

* `Health.failures_foldl_feed`: the failures of a machine, up to the highest count
* `Pool.Sound.registeredAs_perform`: an identity hears the operation, or its tenure begins or ends
* `Pool.Tenure.health`: the health at the end of a tenure
* `Pool.health_after`: the health of every endpoint after a run
-/

namespace EndpointPool

/-! ### Signals -/

/-- What the health of a node hears: a failure at an instant, a success, or the time of a request. -/
inductive Signal
  | failure (now : Instant)
  | success
  | clock (now : Instant)
  deriving DecidableEq

namespace Signal

/-- Whether a signal is a failure. -/
def isFailure : Signal → Bool
  | failure _ => true
  | success | clock _ => false

/-- The number of failures after the last success. -/
def failuresSinceSuccess (signals : List Signal) : Nat :=
  (signals.reverse.takeWhile (· ≠ success)).countP isFailure

end Signal

namespace Health

variable (b : Backoff) (h : Health)

/-- The health after a signal. -/
def feed : Signal → Health
  | .failure now => h.fail now b
  | .success => h.succeed
  | .clock now => h.settle now

/-- The end of a quarantine forgets no failure. -/
theorem failures_settle (now : Instant) : (h.settle now).failures = h.failures := by
  unfold settle
  split
  · split <;> rfl
  · rfl

/-- The failures that a machine knows are those since the last success, up to the highest count. -/
theorem failures_foldl_feed (signals : List Signal) :
    (signals.foldl (feed b) fresh).failures =
      min maxFailures (Signal.failuresSinceSuccess signals) := by
  induction signals using List.reverseRecOn with
  | nil => rfl
  | append_singleton signals signal ih =>
    rw [List.foldl_append, List.foldl_cons, List.foldl_nil]
    unfold Signal.failuresSinceSuccess at ih ⊢
    rw [List.reverse_append, List.reverse_singleton, List.singleton_append]
    -- the last signal is the first of the reversed list, which is cut at the first success
    cases signal with
    | failure now =>
      rw [List.takeWhile_cons_of_pos (by rfl), List.countP_cons_of_pos (by rfl)]
      show min ((signals.foldl (feed b) fresh).failures + 1) maxFailures = _
      -- counting up to the highest count and then one more is counting one more up to it
      rw [ih]
      omega
    | success =>
      rw [List.takeWhile_cons_of_neg (by decide)]
      rfl
    | clock now =>
      rw [List.takeWhile_cons_of_pos (by rfl), List.countP_cons_of_neg Bool.false_ne_true, ← ih]
      exact failures_settle _ now

end Health

/-- What the health of an identity hears of an operation. -/
def Operation.signal? {C : Type} (i : Endpoint.Identity) : Operation C → Option Signal
  | .get now _ => some (.clock now)
  | .markDead e now => if e.id = i then some (.failure now) else none
  | .markLive e => if e.id = i then some .success else none
  | .add _ _ | .remove _ => none

/-- An identity hears nothing of an operation, the time of a request, or what is reported under
it. -/
theorem Operation.signal?_cases {C : Type} (i : Endpoint.Identity) (op : Operation C) :
    op.signal? i = none ∨
      (∃ now draw, op = .get now draw ∧ op.signal? i = some (.clock now)) ∨
      (∃ e now, op = .markDead e now ∧ e.id = i ∧ op.signal? i = some (.failure now)) ∨
      ∃ e, op = .markLive e ∧ e.id = i ∧ op.signal? i = some .success := by
  cases op with
  | get now draw => exact .inr (.inl ⟨now, draw, rfl, rfl⟩)
  | add | remove => exact .inl rfl
  | markDead e now =>
    by_cases hi : e.id = i
    · exact .inr (.inr (.inl ⟨e, now, rfl, hi, if_pos hi⟩))
    · exact .inl (if_neg hi)
  | markLive e =>
    by_cases hi : e.id = i
    · exact .inr (.inr (.inr ⟨e, rfl, hi, if_pos hi⟩))
    · exact .inl (if_neg hi)

/-- What the health of an identity hears of operations, in order. -/
def Operation.signals {C : Type} (i : Endpoint.Identity) (ops : List (Operation C)) : List Signal :=
  ops.filterMap (signal? i)

/-- The registration after its health has heard a signal, if there is one. -/
def Registration.hear {C : Type} (b : Backoff) (signal : Option Signal) (r : Registration C) :
    Registration C :=
  { r with health := (signal.elim r.health (r.health.feed b)) }

namespace Roster

variable {C : Type} {s : Roster C} {e : Endpoint}

theorem failures_of_find? {r : Registration C} (hf : s.find? e = some r) :
    s.failures e = r.health.failures := by
  rw [failures, hf]

theorem failures_of_find?_none (hf : s.find? e = none) : s.failures e = 0 := by
  rw [failures, hf]

end Roster

namespace Pool

variable {C σ : Type} [Selector σ] {p : Pool C σ}

/-! ### One operation -/

/-- **An identity hears the operation, or its tenure begins or ends**: it begins when the identity
is added, and ends when it is removed, which happens to no seed. -/
theorem Sound.registeredAs_perform (h : p.Sound) (op : Operation C) (i : Endpoint.Identity) :
    (p.perform op).1.roster.registeredAs i =
        (p.roster.registeredAs i).map (·.hear p.backoff (op.signal? i)) ∨
      (p.roster.registeredAs i = [] ∧ ∃ e c order, op = .add e (some c) ∧ e.id = i ∧
        (p.perform op).1.roster.registeredAs i = [⟨⟨e, c⟩, order, .fresh⟩]) ∨
      ∃ e, op = .remove e ∧ e.id = i ∧ (∀ a ∈ p.seeds, a.id ≠ i) ∧
        (p.perform op).1.roster.registeredAs i = [] := by
  have hsame : p.roster.registeredAs i = (p.roster.registeredAs i).map (·.hear p.backoff none) :=
    (List.map_id _).symm
  cases op with
  | get now draw =>
    rw [roster_perform_get]
    exact .inl (h.roster.entries_resurrectDue now i).1
  | add e connection =>
    cases connection with
    | none =>
      rw [roster_perform_add_none]
      exact .inl hsame
    | some c =>
      rw [roster_perform_add_some]
      split
      · next hw =>
        rw [Roster.registeredAs_register]
        split
        · next hi =>
          subst i
          have hnil := Roster.find?_eq_none_iff.mp ((wants_iff p e).mp hw)
          rw [hnil]
          exact .inr (.inl ⟨rfl, e, c, _, rfl, rfl, rfl⟩)
        · exact .inl hsame
      · exact .inl hsame
  | remove e =>
    rw [roster_perform_remove]
    split
    · exact .inl hsame
    · next hseed =>
      rw [(h.roster.entries_remove e i).1]
      split
      · next hi =>
        refine .inr (.inr ⟨e, rfl, hi.symm, fun a ha hai => hseed ?_, rfl⟩)
        exact (isSeed_iff p e).mpr ⟨a, ha, hai.trans hi⟩
      · exact .inl hsame
  | markDead e now =>
    left
    rw [roster_perform_markDead, (h.roster.entries_markDead p.backoff now e i).1]
    by_cases hi : e.id = i
    · subst i
      simp only [Operation.signal?, if_true]
      rfl
    · simp only [Operation.signal?, if_neg hi, if_neg (Ne.symm hi)]
      exact hsame
  | markLive e =>
    left
    rw [roster_perform_markLive, (h.roster.entries_markLive e i).1]
    by_cases hi : e.id = i
    · subst i
      simp only [Operation.signal?, if_true]
      rfl
    · simp only [Operation.signal?, if_neg hi, if_neg (Ne.symm hi)]
      exact hsame

/-- A node that an operation registers is fresh. -/
theorem Sound.health_of_registered (h : p.Sound) {op : Operation C} {e : Endpoint}
    {r : Registration C} (hbefore : p.roster.find? e = none)
    (hafter : (p.perform op).1.roster.find? e = some r) : r.health = .fresh := by
  rw [Roster.find?_eq_head?] at hafter
  rw [Roster.find?_eq_none_iff] at hbefore
  rcases h.registeredAs_perform op e.id with hkept | ⟨-, _, c, order, -, -, hnew⟩ |
    ⟨-, -, -, -, hnil⟩
  · rw [hkept, hbefore] at hafter
    cases hafter
  · rw [hnew] at hafter
    cases hafter
    rfl
  · rw [hnil] at hafter
    cases hafter

/-- A node that stays registered hears the operation. -/
theorem Sound.eq_hear_of_kept (h : p.Sound) {op : Operation C} {e : Endpoint}
    {r r' : Registration C} (hbefore : p.roster.find? e = some r)
    (hafter : (p.perform op).1.roster.find? e = some r') :
    r' = r.hear p.backoff (op.signal? e.id) := by
  have hone := (h.roster.of_find? hbefore).1
  rw [Roster.find?_eq_head?] at hafter
  rcases h.registeredAs_perform op e.id with hkept | ⟨hnil, -⟩ | ⟨-, -, -, -, hnil⟩
  · rw [hkept, hone] at hafter
    cases hafter
    rfl
  · rw [hone] at hnil
    cases hnil
  · rw [hnil] at hafter
    cases hafter

/-! ### Tenures -/

/-- The latest registration of `e` in a run of `pre` and `post` is the last of `pre`, or the making
of the pool. -/
structure Tenure (p : Pool C σ) (e : Endpoint) (pre post : List (Operation C)) : Prop where
  /-- Before the last of `pre` the endpoint was not registered. -/
  begins : pre = [] ∨
    ∃ earlier op, pre = earlier ++ [op] ∧ (p.after earlier).roster.find? e = none
  /-- Since then it has been. -/
  lasts : ∀ mid, mid <+: post → (p.after (pre ++ mid)).roster.find? e ≠ none

section Tenure

variable {e : Endpoint} {pre post : List (Operation C)} {op : Operation C}

theorem Tenure.init (t : p.Tenure e pre (post ++ [op])) : p.Tenure e pre post where
  begins := t.begins
  lasts mid hmid := t.lasts mid (hmid.trans (List.prefix_append post [op]))

theorem Tenure.concat (t : p.Tenure e pre post)
    (hlast : (p.after (pre ++ post ++ [op])).roster.find? e ≠ none) :
    p.Tenure e pre (post ++ [op]) where
  begins := t.begins
  lasts := by
    intro mid hmid
    rcases List.prefix_concat_iff.mp hmid with rfl | hmid
    · rwa [← List.append_assoc]
    · exact t.lasts mid hmid

/-- Whoever is registered after a run is in a tenure. -/
theorem exists_tenure (p : Pool C σ) {ops : List (Operation C)} {e : Endpoint}
    (hf : (p.after ops).roster.find? e ≠ none) :
    ∃ pre post, pre ++ post = ops ∧ p.Tenure e pre post := by
  induction ops using List.reverseRecOn with
  | nil =>
    refine ⟨[], [], rfl, .inl rfl, fun mid hmid => ?_⟩
    rwa [List.prefix_nil.mp hmid]
  | append_singleton ops op ih =>
    by_cases hbefore : (p.after ops).roster.find? e = none
    · refine ⟨ops ++ [op], [], List.append_nil _, .inr ⟨ops, op, rfl, hbefore⟩, fun mid hmid => ?_⟩
      rwa [List.prefix_nil.mp hmid, List.append_nil]
    · obtain ⟨pre, post, rfl, t⟩ := ih hbefore
      exact ⟨pre, post ++ [op], (List.append_assoc ..).symm, t.concat hf⟩

/-- A tenure begins with a fresh health. -/
theorem Tenure.health_of_nil (hp : p.Created) (t : p.Tenure e pre []) {r : Registration C}
    (hf : (p.after pre).roster.find? e = some r) : r.health = .fresh := by
  rcases t.begins with rfl | ⟨earlier, op, rfl, hbefore⟩
  · obtain ⟨nodes, hroster, -⟩ := hp.exists_nodes
    rw [after_nil, hroster] at hf
    exact Roster.health_of_mem_ofNodes (Roster.Sound.mem_of_find? hf).1
  · rw [after_concat] at hf
    exact (hp.sound.after earlier).health_of_registered hbefore hf

/-- **The health at the end of a tenure** is that of a machine which was fresh at its beginning and
has heard its signals. -/
theorem Tenure.health (hp : p.Created) (t : p.Tenure e pre post) {r : Registration C}
    (hf : (p.after (pre ++ post)).roster.find? e = some r) :
    r.health = (Operation.signals e.id post).foldl (Health.feed p.backoff) .fresh := by
  induction post using List.reverseRecOn generalizing r with
  | nil =>
    rw [List.append_nil] at hf
    exact t.health_of_nil hp hf
  | append_singleton post op ih =>
    -- the endpoint was registered before the last operation, so it has heard it
    obtain ⟨r₀, hr₀⟩ := Option.ne_none_iff_exists'.mp (t.lasts post (List.prefix_append post [op]))
    rw [← List.append_assoc, after_concat] at hf
    obtain rfl := (hp.sound.after (pre ++ post)).eq_hear_of_kept hr₀ hf
    rw [backoff_after, Registration.hear, ih t.init hr₀, Operation.signals, Operation.signals,
      List.filterMap_append, List.foldl_append]
    cases hsignal : op.signal? e.id with
    | none => rw [List.filterMap_cons_none hsignal]; rfl
    | some signal => rw [List.filterMap_cons_some hsignal]; rfl

end Tenure

/-! ### The health after a run -/

/-- A request changes the failures of no endpoint. -/
theorem Sound.failures_get (h : p.Sound) (now : Instant) (draw : Nat) (e : Endpoint) :
    (p.get now draw).1.roster.failures e = p.roster.failures e := by
  rw [get_fst]
  unfold Roster.failures
  rw [h.roster.find?_resurrectDue]
  cases p.roster.find? e with
  | none => rfl
  | some r => exact Health.failures_settle r.health now

/-- **The health of every endpoint after a run**: a registered one is in a tenure, and what is known
of it is what a machine of its own knows that has heard the signals of the tenure; its failures are
those since its last success in the tenure, a request does not change them, and an endpoint that is
not registered has none. -/
theorem health_after {p : Pool C σ} (hp : p.Created) (ops : List (Operation C)) (e : Endpoint) :
    (∀ r, (p.after ops).roster.find? e = some r →
      (∃ pre post, pre ++ post = ops ∧ p.Tenure e pre post) ∧
      ∀ pre post, pre ++ post = ops → p.Tenure e pre post →
        r.health = (Operation.signals e.id post).foldl (Health.feed p.backoff) .fresh ∧
        (p.after ops).roster.failures e =
          min Health.maxFailures (Signal.failuresSinceSuccess (Operation.signals e.id post))) ∧
    ((p.after ops).roster.find? e = none → (p.after ops).roster.failures e = 0) ∧
    ∀ now draw, ((p.after ops).get now draw).1.roster.failures e =
      (p.after ops).roster.failures e := by
  refine ⟨?_, Roster.failures_of_find?_none, ?_⟩
  · intro r hf
    constructor
    · apply exists_tenure
      rw [hf]
      exact Option.some_ne_none r
    · rintro pre post rfl t
      have hhealth := t.health hp hf
      refine ⟨hhealth, ?_⟩
      rw [Roster.failures_of_find? hf, hhealth, Health.failures_foldl_feed]
  · intro now draw
    exact (hp.sound.after ops).failures_get now draw e

/-- A failure of the guest before its last registration. -/
def firstStay : List (Operation Nat) :=
  [.add guest (some 3), .markDead guest dawn, .remove guest, .add guest (some 4)]

/-- A failure of the guest after its last registration, and of another node. -/
def secondStay : List (Operation Nat) :=
  [.markDead guest noon, .markDead plainSeed noon, .get noon 0]

theorem tenure_secondStay : twoInTurn.Tenure guest firstStay secondStay where
  begins := .inr ⟨firstStay.take 3, .add guest (some 4), rfl,
    Option.isNone_iff_eq_none.mp (by decide +kernel)⟩
  lasts := by
    intro mid hmid hnone
    have hall : ∀ mid ∈ secondStay.inits,
        ((twoInTurn.after (firstStay ++ mid)).roster.find? guest).isSome = true := by
      decide +kernel
    have hsome := hall mid ((List.mem_inits mid secondStay).mpr hmid)
    rw [hnone] at hsome
    cases hsome

/-- Of the two failures of the guest, one is known. -/
theorem health_after_secondStay :
    twoInTurn.Created ∧ twoInTurn.Tenure guest firstStay secondStay ∧
      ∃ r, (twoInTurn.after (firstStay ++ secondStay)).roster.find? guest = some r ∧
        r.health = (Operation.signals guest.id secondStay).foldl (Health.feed .standard) .fresh ∧
        (twoInTurn.after (firstStay ++ secondStay)).roster.failures guest = 1 := by
  have hf : (twoInTurn.after (firstStay ++ secondStay)).roster.find? guest ≠ none :=
    tenure_secondStay.lasts secondStay (List.prefix_refl _)
  obtain ⟨r, hr⟩ := Option.ne_none_iff_exists'.mp hf
  obtain ⟨hhealth, hfailures⟩ :=
    ((health_after created_twoInTurn (firstStay ++ secondStay) guest).1 r hr).2
      firstStay secondStay rfl tenure_secondStay
  exact ⟨created_twoInTurn, tenure_secondStay, r, hr, hhealth, hfailures.trans (by decide +kernel)⟩

end Pool

end EndpointPool
