import EndpointPool.Proofs.Pool.Presence
import EndpointPool.Proofs.Pool.Turns
import EndpointPool.Proofs.Roster.Holding

/-!
# Operations on different endpoints

An operation on an endpoint reads and changes what the pool holds of the identity of that endpoint,
and nothing of another identity but the order of the alive nodes: who stops being alive is taken out
of it, and who becomes alive is put behind it. Registrations are numbered in their order besides. So
a failure or a removal of one endpoint, which neither registers anybody nor makes anybody alive,
commutes with every operation on an endpoint of another identity.

## Main definitions

* `Operation.endpoint? op`: the endpoint that an operation is on
* `Pool.act p h op`: what an operation does to what is held of its identity
* `Pool.keeps p op e`, `Pool.arrivals p op`: who stays among the alive, and who is put behind them
* `Pool.Matches p q`: the same pools, but for the order in which the removed endpoints are kept

## Main results

* `Pool.Sound.holding_perform`: an operation acts on what is held of its identity, and on nothing
  else
* `Pool.Sound.alive_perform`: the alive after an operation
* `Pool.Sound.matches_comm`: a failure or a removal commutes with operations on other identities
* `Pool.commute_after`: so it does after any run
-/

namespace EndpointPool

variable {C σ : Type}

namespace Operation

/-- The endpoint that an operation is on, unless it is a request. -/
def endpoint? : Operation C → Option Endpoint
  | .get _ _ => none
  | .add e _ | .remove e | .markDead e _ | .markLive e => some e

/-- Whether an operation is on an identity. A request is on all. -/
def concerns (i : Endpoint.Identity) (op : Operation C) : Bool :=
  match op.endpoint? with
  | none => true
  | some e => i = e.id

/-- Whether an operation is a failure or a removal, after which its endpoint is not alive. -/
def withdraws : Operation C → Bool
  | .markDead _ _ | .remove _ => true
  | .get _ _ | .add _ _ | .markLive _ => false

theorem concerns_iff {op : Operation C} {e : Endpoint} (h : op.endpoint? = some e)
    (i : Endpoint.Identity) : op.concerns i = true ↔ i = e.id := by
  simp only [concerns, h, decide_eq_true_eq]

end Operation

namespace Pool

/-- What an operation does to what is held of an identity that it is on. -/
def act (p : Pool C σ) (h : Holding C) : Operation C → Holding C
  | .get now _ => h.settle now
  | .add _ none => h
  | .add e (some c) => if h.registered.isEmpty then h.enroll ⟨e, c⟩ p.roster.nextOrder else h
  | .remove e => if p.isSeed e then h else h.discharge e
  | .markDead e now => h.fail p.backoff now e
  | .markLive e => h.succeed e

/-- Whether an alive endpoint stays in its place. -/
def keeps (p : Pool C σ) (op : Operation C) (a : Endpoint) : Bool :=
  match op with
  | .markDead e _ => a.id ≠ e.id
  | .remove e => p.isSeed e || a.id ≠ e.id
  | .get _ _ | .add _ _ | .markLive _ => true

/-- Whether an operation registers its endpoint. -/
def registers (p : Pool C σ) : Operation C → Bool
  | .add e (some _) => p.wants e
  | .get _ _ | .add _ none | .remove _ | .markDead _ _ | .markLive _ => false

/-- Who is put behind the alive. -/
def arrivals (p : Pool C σ) : Operation C → List Endpoint
  | .get now _ => (p.roster.due now).map (·.endpoint)
  | .add e (some _) => if p.wants e then [e] else []
  | .markLive e => (p.roster.deadAs e.id).map fun _ => e
  | .add _ none | .remove _ | .markDead _ _ => []

/-- The pools are the same but for the order in which they keep the removed endpoints, which are a
set. -/
structure Matches (p q : Pool C σ) : Prop where
  registered : p.roster.registered = q.roster.registered
  alive : p.roster.alive = q.roster.alive
  dead : p.roster.dead = q.roster.dead
  removed : p.roster.removed.Perm q.roster.removed
  nextOrder : p.roster.nextOrder = q.roster.nextOrder
  rest : q = { p with roster := q.roster }

variable {p q : Pool C σ} {op : Operation C} {a b : Endpoint}

/-! ### What an operation reads -/

theorem wants_eq_isEmpty (p : Pool C σ) (e : Endpoint) :
    p.wants e = (p.roster.registeredAs e.id).isEmpty := by
  rw [wants, Roster.find?_eq_head?, Bool.eq_iff_iff, Option.isNone_iff_eq_none,
    List.head?_eq_none_iff, List.isEmpty_iff]

/-- Whose failure or removal it is, another identity keeps its place. -/
theorem keeps_of_ne (ha : op.endpoint? = some a) (hne : b.id ≠ a.id) : p.keeps op b = true := by
  cases op with
  | get => rfl
  | add | markLive => rfl
  | remove | markDead =>
    cases ha
    simp [keeps, hne]

/-- Who arrives is the endpoint of the operation. -/
theorem id_of_mem_arrivals (hb : op.endpoint? = some b) {e : Endpoint} (he : e ∈ p.arrivals op) :
    e.id = b.id := by
  cases op with
  | get => cases hb
  | add e' connection =>
    cases hb
    cases connection with
    | none => cases he
    | some c =>
      simp only [arrivals] at he
      split at he
      · rw [List.mem_singleton.mp he]
      · cases he
  | remove | markDead => cases he
  | markLive e' =>
    cases hb
    obtain ⟨q, -, rfl⟩ := List.mem_map.mp he
    rfl

/-- Whether somebody is registered depends on what is held of the identity of the operation. -/
theorem registers_congr (hb : op.endpoint? = some b)
    (h : q.roster.holding b.id = p.roster.holding b.id) : q.registers op = p.registers op := by
  cases op with
  | add e connection =>
    cases hb
    cases connection with
    | none => rfl
    | some c =>
      have hregistered : q.roster.registeredAs b.id = p.roster.registeredAs b.id :=
        congrArg Holding.registered h
      simp only [registers, wants_eq_isEmpty, hregistered]
  | get | remove | markDead | markLive => rfl

/-- So does who arrives. -/
theorem arrivals_congr (hb : op.endpoint? = some b)
    (h : q.roster.holding b.id = p.roster.holding b.id) : q.arrivals op = p.arrivals op := by
  cases op with
  | get => cases hb
  | add e connection =>
    cases connection with
    | none => rfl
    | some c =>
      have hwants : q.registers (.add e (some c)) = p.registers (.add e (some c)) :=
        registers_congr hb h
      simp only [registers] at hwants
      simp only [arrivals, hwants]
  | remove | markDead => rfl
  | markLive e =>
    cases hb
    have hdead : q.roster.deadAs b.id = p.roster.deadAs b.id := congrArg Holding.dead h
    simp only [arrivals, hdead]

/-! ### One operation -/

variable [Selector σ]

/-- **An operation acts on what is held of its identity, and on nothing else.** -/
theorem Sound.holding_perform (h : p.Sound) (op : Operation C) (j : Endpoint.Identity) :
    (p.perform op).1.roster.holding j =
      if op.concerns j then p.act (p.roster.holding j) op else p.roster.holding j := by
  cases op with
  | get now draw =>
    rw [roster_perform_get]
    exact h.roster.holding_resurrectDue now j
  | add e connection =>
    cases connection with
    | none => rw [roster_perform_add_none]; exact (ite_self _).symm
    | some c =>
      have hconcerns : (Operation.add e (some c)).concerns j = true ↔ j = e.id :=
        Operation.concerns_iff rfl j
      rw [roster_perform_add_some, p.wants_eq_isEmpty]
      by_cases hj : j = e.id
      · rw [if_pos (hconcerns.mpr hj)]
        subst j
        by_cases hr : (p.roster.registeredAs e.id).isEmpty = true
        · rw [if_pos hr, Roster.holding_register, if_pos rfl]
          exact (if_pos hr).symm
        · rw [if_neg hr]
          exact (if_neg hr).symm
      · rw [if_neg (mt hconcerns.mp hj)]
        split
        · rw [Roster.holding_register, if_neg hj]
        · rfl
  | remove e =>
    rw [roster_perform_remove]
    simp only [Operation.concerns, Operation.endpoint?, decide_eq_true_eq, act]
    split
    · exact (ite_self _).symm
    · exact h.roster.holding_remove e j
  | markDead e now =>
    rw [roster_perform_markDead, h.roster.holding_markDead]
    simp only [Operation.concerns, Operation.endpoint?, decide_eq_true_eq, act]
  | markLive e =>
    rw [roster_perform_markLive, h.roster.holding_markLive]
    simp only [Operation.concerns, Operation.endpoint?, decide_eq_true_eq, act]

theorem Sound.holding_perform_of_ne (h : p.Sound) (ha : op.endpoint? = some a)
    {j : Endpoint.Identity} (hj : j ≠ a.id) :
    (p.perform op).1.roster.holding j = p.roster.holding j := by
  rw [h.holding_perform, if_neg (mt (Operation.concerns_iff ha j).mp hj)]

/-- **The alive after an operation**: who stays, and who is put behind them. -/
theorem Sound.alive_perform (h : p.Sound) (op : Operation C) :
    (p.perform op).1.roster.alive = p.roster.alive.filter (p.keeps op) ++ p.arrivals op := by
  have hall : p.roster.alive.filter (fun _ => true) = p.roster.alive := List.filter_true _
  cases op with
  | get now draw =>
    rw [roster_perform_get, h.roster.resurrectDue_eq]
    exact congrArg (· ++ _) hall.symm
  | add e connection =>
    refine Eq.trans ?_ (congrArg (· ++ _) hall.symm)
    cases connection with
    | none => exact (congrArg _ (roster_perform_add_none p e)).trans (List.append_nil _).symm
    | some c =>
      rw [roster_perform_add_some]
      simp only [arrivals]
      split
      · rfl
      · exact (List.append_nil _).symm
  | remove e =>
    rw [roster_perform_remove]
    refine Eq.trans ?_ (List.append_nil _).symm
    by_cases hseed : p.isSeed e = true
    · have hkeeps : p.keeps (.remove e : Operation C) = fun _ => true := by
        funext a
        simp only [keeps, hseed, Bool.true_or]
      rw [if_pos hseed, hkeeps, hall]
    · have hkeeps : p.keeps (.remove e : Operation C) = fun a => decide (a.id ≠ e.id) := by
        funext a
        simp only [keeps, Bool.eq_false_iff.mpr hseed, Bool.false_or]
      rw [if_neg hseed, hkeeps]
      exact h.roster.alive_remove e
  | markDead e now => exact (h.roster.alive_markDead _ now e).trans (List.append_nil _).symm
  | markLive e =>
    refine Eq.trans ?_ (congrArg (· ++ _) hall.symm)
    exact h.roster.alive_markLive e

/-- A number is given to who is registered. -/
theorem Sound.nextOrder_eq (h : p.Sound) (op : Operation C) :
    (p.perform op).1.roster.nextOrder = p.roster.nextOrder + (p.registers op).toNat := by
  have hchange := p.change_perform op
  generalize (p.perform op).1.roster = s at hchange
  cases hchange with
  | ignored hignores =>
    cases hignores with
    | @addition e connection hreg =>
      cases connection with
      | none => rfl
      | some c =>
        have hwants := mt wants_iff_not_registered.mp (not_not.mpr hreg)
        simp only [registers, Bool.eq_false_iff.mpr hwants, Bool.toNat_false, Nat.add_zero]
    | crash | seed | removal | failure | success => rfl
  | settled => rfl
  | registered hnot =>
    simp only [registers, wants_iff_not_registered.mpr hnot, Bool.toNat_true]
    rfl
  | removed _ hf => rw [h.roster.remove_eq hf]; rfl
  | failed hf => rw [h.roster.markDead_eq _ _ hf]; rfl
  | cleared hf hd => rw [h.roster.markLive_eq_of_alive hf hd]; rfl
  | revived hf hd => rw [h.roster.markLive_eq_of_dead hf hd]; rfl

theorem backoff_perform (p : Pool C σ) (op : Operation C) : (p.perform op).1.backoff = p.backoff :=
  backoff_after p [op]

theorem isSeed_perform (p : Pool C σ) (op : Operation C) (e : Endpoint) :
    (p.perform op).1.isSeed e = p.isSeed e := by
  rw [isSeed, isSeed, seeds_perform]

/-- Only the roster is changed by what is no request. -/
theorem perform_fst_of_endpoint? (h : op.endpoint? = some a) :
    (p.perform op).1 = { p with roster := (p.perform op).1.roster } := by
  obtain ⟨s, selector, heq⟩ := exists_perform_eq p op
  have hselector : (p.perform op).1.selector = p.selector := by
    apply selector_perform_of_not_asks
    cases op with
    | get => cases h
    | add | remove | markDead | markLive => rfl
  rw [heq] at hselector ⊢
  exact congrArg (fun x => { p with roster := s, selector := x }) hselector

/-! ### Two operations -/

theorem keeps_perform (op op' : Operation C) : (p.perform op).1.keeps op' = p.keeps op' := by
  funext e
  cases op' with
  | remove e' => simp only [keeps, isSeed_perform]
  | get | add | markDead | markLive => rfl

theorem act_perform (op op' : Operation C) (h : Holding C)
    (hnext : (p.perform op).1.roster.nextOrder = p.roster.nextOrder) :
    (p.perform op).1.act h op' = p.act h op' := by
  cases op' with
  | get | markLive => rfl
  | add e connection =>
    cases connection with
    | none => rfl
    | some c => simp only [act, hnext]
  | remove e => simp only [act, isSeed_perform]
  | markDead e now => simp only [act, backoff_perform]

theorem Sound.nextOrder_of_withdraws (h : p.Sound) (hw : op.withdraws = true) :
    (p.perform op).1.roster.nextOrder = p.roster.nextOrder := by
  rw [h.nextOrder_eq]
  cases op with
  | get | add | markLive => cases hw
  | remove | markDead => rfl

theorem act_of_withdraws (op op' : Operation C) (h : Holding C) (hw : op'.withdraws = true) :
    (p.perform op).1.act h op' = p.act h op' := by
  cases op' with
  | get | add | markLive => cases hw
  | remove e => simp only [act, isSeed_perform]
  | markDead e now => simp only [act, backoff_perform]

/-- A failure or a removal of one identity, and an operation on another one, leave the same of each
identity in either order. -/
theorem Sound.holding_comm (h : p.Sound) {op' : Operation C} (ha : op.endpoint? = some a)
    (hb : op'.endpoint? = some b) (hne : a.id ≠ b.id) (hw : op.withdraws = true)
    (j : Endpoint.Identity) :
    ((p.perform op).1.perform op').1.roster.holding j =
      ((p.perform op').1.perform op).1.roster.holding j := by
  have hj := Operation.concerns_iff ha j
  have hj' := Operation.concerns_iff hb j
  rw [(h.perform op).holding_perform, (h.perform op').holding_perform, h.holding_perform,
    h.holding_perform, act_perform op op' _ (h.nextOrder_of_withdraws hw),
    act_of_withdraws _ _ _ hw]
  -- at most one of the two is on the identity
  by_cases hja : j = a.id
  · have hjb : j ≠ b.id := fun hjb => hne (hja.symm.trans hjb)
    rw [if_pos (hj.mpr hja), if_neg (mt hj'.mp hjb), if_neg (mt hj'.mp hjb)]
    exact (if_pos (hj.mpr hja)).symm
  · rw [if_neg (mt hj.mp hja), if_neg (mt hj.mp hja)]

/-- A failure or a removal registers nobody, and who is registered next gets the same number. -/
theorem Sound.nextOrder_comm (h : p.Sound) {op' : Operation C} (ha : op.endpoint? = some a)
    (hb : op'.endpoint? = some b) (hne : a.id ≠ b.id) (hw : op.withdraws = true) :
    ((p.perform op).1.perform op').1.roster.nextOrder =
      ((p.perform op').1.perform op).1.roster.nextOrder := by
  rw [(h.perform op).nextOrder_eq, (h.perform op').nextOrder_of_withdraws hw,
    h.nextOrder_of_withdraws hw, h.nextOrder_eq op',
    registers_congr hb (h.holding_perform_of_ne ha (Ne.symm hne))]

/-- Who is taken out of the alive and who is put behind them are of different identities. -/
theorem Sound.alive_comm (h : p.Sound) {op' : Operation C} (ha : op.endpoint? = some a)
    (hb : op'.endpoint? = some b) (hne : a.id ≠ b.id) (hw : op.withdraws = true) :
    ((p.perform op).1.perform op').1.roster.alive =
      ((p.perform op').1.perform op).1.roster.alive := by
  have hnone : ∀ q : Pool C σ, q.arrivals op = [] := by
    intro q
    cases op with
    | get | add | markLive => cases hw
    | remove | markDead => rfl
  have hsame : (p.perform op).1.arrivals op' = p.arrivals op' :=
    arrivals_congr hb (h.holding_perform_of_ne ha (Ne.symm hne))
  have hstay : (p.arrivals op').filter (p.keeps op) = p.arrivals op' := by
    refine List.filter_eq_self.mpr fun e he => keeps_of_ne ha ?_
    rw [id_of_mem_arrivals hb he]
    exact Ne.symm hne
  rw [(h.perform op).alive_perform, (h.perform op').alive_perform, h.alive_perform,
    h.alive_perform, keeps_perform, keeps_perform, hnone, hnone, hsame, List.append_nil,
    List.append_nil, List.filter_append, hstay, List.filter_comm]

/-- **A failure or a removal commutes with every operation on an endpoint of another identity.** -/
theorem Sound.matches_comm (h : p.Sound) {op' : Operation C} (ha : op.endpoint? = some a)
    (hb : op'.endpoint? = some b) (hne : a.id ≠ b.id) (hw : op.withdraws = true) :
    ((p.perform op).1.perform op').1.Matches ((p.perform op').1.perform op).1 := by
  have hs := ((h.perform op).perform op').roster
  have ht := ((h.perform op').perform op).roster
  have hholding := h.holding_comm ha hb hne hw
  constructor
  · exact hs.registered_eq ht hholding
  · exact h.alive_comm ha hb hne hw
  · exact hs.dead_eq ht hholding
  · exact Roster.perm_removed hholding
  · exact h.nextOrder_comm ha hb hne hw
  · -- both are `p` with another roster
    have hleft := (perform_fst_of_endpoint? (p := (p.perform op).1) hb).trans
      (congrArg (fun q : Pool C σ => { q with roster := ((p.perform op).1.perform op').1.roster })
        (perform_fst_of_endpoint? ha))
    have hright := (perform_fst_of_endpoint? (p := (p.perform op').1) ha).trans
      (congrArg (fun q : Pool C σ => { q with roster := ((p.perform op').1.perform op).1.roster })
        (perform_fst_of_endpoint? hb))
    exact hright.trans (congrArg
      (fun q : Pool C σ => { q with roster := ((p.perform op').1.perform op).1.roster }) hleft.symm)

/-! ### After any run -/

/-- **A failure or a removal of one endpoint commutes with a failure, a success, a removal or an
addition of another one**, in every pool that a run leads to. -/
theorem commute_after (hp : p.Created) (ops : List (Operation C)) (hne : a.id ≠ b.id)
    (ta tb : Instant) (connection : Option C) :
    ∀ op ∈ [Operation.markDead a ta, .remove a],
      ∀ op' ∈ [Operation.markDead b tb, .markLive b, .remove b, .add b connection],
        (((p.after ops).perform op).1.perform op').1.Matches
          (((p.after ops).perform op').1.perform op).1 := by
  intro op hop op' hop'
  have ha : op.endpoint? = some a ∧ op.withdraws = true := by
    simp only [List.mem_cons, List.not_mem_nil, or_false] at hop
    rcases hop with rfl | rfl
    · exact ⟨rfl, rfl⟩
    · exact ⟨rfl, rfl⟩
  have hb : op'.endpoint? = some b := by
    simp only [List.mem_cons, List.not_mem_nil, or_false] at hop'
    rcases hop' with rfl | rfl | rfl | rfl
    · rfl
    · rfl
    · rfl
    · rfl
  exact (hp.sound.after ops).matches_comm ha.1 hb hne ha.2

/-- The guest and a seed fail at one instant, and their quarantines end at one instant. -/
theorem commute_after_tie :
    twoInTurn.Created ∧ guest.id ≠ plainSeed.id ∧
      (((twoInTurn.after [.add guest (some 3)]).perform (.markDead guest dawn)).1.perform
        (.markDead plainSeed dawn)).1.roster.dead.map (fun q => (q.deadline.nanos, q.order)) =
          [(1000000000, 0), (1000000000, 2)] ∧
      (((twoInTurn.after [.add guest (some 3)]).perform (.markDead guest dawn)).1.perform
        (.markDead plainSeed dawn)).1.Matches
        (((twoInTurn.after [.add guest (some 3)]).perform (.markDead plainSeed dawn)).1.perform
          (.markDead guest dawn)).1 :=
  ⟨created_twoInTurn, by decide, by decide +kernel,
    commute_after created_twoInTurn [.add guest (some 3)] (by decide) dawn dawn none _
      List.mem_cons_self _ List.mem_cons_self⟩

end Pool

end EndpointPool
