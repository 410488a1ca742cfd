import EndpointPool.Proofs.Pool.Listing
import EndpointPool.Proofs.Pool.Request
import Mathlib.Data.Int.CardIntervalMod
import Mathlib.Data.List.Rotate

/-!
# Nodes in turn

A selector that takes turns counts its choices, and answers with the count modulo the number of the
candidates. It is asked by the requests that find a node alive, and by no other operation, so its
count is the number of those requests in the life of the pool. While the alive nodes stay the same,
the requests therefore get them one after another, beginning at the place of the count, whatever
the numbers of the alive nodes were before and whatever other operations come in between.

## Main definitions

* `TakesTurns turn`: the selectors `turn counter` take turns
* `Pool.selections p ops`, `Pool.replies p ops`: the choices that operations ask for, and the replies
  to their requests
* `Pool.Steady p ops`: the alive nodes stay the same during operations
* `turns l hl k count`: the replies to requests that get the nodes of `l` in turn, from place `k` on
* `Pool.InTurn q k ops`: the requests among operations are served in turn, from place `k` on

## Main results

* `TakesTurns.selector_after`: the counter after a run
* `TakesTurns.replies_eq`: the replies while the alive nodes stay the same
* `turns_perm`, `countP_turns`: how often a node is handed out in turn
* `Pool.inTurn_after`: the requests of a stretch, after any run, are served in turn
-/

namespace EndpointPool

/-- The selectors `turn counter` take turns: each answers with its counter modulo the number of the
candidates, and counts. -/
def TakesTurns {σ : Type} [Selector σ] (turn : UInt64 → σ) : Prop :=
  ∀ counter draw candidates, Selector.select (turn counter) draw candidates =
    (.index (BuiltIn.next counter candidates.length).1,
      turn (BuiltIn.next counter candidates.length).2)

theorem takesTurns_roundRobin : TakesTurns BuiltIn.roundRobin := fun _ _ _ => rfl

/-- Whether an operation is a request. -/
def Operation.isGet {C : Type} : Operation C → Bool
  | .get _ _ => true
  | .add _ _ | .remove _ | .markDead _ _ | .markLive _ => false

/-- Whether a request got a node of an identity. -/
def Reply.isOf {C : Type} (i : Endpoint.Identity) : Reply C → Bool
  | .node n => n.endpoint.id = i
  | .selectorCrashed | .nothingRegistered => false

namespace Pool

variable {C σ : Type} [Selector σ]

/-! ### The choices of a run -/

/-- Whether an operation asks the selector: a request that finds a node alive. -/
def asks (p : Pool C σ) : Operation C → Bool
  | .get now _ => !(p.roster.resurrectDue now).1.alive.isEmpty
  | .add _ _ | .remove _ | .markDead _ _ | .markLive _ => false

/-- The number of the choices that operations ask for. -/
def selections (p : Pool C σ) : List (Operation C) → Nat
  | [] => 0
  | op :: ops => (p.asks op).toNat + (p.perform op).1.selections ops

/-- The replies to the requests among operations. -/
def replies (p : Pool C σ) : List (Operation C) → List (Reply C)
  | [] => []
  | op :: ops => (p.perform op).2.1.toList ++ (p.perform op).1.replies ops

section Selections

variable (p : Pool C σ) (op : Operation C) (ops ops' : List (Operation C))

theorem selections_append :
    p.selections (ops ++ ops') = p.selections ops + (p.after ops).selections ops' := by
  induction ops generalizing p with
  | nil => exact (Nat.zero_add _).symm
  | cons op ops ih => rw [List.cons_append, selections, selections, ih, after_cons, Nat.add_assoc]

/-- A selector that is not asked stays as it is. -/
theorem selector_perform_of_not_asks (h : p.asks op = false) :
    (p.perform op).1.selector = p.selector := by
  cases op with
  | get now draw =>
    have hempty : (p.roster.resurrectDue now).1.alive.isEmpty = true := by simpa [asks] using h
    exact (congrArg Pool.selector (get_fst p now draw)).trans (if_pos hempty)
  | add e connection =>
    show (p.add e connection).1.selector = _
    cases connection with
    | none => rw [add_none]
    | some c => rw [add_some_fst, accept_fst]
  | remove e =>
    show (p.remove e).1.selector = _
    rw [remove_fst]
  | markDead e now => rfl
  | markLive e => rfl

end Selections

/-! ### A stretch with the same alive nodes -/

/-- The alive nodes stay the same during operations, and there is one. -/
structure Steady (p : Pool C σ) (ops : List (Operation C)) : Prop where
  alive_ne_nil : p.roster.alive ≠ []
  ids_eq : ∀ mid, mid <+: ops →
    (p.after mid).roster.alive.map Endpoint.id = p.roster.alive.map Endpoint.id

section Steady

variable {p : Pool C σ} {op : Operation C} {ops : List (Operation C)}

theorem Steady.ids_perform (h : p.Steady (op :: ops)) :
    (p.perform op).1.roster.alive.map Endpoint.id = p.roster.alive.map Endpoint.id :=
  h.ids_eq [op] (List.prefix_append [op] ops)

theorem Steady.tail (h : p.Steady (op :: ops)) : (p.perform op).1.Steady ops where
  alive_ne_nil := by
    intro hnil
    have hids := h.ids_perform
    rw [hnil] at hids
    exact h.alive_ne_nil (List.map_eq_nil_iff.mp hids.symm)
  ids_eq mid hmid :=
    (h.ids_eq (op :: mid) ((List.prefix_cons_inj op).mpr hmid)).trans h.ids_perform.symm

end Steady

end Pool

/-! ### Selectors that take turns -/

namespace TakesTurns

variable {C σ : Type} [Selector σ] {turn : UInt64 → σ} {p : Pool C σ} {k : Nat}

theorem select_fst (hturn : TakesTurns turn) (hk : k < UInt64.size) (draw : Nat)
    {candidates : List Endpoint} (hne : candidates ≠ []) :
    (Selector.select (turn (.ofNat k)) draw candidates).1 = .index (k % candidates.length) := by
  have hlen : candidates.length ≠ 0 := mt List.length_eq_zero_iff.mp hne
  rw [hturn, BuiltIn.next, if_neg hlen, UInt64.toNat_ofNat_of_lt' hk]

theorem select_snd (hturn : TakesTurns turn) (k draw : Nat) {candidates : List Endpoint}
    (hne : candidates ≠ []) :
    (Selector.select (turn (.ofNat k)) draw candidates).2 = turn (.ofNat (k + 1)) := by
  have hlen : candidates.length ≠ 0 := mt List.length_eq_zero_iff.mp hne
  rw [hturn, BuiltIn.next, if_neg hlen, UInt64.ofNat_add]
  rfl

/-- The counter grows by one with every choice. -/
theorem selector_perform (hturn : TakesTurns turn) (hselector : p.selector = turn (.ofNat k))
    (op : Operation C) :
    (p.perform op).1.selector = turn (.ofNat (k + (p.asks op).toNat)) := by
  cases hasks : p.asks op with
  | false => exact (p.selector_perform_of_not_asks op hasks).trans hselector
  | true =>
    cases op with
    | get now draw =>
      have hempty : ¬ (p.roster.resurrectDue now).1.alive.isEmpty = true := by
        simpa [Pool.asks] using hasks
      have hne := mt List.isEmpty_iff.mpr hempty
      show (p.get now draw).1.selector = turn (.ofNat (k + 1))
      rw [Pool.get_fst]
      exact (if_neg hempty).trans (hselector ▸ hturn.select_snd k draw hne)
    | add | remove | markDead | markLive => cases hasks

/-- **The counter after a run** counts the choices of the run. -/
theorem selector_after (hturn : TakesTurns turn) (hselector : p.selector = turn (.ofNat k))
    (ops : List (Operation C)) :
    (p.after ops).selector = turn (.ofNat (k + p.selections ops)) := by
  induction ops generalizing p k with
  | nil => exact hselector
  | cons op ops ih =>
    rw [Pool.after_cons, ih (hturn.selector_perform hselector op), Pool.selections, Nat.add_assoc]

/-- A request gets the node at the place of the counter. -/
theorem reply_get (hturn : TakesTurns turn) (h : p.Sound) (hselector : p.selector = turn (.ofNat k))
    (hk : k < UInt64.size) {now : Instant} (draw : Nat)
    (hne : (p.roster.resurrectDue now).1.alive ≠ []) {n : Node C}
    (hn : (p.roster.resurrectDue now).1.aliveNodes[k %
      (p.roster.resurrectDue now).1.aliveNodes.length]? = some n) :
    (p.get now draw).2.1 = .node n := by
  have hs := h.roster.resurrectDue now
  have hselect := hselector ▸ hturn.select_fst hk draw hne
  refine Pool.get_reply_of_index p now draw hne hselect ?_
  -- the pool reads the index modulo the number once more, which changes nothing
  rw [hs.aliveAt?_eq, hs.length_aliveNodes, Nat.mod_mod, ← hs.length_aliveNodes, hn]

end TakesTurns

/-! ### Replies in turn -/

section Turns

variable {C : Type} (l : List (Node C)) (hl : 0 < l.length)

/-- The replies to `count` requests that get the nodes of a list in turn, the first of them the node
at the place `k` modulo the length. -/
def turns (k count : Nat) : List (Reply C) :=
  (List.range count).map fun i => .node (l.get ⟨(k + i) % l.length, Nat.mod_lt _ hl⟩)

variable (k j count m : Nat)

theorem length_turns : (turns l hl k count).length = count := by
  rw [turns, List.length_map, List.length_range]

theorem turns_succ :
    turns l hl k (count + 1) =
      .node (l.get ⟨k % l.length, Nat.mod_lt _ hl⟩) :: turns l hl (k + 1) count := by
  simp only [turns, List.range_succ_eq_map, List.map_cons, List.map_map, Function.comp_def,
    Nat.add_zero, Nat.succ_eq_add_one, Nat.add_comm, Nat.add_left_comm]

/-- A window of replies in turn is replies in turn. -/
theorem take_drop_turns {k j count m : Nat} (h : j + m ≤ count) :
    ((turns l hl k count).drop j).take m = turns l hl (k + j) m := by
  refine List.ext_getElem ?_ fun i _ _ => ?_
  · simp only [turns, List.length_take, List.length_drop, List.length_map, List.length_range]
    omega
  · simp only [turns, List.getElem_take, List.getElem_drop, List.getElem_map, List.getElem_range,
      Nat.add_assoc]

/-- **As many requests as there are nodes get each of them once.** -/
theorem turns_perm : (turns l hl k l.length).Perm (l.map .node) := by
  have hrotate : turns l hl k l.length = (l.rotate k).map .node := by
    refine List.ext_getElem ?_ fun i _ _ => ?_
    · rw [length_turns, List.length_map, List.length_rotate]
    · simp only [turns, List.getElem_map, List.getElem_range, List.getElem_rotate,
        List.get_eq_getElem, Nat.add_comm]
  rw [hrotate]
  exact (l.rotate_perm k).map _

/-- The places that come round to `q` are those of one residue. -/
theorem add_mod_eq_iff_modEq {k i n q : Nat} (hq : q < n) :
    (k + i) % n = q ↔ i ≡ q + (n - k % n) [MOD n] := by
  have hround : k + (q + (n - k % n)) ≡ q [MOD n] := by
    have hdiv := Nat.div_add_mod k n
    have hlt := Nat.mod_lt k (Nat.zero_lt_of_lt hq)
    have heq : k + (q + (n - k % n)) = q + n * (k / n + 1) := by
      rw [Nat.mul_add]
      omega
    rw [heq]
    exact Nat.add_mul_mod_self_left q n _
  constructor
  · intro h
    have hmod : k + i ≡ q [MOD n] := by rw [Nat.ModEq, h, Nat.mod_eq_of_lt hq]
    exact Nat.ModEq.add_left_cancel' k (hmod.trans hround.symm)
  · intro h
    have hmod : (k + i) % n = q % n := (h.add_left k).trans hround
    rw [hmod, Nat.mod_eq_of_lt hq]

/-- **Any number of requests get each node equally often**, up to one. -/
theorem countP_turns (hnodup : (l.map (·.endpoint.id)).Nodup) {n : Node C} (hn : n ∈ l) :
    (turns l hl k m).countP (Reply.isOf n.endpoint.id) = m / l.length ∨
      (turns l hl k m).countP (Reply.isOf n.endpoint.id) = (m + (l.length - 1)) / l.length := by
  obtain ⟨q, hq, rfl⟩ := List.getElem_of_mem hn
  -- identities are distinct, so a reply is of this node just if its place is `q`
  have hplace : ∀ i, Reply.isOf l[q].endpoint.id
      (.node (l.get ⟨(k + i) % l.length, Nat.mod_lt _ hl⟩)) =
        decide (i ≡ q + (l.length - k % l.length) [MOD l.length]) := by
    intro i
    rw [Reply.isOf, decide_eq_decide, ← add_mod_eq_iff_modEq hq]
    have hlt : (k + i) % l.length < (l.map (·.endpoint.id)).length := by
      rw [List.length_map]
      exact Nat.mod_lt _ hl
    have hlt' : q < (l.map (·.endpoint.id)).length := by rwa [List.length_map]
    have hinj : (l.map (·.endpoint.id))[(k + i) % l.length] = (l.map (·.endpoint.id))[q] ↔
        (k + i) % l.length = q := hnodup.getElem_inj_iff
    simpa only [List.getElem_map, List.get_eq_getElem] using hinj
  have hcount : (turns l hl k m).countP (Reply.isOf l[q].endpoint.id) =
      m.count (· ≡ q + (l.length - k % l.length) [MOD l.length]) := by
    rw [turns, List.countP_map, Nat.count]
    exact List.countP_congr fun i _ => by rw [Function.comp_apply, hplace]
  rw [hcount, Nat.count_modEq_card m hl]
  split
  · next hlt =>
    -- the last round is not complete, and has come to the node
    right
    have hdiv := Nat.div_add_mod' m l.length
    have hmod := Nat.mod_lt m hl
    refine (Nat.div_eq_of_lt_le ?_ ?_).symm
    · rw [Nat.add_mul]
      omega
    · rw [Nat.add_mul, Nat.add_mul]
      omega
  · exact .inl rfl

end Turns

/-! ### Requests of a stretch -/

section Stretch

variable {C σ : Type} [Selector σ] {turn : UInt64 → σ} {p : Pool C σ} {k : Nat}

/-- **While the alive nodes stay the same, requests get them in turn**, from the place of the counter
on. -/
theorem TakesTurns.replies_eq (hturn : TakesTurns turn) {ops : List (Operation C)} (h : p.Sound)
    (hselector : p.selector = turn (.ofNat k)) (hsteady : p.Steady ops)
    (hk : k + p.selections ops ≤ UInt64.size) (hl : 0 < p.roster.aliveNodes.length) :
    p.replies ops = turns p.roster.aliveNodes hl k (ops.countP Operation.isGet) := by
  induction ops generalizing p k with
  | nil => rfl
  | cons op ops ih =>
    have hnodes := h.aliveNodes_perform hsteady.ids_perform
    have hl' : 0 < (p.perform op).1.roster.aliveNodes.length := by rwa [hnodes]
    rw [Pool.selections, ← Nat.add_assoc] at hk
    have hrest := ih (h.perform op) (hturn.selector_perform hselector op) hsteady.tail hk hl'
    simp only [hnodes] at hrest
    cases op with
    | get now draw =>
      -- the stretch goes on with some nodes alive, so the selector is asked
      have hne : (p.roster.resurrectDue now).1.alive ≠ [] := by
        rw [← Pool.roster_perform_get p now draw]
        exact hsteady.tail.alive_ne_nil
      have hasks : p.asks (.get now draw) = true := by simpa [Pool.asks] using hne
      rw [hasks] at hk hrest
      have hlt : k < UInt64.size := Nat.lt_of_lt_of_le (Nat.lt_add_one k) (Nat.le_of_add_right_le hk)
      rw [Pool.roster_perform_get] at hnodes
      have hreply : (p.get now draw).2.1 =
          .node (p.roster.aliveNodes.get ⟨k % p.roster.aliveNodes.length, Nat.mod_lt _ hl⟩) := by
        refine hturn.reply_get h hselector hlt draw hne ?_
        rw [hnodes, List.get_eq_getElem]
        exact List.getElem?_eq_getElem (Nat.mod_lt _ hl)
      rw [List.countP_cons_of_pos rfl, turns_succ, ← hreply]
      exact congrArg _ hrest
    | add | remove | markDead | markLive => exact hrest

namespace Pool

/-- The requests among operations are served in turn, beginning at the place `k`. -/
structure InTurn (q : Pool C σ) (k : Nat) (ops : List (Operation C)) : Prop where
  /-- Some node is alive. -/
  nodes_pos : 0 < q.roster.aliveNodes.length
  /-- The requests get the alive nodes one after another. -/
  replies_eq : q.replies ops =
    turns q.roster.aliveNodes nodes_pos k (ops.countP Operation.isGet)
  /-- The alive nodes are of distinct identities. -/
  nodup : (q.roster.aliveNodes.map (·.endpoint.id)).Nodup
  /-- As many requests in a row as there are alive nodes get each of them once. -/
  perm : ∀ j, j + q.roster.aliveNodes.length ≤ ops.countP Operation.isGet →
    (((q.replies ops).drop j).take q.roster.aliveNodes.length).Perm
      (q.roster.aliveNodes.map .node)
  /-- Any number of requests in a row get each of them equally often, up to one. -/
  countP_eq : ∀ j m, j + m ≤ ops.countP Operation.isGet → ∀ n ∈ q.roster.aliveNodes,
    (((q.replies ops).drop j).take m).countP (Reply.isOf n.endpoint.id) =
        m / q.roster.aliveNodes.length ∨
      (((q.replies ops).drop j).take m).countP (Reply.isOf n.endpoint.id) =
        (m + (q.roster.aliveNodes.length - 1)) / q.roster.aliveNodes.length

/-- **The requests of a stretch are served in turn**: in a pool that was made with a selector that
takes turns, during operations that leave the alive nodes the same, from the place on that is the
number of the choices before. -/
theorem inTurn_after (hturn : TakesTurns turn) (hp : p.Created) (hselector : p.selector = turn 0)
    (ops more : List (Operation C)) (hsteady : (p.after ops).Steady more)
    (hcount : p.selections (ops ++ more) ≤ UInt64.size) :
    (p.after ops).InTurn (p.selections ops) more := by
  have hs := hp.sound.after ops
  have hl : 0 < (p.after ops).roster.aliveNodes.length := by
    rw [hs.roster.length_aliveNodes]
    exact List.length_pos_iff.mpr hsteady.alive_ne_nil
  have hnodup : ((p.after ops).roster.aliveNodes.map (·.endpoint.id)).Nodup := by
    rw [hs.roster.coherent.aliveNodes]
    exact hs.roster.coherent.alive_nodup
  have hcounter : (p.after ops).selector = turn (.ofNat (p.selections ops)) := by
    rw [hturn.selector_after (k := 0) hselector, Nat.zero_add]
  rw [selections_append] at hcount
  have hreplies := hturn.replies_eq hs hcounter hsteady hcount hl
  refine ⟨hl, hreplies, hnodup, fun j hj => ?_, fun j m hj n hn => ?_⟩
  · rw [hreplies, take_drop_turns _ hl hj]
    exact turns_perm _ hl _
  · rw [hreplies, take_drop_turns _ hl hj]
    exact countP_turns _ hl _ _ hnodup hn

/-- Three choices among two and three nodes, and a failure. -/
def threeChoices : List (Operation Nat) :=
  [.get dawn 0, .add guest (some 3), .get dawn 0, .get dawn 0, .markDead secureSeed dawn]

/-- Requests between operations that leave two nodes alive. -/
def twoAlive : List (Operation Nat) :=
  [.get noon 0, .markLive plainSeed, .get noon 0, .markDead secureSeed noon,
    .add plainSeed (some 9), .remove secureSeed, .get noon 0]

theorem steady_twoAlive : (twoInTurn.after threeChoices).Steady twoAlive where
  alive_ne_nil := by decide +kernel
  ids_eq := by
    intro mid hmid
    have hall : ∀ mid ∈ twoAlive.inits,
        ((twoInTurn.after threeChoices).after mid).roster.alive.map Endpoint.id =
          (twoInTurn.after threeChoices).roster.alive.map Endpoint.id := by
      decide +kernel
    exact hall mid ((List.mem_inits mid twoAlive).mpr hmid)

/-- The fourth choice is the second of two nodes. -/
theorem inTurn_after_threeChoices :
    TakesTurns BuiltIn.roundRobin ∧ twoInTurn.Created ∧ twoInTurn.selector = .roundRobin 0 ∧
      (twoInTurn.after threeChoices).Steady twoAlive ∧
      twoInTurn.selections (threeChoices ++ twoAlive) ≤ UInt64.size ∧
      (twoInTurn.after threeChoices).roster.aliveNodes.map (·.connection) = [1, 3] ∧
      (twoInTurn.after threeChoices).InTurn 3 twoAlive :=
  ⟨takesTurns_roundRobin, created_twoInTurn, rfl, steady_twoAlive, by decide +kernel,
    by decide +kernel,
    inTurn_after takesTurns_roundRobin created_twoInTurn rfl threeChoices twoAlive steady_twoAlive
      (by decide +kernel)⟩

end Pool

end Stretch

end EndpointPool
