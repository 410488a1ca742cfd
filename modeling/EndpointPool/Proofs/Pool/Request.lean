import EndpointPool.Proofs.Pool.Tenure

/-!
# What a request gets

A request first ends every quarantine that has run out, and forgets no failure. If a node is alive
then, the selector is asked, once, and its answer is read modulo the number of the alive nodes, so
whatever it answers names one of them; if none is, the node whose quarantine ends first is handed
out and stays in quarantine. As the seeds stay registered there is always a node to hand out, and a
request of a pool that was properly made gets one unless the selector crashes.

## Main definitions

* `Roster.EndsFirst s r d`: `r` is the node of `s` whose quarantine ends first, at `d`
* `Pool.Answer s now selector draw`: the three answers to a request at `now`, with the selector as
  it is afterwards
* `Pool.Served q now draw`: what a request at `now` does to `q`, and what it gets

## Main results

* `Roster.Sound.exists_aliveAt?`: every index names an alive node
* `Roster.Sound.exists_earliest?`: among nodes that are all dead, one's quarantine ends first
* `Pool.Sound.find?_get_of_due`, `Pool.Sound.find?_get_of_not_due`: the registered nodes after a
  request
* `Pool.Sound.answer`: the answer to a request of a sound pool
* `Pool.served_after`: what a request after any run does and gets
-/

namespace EndpointPool

namespace Roster

variable {C : Type} {s : Roster C}

/-- The quarantine of `r` ends at `deadline`, before that of any other registered node, and every
other registered node is in quarantine. -/
def EndsFirst (s : Roster C) (r : Registration C) (deadline : Instant) : Prop :=
  s.find? r.node.endpoint = some r ∧ r.health.deadline = some deadline ∧
    ∀ t ∈ s.registered, t.order ≠ r.order → ∃ d, t.health.deadline = some d ∧
      (deadline < d ∨ deadline = d ∧ r.order < t.order)

/-- Due are the registered nodes whose deadline has passed, each under its own key. -/
theorem Sound.mem_due_iff (h : s.Sound) (now : Instant) (e : Endpoint) (d : Instant) (o : Nat) :
    (∃ q ∈ s.due now, q.HasKey d o ∧ q.endpoint.id = e.id) ↔
      ∃ r, s.find? e = some r ∧ r.health.deadline = some d ∧ r.order = o ∧ d ≤ now := by
  have hdead := h.mem_dead_iff e d o
  constructor
  · rintro ⟨q, hq, hkey, hi⟩
    obtain ⟨hq, hdue⟩ := List.mem_filter.mp hq
    obtain ⟨r, hr, hd, ho⟩ := hdead.mp ⟨q, hq, hkey, hi⟩
    have hle : q.deadline ≤ now := of_decide_eq_true hdue
    exact ⟨r, hr, hd, ho, hkey.1 ▸ hle⟩
  · rintro ⟨r, hr, hd, ho, hle⟩
    obtain ⟨q, hq, hkey, hi⟩ := hdead.mpr ⟨r, hr, hd, ho⟩
    have hdue : Due now q := by rwa [Due, hkey.1]
    exact ⟨q, List.mem_filter.mpr ⟨hq, decide_eq_true hdue⟩, hkey, hi⟩

/-- **Every index names an alive node**, as long as there is one. -/
theorem Sound.exists_aliveAt? (h : s.Sound) (hne : s.alive ≠ []) (i : Nat) :
    ∃ a r, s.alive[i % s.alive.length]? = some a ∧ s.find? a = some r ∧
      r.health.deadline = none ∧ s.aliveAt? i = some r.node := by
  have hlt : i % s.alive.length < s.alive.length :=
    Nat.mod_lt _ (List.length_pos_iff.mpr hne)
  have ha : s.alive[i % s.alive.length]? = some s.alive[i % s.alive.length] :=
    List.getElem?_eq_getElem hlt
  obtain ⟨r, hr, hd⟩ := (h.mem_alive_iff _).mp ⟨_, List.getElem_mem hlt, rfl⟩
  refine ⟨_, r, ha, hr, hd, ?_⟩
  rw [aliveAt?, ha, Option.bind_eq_bind, Option.bind_some, node?, hr, Option.map_some]

/-- Where nothing is alive, every registered node is in quarantine. -/
theorem Sound.exists_mem_dead (h : s.Sound) (hnil : s.alive = []) {t : Registration C}
    (ht : t ∈ s.registered) :
    ∃ q ∈ s.dead, t.health.deadline = some q.deadline ∧ q.order = t.order := by
  have hf : s.find? t.node.endpoint = some t := h.find?_iff.mpr ⟨ht, rfl⟩
  cases hd : t.health.deadline with
  | none =>
    obtain ⟨a, ha, -⟩ := (h.mem_alive_iff _).mpr ⟨t, hf, hd⟩
    rw [hnil] at ha
    cases ha
  | some d =>
    obtain ⟨q, hq, ⟨rfl, ho⟩, -⟩ := (h.mem_dead_iff _ d t.order).mpr ⟨t, hf, hd, rfl⟩
    exact ⟨q, hq, rfl, ho⟩

/-- **Among nodes that are all dead, one's quarantine ends first**, and it is the one that is
handed out. -/
theorem Sound.exists_earliest? (h : s.Sound) (hnil : s.alive = []) (hne : s.registered ≠ []) :
    ∃ r d, s.earliest? = some r.node ∧ s.EndsFirst r d := by
  cases hdead : s.dead with
  | nil =>
    obtain ⟨t, ht⟩ := List.exists_mem_of_ne_nil _ hne
    obtain ⟨q, hq, -⟩ := h.exists_mem_dead hnil ht
    rw [hdead] at hq
    cases hq
  | cons q rest =>
    -- the quarantines are in order, so the first of them ends before all others
    have hq : q ∈ s.dead := hdead ▸ List.mem_cons_self
    have hfirst : ∀ q' ∈ rest, q.Before q' := (List.pairwise_cons.mp (hdead ▸ h.sorted)).1
    obtain ⟨r, hr, hi, hd, ho, -⟩ := h.exists_of_mem_dead hq
    refine ⟨r, q.deadline, ?_, h.find?_iff.mpr ⟨hr, rfl⟩, hd, ?_⟩
    · have hf : s.find? q.endpoint = some r := h.find?_iff.mpr ⟨hr, hi⟩
      rw [earliest?, hdead, List.head?_cons, Option.bind_eq_bind, Option.bind_some, node?, hf,
        Option.map_some]
    · intro t ht hto
      obtain ⟨q', hq', hd', ho'⟩ := h.exists_mem_dead hnil ht
      refine ⟨q'.deadline, hd', ?_⟩
      rw [hdead] at hq'
      rcases List.mem_cons.mp hq' with rfl | hq'
      · exact absurd (ho'.symm.trans ho.symm) hto
      · have hb := hfirst q' hq'
        rwa [Quarantine.Before, ← ho, ho'] at hb

end Roster

/-- A settled health has no deadline that has passed. -/
theorem Health.lt_of_deadline_settle {h : Health} {now d : Instant}
    (hd : (h.settle now).deadline = some d) : now < d := by
  cases hold : h.deadline with
  | none =>
    rw [Health.settle_of_none hold, hold] at hd
    cases hd
  | some d' =>
    rw [Health.settle_of_some hold] at hd
    split at hd
    · cases hd
    · next hle =>
      rw [hold] at hd
      cases hd
      exact Nat.lt_of_not_le hle

namespace Pool

variable {C σ : Type} [Selector σ]

/-- The answers to a request at `now` on a roster on which nothing is due any more, with the
selector as it is afterwards. -/
inductive Answer (s : Roster C) (now : Instant) (selector : σ) (draw : Nat) : Reply C → σ → Prop
  /-- The selector names an alive node by an index modulo their number. -/
  | chosen {i : Nat} {selector' : σ} {a : Endpoint} {r : Registration C}
      (hselect : Selector.select selector draw s.alive = (.index i, selector'))
      (ha : s.alive[i % s.alive.length]? = some a) (hr : s.find? a = some r)
      (hd : r.health.deadline = none) : Answer s now selector draw (.node r.node) selector'
  /-- The selector is asked about some alive nodes, and crashes. -/
  | crashed {selector' : σ} (hne : s.alive ≠ [])
      (hselect : Selector.select selector draw s.alive = (.crash, selector')) :
      Answer s now selector draw .selectorCrashed selector'
  /-- Nothing is alive: the selector is not asked, and the node whose quarantine ends first, later
  than `now`, is handed out. -/
  | fellBack {r : Registration C} {d : Instant} (hnil : s.alive = []) (hfirst : s.EndsFirst r d)
      (hlater : now < d) : Answer s now selector draw (.node r.node) selector

section Get

variable (p : Pool C σ) (now : Instant) (draw : Nat)

theorem get_reply_of_nil (hnil : (p.roster.resurrectDue now).1.alive = []) :
    (p.get now draw).2.1 = fallback (p.roster.resurrectDue now).1 := by
  simp only [get, hnil, List.isEmpty_nil, if_true]

theorem get_reply_of_crash (hne : (p.roster.resurrectDue now).1.alive ≠ [])
    (hselect : (Selector.select p.selector draw (p.roster.resurrectDue now).1.alive).1 = .crash) :
    (p.get now draw).2.1 = .selectorCrashed := by
  rcases hsel : Selector.select p.selector draw (p.roster.resurrectDue now).1.alive with ⟨c, selector⟩
  obtain rfl : c = .crash := by rwa [hsel] at hselect
  simp only [get, List.isEmpty_iff, if_neg hne, hsel]

theorem get_reply_of_index (hne : (p.roster.resurrectDue now).1.alive ≠ []) {i : Nat}
    (hselect : (Selector.select p.selector draw (p.roster.resurrectDue now).1.alive).1 = .index i)
    {n : Node C} (hn : (p.roster.resurrectDue now).1.aliveAt? i = some n) :
    (p.get now draw).2.1 = .node n := by
  rcases hsel : Selector.select p.selector draw (p.roster.resurrectDue now).1.alive with ⟨c, selector⟩
  obtain rfl : c = .index i := by rwa [hsel] at hselect
  simp only [get, List.isEmpty_iff, if_neg hne, hsel, hn]

end Get

variable {p : Pool C σ}

/-- Unless the selector is asked and crashes, the answer is a node. -/
theorem Answer.exists_node {s : Roster C} {now : Instant} {selector selector' : σ} {draw : Nat}
    {reply : Reply C} (h : Answer s now selector draw reply selector')
    (hcrash : s.alive ≠ [] → (Selector.select selector draw s.alive).1 ≠ .crash) :
    ∃ n, reply = .node n := by
  cases h with
  | chosen => exact ⟨_, rfl⟩
  | crashed hne hselect => exact absurd (congrArg Prod.fst hselect) (hcrash hne)
  | fellBack => exact ⟨_, rfl⟩

/-- A node that is handed out is registered, and in quarantine only if every node is. -/
theorem Answer.exists_find? {s : Roster C} (hs : s.Sound) {now : Instant} {selector selector' : σ}
    {draw : Nat} {n : Node C} (h : Answer s now selector draw (.node n) selector') :
    ∃ r, s.find? n.endpoint = some r ∧ r.node = n ∧ (r.health.deadline ≠ none → s.alive = []) := by
  cases h with
  | @chosen i _ a r hselect ha hr hd =>
    obtain ⟨hmem, -⟩ := Roster.Sound.mem_of_find? hr
    exact ⟨r, hs.find?_iff.mpr ⟨hmem, rfl⟩, rfl, fun hne => absurd hd hne⟩
  | @fellBack r d hnil hfirst hlater => exact ⟨r, hfirst.1, rfl, fun _ => hnil⟩

/-- Whose deadline has passed is found without it, and as before otherwise. -/
theorem Sound.find?_get_of_due (h : p.Sound) (now : Instant) (draw : Nat) {e : Endpoint}
    {r : Registration C} {d : Instant} (hr : p.roster.find? e = some r)
    (hd : r.health.deadline = some d) (hdue : d ≤ now) :
    (p.get now draw).1.roster.find? e = some { r with health := ⟨r.health.failures, none⟩ } := by
  rw [get_fst, h.roster.find?_resurrectDue, hr, Option.map_some, Registration.settle,
    Health.settle_of_some hd, if_pos hdue]
  rfl

/-- Whose deadline has not passed is found as before. -/
theorem Sound.find?_get_of_not_due (h : p.Sound) (now : Instant) (draw : Nat) {e : Endpoint}
    (hlater : ∀ r d, p.roster.find? e = some r → r.health.deadline = some d → now < d) :
    (p.get now draw).1.roster.find? e = p.roster.find? e := by
  rw [get_fst, h.roster.find?_resurrectDue]
  cases hr : p.roster.find? e with
  | none => rfl
  | some r =>
    rw [Option.map_some, Registration.settle]
    cases hd : r.health.deadline with
    | none => rw [Health.settle_of_none hd]
    | some d =>
      have hnot : ¬ d ≤ now := Nat.not_le_of_lt (hlater r d hr hd)
      rw [Health.settle_of_some hd, if_neg hnot]

/-- **A request of a sound pool is answered in one of the three ways.** -/
theorem Sound.answer (h : p.Sound) (hne : p.roster.registered ≠ []) (now : Instant) (draw : Nat) :
    Answer (p.roster.settle now) now p.selector draw (p.get now draw).2.1
      (p.get now draw).1.selector := by
  have hs := h.roster.settle now
  have heq := h.roster.resurrectDue_eq now
  rw [get_fst]
  by_cases hnil : (p.roster.settle now).alive = []
  · have hreg : (p.roster.settle now).registered ≠ [] := by
      intro hr
      exact hne (List.map_eq_nil_iff.mp hr)
    obtain ⟨r, d, hfound, hfirst⟩ := hs.exists_earliest? hnil hreg
    have hlater : now < d := by
      obtain ⟨hf, hd, -⟩ := hfirst
      obtain ⟨t, -, rfl⟩ := List.mem_map.mp (Roster.Sound.mem_of_find? hf).1
      exact Health.lt_of_deadline_settle hd
    rw [get_reply_of_nil p now draw (by rwa [heq]), fallback, heq, hfound]
    simp only [hnil, List.isEmpty_nil, if_true]
    exact .fellBack hnil hfirst hlater
  · simp only [heq, List.isEmpty_iff, if_neg hnil]
    rcases hsel : Selector.select p.selector draw (p.roster.settle now).alive with
      ⟨i | _, selector⟩
    · obtain ⟨a, r, ha, hr, hd, hat⟩ := hs.exists_aliveAt? hnil i
      rw [get_reply_of_index p now draw (by rwa [heq]) (by rw [heq, hsel]) (by rw [heq, hat])]
      exact .chosen hsel ha hr hd
    · rw [get_reply_of_crash p now draw (by rwa [heq]) (by rw [heq, hsel])]
      exact .crashed hnil hsel

/-- What a request at `now` does to a pool, and what it gets. As any type may be that of the
selectors, the selector afterwards tells how often it was asked, and about which nodes. -/
structure Served (q : Pool C σ) (now : Instant) (draw : Nat) : Prop where
  /-- What is due is in the order of the deadlines, ties being broken by registration. -/
  due_sorted : (q.roster.due now).Pairwise Quarantine.Before
  /-- Due are the registered nodes whose deadline has passed. -/
  mem_due : ∀ (e : Endpoint) (d : Instant) (o : Nat),
    (∃ x ∈ q.roster.due now, x.HasKey d o ∧ x.endpoint.id = e.id) ↔
      ∃ r, q.roster.find? e = some r ∧ r.health.deadline = some d ∧ r.order = o ∧ d ≤ now
  /-- What is due is alive again, behind what was alive; only the selector changes besides. -/
  settled : (q.get now draw).1 =
    { q with roster := q.roster.settle now, selector := (q.get now draw).1.selector }
  /-- No count of failures changes. -/
  failures_eq : ∀ e, (q.get now draw).1.roster.failures e = q.roster.failures e
  /-- What was due has no deadline any more, and is as before otherwise. -/
  find?_of_due : ∀ e r d, q.roster.find? e = some r → r.health.deadline = some d → d ≤ now →
    (q.get now draw).1.roster.find? e = some { r with health := ⟨r.health.failures, none⟩ }
  /-- What was not due is as before. -/
  find?_of_not_due : ∀ e,
    (∀ r d, q.roster.find? e = some r → r.health.deadline = some d → now < d) →
    (q.get now draw).1.roster.find? e = q.roster.find? e
  /-- The answer, and what the selector was asked for it. -/
  answer : Answer (q.roster.settle now) now q.selector draw (q.get now draw).2.1
    (q.get now draw).1.selector
  /-- Unless the selector is asked and crashes, the answer is a node. -/
  exists_node : ((q.roster.settle now).alive ≠ [] →
      (Selector.select q.selector draw (q.roster.settle now).alive).1 ≠ .crash) →
    ∃ n, (q.get now draw).2.1 = .node n
  /-- A node that is handed out is registered, and in quarantine only if every node is. -/
  registered : ∀ n, (q.get now draw).2.1 = .node n →
    ∃ r, (q.get now draw).1.roster.find? n.endpoint = some r ∧ r.node = n ∧
      (r.health.deadline ≠ none → (q.get now draw).1.roster.alive = [])
  /-- A node that is handed out is not removed. -/
  not_removed : ∀ n, (q.get now draw).2.1 = .node n →
    ∀ a ∈ (q.get now draw).1.roster.removed, a.id ≠ n.endpoint.id

/-- **Every request of a pool, after any run, is served.** -/
theorem served_after {p : Pool C σ} (hp : p.Created) (ops : List (Operation C)) (now : Instant)
    (draw : Nat) : (p.after ops).Served now draw := by
  have h := hp.sound.after ops
  have hs := h.roster.settle now
  have hanswer := h.answer (hp.registered_after_ne_nil ops) now draw
  have hroster : ((p.after ops).get now draw).1.roster = (p.after ops).roster.settle now := by
    rw [get_fst, h.roster.resurrectDue_eq]
  have hfound : ∀ n, ((p.after ops).get now draw).2.1 = .node n →
      ∃ r, ((p.after ops).roster.settle now).find? n.endpoint = some r ∧ r.node = n ∧
        (r.health.deadline ≠ none → ((p.after ops).roster.settle now).alive = []) := by
    intro n hn
    rw [hn] at hanswer
    exact hanswer.exists_find? hs
  constructor
  · exact h.roster.sorted.filter _
  · exact h.roster.mem_due_iff now
  · rw [get_fst, h.roster.resurrectDue_eq]
  · exact h.failures_get now draw
  · intro e r d hr hd hdue
    exact h.find?_get_of_due now draw hr hd hdue
  · intro e hlater
    exact h.find?_get_of_not_due now draw hlater
  · exact hanswer
  · exact hanswer.exists_node
  · rwa [hroster]
  · intro n hn a ha hi
    rw [hroster] at ha
    obtain ⟨r, hr, -⟩ := hfound n hn
    have hnil := hs.removed_absent a ha
    rw [hi, (hs.of_find? hr).1] at hnil
    cases hnil

/-- Both nodes have failed at dawn, and at noon none is alive yet. -/
theorem served_after_tiedFailures :
    twoInTurn.Created ∧ ((twoInTurn.after tiedFailures).get noon 0).1.roster.alive = [] ∧
      (twoInTurn.after tiedFailures).Served noon 0 :=
  ⟨created_twoInTurn, by decide +kernel, served_after created_twoInTurn tiedFailures noon 0⟩

end Pool

end EndpointPool
