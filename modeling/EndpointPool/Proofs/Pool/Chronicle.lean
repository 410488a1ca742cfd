import EndpointPool.Proofs.Pool.Presence
import EndpointPool.Proofs.Pool.Since

/-!
# The listings tell the history

The order of a listing is what the operations have left of it, and tells in turn when they came.
Alive nodes are listed in the order in which they have become alive for the last time. All nodes are
listed in the order of their registrations, and dead ones in the order in which their quarantines
end. Registered are the seeds, and who was added and has not been removed since. Removed are the
endpoints whose last removal has not been followed by a registration, under the values they were
removed by.

## Main definitions

* `Pool.Idle q op`: an operation finds nothing to change among the alive nodes
* `Pool.Chronicled p ops q`: the listings of `q` tell the history of the operations since `p`

## Main results

* `Pool.Sound.addsBehind_alive`, `Pool.Sound.addsBehind_nodes`: who comes is listed last
* `Pool.Created.registered_iff`: who is registered
* `Pool.Created.mem_removed_iff`, `Pool.Created.mem_removed_iff_last`: who is removed, and under
  which value
* `Pool.chronicled_after`: the listings after any run tell its history
-/

namespace EndpointPool.Pool

variable {C σ : Type} {p : Pool C σ} {i : Endpoint.Identity} {e : Endpoint}

/-- An operation finds nothing to change among the alive nodes: it finds nothing to do, or it is a
success of a node that is alive. -/
inductive Idle (q : Pool C σ) : Operation C → Prop
  | ignored {op : Operation C} (h : q.Ignores op) : Idle q op
  | success {e : Endpoint} (h : Alive e.id q) : Idle q (.markLive e)

/-! ### One operation -/

section Operations

variable [Selector σ]

/-- An operation that finds nothing to change leaves the alive nodes as they are. -/
theorem Sound.aliveNodes_perform_of_idle (h : p.Sound) {op : Operation C} (hidle : p.Idle op) :
    (p.perform op).1.roster.aliveNodes = p.roster.aliveNodes := by
  cases hidle with
  | ignored hignores => rw [roster_perform_of_ignores hignores]
  | @success e halive =>
    -- only the failures are forgotten
    obtain ⟨r, hr, hd⟩ := halive
    have hf := h.roster.find?_iff.mpr (Roster.mem_registeredAs.mp hr)
    apply h.aliveNodes_perform
    rw [roster_perform_markLive, h.roster.markLive_eq_of_alive hf hd]
    rfl

/-- Who becomes alive is put behind the alive. -/
theorem Sound.addsBehind_alive (h : p.Sound) (op : Operation C) :
    AddsBehind Alive p op (p.roster.alive.map Endpoint.id)
      ((p.perform op).1.roster.alive.map Endpoint.id) := by
  have hchange := p.change_perform op
  generalize (p.perform op).1.roster = s at hchange
  cases hchange with
  | ignored => exact .refl
  | settled now draw =>
    rw [h.roster.resurrectDue_eq]
    refine ⟨p.roster.alive.map Endpoint.id, (p.roster.due now).map (·.endpoint.id), ?_,
      List.Sublist.refl _, fun i hi => ?_, ?_⟩
    · simp only [Roster.settle, List.map_append, List.map_map, Function.comp_def]
    · obtain ⟨q, hq, rfl⟩ := List.mem_map.mp hi
      obtain ⟨r, hr, hi, hd, -⟩ := h.roster.exists_of_mem_dead (List.mem_filter.mp hq).1
      exact h.not_alive (Roster.mem_registeredAs.mpr ⟨hr, hi⟩) (hd ▸ Option.some_ne_none _)
    · refine List.pairwise_map.mpr ((h.roster.pairwise_dead.sublist List.filter_sublist).imp ?_)
      exact fun hends => ⟨⟨now, draw, rfl⟩, hends⟩
  | registered hnot =>
    rw [Roster.register, List.map_append]
    exact .concat (List.Sublist.refl _) fun halive => hnot halive.registered
  | removed _ hf =>
    rw [h.roster.remove_eq hf]
    exact .of_sublist (List.filter_sublist.map _)
  | failed hf =>
    rw [h.roster.markDead_eq _ _ hf]
    exact .of_sublist (List.filter_sublist.map _)
  | cleared hf hd =>
    rw [h.roster.markLive_eq_of_alive hf hd]
    exact .refl
  | revived hf hd =>
    rw [h.roster.markLive_eq_of_dead hf hd, List.map_append]
    have hr := Roster.mem_registeredAs.mpr (Roster.Sound.mem_of_find? hf)
    exact .concat (List.filter_sublist.map _) (h.not_alive hr (hd ▸ Option.some_ne_none _))

/-- Who is registered is put behind the registered. -/
theorem Sound.addsBehind_nodes (h : p.Sound) (op : Operation C) :
    AddsBehind Registered p op (p.roster.nodes.map (·.endpoint.id))
      ((p.perform op).1.roster.nodes.map (·.endpoint.id)) := by
  have hchange := p.change_perform op
  generalize (p.perform op).1.roster = s at hchange
  cases hchange with
  | ignored => exact .refl
  | settled now draw =>
    rw [Roster.nodes_resurrectDue]
    exact .refl
  | registered hnot =>
    rw [Roster.nodes_register, List.map_append]
    exact .concat (List.Sublist.refl _) hnot
  | removed _ hf =>
    rw [h.roster.remove_eq hf]
    exact .of_sublist ((List.filter_sublist.map _).map _)
  | failed =>
    rw [Roster.nodes_markDead]
    exact .refl
  | cleared | revived =>
    rw [Roster.nodes_markLive]
    exact .refl

/-- What is removed is not registered, and an operation removes what it finds under the value that
it is given. -/
theorem Sound.mem_removed_perform (h : p.Sound) (op : Operation C) (e : Endpoint) :
    e ∈ (p.perform op).1.roster.removed ↔
      e ∈ p.roster.removed ∧ ¬ Registered e.id (p.perform op).1 ∨
        op = .remove e ∧ Registered e.id p ∧ ¬ Registered e.id (p.perform op).1 := by
  have habsent : e ∈ (p.perform op).1.roster.removed → ¬ Registered e.id (p.perform op).1 :=
    fun he hreg => hreg ((h.perform op).roster.removed_absent e he)
  have hchange := p.change_perform op
  simp only [Registered] at habsent ⊢
  generalize (p.perform op).1.roster = s at hchange habsent ⊢
  -- what is no removal and no registration leaves the removed as they are
  have hkept : s.removed = p.roster.removed → op ≠ .remove e →
      (e ∈ s.removed ↔ e ∈ p.roster.removed ∧ ¬ s.registeredAs e.id ≠ [] ∨
        op = .remove e ∧ p.roster.registeredAs e.id ≠ [] ∧ ¬ s.registeredAs e.id ≠ []) := by
    intro hremoved hop
    rw [hremoved] at habsent ⊢
    exact ⟨fun he => .inl ⟨he, habsent he⟩, fun hor => (hor.resolve_right fun hr => hop hr.1).1⟩
  cases hchange with
  | ignored =>
    refine ⟨fun he => .inl ⟨he, habsent he⟩, ?_⟩
    rintro (⟨he, -⟩ | ⟨-, hreg, hnot⟩)
    · exact he
    · exact absurd hreg hnot
  | settled => exact hkept rfl fun hop => by cases hop
  | @registered a c hnot =>
    refine ⟨fun he => .inl ⟨(List.mem_filter.mp he).1, habsent he⟩, ?_⟩
    rintro (⟨he, hnot'⟩ | ⟨hop, -⟩)
    · refine List.mem_filter.mpr ⟨he, decide_eq_true fun hi => hnot' ?_⟩
      rw [Roster.registeredAs_register, if_pos hi]
      exact List.append_ne_nil_of_right_ne_nil _ (List.cons_ne_nil _ _)
    · cases hop
  | @removed a r _ hf =>
    rw [h.roster.remove_eq hf] at habsent ⊢
    constructor
    · intro he
      rcases List.mem_append.mp he with hold | hnew
      · exact .inl ⟨hold, habsent he⟩
      · obtain rfl := List.mem_singleton.mp hnew
        exact .inr ⟨rfl, registered_of_find? hf, habsent he⟩
    · rintro (⟨he, -⟩ | ⟨hop, -⟩)
      · exact List.mem_append_left _ he
      · cases hop
        exact List.mem_append_right _ List.mem_cons_self
  | failed hf =>
    refine hkept ?_ fun hop => by cases hop
    rw [h.roster.markDead_eq _ _ hf]
    rfl
  | cleared hf hd =>
    refine hkept ?_ fun hop => by cases hop
    rw [h.roster.markLive_eq_of_alive hf hd]
    rfl
  | revived hf hd =>
    refine hkept ?_ fun hop => by cases hop
    rw [h.roster.markLive_eq_of_dead hf hd]
    rfl

end Operations

/-! ### Runs -/

section Runs

variable [Selector σ] {ops : List (Operation C)}

/-- The alive are in the order in which they became alive. -/
theorem Created.alive_order (hp : p.Created) (ops : List (Operation C)) :
    ((p.after ops).roster.alive.map Endpoint.id).Pairwise (CameBefore p Alive ops) :=
  pairwise_cameBefore_after (fun q => q.roster.alive.map Endpoint.id) hp.sound
    (fun hq _ => hq.mem_ids_alive_iff) hp.ids_alive_start (fun hq => hq.addsBehind_alive) ops

/-- The nodes are in the order of their registrations. -/
theorem Created.node_order (hp : p.Created) (ops : List (Operation C)) :
    ((p.after ops).roster.nodes.map (·.endpoint.id)).Pairwise (CameBefore p Registered ops) :=
  pairwise_cameBefore_after (fun q => q.roster.nodes.map (·.endpoint.id)) hp.sound
    (fun _ _ => mem_ids_nodes_iff) (List.map_map ..) (fun hq => hq.addsBehind_nodes) ops

/-- Who is no seed is registered by the last addition that no removal has followed. -/
theorem Created.registered_iff_of_not_seed (hp : p.Created) (hseed : ¬ ∃ a ∈ p.seeds, a.id = i)
    (ops : List (Operation C)) :
    Registered i (p.after ops) ↔
      ∃ before e c later, ops = before ++ .add e (some c) :: later ∧ e.id = i ∧
        ∀ a, .remove a ∈ later → a.id ≠ i := by
  have hne : ∀ a ∈ p.seeds, a.id ≠ i := fun a ha hi => hseed ⟨a, ha, hi⟩
  induction ops using List.reverseRecOn with
  | nil =>
    refine iff_of_false (mt hp.registered_start_iff.mp hseed) ?_
    rintro ⟨before, e, c, later, hnil, -⟩
    cases before <;> cases hnil
  | append_singleton ops op ih =>
    rw [after_concat, (hp.sound.after ops).registered_perform_iff, seeds_after]
    constructor
    · rintro (⟨e, c, rfl, hi⟩ | ⟨hreg, hnot⟩)
      · exact ⟨ops, e, c, [], rfl, hi, nofun⟩
      · obtain ⟨before, e, c, later, rfl, hi, hlater⟩ := ih.mp hreg
        refine ⟨before, e, c, later ++ [op], List.append_assoc .., hi, fun a ha hai => ?_⟩
        rcases List.mem_append.mp ha with ha | ha
        · exact hlater a ha hai
        · exact hnot ⟨a, (List.mem_singleton.mp ha).symm, hai, hne⟩
    · rintro ⟨before, e, c, later, heq, hi, hlater⟩
      rcases last_or_before_of_concat_eq heq with ⟨rfl, rfl, rfl⟩ | ⟨later, rfl, rfl⟩
      · exact .inl ⟨e, c, rfl, hi⟩
      · -- the addition came before, and the last operation does not take it back
        refine .inr ⟨ih.mpr ⟨before, e, c, later, rfl, hi, fun a ha => ?_⟩, ?_⟩
        · exact hlater a (List.mem_append_left _ ha)
        · rintro ⟨a, rfl, hai, -⟩
          exact hlater a (List.mem_append_right _ List.mem_cons_self) hai

/-- **Who is registered**: the seeds, and who was added and has not been removed since. -/
theorem Created.registered_iff (hp : p.Created) (ops : List (Operation C)) :
    Registered i (p.after ops) ↔ (∃ a ∈ p.seeds, a.id = i) ∨
      ∃ before e c later, ops = before ++ .add e (some c) :: later ∧ e.id = i ∧
        ∀ a, .remove a ∈ later → a.id ≠ i := by
  by_cases hseed : ∃ a ∈ p.seeds, a.id = i
  · refine iff_of_true ?_ (.inl hseed)
    obtain ⟨a, ha, rfl⟩ := hseed
    rw [← p.seeds_after ops] at ha
    exact (hp.sound.after ops).seeds a ha
  · rw [hp.registered_iff_of_not_seed hseed]
    exact (or_iff_right hseed).symm

/-- **Who is removed, and under which value**: the one of the last removal, if no registration has
followed. -/
theorem Created.mem_removed_iff (hp : p.Created) (ops : List (Operation C)) (e : Endpoint) :
    e ∈ (p.after ops).roster.removed ↔
      ∃ n, ops[n]? = some (.remove e) ∧ Since p (fun q => ¬ Registered e.id q) ops (n + 1) := by
  induction ops using List.reverseRecOn with
  | nil =>
    rw [after_nil, hp.roster_start.2.2]
    simp
  | append_singleton ops op ih =>
    rw [after_concat, (hp.sound.after ops).mem_removed_perform, ih, ← after_concat]
    simp only [since_concat_iff]
    constructor
    · rintro (⟨⟨n, hn, hsince⟩, hnot⟩ | ⟨rfl, hreg, hnot⟩)
      · rw [← List.getElem?_append_left hsince.le] at hn
        exact ⟨n, hn, .inl ⟨hsince, hnot⟩⟩
      · exact ⟨ops.length, List.getElem?_concat_length, .inr ⟨rfl, not_not.mpr hreg, hnot⟩⟩
    · rintro ⟨n, hn, ⟨hsince, hnot⟩ | ⟨rfl, hreg, hnot⟩⟩
      · rw [List.getElem?_append_left hsince.le] at hn
        exact .inl ⟨⟨n, hn, hsince⟩, hnot⟩
      · rw [List.getElem?_concat_length] at hn
        exact .inr ⟨Option.some.inj hn, not_not.mp hreg, hnot⟩

/-- **Who is removed, told from the operations**: no seed, and who was registered when it was removed
and has not been added since. -/
theorem Created.mem_removed_iff_last (hp : p.Created) (ops : List (Operation C)) (e : Endpoint) :
    e ∈ (p.after ops).roster.removed ↔
      (∀ a ∈ p.seeds, a.id ≠ e.id) ∧ ∃ before later, ops = before ++ .remove e :: later ∧
        Registered e.id (p.after before) ∧ ∀ a c, .add a (some c) ∈ later → a.id ≠ e.id := by
  induction ops using List.reverseRecOn with
  | nil =>
    rw [after_nil, hp.roster_start.2.2]
    simp
  | append_singleton ops op ih =>
    have h := hp.sound.after ops
    rw [after_concat, h.mem_removed_perform]
    constructor
    · rintro (⟨he, hnot⟩ | ⟨rfl, hreg, hnot⟩)
      · obtain ⟨hseed, before, later, rfl, hreg, hlater⟩ := ih.mp he
        refine ⟨hseed, before, later ++ [op], List.append_assoc .., hreg, fun a c ha hi => ?_⟩
        rcases List.mem_append.mp ha with ha | ha
        · exact hlater a c ha hi
        · obtain rfl := List.mem_singleton.mp ha
          exact hnot ((h.registered_perform_iff _).mpr (.inl ⟨a, c, rfl, hi⟩))
      · obtain ⟨-, e', -, -, hseed⟩ := (h.unregisters_iff _).mp ⟨hreg, hnot⟩
        rw [seeds_after] at hseed
        exact ⟨hseed, ops, [], rfl, hreg, nofun⟩
    · rintro ⟨hseed, before, later, heq, hreg, hlater⟩
      rcases last_or_before_of_concat_eq heq with ⟨rfl, rfl, rfl⟩ | ⟨later, rfl, rfl⟩
      · rw [← p.seeds_after ops] at hseed
        obtain ⟨-, hnot⟩ := (h.unregisters_iff _).mpr ⟨hreg, e, rfl, rfl, hseed⟩
        exact .inr ⟨rfl, hreg, hnot⟩
      · -- the removal came before, and the last operation does not add its identity
        have he := ih.mpr ⟨hseed, before, later, rfl, hreg, fun a c ha =>
          hlater a c (List.mem_append_left _ ha)⟩
        refine .inl ⟨he, fun hafter => ?_⟩
        rcases (h.registered_perform_iff _).mp hafter with ⟨a, c, rfl, hi⟩ | ⟨hstill, -⟩
        · exact hlater a c (List.mem_append_right _ List.mem_cons_self) hi
        · exact hstill (h.roster.removed_absent e he)

/-- Who is alive has been since the pool was made, or since an operation by which it became so. -/
theorem Sound.exists_since_alive (hp : p.Sound) (h : Alive i (p.after ops)) :
    ∃ n, Since p (Alive i) ops n ∧ ∀ m, n = m + 1 →
      ∃ op, ops[m]? = some op ∧ (p.after (ops.take m)).Enters i op := by
  obtain ⟨n, hn⟩ := exists_since h
  refine ⟨n, hn, ?_⟩
  rintro m rfl
  have hop := List.getElem?_eq_getElem hn.le
  have hlast := hn.lasts (m + 1) (Nat.le_refl _) hn.le
  rw [List.take_add_one, hop, Option.toList_some, after_concat] at hlast
  exact ⟨_, hop, ((hp.after (ops.take m)).enters_iff _).mpr ⟨hn.begins m rfl, hlast⟩⟩

/-- The numbers of the registrations are in the order in which they came. -/
theorem Created.order_lt_iff (hp : p.Created) {r t : Registration C}
    (hr : r ∈ (p.after ops).roster.registered) (ht : t ∈ (p.after ops).roster.registered) :
    r.order < t.order ↔
      CameBefore p Registered ops r.node.endpoint.id t.node.endpoint.id := by
  have horder := hp.node_order ops
  rw [Roster.nodes, List.map_map, List.pairwise_map] at horder
  have hboth := List.pairwise_iff_getElem.mp
    (horder.and (hp.sound.after ops).roster.increasing)
  obtain ⟨i, hi, rfl⟩ := List.getElem_of_mem hr
  obtain ⟨j, hj, rfl⟩ := List.getElem_of_mem ht
  -- of the two places one is the first, and both orders say which
  rcases Nat.lt_trichotomy i j with hij | rfl | hji
  · obtain ⟨hcame, hlt⟩ := hboth i j hi hj hij
    exact iff_of_true hlt hcame
  · exact iff_of_false (Nat.lt_irrefl _) fun hcame => hcame.asymm hp.sound hcame
  · obtain ⟨hcame, hlt⟩ := hboth j i hj hi hji
    exact iff_of_false (Nat.lt_asymm hlt) (hcame.asymm hp.sound)

/-- The listings of `q` tell the history of the operations that have led to it from `p`. -/
structure Chronicled (p : Pool C σ) (ops : List (Operation C)) (q : Pool C σ) : Prop where
  /-- Listed as alive are the alive nodes, in the order in which they have become so. -/
  mem_aliveNodes : ∀ n, n ∈ q.roster.aliveNodes ↔ n ∈ q.roster.nodes ∧ Alive n.endpoint.id q
  alive_order : (q.roster.aliveNodes.map (·.endpoint.id)).Pairwise (CameBefore p Alive ops)
  /-- An alive node has become so in one of the three ways, and has been since. -/
  since_alive : ∀ i, Alive i q → ∃ n, Since p (Alive i) ops n ∧ ∀ m, n = m + 1 →
    ∃ op, ops[m]? = some op ∧ (p.after (ops.take m)).Enters i op
  enters_iff : ∀ i op, q.Enters i op ↔ ¬ Alive i q ∧ Alive i (q.perform op).1
  leaves_iff : ∀ i op, q.Leaves i op ↔ Alive i q ∧ ¬ Alive i (q.perform op).1
  /-- Operations that find nothing to change leave the listing as it is. -/
  idle : ∀ op, q.Idle op → (q.perform op).1.roster.aliveNodes = q.roster.aliveNodes
  /-- Listed as dead are the other nodes, in the order in which their quarantines end, ties being
  broken by registration. -/
  mem_deadNodes : ∀ n, n ∈ q.roster.deadNodes ↔ n ∈ q.roster.nodes ∧ ¬ Alive n.endpoint.id q
  dead_order : (q.roster.deadNodes.map (·.endpoint.id)).Pairwise q.roster.EndsBefore
  order_lt_iff : ∀ r ∈ q.roster.registered, ∀ t ∈ q.roster.registered,
    (r.order < t.order ↔ CameBefore p Registered ops r.node.endpoint.id t.node.endpoint.id)
  /-- All nodes are listed in the order of their registrations. -/
  node_order : (q.roster.nodes.map (·.endpoint.id)).Pairwise (CameBefore p Registered ops)
  registers_iff : ∀ i op, ¬ Registered i q ∧ Registered i (q.perform op).1 ↔
    ¬ Registered i q ∧ ∃ e c, op = .add e (some c) ∧ e.id = i
  unregisters_iff : ∀ i op, Registered i q ∧ ¬ Registered i (q.perform op).1 ↔
    Registered i q ∧ ∃ e, op = .remove e ∧ e.id = i ∧ ∀ a ∈ p.seeds, a.id ≠ i
  /-- Registered are the seeds, and who was added and has not been removed since. -/
  registered_iff : ∀ i, Registered i q ↔ (∃ a ∈ p.seeds, a.id = i) ∨
    ∃ before e c later, ops = before ++ .add e (some c) :: later ∧ e.id = i ∧
      ∀ a, .remove a ∈ later → a.id ≠ i
  /-- What is registered, for the first time or again, is listed last. -/
  nodes_add : ∀ e c, ¬ Registered e.id q →
    (q.perform (.add e (some c))).1.roster.nodes = q.roster.nodes ++ [⟨e, c⟩]
  /-- Listed as removed are the endpoints whose removal took them from the nodes and who have not
  been registered since, under the value of that removal. -/
  mem_removed : ∀ e, e ∈ q.roster.removed ↔
    ∃ n, ops[n]? = some (.remove e) ∧ Since p (fun q => ¬ Registered e.id q) ops (n + 1)
  /-- A removal is effective if it finds its identity registered, and the identity is that of no
  seed. Removed are those whose last effective removal no addition has followed. -/
  mem_removed_iff : ∀ e, e ∈ q.roster.removed ↔ (∀ a ∈ p.seeds, a.id ≠ e.id) ∧
    ∃ before later, ops = before ++ .remove e :: later ∧ Registered e.id (p.after before) ∧
      ∀ a c, .add a (some c) ∈ later → a.id ≠ e.id
  /-- None of them is a seed, and none is listed twice. -/
  removed_ne_seed : ∀ e ∈ q.roster.removed, ∀ a ∈ p.seeds, e.id ≠ a.id
  removed_nodup : (q.roster.removed.map Endpoint.id).Nodup

/-- **The listings after any run tell its history.** -/
theorem chronicled_after (hp : p.Created) (ops : List (Operation C)) :
    Chronicled p ops (p.after ops) := by
  have h := hp.sound.after ops
  constructor
  · exact h.mem_aliveNodes_iff
  · rw [h.roster.coherent.aliveNodes]
    exact hp.alive_order ops
  · intro i halive
    exact hp.sound.exists_since_alive halive
  · intro i op
    exact h.enters_iff op
  · intro i op
    exact h.leaves_iff op
  · intro op hidle
    exact h.aliveNodes_perform_of_idle hidle
  · exact h.mem_deadNodes_iff
  · exact h.roster.pairwise_deadNodes
  · intro r hr t ht
    exact hp.order_lt_iff hr ht
  · exact hp.node_order ops
  · intro i op
    exact registers_iff op
  · intro i op
    rw [h.unregisters_iff op, seeds_after]
  · intro i
    exact hp.registered_iff ops
  · intro e c hnot
    rw [roster_perform_add_of_not_registered hnot, Roster.nodes_register]
  · exact hp.mem_removed_iff ops
  · exact hp.mem_removed_iff_last ops
  · intro e he a ha
    rw [← p.seeds_after ops] at ha
    exact (h.seed ha).2 e he
  · exact h.roster.removed_nodup

/-- The seeds fail, the second before the first, and the guest comes, goes and comes back. -/
def goings : List (Operation Nat) :=
  [.add guest (some 3), .markDead secureSeed dawn, .markDead plainSeed noon, .remove guest,
    .remove plainSeed, .get dusk 0, .add guest (some 4), .markLive secureSeed]

/-- Both seeds have come back before the guest, and in the order in which they failed. -/
theorem chronicled_after_goings :
    twoInTurn.Created ∧
      (twoInTurn.after goings).roster.aliveNodes.map (·.connection) = [2, 1, 4] ∧
      (twoInTurn.after goings).roster.nodes.map (·.connection) = [1, 2, 4] ∧
      Chronicled twoInTurn goings (twoInTurn.after goings) :=
  ⟨created_twoInTurn, by decide +kernel, by decide +kernel,
    chronicled_after created_twoInTurn goings⟩

end Runs

end EndpointPool.Pool
