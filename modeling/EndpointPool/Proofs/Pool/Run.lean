import EndpointPool.Proofs.Pool.Creation
import EndpointPool.Proofs.Roster.Coherence

/-!
# Runs of a pool

A run is a list of operations, performed one after another on a pool that has just been made. What
an operation does to the roster does not depend on the selector; the seeds, the backoff and the
name of the selector never change. Every operation keeps the roster sound and the seeds registered,
so every run does.

## Main definitions

* `Pool.after p ops`, `Pool.journal p ops`: the pool after operations, and the events they emit
* `Pool.Sound`: the roster is sound, and every seed is registered in it

## Main results

* `Pool.roster_perform_get`, `Pool.roster_perform_add_some`, `Pool.roster_perform_remove`,
  `Pool.roster_perform_markDead`, `Pool.roster_perform_markLive`: the roster after an operation
* `Pool.Created.sound`, `Pool.Sound.perform`, `Pool.Sound.after`: soundness is kept
* `Pool.coherent_after`: after every run the accounts of the pool agree
-/

namespace EndpointPool

/-- A member of a history is the last one, or stands before the last. -/
theorem last_or_before_of_concat_eq {α : Type} {l before later : List α} {a b : α}
    (h : l ++ [a] = before ++ b :: later) :
    (later = [] ∧ l = before ∧ a = b) ∨
      ∃ rest, later = rest ++ [a] ∧ l = before ++ b :: rest := by
  rcases List.eq_nil_or_concat later with rfl | ⟨rest, c, rfl⟩
  · obtain ⟨hl, hab⟩ := List.append_inj' h rfl
    exact .inl ⟨rfl, hl, List.singleton_inj.mp hab⟩
  · rw [List.concat_eq_append] at h ⊢
    rw [← List.cons_append, ← List.append_assoc] at h
    obtain ⟨hl, hac⟩ := List.append_inj' h rfl
    exact .inr ⟨rest, by rw [hac], hl⟩

/-- Whether an event is the addition of a node. -/
def Event.isAddition : Event → Bool
  | .added _ => true
  | _ => false

namespace Pool

variable {C σ : Type}

/-! ### One operation -/

section Operations

variable (p : Pool C σ) (e : Endpoint) (n : Node C) (c : C)

theorem wants_iff : p.wants e = true ↔ p.roster.find? e = none := by
  rw [wants, Option.isNone_iff_eq_none]

theorem isSeed_iff : p.isSeed e = true ↔ ∃ s ∈ p.seeds, s.id = e.id := by
  simp [isSeed]

theorem accept_fst :
    (p.accept n).1 =
      { p with roster := if p.wants n.endpoint then p.roster.register n else p.roster } := by
  unfold accept
  split <;> rfl

theorem add_some_fst : (p.add e (some c)).1 = (p.accept ⟨e, c⟩).1 := by
  unfold add
  split
  · rfl
  · next hw => rw [accept_fst, if_neg hw]

theorem add_none : p.add e none = (p, []) := by
  unfold add
  split <;> rfl

theorem remove_fst :
    (p.remove e).1 =
      { p with roster := if p.isSeed e then p.roster else (p.roster.remove e).1 } := by
  unfold remove
  split <;> rfl

/-- A request resurrects what is due, and asks the selector once if any node is alive then. -/
theorem get_fst [Selector σ] (now : Instant) (draw : Nat) :
    (p.get now draw).1 =
      { p with
        roster := (p.roster.resurrectDue now).1
        selector :=
          if (p.roster.resurrectDue now).1.alive.isEmpty then p.selector
          else (Selector.select p.selector draw (p.roster.resurrectDue now).1.alive).2 } := by
  rcases hs : p.roster.resurrectDue now with ⟨s, events⟩
  simp only [get, hs]
  split
  · rfl
  · rcases hsel : Selector.select p.selector draw s.alive with ⟨_ | _, selector⟩
    · simp only
      split <;> rfl
    · rfl

/-- An operation changes the roster and the selector only. -/
theorem exists_perform_eq [Selector σ] (op : Operation C) :
    ∃ s selector, (p.perform op).1 = { p with roster := s, selector } := by
  cases op with
  | get now draw => exact ⟨_, _, get_fst p now draw⟩
  | add e connection =>
    cases connection with
    | none => exact ⟨p.roster, p.selector, congrArg Prod.fst (add_none p e)⟩
    | some c => exact ⟨_, p.selector, (add_some_fst p e c).trans (accept_fst p ⟨e, c⟩)⟩
  | remove e => exact ⟨_, p.selector, remove_fst p e⟩
  | markDead e now => exact ⟨_, p.selector, rfl⟩
  | markLive e => exact ⟨_, p.selector, rfl⟩

/-! ### The roster after an operation -/

section Roster

variable [Selector σ] (now : Instant) (draw : Nat)

theorem roster_perform_get :
    (p.perform (.get now draw)).1.roster = (p.roster.resurrectDue now).1 :=
  congrArg Pool.roster (get_fst p now draw)

theorem roster_perform_add_none : (p.perform (.add e none)).1.roster = p.roster :=
  congrArg (fun r => r.1.roster) (add_none p e)

theorem roster_perform_add_some :
    (p.perform (.add e (some c))).1.roster =
      if p.wants e then p.roster.register ⟨e, c⟩ else p.roster :=
  congrArg Pool.roster ((add_some_fst p e c).trans (accept_fst p ⟨e, c⟩))

theorem roster_perform_remove :
    (p.perform (.remove e)).1.roster = if p.isSeed e then p.roster else (p.roster.remove e).1 :=
  congrArg Pool.roster (remove_fst p e)

theorem roster_perform_markDead :
    (p.perform (.markDead e now)).1.roster = (p.roster.markDead p.backoff e now).1 := rfl

theorem roster_perform_markLive :
    (p.perform (.markLive e)).1.roster = (p.roster.markLive e).1 := rfl

end Roster

end Operations

/-! ### Runs -/

section Runs

variable [Selector σ]

/-- The pool after operations, one after another. -/
def after (p : Pool C σ) (ops : List (Operation C)) : Pool C σ :=
  ops.foldl (fun p op => (p.perform op).1) p

/-- The events of operations, one after another. -/
def journal (p : Pool C σ) : List (Operation C) → List Event
  | [] => []
  | op :: ops => (p.perform op).2.2 ++ (p.perform op).1.journal ops

variable (p : Pool C σ) (op : Operation C) (ops ops' : List (Operation C))

@[simp] theorem after_nil : p.after [] = p := rfl

@[simp] theorem after_cons : p.after (op :: ops) = (p.perform op).1.after ops := rfl

theorem after_append : p.after (ops ++ ops') = (p.after ops).after ops' := List.foldl_append

theorem after_concat : p.after (ops ++ [op]) = ((p.after ops).perform op).1 := after_append p ops [op]

/-- A run changes the roster and the selector only. -/
theorem exists_after_eq :
    ∃ s selector, p.after ops = { p with roster := s, selector } := by
  induction ops using List.reverseRecOn with
  | nil => exact ⟨p.roster, p.selector, rfl⟩
  | append_singleton ops op ih =>
    obtain ⟨s, selector, h⟩ := ih
    obtain ⟨t, selector', h'⟩ := exists_perform_eq (p.after ops) op
    exact ⟨t, selector', by rw [after_concat, h', h]⟩

theorem seeds_perform : (p.perform op).1.seeds = p.seeds := by
  obtain ⟨s, selector, h⟩ := exists_perform_eq p op
  rw [h]

theorem seeds_after : (p.after ops).seeds = p.seeds := by
  obtain ⟨s, selector, h⟩ := exists_after_eq p ops
  rw [h]

theorem backoff_after : (p.after ops).backoff = p.backoff := by
  obtain ⟨s, selector, h⟩ := exists_after_eq p ops
  rw [h]

end Runs

/-! ### Soundness -/

/-- The roster is sound, and every seed is registered in it. -/
structure Sound (p : Pool C σ) : Prop where
  roster : p.roster.Sound
  seeds : ∀ e ∈ p.seeds, p.roster.registeredAs e.id ≠ []

section Sound

variable {p : Pool C σ}

theorem Created.sound (h : p.Created) : p.Sound := by
  obtain ⟨nodes, hroster, hperm, -, hnodup⟩ := h.exists_nodes
  have hids : (nodes.map (·.endpoint.id)).Perm (p.seeds.map Endpoint.id) := by
    simpa [Function.comp_def] using hperm.map Endpoint.id
  refine ⟨hroster ▸ Roster.sound_ofNodes (hids.nodup_iff.mpr hnodup), ?_⟩
  -- a seed is the endpoint of one of the nodes, which is registered
  intro e he hnil
  obtain ⟨n, hn, rfl⟩ := List.mem_map.mp (hperm.mem_iff.mpr he)
  rw [← Roster.nodes_ofNodes nodes] at hn
  obtain ⟨r, hr, rfl⟩ := List.mem_map.mp hn
  have hm := Roster.mem_registeredAs.mpr ⟨hr, rfl⟩
  rw [← hroster, hnil] at hm
  cases hm

/-- A seed is found, and is not among the removed. -/
theorem Sound.seed (h : p.Sound) {e : Endpoint} (he : e ∈ p.seeds) :
    p.roster.find? e ≠ none ∧ ∀ a ∈ p.roster.removed, a.id ≠ e.id := by
  have hne := h.seeds e he
  constructor
  · intro hf
    exact hne (Roster.find?_eq_none_iff.mp hf)
  · intro a ha hi
    apply hne
    rw [← hi]
    exact h.roster.removed_absent a ha

/-- A sound pool that has a seed has a registered node. -/
theorem Sound.registered_ne_nil (h : p.Sound) (hne : p.seeds ≠ []) : p.roster.registered ≠ [] := by
  obtain ⟨e, he⟩ := List.exists_mem_of_ne_nil _ hne
  intro hnil
  apply (h.seed he).1
  rw [Roster.find?, hnil]
  rfl

variable [Selector σ]

/-- Every operation keeps the roster of a sound pool sound. -/
theorem Sound.roster_perform (h : p.Sound) (op : Operation C) : (p.perform op).1.roster.Sound := by
  cases op with
  | get now draw =>
    rw [roster_perform_get]
    exact h.roster.resurrectDue now
  | add e connection =>
    cases connection with
    | none =>
      rw [roster_perform_add_none]
      exact h.roster
    | some c =>
      rw [roster_perform_add_some]
      split
      · next hw => exact h.roster.register ((wants_iff p e).mp hw)
      · exact h.roster
  | remove e =>
    rw [roster_perform_remove]
    split
    · exact h.roster
    · exact h.roster.remove e
  | markDead e now => exact h.roster.markDead p.backoff now e
  | markLive e => exact h.roster.markLive e

/-- No operation takes the registration of a seed. -/
theorem Sound.seeds_perform (h : p.Sound) (op : Operation C) {a : Endpoint} (ha : a ∈ p.seeds) :
    (p.perform op).1.roster.registeredAs a.id ≠ [] := by
  have hne := h.seeds a ha
  -- a change of healths takes no registration
  have hmap : ∀ {f : Registration C → Registration C}, (p.roster.registeredAs a.id).map f ≠ [] := by
    intro f hnil
    exact hne (List.map_eq_nil_iff.mp hnil)
  cases op with
  | get now draw =>
    rw [roster_perform_get, (h.roster.entries_resurrectDue now a.id).1]
    exact hmap
  | add e connection =>
    cases connection with
    | none => rwa [roster_perform_add_none]
    | some c =>
      rw [roster_perform_add_some]
      split
      · rw [Roster.registeredAs_register]
        split
        · exact List.append_ne_nil_of_right_ne_nil _ (List.cons_ne_nil _ _)
        · exact hne
      · exact hne
  | remove e =>
    rw [roster_perform_remove]
    split
    · exact hne
    · next hseed =>
      -- the endpoint is no seed, so it has another identity than this one
      have hi : a.id ≠ e.id := by
        intro hi
        exact hseed ((isSeed_iff p e).mpr ⟨a, ha, hi⟩)
      rw [(h.roster.entries_remove e a.id).1, if_neg hi]
      exact hne
  | markDead e now =>
    rw [roster_perform_markDead, (h.roster.entries_markDead p.backoff now e a.id).1]
    split
    · exact hmap
    · exact hne
  | markLive e =>
    rw [roster_perform_markLive, (h.roster.entries_markLive e a.id).1]
    split
    · exact hmap
    · exact hne

/-- Every operation keeps a pool sound. -/
theorem Sound.perform (h : p.Sound) (op : Operation C) : (p.perform op).1.Sound where
  roster := h.roster_perform op
  seeds := by
    intro a ha
    rw [Pool.seeds_perform] at ha
    exact h.seeds_perform op ha

/-- Every run keeps a pool sound. -/
theorem Sound.after (h : p.Sound) (ops : List (Operation C)) : (p.after ops).Sound := by
  induction ops using List.reverseRecOn with
  | nil => exact h
  | append_singleton ops op ih =>
    rw [after_concat]
    exact ih.perform op

/-- A run of a new pool never leaves it without a registered node. -/
theorem Created.registered_after_ne_nil (h : p.Created) (ops : List (Operation C)) :
    (p.after ops).roster.registered ≠ [] := by
  obtain ⟨-, -, -, hne, -⟩ := h.exists_nodes
  apply (h.sound.after ops).registered_ne_nil
  rwa [seeds_after]

end Sound

/-! ### The number of registrations -/

section Registrations

variable (p : Pool C σ)

/-- A request emits resurrections, and at most the fallback after them. -/
theorem exists_events_get [Selector σ] (now : Instant) (draw : Nat) :
    ∃ last, (p.get now draw).2.2 = (p.roster.resurrectDue now).2 ++ last ∧
      (last = [] ∨ last = [.fellBack]) := by
  rcases hs : p.roster.resurrectDue now with ⟨s, events⟩
  simp only [get, hs]
  split
  · exact ⟨_, rfl, .inr rfl⟩
  · rcases hsel : Selector.select p.selector draw s.alive with ⟨i | _, selector⟩
    · simp only
      split
      · exact ⟨[], (List.append_nil _).symm, .inl rfl⟩
      · exact ⟨_, rfl, .inr rfl⟩
    · exact ⟨[], (List.append_nil _).symm, .inl rfl⟩

/-- A request adds nothing. -/
theorem countP_isAddition_get [Selector σ] (now : Instant) (draw : Nat) :
    (p.get now draw).2.2.countP Event.isAddition = 0 := by
  obtain ⟨last, hevents, hlast⟩ := exists_events_get p now draw
  apply List.countP_eq_zero.mpr
  intro ev hev
  rw [hevents, List.mem_append] at hev
  rcases hev with hev | hev
  · obtain ⟨q, -, hq⟩ := List.mem_filterMap.mp hev
    obtain ⟨r, -, rfl⟩ := Option.map_eq_some_iff.mp hq
    exact Bool.false_ne_true
  · rcases hlast with rfl | rfl
    · cases hev
    · obtain rfl := List.mem_singleton.mp hev
      exact Bool.false_ne_true

theorem nextOrder_accept (n : Node C) :
    (p.accept n).1.roster.nextOrder =
      p.roster.nextOrder + (p.accept n).2.countP Event.isAddition := by
  unfold accept
  split <;> rfl

/-- The next number grows with every addition, and with nothing else. -/
theorem nextOrder_perform [Selector σ] (op : Operation C) :
    (p.perform op).1.roster.nextOrder =
      p.roster.nextOrder + (p.perform op).2.2.countP Event.isAddition := by
  cases op with
  | get now draw =>
    show (p.get now draw).1.roster.nextOrder = _ + (p.get now draw).2.2.countP _
    rw [get_fst, countP_isAddition_get]
    rfl
  | add e connection =>
    show (p.add e connection).1.roster.nextOrder = _ + (p.add e connection).2.countP _
    unfold add
    split
    · cases connection with
      | none => rfl
      | some c => exact nextOrder_accept p ⟨e, c⟩
    · rfl
  | remove e =>
    show (p.remove e).1.roster.nextOrder = _ + (p.remove e).2.countP _
    unfold remove Roster.remove
    split
    · rfl
    · cases p.roster.find? e with
      | none => rfl
      | some r => exact Roster.nextOrder_vacate p.roster r
  | markDead e now =>
    show (p.roster.markDead p.backoff e now).1.nextOrder =
      _ + (p.roster.markDead p.backoff e now).2.countP _
    unfold Roster.markDead
    cases p.roster.find? e with
    | none => rfl
    | some r => exact Roster.nextOrder_vacate p.roster r
  | markLive e =>
    show (p.roster.markLive e).1.nextOrder = _ + (p.roster.markLive e).2.countP _
    unfold Roster.markLive
    cases p.roster.find? e with
    | none => rfl
    | some r =>
      -- only a node that was dead leaves a place
      simp only
      split
      · rfl
      · exact Roster.nextOrder_vacate (p.roster.setHealth e r.health.succeed) r

/-- The next number counts the registrations since the roster was empty. -/
theorem nextOrder_after [Selector σ] (ops : List (Operation C)) :
    (p.after ops).roster.nextOrder =
      p.roster.nextOrder + (p.journal ops).countP Event.isAddition := by
  induction ops generalizing p with
  | nil => rfl
  | cons op ops ih =>
    rw [after_cons, ih, nextOrder_perform, journal, List.countP_append, Nat.add_assoc]

theorem Created.nextOrder_eq {p : Pool C σ} (h : p.Created) :
    p.roster.nextOrder = p.seeds.length := by
  obtain ⟨nodes, hroster, hperm, -⟩ := h.exists_nodes
  rw [hroster, Roster.ofNodes_eq, ← hperm.length_eq, List.length_map]

end Registrations

/-! ### The accounts after a run -/

section Coherence

variable [Selector σ]

/-- **After every run the accounts of a pool agree**: the alive and the dead partition the
registered nodes, each of the dead under the key of its deadline and its number; the numbers in a
pool count all its registrations; and every seed stays registered. -/
theorem coherent_after {p : Pool C σ} (hp : p.Created) (ops : List (Operation C)) :
    (p.after ops).roster.Coherent ∧
      (p.after ops).stats.total = (p.after ops).stats.alive + (p.after ops).stats.dead ∧
      (p.after ops).roster.nextOrder =
        p.seeds.length + (p.journal ops).countP Event.isAddition ∧
      (p.after ops).roster.registered ≠ [] ∧
      ∀ e ∈ p.seeds, (p.after ops).roster.find? e ≠ none ∧
        ∀ a ∈ (p.after ops).roster.removed, a.id ≠ e.id := by
  have hs := hp.sound.after ops
  refine ⟨hs.roster.coherent, ?_, ?_, hp.registered_after_ne_nil ops, fun e he => ?_⟩
  · -- the partition, counted
    have hlen := hs.roster.perm_alive_dead.length_eq
    rw [List.length_append, List.length_map, List.length_map, List.length_map] at hlen
    exact hlen.symm
  · rw [nextOrder_after, hp.nextOrder_eq]
  · rw [← seeds_after p ops] at he
    exact hs.seed he

/-- Two failures at one instant, an addition that crashes and one that does not, and a removal. -/
def tiedFailures : List (Operation Nat) :=
  [.markDead plainSeed dawn, .markDead secureSeed dawn, .add guest none, .add guest (some 3),
    .get dawn 7, .remove guest]

theorem coherent_after_tiedFailures :
    twoInTurn.Created ∧ (twoInTurn.after tiedFailures).roster.dead.map (·.order) = [0, 1] ∧
      (twoInTurn.after tiedFailures).roster.Coherent ∧
      (twoInTurn.after tiedFailures).stats.total =
        (twoInTurn.after tiedFailures).stats.alive + (twoInTurn.after tiedFailures).stats.dead ∧
      (twoInTurn.after tiedFailures).roster.nextOrder =
        twoInTurn.seeds.length + (twoInTurn.journal tiedFailures).countP Event.isAddition ∧
      (twoInTurn.after tiedFailures).roster.registered ≠ [] ∧
      ∀ e ∈ twoInTurn.seeds, (twoInTurn.after tiedFailures).roster.find? e ≠ none ∧
        ∀ a ∈ (twoInTurn.after tiedFailures).roster.removed, a.id ≠ e.id :=
  ⟨created_twoInTurn, by decide +kernel, coherent_after created_twoInTurn tiedFailures⟩

end Coherence

end Pool

end EndpointPool
