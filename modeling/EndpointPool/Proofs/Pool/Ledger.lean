import EndpointPool.Proofs.Pool.Report
import EndpointPool.Proofs.Roster.Holding

/-!
# The journal of a pool

The events of a run tell who is alive, in which order, and who is dead. A ledger that starts with
the nodes of a new pool and is kept by the events alone always finds an event in place: who is added
is on neither side of it, who is removed on one of them, who is revived or resurrected among the
dead. After a run it shows the alive of the pool in the order of selection, and its dead.

## Main definitions

* `Ledger`, `Ledger.post`, `Ledger.read`: what events tell, as far as each event is in place
* `Ledger.Mirrors l s`: a ledger shows the alive of a roster in their order, and its dead
* `Pool.Journaled p ops`: the journal of a run tells where everybody stands after it

## Main results

* `Ledger.read_resurrected`: many resurrections at once
* `Ledger.Mirrors.exists_read_perform`: a ledger that mirrors the roster goes on mirroring it
* `Pool.journaled_after`: every run is journaled
-/

namespace EndpointPool

/-- Who is alive, in the order of selection, and who is dead, as far as events have told. -/
structure Ledger where
  alive : List Endpoint
  dead : List Endpoint
  deriving DecidableEq

namespace Ledger

/-- The identity of an endpoint is in a list. -/
def Lists (l : List Endpoint) (e : Endpoint) : Prop := ∃ a ∈ l, a.id = e.id

instance (l : List Endpoint) (e : Endpoint) : Decidable (Lists l e) :=
  inferInstanceAs (Decidable (∃ a ∈ l, a.id = e.id))

/-- A list without the identity of an endpoint. -/
def without (l : List Endpoint) (e : Endpoint) : List Endpoint := l.filter fun a => a.id ≠ e.id

/-- The ledger after an event, if the event is in place: who is added is neither alive nor dead,
who is removed is one of the two, and who is revived or resurrected is dead. -/
def post (l : Ledger) : Event → Option Ledger
  | .added e =>
    if Lists l.alive e ∨ Lists l.dead e then none else some ⟨l.alive ++ [e], l.dead⟩
  | .removed e =>
    if Lists l.alive e ↔ Lists l.dead e then none
    else some ⟨without l.alive e, without l.dead e⟩
  | .died e _ _ => some ⟨without l.alive e, without l.dead e ++ [e]⟩
  | .revived e | .resurrected e _ =>
    if Lists l.dead e then some ⟨l.alive ++ [e], without l.dead e⟩ else none
  | .created _ _ _ | .fellBack | .cloudIdIgnored => some l

/-- The ledger after events, if each of them is in place. -/
def read (l : Ledger) (events : List Event) : Option Ledger := events.foldlM post l

/-- A ledger shows the alive of a roster in their order, and its dead. -/
structure Mirrors {C : Type} (l : Ledger) (s : Roster C) : Prop where
  alive : l.alive = s.alive
  dead : l.dead.Perm (s.dead.map (·.endpoint))

variable {C σ : Type} {l : Ledger} {s : Roster C} {e : Endpoint}

/-! ### Reading -/

theorem read_nil (l : Ledger) : l.read [] = some l := rfl

theorem read_singleton (l : Ledger) (event : Event) : l.read [event] = l.post event := by
  simp only [read, List.foldlM_cons, List.foldlM_nil, bind_pure]

theorem read_append (l : Ledger) (events events' : List Event) :
    l.read (events ++ events') = (l.read events).bind fun m => m.read events' :=
  List.foldlM_append

/-- A request that falls back tells nothing more by it. -/
theorem read_fellBack (l : Ledger) (p : Prop) [Decidable p] :
    l.read (if p then [.fellBack] else []) = some l := by
  split <;> rfl

/-- **Many resurrections at once**: those who were dead, each of its own identity, are put behind
the alive. -/
theorem read_resurrected (failures : Quarantine → Nat) :
    ∀ {qs : List Quarantine} {l : Ledger}, (∀ q ∈ qs, Lists l.dead q.endpoint) →
      (qs.map (·.endpoint.id)).Nodup →
      l.read (qs.map fun q => .resurrected q.endpoint (failures q)) =
        some ⟨l.alive ++ qs.map (·.endpoint),
          l.dead.filter fun a => a.id ∉ qs.map (·.endpoint.id)⟩
  | [], l, _, _ => by
    simp only [List.map_nil, List.not_mem_nil, not_false_eq_true, decide_true, List.filter_true,
      List.append_nil]
    rfl
  | q :: qs, l, hdead, hnodup => by
    obtain ⟨hq, hqs⟩ := List.forall_mem_cons.mp hdead
    obtain ⟨hfresh, hnodup⟩ := List.nodup_cons.mp hnodup
    -- the others are dead still, as they are of other identities
    have hleft : ∀ r ∈ qs, Lists (without l.dead q.endpoint) r.endpoint := by
      intro r hr
      obtain ⟨a, ha, hi⟩ := hqs r hr
      refine ⟨a, List.mem_filter.mpr ⟨ha, decide_eq_true fun hia => hfresh ?_⟩, hi⟩
      exact List.mem_map.mpr ⟨r, hr, hi.symm.trans hia⟩
    have hpost : l.post (.resurrected q.endpoint (failures q)) =
        some ⟨l.alive ++ [q.endpoint], without l.dead q.endpoint⟩ := if_pos hq
    rw [List.map_cons, ← List.singleton_append, read_append, read_singleton, hpost,
      Option.bind_some, read_resurrected failures hleft hnodup, without, List.filter_filter,
      List.append_assoc]
    simp only [List.map_cons, List.mem_cons, not_or, Bool.decide_and, Bool.and_comm,
      List.singleton_append]

/-! ### One operation -/

namespace Mirrors

/-- Who is on the side of the alive is so in the roster. -/
theorem lists_alive_iff (h : l.Mirrors s) : Lists l.alive e ↔ s.aliveAs e.id ≠ [] := by
  rw [Lists, h.alive, ← List.isEmpty_eq_false_iff, List.isEmpty_eq_false_iff_exists_mem]
  simp only [Roster.mem_aliveAs]

/-- Who is on the side of the dead is so in the roster. -/
theorem lists_dead_iff (h : l.Mirrors s) : Lists l.dead e ↔ s.deadAs e.id ≠ [] := by
  rw [Lists, ← List.isEmpty_eq_false_iff, List.isEmpty_eq_false_iff_exists_mem]
  simp only [h.dead.mem_iff, List.mem_map, Roster.mem_deadAs, exists_exists_and_eq_and]

theorem without_alive (h : l.Mirrors s) (e : Endpoint) :
    without l.alive e = s.alive.filter fun a => a.id ≠ e.id := by
  rw [without, h.alive]

theorem without_dead (h : l.Mirrors s) (e : Endpoint) :
    (without l.dead e).Perm
      ((s.dead.filter fun q => q.endpoint.id ≠ e.id).map (·.endpoint)) := by
  have hfilter := h.dead.filter fun a => a.id ≠ e.id
  rwa [List.filter_map] at hfilter

/-- What is due is read off its resurrections. -/
theorem exists_read_due (h : l.Mirrors s) (hs : s.Sound) (now : Instant) :
    ∃ l', l.read ((s.due now).map fun q => .resurrected q.endpoint (s.failures q.endpoint)) =
      some l' ∧ l'.Mirrors (s.settle now) := by
  have hids := hs.nodup_ids_dead
  have hsub : (s.due now).Sublist s.dead := List.filter_sublist
  have hdead : ∀ q ∈ s.due now, Lists l.dead q.endpoint := fun q hq =>
    h.lists_dead_iff.mpr (List.ne_nil_of_mem (Roster.mem_deadAs.mpr ⟨hsub.subset hq, rfl⟩))
  refine ⟨_, read_resurrected (fun q => s.failures q.endpoint) hdead
    (hids.sublist (hsub.map _)), ?_, ?_⟩
  · exact congrArg (· ++ _) h.alive
  · -- among the dead, what is due is what has the identity of something due
    have hdue : ∀ q ∈ s.dead,
        decide (q.endpoint.id ∉ (s.due now).map (·.endpoint.id)) = decide (¬ Roster.Due now q) := by
      intro q hq
      refine decide_eq_decide.mpr (not_congr ⟨fun hi => ?_, fun hd => ?_⟩)
      · obtain ⟨q', hq', hi⟩ := List.mem_map.mp hi
        obtain rfl := List.inj_on_of_nodup_map hids (hsub.subset hq') hq hi
        exact of_decide_eq_true (List.mem_filter.mp hq').2
      · exact List.mem_map_of_mem (List.mem_filter.mpr ⟨hq, decide_eq_true hd⟩)
    have hfilter := h.dead.filter fun a => a.id ∉ (s.due now).map (·.endpoint.id)
    rwa [List.filter_map, Function.comp_def, List.filter_congr hdue] at hfilter

/-- Who is added is on neither side. -/
theorem exists_read_register (h : l.Mirrors s) (hs : s.Sound) {n : Node C}
    (hf : s.find? n.endpoint = none) :
    ∃ l', l.read [.added n.endpoint] = some l' ∧ l'.Mirrors (s.register n) := by
  obtain ⟨ha, hd⟩ := hs.of_find?_none hf
  have hneither : ¬ (Lists l.alive n.endpoint ∨ Lists l.dead n.endpoint) := by
    rw [h.lists_alive_iff, h.lists_dead_iff, ha, hd]
    simp
  refine ⟨_, (read_singleton l _).trans (if_neg hneither), ?_, h.dead⟩
  exact congrArg (· ++ _) h.alive

/-- Who is removed is on one side. -/
theorem exists_read_remove (h : l.Mirrors s) (hs : s.Sound) (e : Endpoint) :
    ∃ l', l.read (s.remove e).2 = some l' ∧ l'.Mirrors (s.remove e).1 := by
  cases hf : s.find? e with
  | none =>
    rw [Roster.remove_of_find?_none hf]
    exact ⟨l, read_nil l, h⟩
  | some r =>
    have hone : ¬ (Lists l.alive e ↔ Lists l.dead e) := by
      rw [h.lists_alive_iff, h.lists_dead_iff]
      obtain ⟨-, ⟨-, ⟨a, ha⟩, hq⟩ | ⟨q, -, -, -, ha, hq⟩⟩ := hs.of_find? hf
      · simp [ha, hq]
      · simp [ha, hq]
    rw [hs.events_remove, (hs.of_find? hf).1]
    refine ⟨_, (read_singleton l _).trans (if_neg hone), ?_, ?_⟩
    · rw [hs.alive_remove, h.without_alive]
    · rw [hs.dead_remove]
      exact h.without_dead e

/-- Who has died is on the side of the dead, wherever it was before. -/
theorem exists_read_markDead (h : l.Mirrors s) (hs : s.Sound) (b : Backoff) (e : Endpoint)
    (now : Instant) :
    ∃ l', l.read (s.markDead b e now).2 = some l' ∧ l'.Mirrors (s.markDead b e now).1 := by
  cases hf : s.find? e with
  | none =>
    rw [Roster.markDead_of_find?_none b now hf]
    exact ⟨l, read_nil l, h⟩
  | some r =>
    rw [hs.events_markDead, (hs.of_find? hf).1]
    refine ⟨_, read_singleton l _, ?_, ?_⟩
    · rw [hs.alive_markDead, h.without_alive]
    · -- no key that is left has the number, so nobody's quarantine is replaced
      rw [hs.markDead_eq b now hf]
      have hinsert := Quarantine.perm_insert (q := Roster.quarantineOf b now e r)
        (hs.not_hasKey_of_mem_displace hf (r.health.nextDeadline now b))
      refine .trans ?_ (hinsert.map _).symm
      exact (List.perm_append_singleton e _).trans ((h.without_dead e).cons e)

/-- Who is revived is on the side of the dead. -/
theorem exists_read_markLive (h : l.Mirrors s) (hs : s.Sound) (e : Endpoint) :
    ∃ l', l.read (s.markLive e).2 = some l' ∧ l'.Mirrors (s.markLive e).1 := by
  have halive := hs.alive_markLive e
  have hdead := hs.dead_markLive e
  have hwithout := h.without_dead e
  rw [hs.events_markLive]
  rcases hq : s.deadAs e.id with _ | ⟨q, _ | ⟨_, _⟩⟩
  · rw [hq, List.map_nil, List.append_nil] at halive
    rw [Roster.Sound.dead_displace hq] at hdead
    exact ⟨l, read_nil l, h.alive.trans halive.symm, hdead ▸ h.dead⟩
  · rw [hq] at halive
    rw [← hdead] at hwithout
    have hlists : Lists l.dead e := h.lists_dead_iff.mpr (hq ▸ List.cons_ne_nil q [])
    refine ⟨_, (read_singleton l _).trans (if_pos hlists), ?_, hwithout⟩
    rw [halive, h.alive]
    rfl
  · -- no identity is twice in quarantine
    have hle := (hs.standing e.id).length_le
    have hadd := (hs.standing e.id).length_add
    rw [hq, List.length_cons, List.length_cons] at hadd
    omega

variable [Selector σ] {p : Pool C σ}

/-- **A ledger that mirrors the roster reads the events of an operation, and mirrors the roster
after it.** -/
theorem exists_read_perform (h : l.Mirrors p.roster) (hp : p.Sound) (op : Operation C) :
    ∃ l', l.read (p.perform op).2.2 = some l' ∧ l'.Mirrors (p.perform op).1.roster := by
  rw [hp.events_perform]
  cases op with
  | get now draw =>
    obtain ⟨l', hread, hmirrors⟩ := h.exists_read_due hp.roster now
    refine ⟨l', ?_, ?_⟩
    · rw [Pool.report, read_append, hread, Option.bind_some, read_fellBack]
    · rwa [Pool.roster_perform_get, hp.roster.resurrectDue_eq]
  | add e connection =>
    cases connection with
    | none =>
      rw [Pool.roster_perform_add_none]
      exact ⟨l, read_nil l, h⟩
    | some c =>
      rw [Pool.roster_perform_add_some, Pool.report]
      split
      · next hwants =>
        exact h.exists_read_register (n := ⟨e, c⟩) hp.roster ((Pool.wants_iff p e).mp hwants)
      · exact ⟨l, read_nil l, h⟩
  | remove e =>
    rw [Pool.roster_perform_remove, Pool.report]
    split
    · exact ⟨l, read_nil l, h⟩
    · rw [← hp.roster.events_remove]
      exact h.exists_read_remove hp.roster e
  | markDead e now =>
    rw [Pool.report, ← hp.roster.events_markDead]
    exact h.exists_read_markDead hp.roster p.backoff e now
  | markLive e =>
    rw [Pool.report, ← hp.roster.events_markLive]
    exact h.exists_read_markLive hp.roster e

/-- A ledger that mirrors the roster reads the journal of a run, and mirrors the roster after it. -/
theorem exists_read_journal (h : l.Mirrors p.roster) (hp : p.Sound) (ops : List (Operation C)) :
    ∃ l', l.read (p.journal ops) = some l' ∧ l'.Mirrors (p.after ops).roster := by
  -- the ledger and the pool go on together, and the first operation is read first
  induction ops generalizing p l with
  | nil => exact ⟨l, read_nil l, h⟩
  | cons op ops ih =>
    obtain ⟨m, hread, hm⟩ := h.exists_read_perform hp op
    obtain ⟨l', hread', hl'⟩ := ih hm (hp.perform op)
    refine ⟨l', ?_, hl'⟩
    rw [Pool.journal, read_append, hread, Option.bind_some, hread']

end Mirrors

end Ledger

namespace Pool

variable {C σ : Type} {p : Pool C σ}

/-- The ledger of a pool that has just been made: its nodes in their order, all alive. -/
def firstLedger (p : Pool C σ) : Ledger := ⟨p.roster.nodes.map (·.endpoint), []⟩

theorem Created.mirrors_firstLedger (hp : p.Created) : p.firstLedger.Mirrors p.roster where
  alive := hp.roster_start.1.symm
  dead := by rw [hp.roster_start.2.1]; exact .refl []

variable [Selector σ]

/-- The journal of a run tells where everybody stands after it, and each operation that follows
reports what it does. -/
structure Journaled (p : Pool C σ) (ops : List (Operation C)) : Prop where
  /-- The ledger starts with the seeds, in the order in which the pool keeps them. -/
  start : p.firstLedger.alive.Perm p.seeds
  /-- Every event of the journal is in place, and the ledger shows in the end who is alive, in the
  order of selection, and who is dead. -/
  mirrors : ∃ l, p.firstLedger.read (p.journal ops) = some l ∧ l.Mirrors (p.after ops).roster
  /-- What the events of an operation say is so. -/
  faithful : ∀ op, (p.after ops).Faithful op

/-- **Every run of a new pool is journaled.** -/
theorem journaled_after (hp : p.Created) (ops : List (Operation C)) : p.Journaled ops where
  start := by
    obtain ⟨nodes, hroster, hperm, -⟩ := hp.exists_nodes
    rwa [firstLedger, hroster, Roster.nodes_ofNodes]
  mirrors := hp.mirrors_firstLedger.exists_read_journal hp.sound ops
  faithful := (hp.sound.after ops).faithful (hp.registered_after_ne_nil ops)

/-- A run that reports events of every kind: both seeds die, so a request falls back; a guest comes,
one seed is revived, the guest dies too, and is resurrected with the other seed before it goes. -/
def everyKind : List (Operation Nat) :=
  [.markDead plainSeed dawn, .markDead secureSeed dawn, .get noon 0, .add guest (some 3),
    .markLive secureSeed, .markDead guest dawn, .get dusk 0, .remove guest,
    .markDead secureSeed dusk]

theorem journaled_after_everyKind :
    twoInTurn.Created ∧ (twoInTurn.journal everyKind).length = 10 ∧
      twoInTurn.firstLedger.read (twoInTurn.journal everyKind) =
        some ⟨[plainSeed], [secureSeed]⟩ ∧
      twoInTurn.Journaled everyKind :=
  ⟨created_twoInTurn, by decide +kernel, by decide +kernel,
    journaled_after created_twoInTurn everyKind⟩

end Pool

end EndpointPool
