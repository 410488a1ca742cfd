import EndpointPool.Proofs.Pool.Presence
import EndpointPool.Proofs.Pool.Request

/-!
# What an operation reports

The events of an operation are read off the roster that it finds: a request reports each of the due
with its failures, and that it fell back if nothing is alive after them; every other operation
reports what it does, and nothing if there is nothing to do. So an event says of a failure count
what the pool counts at that moment, and where nobody changes place nothing is reported but failures
of the dead.

## Main definitions

* `Pool.report p op`: what an operation reports
* `Event.moves`: whether an event says that somebody has changed place
* `Pool.Unmoved p op`: everybody stands after an operation as before
* `Pool.Faithful p op`: what the events of an operation say is so

## Main results

* `Pool.Sound.events_perform`: the events of an operation
* `Pool.Sound.faithful`: what they say is so
-/

namespace EndpointPool

/-- Whether an event says that somebody has changed place, or has failed again. -/
def Event.moves : Event → Bool
  | .added _ | .removed _ | .died _ _ _ | .revived _ | .resurrected _ _ => true
  | .created _ _ _ | .fellBack | .cloudIdIgnored => false

namespace Roster

variable {C : Type} {s : Roster C}

/-- Each of the due is reported, with its failures. -/
theorem Sound.events_resurrectDue (h : s.Sound) (now : Instant) :
    (s.resurrectDue now).2 =
      (s.due now).map fun q => .resurrected q.endpoint (s.failures q.endpoint) := by
  have hfound : ∀ q ∈ s.due now, ((s.find? q.endpoint).map fun r =>
      Event.resurrected q.endpoint r.health.failures) =
        some (.resurrected q.endpoint (s.failures q.endpoint)) := by
    intro q hq
    obtain ⟨r, hr, hi, -⟩ := h.exists_of_mem_dead (List.mem_filter.mp hq).1
    have hf := h.find?_iff.mpr ⟨hr, hi⟩
    rw [hf, Option.map_some, failures_of_find? hf]
  refine Eq.trans ?_ ((List.filterMap_congr hfound).trans (congrFun List.filterMap_eq_map _))
  rw [due, ← takeWhile_due h.sorted]
  rfl

variable (e : Endpoint)

theorem Sound.events_remove (h : s.Sound) :
    (s.remove e).2 = (s.registeredAs e.id).map fun _ => .removed e := by
  cases hf : s.find? e with
  | none => rw [remove_of_find?_none hf, find?_eq_none_iff.mp hf, List.map_nil]
  | some r => rw [h.remove_eq hf, (h.of_find? hf).1]; rfl

theorem Sound.events_markDead (h : s.Sound) (b : Backoff) (now : Instant) :
    (s.markDead b e now).2 = (s.registeredAs e.id).map fun r =>
      .died e (r.health.fail now b).failures ((r.health.nextDeadline now b).since now) := by
  cases hf : s.find? e with
  | none => rw [markDead_of_find?_none b now hf, find?_eq_none_iff.mp hf, List.map_nil]
  | some r =>
    rw [Roster.markDead, hf, (h.of_find? hf).1]
    rfl

theorem Sound.events_markLive (h : s.Sound) :
    (s.markLive e).2 = (s.deadAs e.id).map fun _ => .revived e := by
  cases hf : s.find? e with
  | none => rw [markLive_of_find?_none hf, (h.of_find?_none hf).2, List.map_nil]
  | some r =>
    obtain ⟨-, ⟨hd, -, hq⟩ | ⟨q, hd, -, -, -, hq⟩⟩ := h.of_find? hf
    · rw [h.markLive_eq_of_alive hf hd, hq, List.map_nil]
    · rw [h.markLive_eq_of_dead hf hd, hq]
      rfl

end Roster

namespace Pool

variable {C σ : Type}

/-- What an operation reports, read off the roster that it finds. -/
def report (p : Pool C σ) : Operation C → List Event
  | .get now _ =>
    ((p.roster.due now).map fun q => .resurrected q.endpoint (p.roster.failures q.endpoint)) ++
      if (p.roster.settle now).alive = [] then [.fellBack] else []
  | .add _ none => []
  | .add e (some _) => if p.wants e then [.added e] else []
  | .remove e => if p.isSeed e then [] else (p.roster.registeredAs e.id).map fun _ => .removed e
  | .markDead e now => (p.roster.registeredAs e.id).map fun r =>
      .died e (r.health.fail now p.backoff).failures
        ((r.health.nextDeadline now p.backoff).since now)
  | .markLive e => (p.roster.deadAs e.id).map fun _ => .revived e

variable [Selector σ] {p : Pool C σ}

/-- A request falls back if nothing is alive once the due are. -/
theorem Sound.events_get (h : p.Sound) (now : Instant) (draw : Nat) :
    (p.get now draw).2.2 = p.report (.get now draw) := by
  have hs := h.roster.settle now
  have hevents := h.roster.events_resurrectDue now
  have hroster := h.roster.resurrectDue_eq now
  rcases hdue : p.roster.resurrectDue now with ⟨s, events⟩
  rw [hdue] at hevents hroster
  obtain rfl : s = p.roster.settle now := hroster
  obtain rfl : events = _ := hevents
  simp only [get, hdue, report, List.isEmpty_iff]
  split
  · rfl
  · next hne =>
    rw [List.append_nil]
    rcases hsel : Selector.select p.selector draw (p.roster.settle now).alive with
      ⟨i | _, selector⟩
    · obtain ⟨-, r, -, -, -, hat⟩ := hs.exists_aliveAt? hne i
      simp only [hat]
    · rfl

/-- **The events of an operation.** -/
theorem Sound.events_perform (h : p.Sound) (op : Operation C) :
    (p.perform op).2.2 = p.report op := by
  cases op with
  | get now draw => exact h.events_get now draw
  | add e connection =>
    show (p.add e connection).2 = _
    cases connection with
    | none => rw [add_none]; rfl
    | some c =>
      simp only [add, accept, report]
      split <;> rfl
  | remove e =>
    show (p.remove e).2 = _
    simp only [remove, report]
    split
    · rfl
    · exact h.roster.events_remove e
  | markDead e now => exact h.roster.events_markDead e p.backoff now
  | markLive e => exact h.roster.events_markLive e

/-! ### What the events say -/

/-- Everybody stands after an operation as before: registered or not, and alive or not. -/
def Unmoved (p : Pool C σ) (op : Operation C) : Prop :=
  ∀ i, (Registered i (p.perform op).1 ↔ Registered i p) ∧ (Alive i (p.perform op).1 ↔ Alive i p)

/-- What the events of an operation say is so. -/
structure Faithful (p : Pool C σ) (op : Operation C) : Prop where
  /-- Who is reported dead has been counted so many failures. -/
  died : ∀ e failures delay, .died e failures delay ∈ (p.perform op).2.2 →
    ∃ r, (p.perform op).1.roster.find? e = some r ∧ r.health.failures = failures
  /-- Every failure of a registered node is reported, be it dead already. -/
  reported : ∀ e now, op = .markDead e now → Registered e.id p →
    ∃ failures delay, .died e failures delay ∈ (p.perform op).2.2
  /-- Who is reported resurrected has been counted so many failures too. -/
  resurrected : ∀ e failures, .resurrected e failures ∈ (p.perform op).2.2 →
    ∃ r, (p.perform op).1.roster.find? e = some r ∧ r.health.failures = failures
  /-- A request reports that it fell back when what it hands out is dead; nothing else does. -/
  fellBack : .fellBack ∈ (p.perform op).2.2 ↔
    ∃ now draw n, op = .get now draw ∧ (p.perform op).2.1 = some (.node n) ∧
      n ∈ (p.perform op).1.roster.deadNodes
  /-- Where nobody changes place and nobody dead fails again, no change of place is reported. -/
  silent : p.Unmoved op →
    (∀ e now, op = .markDead e now → Registered e.id p → Alive e.id p) →
    ∀ event ∈ (p.perform op).2.2, event.moves = false

/-- A failure is reported with the count that includes it. -/
theorem Sound.failures_of_died (h : p.Sound) {op : Operation C} {e : Endpoint} {n : Nat}
    {d : Duration} (hmem : .died e n d ∈ p.report op) :
    ∃ r, (p.perform op).1.roster.find? e = some r ∧ r.health.failures = n := by
  cases op with
  | get now draw => simp [report] at hmem
  | add e' connection =>
    cases connection with
    | none => cases hmem
    | some c => simp [report] at hmem
  | remove e' => simp [report] at hmem
  | markDead e' now =>
    obtain ⟨r, hr, heq⟩ := List.mem_map.mp hmem
    obtain ⟨rfl, rfl, -⟩ := Event.died.inj heq
    refine ⟨{ r with health := r.health.fail now p.backoff }, ?_, rfl⟩
    have hone := ((h.roster.standing e'.id).of_mem hr).1
    rw [Roster.find?_eq_head?, roster_perform_markDead, (h.roster.entries_markDead _ _ _ _).1,
      if_pos rfl, hone]
    rfl
  | markLive e' => simp [report] at hmem

/-- A resurrection is reported with the count that it leaves as it was. -/
theorem Sound.failures_of_resurrected (h : p.Sound) {op : Operation C} {e : Endpoint} {n : Nat}
    (hmem : .resurrected e n ∈ p.report op) :
    ∃ r, (p.perform op).1.roster.find? e = some r ∧ r.health.failures = n := by
  cases op with
  | get now draw =>
    rcases List.mem_append.mp hmem with hmem | hmem
    · obtain ⟨q, hq, heq⟩ := List.mem_map.mp hmem
      obtain ⟨rfl, rfl⟩ := Event.resurrected.inj heq
      obtain ⟨r, hr, hi, -⟩ := h.roster.exists_of_mem_dead (List.mem_filter.mp hq).1
      have hf := h.roster.find?_iff.mpr ⟨hr, hi⟩
      refine ⟨r.settle now, ?_, ?_⟩
      · rw [roster_perform_get, h.roster.find?_resurrectDue, hf, Option.map_some]
      · rw [Roster.failures_of_find? hf]
        exact Health.failures_settle _ now
    · split at hmem
      · cases List.mem_singleton.mp hmem
      · cases hmem
  | add e' connection =>
    cases connection with
    | none => cases hmem
    | some c => simp [report] at hmem
  | remove e' => simp [report] at hmem
  | markDead e' now => simp [report] at hmem
  | markLive e' => simp [report] at hmem

/-- A request falls back if what it hands out is dead. -/
theorem Sound.fellBack_mem_report_get_iff (h : p.Sound) (hne : p.roster.registered ≠ [])
    (now : Instant) (draw : Nat) :
    .fellBack ∈ p.report (.get now draw) ↔
      ∃ n, (p.get now draw).2.1 = .node n ∧ n ∈ (p.get now draw).1.roster.deadNodes := by
  have hs := h.roster.settle now
  have hanswer := h.answer hne now draw
  have hroster : (p.get now draw).1.roster = p.roster.settle now :=
    (roster_perform_get p now draw).trans (h.roster.resurrectDue_eq now)
  have hnil : .fellBack ∈ p.report (.get now draw) ↔ (p.roster.settle now).alive = [] := by
    simp [report]
  rw [hnil, hroster]
  generalize (p.get now draw).2.1 = reply at hanswer
  generalize (p.get now draw).1.selector = selector at hanswer
  cases hanswer with
  | @chosen i _ a r hselect ha hr hd =>
    have hreg := (Roster.Sound.mem_of_find? hr).1
    refine iff_of_false (List.ne_nil_of_mem (List.mem_of_getElem? ha)) ?_
    rintro ⟨n, hn, hdead⟩
    cases hn
    obtain ⟨t, ht, heq, htd⟩ := (hs.mem_deadNodes_iff r.node).mp hdead
    -- the dead node has the identity of the alive one, so it is the alive one
    have htr := (hs.find?_iff.mpr ⟨ht, congrArg (·.endpoint.id) heq⟩).symm.trans
      (hs.find?_iff.mpr ⟨hreg, rfl⟩)
    rw [Option.some.inj htr] at htd
    exact htd hd
  | crashed hne' =>
    refine iff_of_false hne' ?_
    rintro ⟨n, hn, -⟩
    cases hn
  | @fellBack r d hnil hfirst hlater =>
    refine iff_of_true hnil ⟨r.node, rfl, (hs.mem_deadNodes_iff _).mpr ⟨r, ?_, rfl, ?_⟩⟩
    · exact (Roster.Sound.mem_of_find? hfirst.1).1
    · rw [hfirst.2.1]
      exact Option.some_ne_none d

/-- Who is reported to have changed place has done so, unless it was dead and has failed again. -/
theorem Sound.not_moves_of_unmoved (h : p.Sound) {op : Operation C} (hsame : p.Unmoved op)
    (hagain : ∀ e now, op = .markDead e now → Registered e.id p → Alive e.id p) :
    ∀ event ∈ p.report op, event.moves = false := by
  have henters : ∀ i, ¬ p.Enters i op := fun i hi =>
    have hi := (h.enters_iff op).mp hi
    hi.1 ((hsame i).2.mp hi.2)
  intro event hevent
  cases op with
  | get now draw =>
    rcases List.mem_append.mp hevent with hevent | hevent
    · obtain ⟨q, hq, -⟩ := List.mem_map.mp hevent
      obtain ⟨hdead, hdue⟩ := List.mem_filter.mp hq
      obtain ⟨r, hr, hi, hd, -⟩ := h.roster.exists_of_mem_dead hdead
      have hregistered := Roster.mem_registeredAs.mpr ⟨hr, hi⟩
      exact absurd (.resurrection hregistered hd (of_decide_eq_true hdue)) (henters q.endpoint.id)
    · split at hevent
      · rw [List.mem_singleton.mp hevent]
        rfl
      · cases hevent
  | add e connection =>
    cases connection with
    | none => cases hevent
    | some c =>
      simp only [report] at hevent
      split at hevent
      · next hwants =>
        exact absurd (.registration (wants_iff_not_registered.mp hwants)) (henters e.id)
      · cases hevent
  | remove e =>
    simp only [report] at hevent
    split at hevent
    · cases hevent
    · next hseed =>
      obtain ⟨r, hr, -⟩ := List.mem_map.mp hevent
      -- who was registered is not any more
      have hgone : ¬ Registered e.id (p.perform (.remove e)).1 := by
        rw [Registered, roster_perform_remove, if_neg hseed, (h.roster.entries_remove e _).1,
          if_pos rfl]
        exact not_not.mpr rfl
      exact absurd ((hsame e.id).1.mpr (List.ne_nil_of_mem hr)) hgone
  | markDead e now =>
    obtain ⟨r, hr, -⟩ := List.mem_map.mp hevent
    have halive := (hsame e.id).2.mpr (hagain e now rfl (List.ne_nil_of_mem hr))
    obtain ⟨r', hr', hd'⟩ := halive
    rw [roster_perform_markDead, (h.roster.entries_markDead _ _ _ _).1, if_pos rfl] at hr'
    obtain ⟨t, -, rfl⟩ := List.mem_map.mp hr'
    cases hd'
  | markLive e =>
    obtain ⟨q, hq, -⟩ := List.mem_map.mp hevent
    obtain ⟨r, hr, hd, -⟩ := (h.roster.standing e.id).exists_of_mem_dead hq
    exact absurd (.success hr (hd ▸ Option.some_ne_none _)) (henters e.id)

/-- **What the events of an operation say is so.** -/
theorem Sound.faithful (h : p.Sound) (hne : p.roster.registered ≠ []) (op : Operation C) :
    p.Faithful op := by
  constructor
  · rw [h.events_perform]
    exact fun e n d => h.failures_of_died
  · rw [h.events_perform]
    rintro e now rfl hreg
    obtain ⟨r, hr⟩ := List.exists_mem_of_ne_nil _ hreg
    exact ⟨_, _, List.mem_map_of_mem hr⟩
  · rw [h.events_perform]
    exact fun e n => h.failures_of_resurrected
  · rw [h.events_perform]
    cases op with
    | get now draw =>
      rw [h.fellBack_mem_report_get_iff hne]
      constructor
      · rintro ⟨n, hn, hdead⟩
        exact ⟨now, draw, n, rfl, congrArg some hn, hdead⟩
      · rintro ⟨-, -, n, -, hn, hdead⟩
        exact ⟨n, Option.some.inj hn, hdead⟩
    | add e connection => cases connection <;> simp [report]
    | remove | markDead | markLive => simp [report]
  · rw [h.events_perform]
    exact h.not_moves_of_unmoved

end Pool

end EndpointPool
