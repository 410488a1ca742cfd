import EndpointPool.Proofs.Pool.Presence

/-!
# Under which parameters a node is listed

The alive entries and the quarantines are endpoints, and only their identities are ever compared. An
entry is that of a registered node, but it need not have the parameters of that node: who marks a
node names it by an endpoint, and the entry that moves is that endpoint from then on. During a
tenure the entry is therefore the endpoint of the last mark that moved it, and the endpoint of the
registration before any. A selector sees the parameters of the node that it chooses as long as all
marks since the registration name the node by its own endpoint.

## Main definitions

* `Roster.entries`, `Roster.entriesAs s i`: the endpoints listed as alive or dead
* `Operation.mark? op`, `Operation.marks i ops`: the endpoints under which a node is marked
* `Pool.moves q i ops`: those among them that move the entry of an identity
* `Pool.Traced p ops q`: where the entries of `q` come from

## Main results

* `Pool.Sound.entriesAs_perform`: the entry of a node after an operation
* `Pool.Tenure.entriesAs`: the entry of a node at the end of a tenure
* `Pool.traced_after`: the entries after any run are those of the last marks
* `Pool.entry_ne_registered_staleMark`: they need not have the parameters of their nodes
-/

namespace EndpointPool

variable {C σ : Type}

namespace Roster

/-- The endpoints listed as alive or dead. -/
def entries (s : Roster C) : List Endpoint := s.alive ++ s.dead.map (·.endpoint)

/-- The endpoints of an identity listed as alive or dead. -/
def entriesAs (s : Roster C) (i : Endpoint.Identity) : List Endpoint :=
  s.aliveAs i ++ (s.deadAs i).map (·.endpoint)

theorem mem_entriesAs {s : Roster C} {i : Endpoint.Identity} {a : Endpoint} :
    a ∈ s.entriesAs i ↔ a ∈ s.entries ∧ a.id = i := by
  simp only [entriesAs, entries, List.mem_append, List.mem_map, mem_aliveAs, mem_deadAs, or_and_right]
  refine or_congr_right ⟨?_, ?_⟩
  · rintro ⟨q, ⟨hq, hi⟩, rfl⟩
    exact ⟨⟨q, hq, rfl⟩, hi⟩
  · rintro ⟨⟨q, hq, rfl⟩, hi⟩
    exact ⟨q, ⟨hq, hi⟩, rfl⟩

/-- The end of a quarantine leaves the entry as it is. -/
theorem Sound.entriesAs_resurrectDue {s : Roster C} (h : s.Sound) (now : Instant)
    (i : Endpoint.Identity) : (s.resurrectDue now).1.entriesAs i = s.entriesAs i := by
  obtain ⟨-, ha, hd⟩ := h.entries_resurrectDue now i
  rw [entriesAs, ha, hd, entriesAs]
  have hs := h.standing i
  generalize s.registeredAs i = regs at hs
  generalize s.aliveAs i = eps at hs ⊢
  generalize s.deadAs i = qs at hs ⊢
  cases hs with
  | absent | alive => rfl
  | @dead r q hdead ho hf =>
    by_cases hdue : Due now q
    · simp [hdue]
    · simp [hdue]

end Roster

namespace Operation

/-- The endpoint under which an operation marks a node. -/
def mark? : Operation C → Option Endpoint
  | .markDead e _ | .markLive e => some e
  | .get _ _ | .add _ _ | .remove _ => none

/-- The endpoints under which operations mark the node of an identity. -/
def marks (i : Endpoint.Identity) (ops : List (Operation C)) : List Endpoint :=
  (ops.filterMap mark?).filter fun e => e.id = i

end Operation

namespace Pool

/-- The endpoint to which an operation moves the entry of an identity: a failure moves it always, a
success if it is in quarantine. -/
def movedTo? (q : Pool C σ) (i : Endpoint.Identity) : Operation C → Option Endpoint
  | .markDead e _ => if e.id = i then some e else none
  | .markLive e => if e.id = i ∧ q.roster.deadAs i ≠ [] then some e else none
  | .get _ _ | .add _ _ | .remove _ => none

variable [Selector σ]

/-- The endpoints to which operations move the entry of an identity, in order. -/
def moves (q : Pool C σ) (i : Endpoint.Identity) : List (Operation C) → List Endpoint
  | [] => []
  | op :: ops => (q.movedTo? i op).toList ++ (q.perform op).1.moves i ops

section Moves

variable (q : Pool C σ) (i : Endpoint.Identity) (op : Operation C) (ops : List (Operation C))

theorem moves_concat :
    q.moves i (ops ++ [op]) = q.moves i ops ++ ((q.after ops).movedTo? i op).toList := by
  induction ops generalizing q with
  | nil => simp [moves]
  | cons op' ops ih => rw [List.cons_append, moves, moves, ih, after_cons, List.append_assoc]

/-- What moves an entry is a mark. -/
theorem moves_subset_marks : q.moves i ops ⊆ Operation.marks i ops := by
  induction ops generalizing q with
  | nil => exact List.nil_subset _
  | cons op ops ih =>
    have hmark : ∀ a, q.movedTo? i op = some a → op.mark? = some a ∧ a.id = i := by
      intro a ha
      cases op with
      | markDead e now | markLive e =>
        obtain ⟨hi, heq⟩ := Option.ite_none_right_eq_some.mp ha
        cases heq
        simp_all [Operation.mark?]
      | get | add | remove => cases ha
    intro a ha
    rcases List.mem_append.mp ha with ha | ha
    · obtain ⟨hop, hi⟩ := hmark a (Option.mem_toList.mp ha)
      exact List.mem_filter.mpr ⟨List.mem_filterMap.mpr ⟨op, List.mem_cons_self, hop⟩,
        decide_eq_true hi⟩
    · obtain ⟨hmem, hi⟩ := List.mem_filter.mp (ih _ ha)
      obtain ⟨op', hop', heq⟩ := List.mem_filterMap.mp hmem
      exact List.mem_filter.mpr
        ⟨List.mem_filterMap.mpr ⟨op', List.mem_cons_of_mem op hop', heq⟩, hi⟩

end Moves

/-! ### One operation -/

section Operations

variable {p : Pool C σ} {e : Endpoint} {r r' : Registration C} {op : Operation C}

/-- **The entry of a node after an operation** is the endpoint to which the operation has moved it,
and the one that it was if it has not. -/
theorem Sound.entriesAs_perform (h : p.Sound) (hf : p.roster.find? e = some r)
    (hf' : (p.perform op).1.roster.find? e = some r') :
    (p.perform op).1.roster.entriesAs e.id =
      ((p.movedTo? e.id op).map fun a => [a]).getD (p.roster.entriesAs e.id) := by
  have hreg := registered_of_find? hf
  have hchange := p.change_perform op
  generalize (p.perform op).1.roster = s at hchange hf'
  cases hchange with
  | ignored hignores =>
    -- a mark that finds nothing to do is one of another identity
    have hnone : p.movedTo? e.id op = none := by
      cases hignores with
      | failure hnot =>
        refine if_neg ?_
        intro hi
        exact hnot (hi ▸ hreg)
      | success hnot =>
        refine if_neg ?_
        rintro ⟨hi, -⟩
        exact hnot (hi ▸ hreg)
      | crash | addition | seed | removal => rfl
    rw [hnone]
    rfl
  | settled now draw => exact h.roster.entriesAs_resurrectDue now e.id
  | @registered a c hnot =>
    have hne : e.id ≠ a.id := fun hi => hnot (hi ▸ hreg)
    rw [Roster.entriesAs, Roster.aliveAs_register, if_neg hne, Roster.deadAs_register]
    rfl
  | @removed a _ _ _ =>
    obtain ⟨hr, ha, hd⟩ := h.roster.entries_remove a e.id
    -- the endpoint is registered afterwards, so another one is removed
    have hne : ¬ e.id = a.id := by
      intro hi
      rw [Roster.find?_eq_head?, hr, if_pos hi] at hf'
      cases hf'
    rw [Roster.entriesAs, ha, hd, if_neg hne, if_neg hne]
    rfl
  | @failed a now _ _ =>
    obtain ⟨-, ha, hd⟩ := h.roster.entries_markDead p.backoff now a e.id
    rw [Roster.entriesAs, ha, hd, movedTo?]
    by_cases hi : a.id = e.id
    · rw [if_pos hi.symm, if_pos hi.symm, if_pos hi, (h.roster.of_find? hf).1]
      rfl
    · rw [if_neg (Ne.symm hi), if_neg (Ne.symm hi), if_neg hi]
      rfl
  | @cleared a _ _ _ | @revived a _ _ _ _ =>
    obtain ⟨-, ha, hd⟩ := h.roster.entries_markLive a e.id
    rw [Roster.entriesAs, ha, hd, movedTo?]
    by_cases hi : a.id = e.id
    · rw [if_pos hi.symm, if_pos hi.symm]
      -- only who is dead has an entry to move
      obtain ⟨-, ⟨-, -, hq⟩ | ⟨q, -, -, -, ha, hq⟩⟩ := h.roster.of_find? hf
      · simp [hi, hq, Roster.entriesAs]
      · simp [hi, hq, ha]
    · rw [if_neg (Ne.symm hi), if_neg (Ne.symm hi), if_neg fun hc => hi hc.1]
      rfl

/-- The entry of a node that an operation registers is its endpoint. -/
theorem Sound.entriesAs_of_registered (h : p.Sound) (hf : p.roster.find? e = none)
    (hf' : (p.perform op).1.roster.find? e = some r') :
    (p.perform op).1.roster.entriesAs e.id = [r'.node.endpoint] := by
  have hnot := find?_eq_none_iff_not_registered.mp hf
  obtain ⟨-, a, c, rfl, hi⟩ := (registers_iff op).mp ⟨hnot, registered_of_find? hf'⟩
  rw [← hi] at hnot
  obtain ⟨ha, hd⟩ := h.roster.of_find?_none hf
  rw [roster_perform_add_of_not_registered hnot] at hf' ⊢
  rw [Roster.find?_eq_head?, Roster.registeredAs_register, if_pos hi.symm,
    Roster.find?_eq_none_iff.mp hf] at hf'
  cases hf'
  rw [Roster.entriesAs, Roster.aliveAs_register, if_pos hi.symm, Roster.deadAs_register, ha, hd]
  rfl

end Operations

/-! ### Tenures -/

section Tenure

variable {p : Pool C σ} {e : Endpoint} {r : Registration C} {pre post : List (Operation C)}

omit [Selector σ] in
/-- The entries of a new pool are the endpoints of its nodes. -/
theorem Created.entriesAs_start (hp : p.Created) (hf : p.roster.find? e = some r) :
    p.roster.entriesAs e.id = [r.node.endpoint] := by
  obtain ⟨halive, hdead, -⟩ := hp.roster_start
  have hone := (hp.sound.roster.of_find? hf).1
  have hentries : p.roster.aliveAs e.id = (p.roster.registeredAs e.id).map (·.node.endpoint) := by
    rw [Roster.aliveAs, halive, Roster.nodes, List.map_map, List.filter_map]
    rfl
  rw [Roster.entriesAs, hentries, hone, Roster.deadAs, hdead]
  rfl

/-- A tenure begins with the endpoint that is registered. -/
theorem Tenure.entriesAs_of_nil (hp : p.Created) (t : p.Tenure e pre [])
    (hf : (p.after pre).roster.find? e = some r) :
    (p.after pre).roster.entriesAs e.id = [r.node.endpoint] := by
  rcases t.begins with rfl | ⟨earlier, op, rfl, hbefore⟩
  · exact hp.entriesAs_start hf
  · rw [after_concat] at hf ⊢
    exact (hp.sound.after earlier).entriesAs_of_registered hbefore hf

/-- **The entry of a node at the end of a tenure** is the endpoint of the last mark of the tenure
that has moved it, or that of its registration. -/
theorem Tenure.entriesAs (hp : p.Created) (t : p.Tenure e pre post)
    (hf : (p.after (pre ++ post)).roster.find? e = some r) :
    (p.after (pre ++ post)).roster.entriesAs e.id =
      [((p.after pre).moves e.id post).getLastD r.node.endpoint] := by
  induction post using List.reverseRecOn generalizing r with
  | nil =>
    rw [List.append_nil] at hf ⊢
    exact t.entriesAs_of_nil hp hf
  | append_singleton post op ih =>
    -- the endpoint was registered before the last operation, so its node has stayed
    obtain ⟨r₀, hr₀⟩ := Option.ne_none_iff_exists'.mp (t.lasts post (List.prefix_append post [op]))
    have hs := hp.sound.after (pre ++ post)
    rw [← List.append_assoc, after_concat] at hf ⊢
    have hkept : r.node = r₀.node := by
      rw [hs.eq_hear_of_kept hr₀ hf]
      rfl
    rw [hs.entriesAs_perform hr₀ hf, ih t.init hr₀, moves_concat, ← after_append, hkept]
    cases hm : (p.after (pre ++ post)).movedTo? e.id op with
    | none => simp
    | some a => simp

end Tenure

/-! ### Runs -/

section Runs

variable {p : Pool C σ}

omit [Selector σ] in
/-- The candidates of a request are among the entries. -/
theorem Sound.mem_entries_of_candidate (h : p.Sound) {now : Instant} {a : Endpoint}
    (ha : a ∈ (p.roster.resurrectDue now).1.alive) : a ∈ p.roster.entries := by
  have hmem : a ∈ (p.roster.resurrectDue now).1.entriesAs a.id :=
    Roster.mem_entriesAs.mpr ⟨List.mem_append_left _ ha, rfl⟩
  rw [h.roster.entriesAs_resurrectDue] at hmem
  exact (Roster.mem_entriesAs.mp hmem).1

omit [Selector σ] in
/-- An entry is that of a registered node. -/
theorem Sound.exists_find?_of_entry (h : p.Sound) {a : Endpoint} (ha : a ∈ p.roster.entries) :
    ∃ r, p.roster.find? a = some r := by
  rcases List.mem_append.mp ha with ha | ha
  · obtain ⟨r, hr, -⟩ := (h.roster.mem_alive_iff a).mp ⟨a, ha, rfl⟩
    exact ⟨r, hr⟩
  · obtain ⟨q, hq, rfl⟩ := List.mem_map.mp ha
    obtain ⟨r, hr, hi, -⟩ := h.roster.exists_of_mem_dead hq
    exact ⟨r, h.roster.find?_iff.mpr ⟨hr, hi⟩⟩

/-- Where the entries of a pool come from, after the operations that have led to it from `p`. -/
structure Traced (p : Pool C σ) (ops : List (Operation C)) (q : Pool C σ) : Prop where
  /-- The candidates of a request are among the entries. -/
  candidates : ∀ now, ∀ a ∈ (q.roster.resurrectDue now).1.alive, a ∈ q.roster.entries
  /-- An entry is that of a registered node, which is in a tenure. -/
  registered : ∀ a ∈ q.roster.entries, ∃ r, q.roster.find? a = some r ∧
    r.node.endpoint.id = a.id ∧ ∃ pre post, pre ++ post = ops ∧ p.Tenure a pre post
  /-- The node has one entry. It is the endpoint of the last mark of the tenure that has moved it, or
  that of the registration if none has. -/
  entry : ∀ e r, q.roster.find? e = some r → ∀ pre post, pre ++ post = ops → p.Tenure e pre post →
    q.roster.entriesAs e.id = [((p.after pre).moves e.id post).getLastD r.node.endpoint]
  /-- So an entry is the endpoint of the node in all parameters if all marks of the tenure are made
  under that endpoint. -/
  entry_eq : ∀ a ∈ q.roster.entries, ∀ r, q.roster.find? a = some r →
    ∀ pre post, pre ++ post = ops → p.Tenure a pre post →
      (∀ b ∈ Operation.marks a.id post, b = r.node.endpoint) → a = r.node.endpoint

/-- **The entries after any run are those of the last marks.** -/
theorem traced_after (hp : p.Created) (ops : List (Operation C)) :
    Traced p ops (p.after ops) := by
  have hs := hp.sound.after ops
  constructor
  · intro now a ha
    exact hs.mem_entries_of_candidate ha
  · intro a ha
    obtain ⟨r, hr⟩ := hs.exists_find?_of_entry ha
    refine ⟨r, hr, (Roster.Sound.mem_of_find? hr).2, exists_tenure p ?_⟩
    rw [hr]
    exact Option.some_ne_none r
  · rintro e r hf pre post rfl t
    exact t.entriesAs hp hf
  · rintro a ha r hf pre post rfl t hmarks
    have hmem := Roster.mem_entriesAs.mpr ⟨ha, rfl⟩
    rw [t.entriesAs hp hf, List.mem_singleton] at hmem
    -- the last move is one of the marks, if there is any
    have hlast : ((p.after pre).moves a.id post).getLastD r.node.endpoint ∈
        r.node.endpoint :: (p.after pre).moves a.id post := List.getLastD_mem_cons
    rw [← hmem] at hlast
    rcases List.mem_cons.mp hlast with heq | hmove
    · exact heq
    · exact hmarks a (moves_subset_marks _ _ _ hmove)

/-- The guest with another number of connections. -/
def widerGuest : Endpoint := { guest with connections := 20 }

/-- The guest goes and comes back with other parameters, and is marked under the old ones. -/
def staleMark : List (Operation Nat) :=
  [.add guest (some 3), .get dawn 0, .remove guest, .add widerGuest (some 4), .markDead guest dawn]

/-- The entry of the guest has the old parameters, in quarantine and among the candidates of a
request that ends it. -/
theorem entry_ne_registered_staleMark :
    twoInTurn.Created ∧
      (¬ ∀ q ∈ (twoInTurn.after staleMark).roster.dead, ∀ r,
        (twoInTurn.after staleMark).roster.find? q.endpoint = some r →
          q.endpoint = r.node.endpoint) ∧
      ¬ ∀ a ∈ ((twoInTurn.after staleMark).roster.resurrectDue dusk).1.alive, ∀ r,
        ((twoInTurn.after staleMark).roster.resurrectDue dusk).1.find? a = some r →
          a = r.node.endpoint := by
  refine ⟨created_twoInTurn, fun hdead => ?_, fun halive => ?_⟩
  · have hf : ((twoInTurn.after staleMark).roster.find? guest).map
        (·.node.endpoint.connections) = some 20 := by decide +kernel
    obtain ⟨r, hr, hwide⟩ := Option.map_eq_some_iff.mp hf
    have hmem : guest ∈ (twoInTurn.after staleMark).roster.dead.map (·.endpoint) := by
      decide +kernel
    obtain ⟨q, hq, hguest⟩ := List.mem_map.mp hmem
    rw [← hguest] at hr
    have heq := hdead q hq r hr
    rw [← heq, hguest] at hwide
    exact absurd hwide (by decide)
  · have hf : (((twoInTurn.after staleMark).roster.resurrectDue dusk).1.find? guest).map
        (·.node.endpoint.connections) = some 20 := by decide +kernel
    obtain ⟨r, hr, hwide⟩ := Option.map_eq_some_iff.mp hf
    have heq := halive guest (by decide +kernel) r hr
    rw [← heq] at hwide
    exact absurd hwide (by decide)

/-- The quarantine of the guest is that of its last mark. -/
theorem traced_after_staleMark :
    twoInTurn.Created ∧
      (twoInTurn.after staleMark).roster.entries.map (·.connections) = [10, 10, 10] ∧
      (twoInTurn.after staleMark).roster.nodes.map (·.endpoint.connections) = [10, 10, 20] ∧
      Traced twoInTurn staleMark (twoInTurn.after staleMark) :=
  ⟨created_twoInTurn, by decide +kernel, by decide +kernel,
    traced_after created_twoInTurn staleMark⟩

end Runs

end Pool

end EndpointPool
