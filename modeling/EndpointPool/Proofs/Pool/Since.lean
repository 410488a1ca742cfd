import EndpointPool.Proofs.Pool.Listing

/-!
# Since when something holds

What holds of the pool after a run has held since some operation of the run, or since the pool was
made. Of two identities of which something holds, one came before the other if it has held of that
one for longer. Two identities may come with one operation: with the making of the pool, when the
order is that of their registrations, or with a request that ends both their quarantines, when the
order is that in which the quarantines end.

A listing to which every operation adds behind, and in which the others keep their order, is
therefore in the order in which its members came.

## Main definitions

* `Pool.Since p holds ops n`: after `ops`, it has held since the operation number `n`, counted from
  one, or since the pool was made, if `n` is zero
* `Pool.CameBefore p holds ops i j`: it has held of `i` for longer than of `j`
* `Pool.AddsBehind holds q op l l'`: with an operation a listing loses some of its members, and gets
  others behind them

## Main results

* `Pool.exists_since`, `Pool.Since.unique`: what holds has held since one operation
* `Pool.CameBefore.asymm`: who came before another did not come after it
* `Pool.pairwise_cameBefore_after`: a listing to which every operation adds behind is in the order
  of coming
-/

namespace EndpointPool.Pool

variable {C σ : Type} [Selector σ] {p : Pool C σ} {ops : List (Operation C)} {op : Operation C}

/-! ### Since an operation -/

/-- Of the pool after `ops` it has held since the operation number `n`, or since the pool was made
if `n` is zero. -/
structure Since (p : Pool C σ) (holds : Pool C σ → Prop) (ops : List (Operation C)) (n : Nat) :
    Prop where
  le : n ≤ ops.length
  /-- It did not hold before the operation. -/
  begins : ∀ m, n = m + 1 → ¬ holds (p.after (ops.take m))
  /-- It has held afterwards. -/
  lasts : ∀ m, n ≤ m → m ≤ ops.length → holds (p.after (ops.take m))

section Since

variable {holds : Pool C σ → Prop} {m n : Nat}

theorem Since.holds_after (h : Since p holds ops n) : holds (p.after ops) := by
  simpa using h.lasts ops.length h.le (Nat.le_refl _)

/-- What still holds has held since the same operation. -/
theorem Since.concat (h : Since p holds ops n) (hlast : holds (p.after (ops ++ [op]))) :
    Since p holds (ops ++ [op]) n where
  le := by
    have := h.le
    simp
    omega
  begins m hm := by
    have hle := h.le
    rw [List.take_append_of_le_length (by omega)]
    exact h.begins m hm
  lasts m hn hm := by
    by_cases hle : m ≤ ops.length
    · rw [List.take_append_of_le_length hle]
      exact h.lasts m hn hle
    · rwa [List.take_of_length_le (by simp; omega)]

/-- What has held since an operation before the last held before the last. -/
theorem Since.init (h : Since p holds (ops ++ [op]) n) (hle : n ≤ ops.length) :
    Since p holds ops n where
  le := hle
  begins m hm := by
    have hnot := h.begins m hm
    rwa [List.take_append_of_le_length (by omega)] at hnot
  lasts m hn hm := by
    have hheld := h.lasts m hn (by simp; omega)
    rwa [List.take_append_of_le_length hm] at hheld

/-- What comes to hold with the last operation has held since that one. -/
theorem since_concat_of_not (hnot : ¬ holds (p.after ops)) (hlast : holds (p.after (ops ++ [op]))) :
    Since p holds (ops ++ [op]) (ops.length + 1) where
  le := by simp
  begins m hm := by
    obtain rfl : ops.length = m := Nat.succ.inj hm
    rwa [List.take_left]
  lasts m hn hm := by
    rwa [List.take_of_length_le (by simpa using hn)]

/-- What has held since an operation held before the last one, or came to hold with it. -/
theorem since_concat_iff :
    Since p holds (ops ++ [op]) (n + 1) ↔
      Since p holds ops (n + 1) ∧ holds (p.after (ops ++ [op])) ∨
        n = ops.length ∧ ¬ holds (p.after ops) ∧ holds (p.after (ops ++ [op])) := by
  constructor
  · intro h
    have hle := h.le
    rw [List.length_append, List.length_singleton] at hle
    rcases Nat.lt_or_eq_of_le hle with hlt | heq
    · exact .inl ⟨h.init (Nat.le_of_lt_succ hlt), h.holds_after⟩
    · obtain rfl : n = ops.length := Nat.succ.inj heq
      have hnot := h.begins ops.length rfl
      rw [List.take_left] at hnot
      exact .inr ⟨rfl, hnot, h.holds_after⟩
  · rintro (⟨h, hlast⟩ | ⟨rfl, hnot, hlast⟩)
    · exact h.concat hlast
    · exact since_concat_of_not hnot hlast

theorem since_nil (h : holds p) : Since p holds [] 0 where
  le := Nat.le_refl 0
  begins m hm := by cases hm
  lasts m _ _ := by rwa [List.take_nil]

/-- **What holds has held since some operation**, or since the pool was made. -/
theorem exists_since (h : holds (p.after ops)) : ∃ n, Since p holds ops n := by
  induction ops using List.reverseRecOn with
  | nil => exact ⟨0, since_nil h⟩
  | append_singleton ops op ih =>
    by_cases hbefore : holds (p.after ops)
    · obtain ⟨n, hn⟩ := ih hbefore
      exact ⟨n, hn.concat h⟩
    · exact ⟨ops.length + 1, since_concat_of_not hbefore h⟩

/-- What has held since one operation has not held since an earlier one. -/
theorem Since.le_of_since (h : Since p holds ops m) (h' : Since p holds ops n) : m ≤ n := by
  by_contra hlt
  obtain ⟨k, rfl⟩ := Nat.exists_eq_add_of_lt (Nat.lt_of_not_le hlt)
  have hle := h.le
  exact h.begins (n + k) rfl (h'.lasts (n + k) (by omega) (by omega))

/-- **The operation is one.** -/
theorem Since.unique (h : Since p holds ops m) (h' : Since p holds ops n) : m = n :=
  Nat.le_antisymm (h.le_of_since h') (h'.le_of_since h)

end Since

/-! ### The order of coming -/

/-- After `ops` it has held of `i` for longer than of `j`. -/
inductive CameBefore (p : Pool C σ) (holds : Endpoint.Identity → Pool C σ → Prop)
    (ops : List (Operation C)) (i j : Endpoint.Identity) : Prop
  /-- Of `i` it has held since an earlier operation. -/
  | earlier {m n : Nat} (hi : Since p (holds i) ops m) (hj : Since p (holds j) ops n) (hlt : m < n)
  /-- Of both it has held since the pool was made, and `i` was registered first. -/
  | made {r t : Registration C} (hi : Since p (holds i) ops 0) (hj : Since p (holds j) ops 0)
      (hr : r ∈ p.roster.registeredAs i) (ht : t ∈ p.roster.registeredAs j)
      (hlt : r.order < t.order)
  /-- Of both it has held since the same request, and the quarantine of `i` was to end first. -/
  | request {n draw : Nat} {now : Instant}
      (hi : Since p (holds i) ops (n + 1)) (hj : Since p (holds j) ops (n + 1))
      (hop : ops[n]? = some (.get now draw)) (hends : (p.after (ops.take n)).roster.EndsBefore i j)

/-- With an operation a listing keeps some of its members in their order, and gets others behind them,
of which it did not hold before. Several of them come with a request only, in the order in which
their quarantines were to end. -/
def AddsBehind (holds : Endpoint.Identity → Pool C σ → Prop) (q : Pool C σ) (op : Operation C)
    (l l' : List Endpoint.Identity) : Prop :=
  ∃ kept new, l' = kept ++ new ∧ kept.Sublist l ∧ (∀ i ∈ new, ¬ holds i q) ∧
    new.Pairwise fun i j => (∃ now draw, op = .get now draw) ∧ q.roster.EndsBefore i j

section AddsBehind

variable {holds : Endpoint.Identity → Pool C σ → Prop} {l l' : List Endpoint.Identity}
  {i : Endpoint.Identity}

omit [Selector σ]

theorem AddsBehind.of_sublist (h : l'.Sublist l) : AddsBehind holds p op l l' :=
  ⟨l', [], (List.append_nil l').symm, h, (fun _ hi => by cases hi), .nil⟩

theorem AddsBehind.refl : AddsBehind holds p op l l := .of_sublist (List.Sublist.refl l)

theorem AddsBehind.concat (h : l'.Sublist l) (hi : ¬ holds i p) :
    AddsBehind holds p op l (l' ++ [i]) :=
  ⟨l', [i], rfl, h, (fun _ hj => List.mem_singleton.mp hj ▸ hi), List.pairwise_singleton _ _⟩

end AddsBehind

section CameBefore

variable {holds : Endpoint.Identity → Pool C σ → Prop} {i j : Endpoint.Identity}

/-- The order stays as long as it holds of both. -/
theorem CameBefore.concat (h : CameBefore p holds ops i j) (hi : holds i (p.after (ops ++ [op])))
    (hj : holds j (p.after (ops ++ [op]))) : CameBefore p holds (ops ++ [op]) i j := by
  cases h with
  | earlier hm hn hlt => exact .earlier (hm.concat hi) (hn.concat hj) hlt
  | made hm hn hr ht hlt => exact .made (hm.concat hi) (hn.concat hj) hr ht hlt
  | @request n _ _ hm hn hop hends =>
    have hle : n < ops.length := hm.le
    rw [← List.take_append_of_le_length (Nat.le_of_lt hle)] at hends
    rw [← List.getElem?_append_left hle] at hop
    exact .request (hm.concat hi) (hn.concat hj) hop hends

/-- **Who came before another did not come after it.** -/
theorem CameBefore.asymm (hp : p.Sound) (h : CameBefore p holds ops i j) :
    ¬ CameBefore p holds ops j i := by
  intro h'
  -- both say since when it has held of `i` and of `j`
  cases h with
  | earlier hm hn hlt =>
    cases h' with
    | earlier hn' hm' | made hn' hm' | request hn' hm' =>
      have := hm.unique hm'
      have := hn.unique hn'
      omega
  | made hm hn hr ht hlt =>
    cases h' with
    | earlier hn' hm' | request hn' hm' =>
      have := hm.unique hm'
      have := hn.unique hn'
      omega
    | made hn' hm' ht' hr' hlt' =>
      rw [hp.roster.eq_of_mem_registeredAs hr' hr, hp.roster.eq_of_mem_registeredAs ht' ht] at hlt'
      omega
  | @request n _ _ hm hn hop hends =>
    cases h' with
    | earlier hn' hm' | made hn' hm' =>
      have := hm.unique hm'
      have := hn.unique hn'
      omega
    | @request n' _ _ hn' hm' hop' hends' =>
      obtain rfl : n = n' := Nat.succ.inj (hm.unique hm')
      exact (hp.after (ops.take n)).roster.not_endsBefore hends hends'

/-- The registrations of a new pool are in the order of their numbers. -/
theorem pairwise_cameBefore_nil (hp : p.Sound)
    (hold : ∀ r ∈ p.roster.registered, holds r.node.endpoint.id p) :
    (p.roster.registered.map (·.node.endpoint.id)).Pairwise (CameBefore p holds []) := by
  refine List.pairwise_map.mpr (hp.roster.increasing.imp_of_mem fun hr ht hlt => ?_)
  exact .made (since_nil (hold _ hr)) (since_nil (hold _ ht)) (Roster.mem_registeredAs.mpr ⟨hr, rfl⟩)
    (Roster.mem_registeredAs.mpr ⟨ht, rfl⟩) hlt

/-- What comes with the last operation is put behind what has been there for longer. -/
theorem AddsBehind.pairwise_cameBefore {l l' : List Endpoint.Identity}
    (h : AddsBehind holds (p.after ops) op l l') (hl : l.Pairwise (CameBefore p holds ops))
    (hold : ∀ i ∈ l, holds i (p.after ops)) (hlast : ∀ i ∈ l', holds i (p.after (ops ++ [op]))) :
    l'.Pairwise (CameBefore p holds (ops ++ [op])) := by
  obtain ⟨kept, new, rfl, hkept, hnot, hnew⟩ := h
  have hlast_kept : ∀ i ∈ kept, holds i (p.after (ops ++ [op])) :=
    fun i hi => hlast i (List.mem_append_left _ hi)
  have hcomes : ∀ i ∈ new, Since p (holds i) (ops ++ [op]) (ops.length + 1) :=
    fun i hi => since_concat_of_not (hnot i hi) (hlast i (List.mem_append_right _ hi))
  refine List.pairwise_append.mpr ⟨?_, ?_, fun i hi j hj => ?_⟩
  · refine (hl.sublist hkept).imp_of_mem fun hi hj hij => ?_
    exact hij.concat (hlast_kept _ hi) (hlast_kept _ hj)
  · refine hnew.imp_of_mem fun hi hj ⟨⟨now, draw, hop⟩, hends⟩ => ?_
    have hget : (ops ++ [op])[ops.length]? = some (.get now draw) := by
      rw [List.getElem?_concat_length, hop]
    exact .request (hcomes _ hi) (hcomes _ hj) hget (by rwa [List.take_left])
  · -- what is kept has held since an earlier operation than the last
    obtain ⟨n, hn⟩ := exists_since (hold i (hkept.subset hi))
    exact .earlier (hn.concat (hlast_kept i hi)) (hcomes j hj) (Nat.lt_succ_of_le hn.le)

/-- **A listing to which every operation adds behind is in the order of coming.** -/
theorem pairwise_cameBefore_after (listing : Pool C σ → List Endpoint.Identity) (hp : p.Sound)
    (hmem : ∀ {q : Pool C σ}, q.Sound → ∀ i, i ∈ listing q ↔ holds i q)
    (hstart : listing p = p.roster.registered.map (·.node.endpoint.id))
    (hstep : ∀ {q : Pool C σ}, q.Sound → ∀ op,
      AddsBehind holds q op (listing q) (listing (q.perform op).1))
    (ops : List (Operation C)) : (listing (p.after ops)).Pairwise (CameBefore p holds ops) := by
  induction ops using List.reverseRecOn with
  | nil =>
    rw [after_nil, hstart]
    refine pairwise_cameBefore_nil hp fun r hr => (hmem hp _).mp ?_
    rw [hstart]
    exact List.mem_map_of_mem hr
  | append_singleton ops op ih =>
    have hs := hp.after ops
    have hs' := hp.after (ops ++ [op])
    have hadds := hstep hs op
    rw [← after_concat] at hadds
    exact hadds.pairwise_cameBefore ih (fun i => (hmem hs i).mp) fun i => (hmem hs' i).mp

end CameBefore

end EndpointPool.Pool
