import EndpointPool.Pool.Roster

/-!
# Quarantines in order

The dead nodes of a roster stand in the order in which their quarantines end, ties being broken by
registration. The order is strict and total on quarantines of different keys, so a quarantine whose
key is free has one place, and what is due at an instant is a prefix.

## Main results

* `Quarantine.Before.trans`, `Quarantine.before_or_before`: the order
* `Quarantine.exists_insert`, `Quarantine.pairwise_insert`: a quarantine with a free key is put at
  one place, and the order is kept
* `Roster.takeWhile_due`, `Roster.dropWhile_due`: what is due is a prefix
-/

namespace EndpointPool

namespace Quarantine

variable {q r s : Quarantine} {l : List Quarantine}

theorem Before.trans (h : q.Before r) (k : r.Before s) : q.Before s := by
  simp only [Before, Instant.lt_def, Instant.ext_iff] at *
  omega

/-- One quarantine comes before another only with another key. -/
theorem Before.not_hasKey (h : q.Before r) : ¬ r.HasKey q.deadline q.order := by
  rintro ⟨hd, ho⟩
  simp only [Before, Instant.lt_def, hd, ho] at h
  omega

/-- Of two quarantines with different keys, one comes before the other. -/
theorem before_or_before (h : ¬ r.HasKey q.deadline q.order) : q.Before r ∨ r.Before q := by
  simp only [HasKey, Before, Instant.lt_def, Instant.ext_iff] at *
  omega

theorem Before.le (h : q.Before r) : q.deadline ≤ r.deadline := by
  simp only [Before, Instant.lt_def, Instant.le_def, Instant.ext_iff] at *
  omega

/-- A quarantine whose key is free is put at one place, and nothing else changes. -/
theorem exists_insert (h : ∀ r ∈ l, ¬ r.HasKey q.deadline q.order) :
    ∃ l₁ l₂, l = l₁ ++ l₂ ∧ insert q l = l₁ ++ q :: l₂ := by
  induction l with
  | nil => exact ⟨[], [], rfl, rfl⟩
  | cons r l ih =>
    obtain ⟨hr, hl⟩ := List.forall_mem_cons.mp h
    by_cases hb : q.Before r
    · exact ⟨[], r :: l, rfl, by simp [insert, hb]⟩
    · -- the key of `r` is another, so `r` is passed and not replaced
      obtain ⟨l₁, l₂, rfl, he⟩ := ih hl
      exact ⟨r :: l₁, l₂, rfl, by simp [insert, hb, hr, he]⟩

theorem perm_insert (h : ∀ r ∈ l, ¬ r.HasKey q.deadline q.order) : (insert q l).Perm (q :: l) := by
  obtain ⟨l₁, l₂, rfl, he⟩ := exists_insert h
  rw [he]
  exact List.perm_middle

theorem mem_insert (h : ∀ r ∈ l, ¬ r.HasKey q.deadline q.order) :
    s ∈ insert q l ↔ s = q ∨ s ∈ l := by
  obtain ⟨l₁, l₂, rfl, he⟩ := exists_insert h
  simp only [he, List.mem_append, List.mem_cons]
  exact or_left_comm

theorem filter_insert_of_not {p : Quarantine → Bool} (h : ∀ r ∈ l, ¬ r.HasKey q.deadline q.order)
    (hq : ¬ p q = true) : (insert q l).filter p = l.filter p := by
  obtain ⟨l₁, l₂, rfl, he⟩ := exists_insert h
  rw [he, List.filter_append, List.filter_append, List.filter_cons_of_neg hq]

theorem filter_insert_of_nil {p : Quarantine → Bool} (h : ∀ r ∈ l, ¬ r.HasKey q.deadline q.order)
    (hq : p q = true) (hl : l.filter p = []) : (insert q l).filter p = [q] := by
  obtain ⟨l₁, l₂, rfl, he⟩ := exists_insert h
  obtain ⟨h₁, h₂⟩ := List.append_eq_nil_iff.mp (List.filter_append .. ▸ hl)
  rw [he, List.filter_append, List.filter_cons_of_pos hq, h₁, h₂, List.nil_append]

/-- The order is kept by a quarantine whose key is free. -/
theorem pairwise_insert (h : ∀ r ∈ l, ¬ r.HasKey q.deadline q.order) (hl : l.Pairwise Before) :
    (insert q l).Pairwise Before := by
  induction l with
  | nil => simp [insert]
  | cons r l ih =>
    obtain ⟨hr, hfree⟩ := List.forall_mem_cons.mp h
    obtain ⟨hrl, hl⟩ := List.pairwise_cons.mp hl
    by_cases hb : q.Before r
    · simp only [insert, hb, if_true, List.pairwise_cons, List.forall_mem_cons]
      exact ⟨⟨trivial, fun s hs => hb.trans (hrl s hs)⟩, hrl, hl⟩
    · simp only [insert, hb, hr, if_false, List.pairwise_cons]
      refine ⟨fun s hs => ?_, ih hfree hl⟩
      rcases (mem_insert hfree).mp hs with rfl | hs
      · -- of two different keys one comes first, and it is not the one that is put
        exact (before_or_before hr).resolve_left hb
      · exact hrl s hs

end Quarantine

namespace Roster

variable {now : Instant} {l : List Quarantine}

/-- Nothing is due after something that is not. -/
theorem filter_due_eq_nil {q : Quarantine} (hq : ¬ Due now q) (h : ∀ r ∈ l, q.Before r) :
    l.filter (fun r => Due now r) = [] := by
  refine List.filter_eq_nil_iff.mpr fun r hr hd => hq ?_
  have hle := (h r hr).le
  simp only [decide_eq_true_eq, Due, Instant.le_def] at *
  omega

/-- What is due stands in front. -/
theorem takeWhile_due (h : l.Pairwise Quarantine.Before) :
    l.takeWhile (fun q => Due now q) = l.filter fun q => Due now q := by
  induction l with
  | nil => rfl
  | cons q l ih =>
    obtain ⟨hq, hl⟩ := List.pairwise_cons.mp h
    by_cases hd : Due now q
    · simp [hd, ih hl]
    · simp [hd, filter_due_eq_nil hd hq]

/-- What is not due stands behind. -/
theorem dropWhile_due (h : l.Pairwise Quarantine.Before) :
    l.dropWhile (fun q => Due now q) = l.filter fun q => ¬ Due now q := by
  induction l with
  | nil => rfl
  | cons q l ih =>
    obtain ⟨hq, hl⟩ := List.pairwise_cons.mp h
    by_cases hd : Due now q
    · simp [hd, ih hl]
    · -- the first that is not due ends what is due
      have hnone : ∀ r ∈ l, ¬ Due now r := by
        simpa using filter_due_eq_nil hd hq
      simpa [hd] using (List.filter_eq_self.mpr (by simpa using hnone)).symm

end Roster

end EndpointPool
