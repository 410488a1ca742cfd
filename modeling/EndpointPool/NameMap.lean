/-!
# Maps from names

Finite maps whose keys are texts, kept in the order of the keys by code points. Two maps with the
same entries are equal, and listing one needs no sorting.

## Main definitions

* `NameMap`, `NameMap.insert`, `NameMap.find?`, `NameMap.keys`

## Main results

* `NameMap.find?_insert`: an insertion changes the value of its own key only
* `NameMap.ofList_entries`: a map is the map of its entries
-/

namespace EndpointPool

universe u

private theorem lt_of_not_lt_of_ne {a b : String} (h : ¬ a < b) (hne : a ≠ b) : b < a := by
  rcases String.le_total a b with hab | hba
  · exact absurd (String.le_antisymm hab (String.not_lt.1 h)) hne
  · exact Decidable.byContradiction fun hn =>
      hne (String.le_antisymm (String.not_lt.1 hn) (String.not_lt.1 h))

private def insertEntry {β : Type u} (key : String) (value : β) :
    List (String × β) → List (String × β)
  | [] => [(key, value)]
  | (k, v) :: rest =>
    if key < k then (key, value) :: (k, v) :: rest
    else if key = k then (key, value) :: rest
    else (k, v) :: insertEntry key value rest

private theorem mem_insertEntry {β : Type u} {key : String} {value : β} {x : String × β} :
    ∀ {l : List (String × β)}, x ∈ insertEntry key value l → x = (key, value) ∨ x ∈ l
  | [], h => by simp_all [insertEntry]
  | (k, v) :: rest, h => by
    unfold insertEntry at h
    split at h
    · simpa using h
    · split at h
      · rcases List.mem_cons.1 h with h | h <;> simp [h]
      · rcases List.mem_cons.1 h with h | h
        · simp [h]
        · rcases mem_insertEntry h with h | h <;> simp [h]

private theorem sorted_insertEntry {β : Type u} (key : String) (value : β) :
    ∀ {l : List (String × β)}, l.Pairwise (fun a b => a.1 < b.1) →
      (insertEntry key value l).Pairwise (fun a b => a.1 < b.1)
  | [], _ => by simp [insertEntry]
  | (k, v) :: rest, h => by
    have hrest := List.pairwise_cons.1 h
    unfold insertEntry
    split
    · next hlt =>
      refine List.pairwise_cons.2 ⟨fun x hx => ?_, h⟩
      rcases List.mem_cons.1 hx with rfl | hx
      · exact hlt
      · exact String.lt_trans hlt (hrest.1 x hx)
    · next hnlt =>
      split
      · next heq => subst heq; exact List.pairwise_cons.2 hrest
      · next hne =>
        refine List.pairwise_cons.2 ⟨fun x hx => ?_, sorted_insertEntry key value hrest.2⟩
        rcases mem_insertEntry hx with rfl | hx
        · exact lt_of_not_lt_of_ne hnlt hne
        · exact hrest.1 x hx

/-- A finite map from texts, its entries in the order of their keys. -/
structure NameMap (β : Type u) where
  entries : List (String × β)
  sorted : entries.Pairwise fun a b => a.1 < b.1

namespace NameMap

variable {β : Type u}

instance [DecidableEq β] : DecidableEq (NameMap β) := fun m n =>
  decidable_of_iff (m.entries = n.entries)
    ⟨fun h => by cases m; cases n; simp_all, fun h => h ▸ rfl⟩

@[ext] theorem ext {m n : NameMap β} (h : m.entries = n.entries) : m = n := by
  cases m; cases n; simp_all

/-- The map without entries. -/
def empty : NameMap β := ⟨[], List.Pairwise.nil⟩

/-- The map with `value` under `key`, in place of what was there. -/
def insert (m : NameMap β) (key : String) (value : β) : NameMap β :=
  ⟨insertEntry key value m.entries, sorted_insertEntry key value m.sorted⟩

/-- The value under `key`. -/
def find? (m : NameMap β) (key : String) : Option β := m.entries.lookup key

/-- The keys, in order. -/
def keys (m : NameMap β) : List String := m.entries.map (·.1)

/-- The map that maps each key of a list to its last value there. -/
def ofList (l : List (String × β)) : NameMap β := l.foldl (fun m e => m.insert e.1 e.2) empty

private theorem lookup_entry (k' : String) (v : β) (rest : List (String × β)) (k : String) :
    ((k', v) :: rest).lookup k = if k = k' then some v else rest.lookup k := by
  by_cases h : k = k'
  · subst h; simp
  · have : (k == k') = false := by simpa using h
    simp [List.lookup_cons, this, h]

private theorem lookup_insertEntry (key : String) (value : β) (k : String) :
    ∀ l : List (String × β),
      (insertEntry key value l).lookup k = if k = key then some value else l.lookup k
  | [] => by simp [insertEntry, lookup_entry]
  | (k', v) :: rest => by
    have ih := lookup_insertEntry key value k rest
    unfold insertEntry
    split
    · rw [lookup_entry]
    · split
      · next heq => subst heq; simp only [lookup_entry]; split <;> rfl
      · next hne =>
        simp only [lookup_entry, ih]
        by_cases hk : k = k' <;> by_cases hk' : k = key <;> simp_all

/-- An insertion changes the value of its own key only. -/
theorem find?_insert (m : NameMap β) (key : String) (value : β) (k : String) :
    (m.insert key value).find? k = if k = key then some value else m.find? k :=
  lookup_insertEntry key value k m.entries

private theorem insertEntry_of_lt {key : String} {value : β} :
    ∀ {l : List (String × β)}, (∀ x ∈ l, x.1 < key) → insertEntry key value l = l ++ [(key, value)]
  | [], _ => rfl
  | (k, v) :: rest, h => by
    have hlt : k < key := h (k, v) List.mem_cons_self
    have hrest : insertEntry key value rest = rest ++ [(key, value)] :=
      insertEntry_of_lt fun x hx => h x (List.mem_cons_of_mem _ hx)
    have hne : key ≠ k := fun heq => String.lt_irrefl k (heq ▸ hlt)
    rw [insertEntry, if_neg (String.lt_asymm hlt), if_neg hne, hrest, List.cons_append]

private theorem foldl_insert_entries (l : List (String × β)) :
    ∀ m : NameMap β, (m.entries ++ l).Pairwise (fun a b => a.1 < b.1) →
      (l.foldl (fun m e => m.insert e.1 e.2) m).entries = m.entries ++ l := by
  induction l with
  | nil => exact fun m _ => (List.append_nil _).symm
  | cons e l ih =>
    intro m h
    have hlt : ∀ x ∈ m.entries, x.1 < e.1 :=
      fun x hx => (List.pairwise_append.1 h).2.2 x hx e List.mem_cons_self
    have hentries : (m.insert e.1 e.2).entries = m.entries ++ [e] := insertEntry_of_lt hlt
    rw [List.foldl_cons, ih, hentries, List.append_assoc]
    · rfl
    · rw [hentries, List.append_assoc]
      exact h

/-- A map is the map of its entries. -/
theorem ofList_entries (m : NameMap β) : ofList m.entries = m :=
  ext (foldl_insert_entries m.entries empty m.sorted)

end NameMap

end EndpointPool
