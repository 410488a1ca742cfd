import EndpointPool.Proofs.Pool.Turns
import EndpointPool.Proofs.Registry.Names

/-!
# Selectors made from one registry

A name in a registry stands for code that makes a selector. The makers of the built-in selectors
make a new one each time; makers and selectors from outside share a memory of their own, in which
they may do anything. A built-in selector that is made has a place to itself, and only its own
choices change what is there, so it goes on as if it were the only one: whatever is registered, made
or chosen in between, a selector that takes turns counts its own choices and no other.

## Main definitions

* `Outside`, `Product`, `Maker`: code from outside, and what makes selectors
* `Workshop`, `Workshop.Task`, `Workshop.perform w task`: a registry with the selectors made from it,
  and what is done with them
* `Workshop.builtIn? w k`: a built-in selector as it is
* `Workshop.Sound w`: built-in selectors have places to themselves
* `Workshop.Leads w task w'`: what a task can make of a workshop
* `Workshop.start origin memory`: a workshop with an empty registry or with the one every program has
* `Workshop.Orderly w registrations`: what holds of a registry and the selectors made from it

## Main results

* `Workshop.leads_perform`: what a task does
* `Workshop.Leads.builtIn?`, `Workshop.builtIn?_after`: a built-in selector changes by its own
  choices only, in a task and in a run
* `Workshop.chosen_after`: a selector that takes turns goes by the number of its own choices
* `Workshop.registry_after`: what a run registers
* `Workshop.latest?_standard`: what every program has under a name stands for it until the name is
  registered anew
* `Workshop.orderly_after`: what holds after any run
-/

namespace EndpointPool

/-- Code from outside: the memory that it works on, the kinds of selectors that it has, and how one
of them chooses. -/
structure Outside where
  Memory : Type
  Kind : Type
  choose : Kind → Memory → Nat → List Endpoint → Choice × Memory

/-- A selector that is handed over: a built-in one as it is, or one from outside. -/
inductive Product (o : Outside)
  | builtIn (s : BuiltIn)
  | foreign (kind : o.Kind)

/-- What a name stands for: code that may work on the memory from outside, and hands over a selector
or crashes. -/
def Maker (o : Outside) : Type := o.Memory → Option (Product o) × o.Memory

/-- The maker of a built-in selector. -/
def Maker.builtIn {o : Outside} (s : BuiltIn) : Maker o := fun memory => (some (.builtIn s), memory)

/-- A selector that was made: the place of a built-in one, or one from outside. -/
inductive Handle (o : Outside)
  | builtIn (place : Nat)
  | foreign (kind : o.Kind)

/-- The place of a built-in selector. -/
def Handle.place? {o : Outside} : Handle o → Option Nat
  | .builtIn place => some place
  | .foreign _ => none

/-- A registry, the memory from outside, the built-in selectors in their places, and all selectors
that were made, in order. -/
structure Workshop (o : Outside) where
  registry : Registry (Maker o)
  memory : o.Memory
  places : List BuiltIn
  made : List (Handle o)

namespace Workshop

variable {o : Outside}

/-! ### Tasks -/

/-- What is done in a workshop. -/
inductive Task (o : Outside)
  | register (name : String) (maker : Maker o)
  | create (name : String)
  /-- A choice of the selector with a number. -/
  | select (k : Nat) (draw : Nat) (candidates : List Endpoint)
  /-- Code from outside works on its memory. -/
  | elsewhere (act : o.Memory → o.Memory)

/-- What comes of a task. -/
inductive Outcome
  | done
  | made (k : Nat)
  | refused (fault : Fault)
  | crashed
  | chosen (choice : Choice)
  | noSelector
  deriving DecidableEq

/-- A selector is handed over: a built-in one gets a place to itself. -/
def handOver (w : Workshop o) : Product o → Workshop o
  | .builtIn s =>
    { w with places := w.places ++ [s], made := w.made ++ [.builtIn w.places.length] }
  | .foreign kind => { w with made := w.made ++ [.foreign kind] }

/-- A maker is run. The selector that it hands over gets the next number. -/
def run (w : Workshop o) (maker : Maker o) : Workshop o × Outcome :=
  match maker w.memory with
  | (none, memory) => ({ w with memory }, .crashed)
  | (some product, memory) => ({ w with memory }.handOver product, .made w.made.length)

/-- A task is done. -/
def perform (w : Workshop o) : Task o → Workshop o × Outcome
  | .register name maker => ({ w with registry := w.registry.register name maker }, .done)
  | .create name =>
    match w.registry.create name with
    | .error fault => (w, .refused fault)
    | .ok maker => w.run maker
  | .select k draw candidates =>
    match w.made[k]? with
    | none => (w, .noSelector)
    | some (.foreign kind) =>
      let (choice, memory) := o.choose kind w.memory draw candidates
      ({ w with memory }, .chosen choice)
    | some (.builtIn place) =>
      match w.places[place]? with
      | none => (w, .noSelector)
      | some s =>
        let (choice, s) := Selector.select s draw candidates
        ({ w with places := w.places.set place s }, .chosen choice)
  | .elsewhere act => ({ w with memory := act w.memory }, .done)

/-- The workshop after tasks. -/
def after (w : Workshop o) (tasks : List (Task o)) : Workshop o :=
  tasks.foldl (fun w task => (w.perform task).1) w

/-- The place of the selector with a number, if it is a built-in one. -/
def place? (w : Workshop o) (k : Nat) : Option Nat := w.made[k]?.bind Handle.place?

/-- The selector with a number as it is, if it is a built-in one. -/
def builtIn? (w : Workshop o) (k : Nat) : Option BuiltIn := (w.place? k).bind (w.places[·]?)

/-- What a built-in selector is after a task: its own choices change it. -/
def Task.next (k : Nat) (s : BuiltIn) : Task o → BuiltIn
  | .select k' draw candidates => if k' = k then (Selector.select s draw candidates).2 else s
  | .register _ _ | .create _ | .elsewhere _ => s

/-- Whether a task is a choice of a selector among candidates. -/
def Task.asks (k : Nat) : Task o → Bool
  | .select k' _ candidates => k' = k && !candidates.isEmpty
  | .register _ _ | .create _ | .elsewhere _ => false

/-- The name that a task registers, and its maker. -/
def Task.registration? : Task o → Option (String × Maker o)
  | .register name maker => some (name, maker)
  | .create _ | .select _ _ _ | .elsewhere _ => none

variable {w : Workshop o} {k k' place draw : Nat} {s : BuiltIn} {candidates : List Endpoint}

/-! ### Places -/

/-- Built-in selectors have places to themselves. -/
structure Sound (w : Workshop o) : Prop where
  within : ∀ k place, w.place? k = some place → place < w.places.length
  apart : ∀ k k' place, w.place? k = some place → w.place? k' = some place → k = k'

theorem place?_handOver_builtIn (w : Workshop o) (s : BuiltIn) (k : Nat) :
    (w.handOver (.builtIn s)).place? k =
      if k = w.made.length then some w.places.length else w.place? k := by
  unfold place? handOver
  rw [List.getElem?_append]
  split
  · next hlt => rw [if_neg (Nat.ne_of_lt hlt)]
  · next hge =>
    rw [List.getElem?_eq_none (Nat.le_of_not_lt hge)]
    split
    · next heq => simp [heq, Handle.place?]
    · next hne =>
      have hnot : ¬ k - w.made.length < 1 := by omega
      simp [hnot]

theorem place?_handOver_foreign (w : Workshop o) (kind : o.Kind) (k : Nat) :
    (w.handOver (.foreign kind)).place? k = w.place? k := by
  unfold place? handOver
  rw [List.getElem?_append]
  split
  · rfl
  · next hge =>
    rw [List.getElem?_eq_none (Nat.le_of_not_lt hge)]
    cases hk : [Handle.foreign kind][k - w.made.length]? with
    | none => rfl
    | some handle =>
      obtain rfl := List.mem_singleton.mp (List.mem_of_getElem? hk)
      rfl

/-- A number with a place is one of a selector that was made. -/
theorem lt_of_place? (h : w.place? k = some place) : k < w.made.length := by
  obtain ⟨handle, hk, -⟩ := Option.bind_eq_some_iff.mp h
  exact (List.getElem?_eq_some_iff.mp hk).1

theorem Sound.handOver (h : w.Sound) (product : Product o) : (w.handOver product).Sound := by
  cases product with
  | foreign kind =>
    refine ⟨fun k place hk => ?_, fun k k' place hk hk' => ?_⟩
    · rw [place?_handOver_foreign] at hk
      exact h.within k place hk
    · rw [place?_handOver_foreign] at hk hk'
      exact h.apart k k' place hk hk'
  | builtIn s =>
    have hlen : (w.handOver (.builtIn s)).places.length = w.places.length + 1 :=
      List.length_append
    refine ⟨fun k place hk => ?_, fun k k' place hk hk' => ?_⟩
    · rw [place?_handOver_builtIn] at hk
      rw [hlen]
      split at hk
      · cases hk
        exact Nat.lt_succ_self _
      · exact Nat.lt_succ_of_lt (h.within k place hk)
    · -- the new place is none of the old ones
      rw [place?_handOver_builtIn] at hk hk'
      split at hk <;> split at hk'
      · next heq heq' => rw [heq, heq']
      · cases hk
        exact absurd (h.within k' _ hk') (Nat.lt_irrefl _)
      · cases hk'
        exact absurd (h.within k _ hk) (Nat.lt_irrefl _)
      · exact h.apart k k' place hk hk'

/-- A selector that is handed over leaves the others as they are. -/
theorem builtIn?_handOver (product : Product o) (hk : w.builtIn? k = some s) :
    (w.handOver product).builtIn? k = some s := by
  obtain ⟨place, hplace, hs⟩ := Option.bind_eq_some_iff.mp hk
  unfold builtIn?
  cases product with
  | foreign kind =>
    rw [place?_handOver_foreign]
    exact hk
  | builtIn s' =>
    rw [place?_handOver_builtIn, if_neg (Nat.ne_of_lt (lt_of_place? hplace)), hplace]
    exact (List.getElem?_append_left (List.getElem?_eq_some_iff.mp hs).1).trans hs

/-- What is handed over is what was made. -/
theorem builtIn?_handOver_self (w : Workshop o) (s : BuiltIn) :
    (w.handOver (.builtIn s)).builtIn? w.made.length = some s := by
  unfold builtIn?
  rw [place?_handOver_builtIn, if_pos rfl]
  exact List.getElem?_concat_length

/-! ### One task -/

section Perform

variable {name : String}

theorem perform_create_of_ok {maker : Maker o} (h : w.registry.create name = .ok maker) :
    w.perform (.create name) = w.run maker := by
  simp only [perform, h]

theorem perform_create_of_error {fault : Fault} (h : w.registry.create name = .error fault) :
    w.perform (.create name) = (w, .refused fault) := by
  simp only [perform, h]

/-- A choice of a built-in selector changes what is in its place. -/
theorem perform_select (h : w.builtIn? k = some s) (draw : Nat) (candidates : List Endpoint) :
    ∃ place, w.place? k = some place ∧ w.perform (.select k draw candidates) =
      ({ w with places := w.places.set place (Selector.select s draw candidates).2 },
        .chosen (Selector.select s draw candidates).1) := by
  obtain ⟨place, hplace, hs⟩ := Option.bind_eq_some_iff.mp h
  obtain ⟨handle, hk, hhandle⟩ := Option.bind_eq_some_iff.mp hplace
  refine ⟨place, hplace, ?_⟩
  cases handle with
  | foreign kind => cases hhandle
  | builtIn place' =>
    cases hhandle
    simp only [perform, hk, hs]

/-- Any other choice changes the memory from outside at most. -/
theorem perform_select_of_none (h : w.builtIn? k = none) (draw : Nat) (candidates : List Endpoint) :
    ∃ memory, (w.perform (.select k draw candidates)).1 = { w with memory } := by
  simp only [perform]
  split
  · exact ⟨w.memory, rfl⟩
  · exact ⟨_, rfl⟩
  · next place hk =>
    have hplace : w.place? k = some place := by
      rw [place?, hk]
      rfl
    rw [builtIn?, hplace, Option.bind_some] at h
    rw [h]
    exact ⟨w.memory, rfl⟩

/-- What a task can make of a workshop. -/
inductive Leads (w : Workshop o) : Task o → Workshop o → Prop
  | registers (name : String) (maker : Maker o) :
    Leads w (.register name maker) { w with registry := w.registry.register name maker }
  /-- At most the memory from outside changes, and no built-in selector makes a choice. -/
  | remembers {task : Task o} (memory : o.Memory) (hregistration : task.registration? = none)
      (hnext : ∀ k s, w.builtIn? k = some s → task.next k s = s) : Leads w task { w with memory }
  | hands (name : String) (memory : o.Memory) (product : Product o) :
    Leads w (.create name) (handOver { w with memory } product)
  | chooses {k place : Nat} {s : BuiltIn} (draw : Nat) (candidates : List Endpoint)
      (hs : w.builtIn? k = some s) (hplace : w.place? k = some place) :
    Leads w (.select k draw candidates)
      { w with places := w.places.set place (Selector.select s draw candidates).2 }

theorem leads_perform (w : Workshop o) (task : Task o) : w.Leads task (w.perform task).1 := by
  cases task with
  | register name maker => exact .registers name maker
  | elsewhere act => exact .remembers (act w.memory) rfl fun _ _ _ => rfl
  | create name =>
    cases hcreate : w.registry.create name with
    | error fault =>
      rw [perform_create_of_error hcreate]
      exact .remembers w.memory rfl fun _ _ _ => rfl
    | ok maker =>
      rw [perform_create_of_ok hcreate, run]
      split
      · next memory _ => exact .remembers memory rfl fun _ _ _ => rfl
      · next product memory _ => exact .hands name memory product
  | select k draw candidates =>
    cases hk : w.builtIn? k with
    | some s =>
      obtain ⟨place, hplace, hperform⟩ := perform_select hk draw candidates
      rw [hperform]
      exact .chooses draw candidates hk hplace
    | none =>
      obtain ⟨memory, hperform⟩ := perform_select_of_none hk draw candidates
      rw [hperform]
      refine .remembers memory rfl fun k' s hk' => if_neg ?_
      rintro rfl
      rw [hk] at hk'
      cases hk'

variable {task : Task o} {w' : Workshop o}

theorem Leads.sound (hleads : w.Leads task w') (h : w.Sound) : w'.Sound := by
  cases hleads with
  | registers name maker => exact ⟨h.within, h.apart⟩
  | remembers memory => exact ⟨h.within, h.apart⟩
  | hands name memory product =>
    have hmemory : Sound { w with memory } := ⟨h.within, h.apart⟩
    exact hmemory.handOver product
  | chooses draw candidates hs hplace =>
    refine ⟨fun k' place' hk' => ?_, h.apart⟩
    rw [List.length_set]
    exact h.within k' place' hk'

/-- **A built-in selector changes by its own choices only.** -/
theorem Leads.builtIn? (hleads : w.Leads task w') (h : w.Sound) (hk : w.builtIn? k = some s) :
    w'.builtIn? k = some (task.next k s) := by
  cases hleads with
  | registers name maker => exact hk
  | remembers memory _ hnext =>
    rw [hnext k s hk]
    exact hk
  | hands name memory product =>
    have hmemory : Workshop.builtIn? { w with memory } k = some s := hk
    exact builtIn?_handOver product hmemory
  | @chooses k' place' s' draw candidates hk' hplace' =>
    obtain ⟨place, hplace, hs⟩ := Option.bind_eq_some_iff.mp hk
    show (w.place? k).bind _ = _
    rw [hplace, Option.bind_some, Task.next]
    by_cases heq : k' = k
    · subst heq
      rw [hk] at hk'
      rw [hplace] at hplace'
      cases hk'
      cases hplace'
      rw [if_pos rfl, List.getElem?_set_self (h.within k' place' hplace)]
    · -- places are kept apart, so another choice is of another place
      have hne : place' ≠ place := by
        rintro rfl
        exact heq (h.apart k' k place' hplace' hplace)
      rw [if_neg heq, List.getElem?_set_ne hne, hs]

end Perform

/-! ### A run -/

section After

theorem after_cons (w : Workshop o) (task : Task o) (tasks : List (Task o)) :
    w.after (task :: tasks) = (w.perform task).1.after tasks := rfl

theorem Sound.after (h : w.Sound) (tasks : List (Task o)) : (w.after tasks).Sound := by
  induction tasks generalizing w with
  | nil => exact h
  | cons task tasks ih => exact ih ((w.leads_perform task).sound h)

/-- **A built-in selector after a run** is what its own choices have made of it. -/
theorem builtIn?_after (h : w.Sound) (hk : w.builtIn? k = some s) (tasks : List (Task o)) :
    (w.after tasks).builtIn? k = some (tasks.foldl (fun s task => task.next k s) s) := by
  induction tasks generalizing w s with
  | nil => exact hk
  | cons task tasks ih =>
    have hleads := w.leads_perform task
    exact ih (hleads.sound h) (hleads.builtIn? h hk)

/-- A selector that takes turns counts its choices. -/
theorem Task.next_roundRobin (k n : Nat) (task : Task o) :
    task.next k (.roundRobin (.ofNat n)) = .roundRobin (.ofNat (n + (task.asks k).toNat)) := by
  cases task with
  | register | create | elsewhere => rfl
  | select k' draw candidates =>
    rw [next, asks]
    by_cases heq : k' = k
    · cases candidates with
      | nil =>
        rw [if_pos heq, decide_eq_true heq]
        rfl
      | cons e candidates =>
        rw [if_pos heq, decide_eq_true heq]
        exact takesTurns_roundRobin.select_snd n draw (List.cons_ne_nil e candidates)
    · rw [if_neg heq, decide_eq_false heq]
      rfl

theorem foldl_next_roundRobin (k n : Nat) (tasks : List (Task o)) :
    tasks.foldl (fun s task => task.next k s) (.roundRobin (.ofNat n)) =
      .roundRobin (.ofNat (n + tasks.countP (Task.asks k))) := by
  induction tasks generalizing n with
  | nil => rfl
  | cons task tasks ih =>
    rw [List.foldl_cons, Task.next_roundRobin, ih, List.countP_cons, Nat.add_assoc,
      Nat.add_comm (task.asks k).toNat]
    cases task.asks k <;> rfl

/-- **A selector that takes turns goes by its own choices**, whatever else is done. -/
theorem chosen_after (h : w.Sound) (hk : w.builtIn? k = some (.roundRobin 0))
    (tasks : List (Task o)) (draw : Nat) (hne : candidates ≠ [])
    (hcount : tasks.countP (Task.asks k) < UInt64.size) :
    ((w.after tasks).perform (.select k draw candidates)).2 =
      .chosen (.index (tasks.countP (Task.asks k) % candidates.length)) := by
  have hafter : (w.after tasks).builtIn? k =
      some (.roundRobin (.ofNat (tasks.countP (Task.asks k)))) := by
    have hfoldl := foldl_next_roundRobin k 0 tasks
    rw [Nat.zero_add] at hfoldl
    exact (builtIn?_after h hk tasks).trans (congrArg some hfoldl)
  obtain ⟨place, -, hperform⟩ := perform_select hafter draw candidates
  rw [hperform, takesTurns_roundRobin.select_fst hcount draw hne]

end After

/-! ### Registrations -/

section Registrations

open Registry (registerAll latest?)

theorem Leads.registry_eq {task : Task o} {w' : Workshop o} (hleads : w.Leads task w') :
    w'.registry = w.registry.registerAll task.registration?.toList := by
  cases hleads with
  | registers name maker => rfl
  | remembers memory hregistration =>
    rw [hregistration]
    rfl
  | hands name memory product => cases product <;> rfl
  | chooses draw candidates hs hplace => rfl

/-- A run registers what its tasks register, in their order. -/
theorem registry_after (w : Workshop o) (tasks : List (Task o)) :
    (w.after tasks).registry = w.registry.registerAll (tasks.filterMap Task.registration?) := by
  induction tasks generalizing w with
  | nil => rfl
  | cons task tasks ih =>
    rw [after_cons, ih, (w.leads_perform task).registry_eq]
    cases htask : task.registration? with
    | none =>
      rw [List.filterMap_cons_none htask]
      rfl
    | some e =>
      rw [List.filterMap_cons_some htask]
      rfl

/-- What a registry knows in the beginning: nothing, or the built-in selectors. -/
inductive Origin
  | empty
  | standard

/-- The registry in the beginning. -/
def Origin.registry : Origin → Registry (Maker o)
  | .empty => NameMap.empty
  | .standard => Registry.standardIn Maker.builtIn

/-- What is registered in the beginning. -/
def Origin.registrations : Origin → List (String × Maker o)
  | .empty => []
  | .standard => BuiltIn.named.map fun e => (e.1, Maker.builtIn e.2)

theorem Origin.registry_eq (origin : Origin) :
    origin.registry (o := o) = registerAll NameMap.empty origin.registrations := by
  cases origin <;> rfl

/-- A workshop in which no selector was made yet. -/
def start (origin : Origin) (memory : o.Memory) : Workshop o := ⟨origin.registry, memory, [], []⟩

/-- What every program has under a name stands for it until the name is registered anew. -/
theorem latest?_standard {tasks : List (Task o)} {name : String} {s : BuiltIn}
    (hs : (name, s) ∈ [("random", .random), ("round_robin", .roundRobin 0)])
    (hnew : ∀ maker, .register name maker ∉ tasks) :
    latest? (Origin.standard.registrations ++ tasks.filterMap Task.registration?) name =
      some (Maker.builtIn s) := by
  have hnone : latest? (tasks.filterMap Task.registration?) name = none := by
    refine Registry.latest?_eq_none_iff.mpr fun maker hmem => ?_
    obtain ⟨task, htask, hregistration⟩ := List.mem_filterMap.mp hmem
    cases task with
    | register name' maker' =>
      cases hregistration
      exact hnew maker htask
    | create | select | elsewhere => cases hregistration
  rw [Registry.latest?_append, hnone, Option.none_or]
  simp only [List.mem_cons, List.not_mem_nil, or_false, Prod.mk.injEq] at hs
  obtain ⟨rfl, rfl⟩ | ⟨rfl, rfl⟩ := hs
  · rfl
  · rfl

theorem sound_start (origin : Origin) (memory : o.Memory) : (start origin memory).Sound where
  within _ _ hk := by cases hk
  apart _ _ _ hk := by cases hk

/-- What holds of a registry in which makers were registered, and of the selectors made from it. -/
structure Orderly (w : Workshop o) (registrations : List (String × Maker o)) : Prop where
  knows : w.registry.Knows registrations
  /-- To make a selector is to run what was registered last under its name. -/
  runs : ∀ name maker, latest? registrations name = some maker →
    w.perform (.create name) = w.run maker
  /-- Under any other name none is made. -/
  refuses : ∀ name, name ∉ w.registry.names → w.perform (.create name) =
    (w, .refused (.configuration (.unknownSelector name w.registry.names)))
  /-- The refusal lists the names. -/
  wording : ∀ name, ConfigFault.message (.unknownSelector name w.registry.names) =
    "Unknown option for selector_class: '" ++ name ++ "'. Available options are: " ++
      ", ".intercalate (w.registry.names.map fun known => "'" ++ known ++ "'")
  /-- No two built-in selectors share a place. -/
  apart : ∀ k k' place, w.place? k = some place → w.place? k' = some place → k = k'
  /-- Suppose that a selector is made that takes turns. Whatever is done from then on, as long as it
  has made fewer choices than its counter can count, its next choice is the number of its choices
  modulo the number of the candidates. -/
  turns : ∀ name maker memory, latest? registrations name = some maker →
    maker w.memory = (some (.builtIn (.roundRobin 0)), memory) →
      (w.perform (.create name)).2 = .made w.made.length ∧
      ∀ tasks draw candidates, candidates ≠ [] →
        tasks.countP (Task.asks w.made.length) < UInt64.size →
          (((w.perform (.create name)).1.after tasks).perform
              (.select w.made.length draw candidates)).2 =
            .chosen (.index (tasks.countP (Task.asks w.made.length) % candidates.length))

theorem knows_after (origin : Origin) (memory : o.Memory) (tasks : List (Task o)) :
    ((start origin memory).after tasks).registry.Knows
      (origin.registrations ++ tasks.filterMap Task.registration?) := by
  have hregistry : ((start origin memory).after tasks).registry =
      registerAll NameMap.empty (origin.registrations ++ tasks.filterMap Task.registration?) := by
    rw [registry_after, registerAll, registerAll, List.foldl_append]
    exact congrArg (registerAll · _) origin.registry_eq
  rw [hregistry]
  exact Registry.knows_registerAll _

theorem Sound.orderly (h : w.Sound) {registrations : List (String × Maker o)}
    (hknows : w.registry.Knows registrations) : w.Orderly registrations := by
  have hruns : ∀ name maker, latest? registrations name = some maker →
      w.perform (.create name) = w.run maker := by
    intro name maker hlatest
    exact perform_create_of_ok ((hknows.create_eq_ok_iff name maker).mpr hlatest)
  refine ⟨hknows, hruns, ?_, fun _ => rfl, h.apart, ?_⟩
  · intro name hname
    exact perform_create_of_error ((hknows.refused_iff name _).mpr ⟨hname, rfl⟩)
  · intro name maker memory hlatest hmaker
    have hrun : w.run maker =
        (Workshop.handOver { w with memory } (.builtIn (.roundRobin 0)), .made w.made.length) := by
      rw [Workshop.run, hmaker]
    have hmade := (w.leads_perform (.create name)).sound h
    rw [hruns name maker hlatest, hrun] at hmade ⊢
    refine ⟨rfl, fun tasks draw candidates hne hcount => ?_⟩
    exact chosen_after hmade (builtIn?_handOver_self _ _) tasks draw hne hcount

/-- **A registry is orderly after any run**, and so are the selectors made from it. In the registry
that every program has, each of the two names stands for its built-in selector, as it is before its
first choice, until the name is registered anew. -/
theorem orderly_after (origin : Origin) (memory : o.Memory) (tasks : List (Task o)) :
    ((start origin memory).after tasks).Orderly
        (origin.registrations ++ tasks.filterMap Task.registration?) ∧
      (origin = .standard → ∀ name s,
        (name, s) ∈ [("random", .random), ("round_robin", .roundRobin 0)] →
        (∀ maker, .register name maker ∉ tasks) →
          latest? (origin.registrations ++ tasks.filterMap Task.registration?) name =
            some (Maker.builtIn s)) := by
  refine ⟨((sound_start origin memory).after tasks).orderly (knows_after origin memory tasks), ?_⟩
  rintro rfl name s hs hnew
  exact latest?_standard hs hnew

/-- Selectors from outside that take turns together: there is one counter for all of them. -/
def together : Outside := ⟨Nat, Unit, fun _ counter _ candidates =>
  (.index (counter % candidates.length), counter + 1)⟩

/-- One selector is made and makes a choice. Then its maker gets a second name, and one from outside
is made. -/
def opening : List (Task together) :=
  [.create "round_robin", .select 0 0 [Pool.plainSeed, Pool.guest],
    .register "in_turn" (Maker.builtIn (.roundRobin 0)),
    .register "together" fun counter => (some (.foreign ()), counter), .create "together"]

/-- A workshop with two selectors that were made, one of which has made a choice. -/
def opened : Workshop together := (start .standard (0 : Nat)).after opening

/-- Choices of four selectors, and a choice without candidates. The first name goes to a maker that
crashes. -/
def mingled : List (Task together) :=
  [.select 2 0 [Pool.plainSeed, Pool.guest], .create "round_robin", .select 3 0 [Pool.guest],
    .select 2 0 [], .register "round_robin" fun counter => (none, counter), .create "round_robin",
    .select 0 0 [Pool.plainSeed, Pool.guest], .select 3 0 [Pool.plainSeed, Pool.guest],
    .select 1 0 [Pool.plainSeed, Pool.guest], .elsewhere Nat.succ, .select 2 0 [Pool.guest]]

/-- The third choice of a selector that takes turns is the third of three, whichever of its two
names it was made by. -/
theorem orderly_after_opening :
    opened.registry.names = ["in_turn", "random", "round_robin", "together"] ∧
      ∀ name ∈ ["in_turn", "round_robin"], (opened.perform (.create name)).2 = .made 2 ∧
        (((opened.perform (.create name)).1.after mingled).perform
          (.select 2 0 [Pool.plainSeed, Pool.guest, Pool.secureSeed])).2 = .chosen (.index 2) := by
  obtain ⟨horderly, hstandard⟩ := orderly_after (o := together) .standard (0 : Nat) opening
  have hnew : ∀ maker, .register "round_robin" maker ∉ opening := by
    intro maker hmem
    have hname : "round_robin" ∈ (opening.filterMap Task.registration?).map Prod.fst :=
      List.mem_map.mpr ⟨(_, maker), List.mem_filterMap.mpr ⟨_, hmem, rfl⟩, rfl⟩
    exact absurd hname (by decide)
  refine ⟨by decide +kernel, fun name hname => ?_⟩
  have hlatest : latest? (Origin.standard.registrations ++ opening.filterMap Task.registration?)
      name = some (Maker.builtIn (.roundRobin 0)) := by
    obtain rfl | rfl := List.mem_pair.mp hname
    · rfl
    · exact hstandard rfl _ _ (by simp) hnew
  obtain ⟨hmade, hchosen⟩ := horderly.turns name _ (0 : Nat) hlatest rfl
  exact ⟨hmade, hchosen mingled 0 _ nofun (by decide)⟩

end Registrations

end Workshop

end EndpointPool
