import EndpointPool.Proofs.Text.Parts
import EndpointPool.Settings.Basic
import Mathlib.Logic.Function.Basic

/-!
# The hosts that a variable lists

A variable lists hosts between commas. Blanks of any kind may stand around each host, and items
without a host may stand anywhere, so a list of hosts can be written in many ways. All of them are
read as that list, and nothing else is: each text is one way to write the hosts that are read from
it, and these can be written again with nothing but commas between them.

## Main definitions

* `Settings.IsHost host`: what can be listed as a host
* `Settings.Lists items hosts`: items that list hosts
* `Settings.Parsable lookup`: the variables that are not text are unset, or can be read
* `Settings.HostsRead lookup text s`: what becomes of a text that lists hosts

## Main results

* `Text.exists_trim_eq`, `Text.trim_eq_nil_iff`: what is trimmed off
* `Settings.lists_filterMap`, `Settings.Lists.filterMap_eq`: the hosts of items
* `Settings.readHosts_eq_iff`: the hosts that are read from a text
* `Settings.hostsRead_of_parsable`: the hosts of settings from variables
-/

namespace EndpointPool

/-! ### Trimming -/

namespace Text

variable {p : Char → Bool} {text left right : List Char}

/-- What is trimmed off at either end satisfies the test. -/
theorem exists_trim_eq (p : Char → Bool) (text : List Char) :
    ∃ left right, text = left ++ (trim p text ++ right) ∧ (∀ c ∈ left, p c = true) ∧
      ∀ c ∈ right, p c = true := by
  have htrim : trim p text = (text.dropWhile p).rdropWhile p := rfl
  refine ⟨text.takeWhile p, (text.dropWhile p).rtakeWhile p, ?_, ?_, ?_⟩
  · rw [htrim, List.rdropWhile_append_rtakeWhile, List.takeWhile_append_dropWhile]
  · exact fun c hc => List.mem_takeWhile_imp hc
  · exact fun c hc => List.mem_rtakeWhile_imp hc

theorem trim_eq_nil_iff : trim p text = [] ↔ ∀ c ∈ text, p c = true := by
  constructor
  · intro h
    obtain ⟨left, right, htext, hleft, hright⟩ := exists_trim_eq p text
    rw [h, List.nil_append] at htext
    rw [htext]
    exact List.forall_mem_append.mpr ⟨hleft, hright⟩
  · intro h
    rw [trim, List.dropWhile_eq_nil_iff.mpr h]
    rfl

/-- Trimming leaves a part that is not to be trimmed, and nothing of what is around it. -/
theorem trim_around {middle : List Char} (h : IsTrimmed p middle) (hne : middle ≠ [])
    (hleft : ∀ c ∈ left, p c = true) (hright : ∀ c ∈ right, p c = true) :
    trim p (left ++ (middle ++ right)) = middle := by
  rw [trim_append h hne, List.dropWhile_eq_nil_iff.mpr hleft, List.rdropWhile_eq_nil_iff.mpr hright,
    List.nil_append, List.append_nil]

end Text

namespace Settings

/-! ### Items -/

/-- What can be listed as a host: a text that is not empty and has no comma in it, and neither begins
nor ends with a blank. -/
structure IsHost (host : String) : Prop where
  ne_empty : host ≠ ""
  comma_not_mem : ',' ∉ host.toList
  trimmed : Text.IsTrimmed Text.isBlank host.toList

/-- All characters of a text are blanks. -/
def AllBlank (text : String) : Prop := ∀ c ∈ text.toList, Text.isBlank c = true

/-- Items list hosts: each is the next of the hosts with blanks around it, or blank. -/
inductive Lists : List String → List String → Prop
  | nil : Lists [] []
  | host {left host right : String} {items hosts : List String} (hleft : AllBlank left)
      (hright : AllBlank right) (rest : Lists items hosts) :
      Lists ((left ++ host ++ right) :: items) (host :: hosts)
  | skip {item : String} {items hosts : List String} (hitem : AllBlank item)
      (rest : Lists items hosts) : Lists (item :: items) hosts

/-- The host of an item, if it is not blank. -/
def hostOf? (item : List Char) : Option String :=
  if (Text.trim Text.isBlank item).isEmpty then none
  else some (String.ofList (Text.trim Text.isBlank item))

variable {item : List Char} {items hosts : List String} {host text : String}

theorem readHosts_eq (text : String) :
    readHosts text = (Text.pieces ',' text.toList).filterMap hostOf? := List.filterMap_map

theorem hostOf?_eq_none_iff : hostOf? item = none ↔ ∀ c ∈ item, Text.isBlank c = true := by
  rw [← Text.trim_eq_nil_iff, ← List.isEmpty_iff, hostOf?]
  split
  · next h => exact iff_of_true rfl h
  · next h => exact iff_of_false nofun h

/-- The host of an item is found between blanks. -/
theorem hostOf?_eq_some_iff (hcomma : ',' ∉ item) :
    hostOf? item = some host ↔ IsHost host ∧ ∃ left right, AllBlank left ∧ AllBlank right ∧
      item = (left ++ host ++ right).toList := by
  constructor
  · intro h
    obtain ⟨left, right, hitem, hleft, hright⟩ := Text.exists_trim_eq Text.isBlank item
    obtain ⟨hne, heq⟩ := Option.ite_none_left_eq_some.mp h
    obtain rfl := Option.some.inj heq
    refine ⟨⟨?_, ?_, ?_⟩, String.ofList left, String.ofList right, ?_, ?_, ?_⟩
    · intro hempty
      rw [← String.toList_eq_nil_iff, String.toList_ofList] at hempty
      exact hne (List.isEmpty_iff.mpr hempty)
    · rw [String.toList_ofList]
      exact fun hmem => hcomma (Text.mem_of_mem_trim hmem)
    · rw [String.toList_ofList]
      exact Text.isTrimmed_trim _ _
    · rwa [AllBlank, String.toList_ofList]
    · rwa [AllBlank, String.toList_ofList]
    · simpa using hitem
  · rintro ⟨hhost, left, right, hleft, hright, rfl⟩
    have hne : host.toList ≠ [] := mt String.toList_eq_nil_iff.mp hhost.ne_empty
    rw [hostOf?, String.toList_append, String.toList_append, List.append_assoc,
      Text.trim_around hhost.trimmed hne hleft hright, if_neg (mt List.isEmpty_iff.mp hne),
      String.ofList_toList]

theorem comma_not_mem_of_allBlank (h : AllBlank text) : ',' ∉ text.toList :=
  fun hmem => Bool.false_ne_true (h _ hmem)

/-- Items that list hosts have no comma in them. -/
theorem Lists.comma_not_mem (h : Lists items hosts) (hhosts : ∀ host ∈ hosts, IsHost host) :
    ∀ item ∈ items, ',' ∉ item.toList := by
  induction h with
  | nil => exact nofun
  | host hleft hright _ ih =>
    obtain ⟨hhost, hhosts⟩ := List.forall_mem_cons.mp hhosts
    refine List.forall_mem_cons.mpr ⟨?_, ih hhosts⟩
    rw [String.toList_append, String.toList_append, List.mem_append, List.mem_append, not_or, not_or]
    exact ⟨⟨comma_not_mem_of_allBlank hleft, hhost.comma_not_mem⟩,
      comma_not_mem_of_allBlank hright⟩
  | skip hitem _ ih =>
    exact List.forall_mem_cons.mpr ⟨comma_not_mem_of_allBlank hitem, ih hhosts⟩

/-- The hosts that items list are the hosts of the items. -/
theorem Lists.filterMap_eq (h : Lists items hosts) (hhosts : ∀ host ∈ hosts, IsHost host) :
    (items.map String.toList).filterMap hostOf? = hosts := by
  induction h with
  | nil => rfl
  | @host left host right items hosts hleft hright rest ih =>
    have hcomma := (Lists.host hleft hright rest).comma_not_mem hhosts _ List.mem_cons_self
    obtain ⟨hhost, hhosts⟩ := List.forall_mem_cons.mp hhosts
    have hfound : hostOf? (left ++ host ++ right).toList = some host :=
      (hostOf?_eq_some_iff hcomma).mpr ⟨hhost, left, right, hleft, hright, rfl⟩
    rw [List.map_cons, List.filterMap_cons_some hfound, ih hhosts]
  | skip hitem _ ih =>
    rw [List.map_cons, List.filterMap_cons_none (hostOf?_eq_none_iff.mpr hitem), ih hhosts]

/-- Items without commas list the hosts of the items. -/
theorem lists_filterMap {parts : List (List Char)} (hparts : ∀ part ∈ parts, ',' ∉ part) :
    Lists (parts.map String.ofList) (parts.filterMap hostOf?) ∧
      ∀ host ∈ parts.filterMap hostOf?, IsHost host := by
  induction parts with
  | nil => exact ⟨.nil, nofun⟩
  | cons part parts ih =>
    obtain ⟨hpart, hparts⟩ := List.forall_mem_cons.mp hparts
    obtain ⟨hlists, hhosts⟩ := ih hparts
    cases hhost : hostOf? part with
    | none =>
      rw [List.filterMap_cons_none hhost]
      refine ⟨.skip ?_ hlists, hhosts⟩
      rw [AllBlank, String.toList_ofList]
      exact hostOf?_eq_none_iff.mp hhost
    | some host =>
      obtain ⟨hishost, left, right, hleft, hright, rfl⟩ := (hostOf?_eq_some_iff hpart).mp hhost
      rw [List.filterMap_cons_some hhost, List.map_cons, String.ofList_toList]
      exact ⟨.host hleft hright hlists, List.forall_mem_cons.mpr ⟨hishost, hhosts⟩⟩

/-! ### Texts -/

/-- **The hosts that are read from a text** are those that its items list. -/
theorem readHosts_eq_iff :
    readHosts text = hosts ↔
      (∀ host ∈ hosts, IsHost host) ∧ ∃ items, text = ",".intercalate items ∧ Lists items hosts := by
  rw [readHosts_eq]
  constructor
  · rintro rfl
    obtain ⟨hlists, hhosts⟩ := lists_filterMap fun part (hpart : part ∈ Text.pieces ',' text.toList) =>
      (Text.of_mem_pieces hpart).1
    refine ⟨hhosts, _, String.toList_inj.mp ?_, hlists⟩
    have hmap : String.toList ∘ String.ofList = id := funext fun _ => String.toList_ofList
    rw [String.toList_intercalate, List.map_map, hmap, List.map_id]
    exact (Text.intercalate_pieces text.toList).symm
  · rintro ⟨hhosts, items, rfl, hlists⟩
    rw [String.toList_intercalate]
    by_cases hne : items.map String.toList = []
    · -- no items are written as one without a host is
      obtain rfl := List.map_eq_nil_iff.mp hne
      cases hlists
      rfl
    · have hcomma : ∀ part ∈ items.map String.toList, ',' ∉ part :=
        List.forall_mem_map.mpr (hlists.comma_not_mem hhosts)
      have hpieces : Text.pieces ',' (",".toList.intercalate (items.map String.toList)) =
          items.map String.toList := Text.pieces_intercalate hne hcomma
      rw [hpieces, hlists.filterMap_eq hhosts]

/-- Hosts list themselves. -/
theorem lists_self (hosts : List String) : Lists hosts hosts := by
  have hempty : AllBlank "" := nofun
  induction hosts with
  | nil => exact .nil
  | cons host hosts ih =>
    have hlists : Lists (("" ++ host ++ "") :: hosts) (host :: hosts) := .host hempty hempty ih
    rwa [String.empty_append, String.append_empty] at hlists

theorem readHosts_intercalate (h : ∀ host ∈ hosts, IsHost host) :
    readHosts (",".intercalate hosts) = hosts :=
  readHosts_eq_iff.mpr ⟨h, hosts, rfl, lists_self hosts⟩

/-- There are no hosts in a text of commas and blanks. -/
theorem readHosts_eq_nil_iff :
    readHosts text = [] ↔ ∀ c ∈ text.toList, c = ',' ∨ Text.isBlank c = true := by
  rw [readHosts_eq, List.filterMap_eq_nil_iff]
  simp only [hostOf?_eq_none_iff]
  constructor
  · intro h c hc
    have hjoined : List.intercalate [','] (Text.pieces ',' text.toList) = text.toList :=
      Text.intercalate_pieces text.toList
    rw [← hjoined] at hc
    rcases Text.of_mem_intercalate hc with hcomma | ⟨part, hpart, hc⟩
    · exact .inl hcomma
    · exact .inr (h part hpart c hc)
  · intro h part hpart c hc
    obtain ⟨hcomma, hmem⟩ := Text.of_mem_pieces hpart
    exact (h c (hmem c hc)).resolve_left fun heq => hcomma (heq ▸ hc)

/-! ### Settings from variables -/

/-- The variables that are not text are unset, or can be read. -/
structure Parsable (lookup : Variable → Option String) : Prop where
  randomize : ∀ text ∈ lookup .randomize, text = "true" ∨ text = "false"
  factor : ∀ text ∈ lookup .factor, ∃ x, Binary64.parse text = .ok x
  limit : ∀ text ∈ lookup .limit, ∃ x, Binary64.parse text = .ok x
  logJson : ∀ text ∈ lookup .logJson, text = "true" ∨ text = "false"

section Reading

variable {lookup : Variable → Option String} {s : Settings}

theorem exists_readOr {α : Type} (standard : α) {read : String → Except SettingsFault α}
    {value : Option String} (h : ∀ text ∈ value, ∃ x, read text = .ok x) :
    ∃ x, readOr standard read value = .ok x := by
  cases value with
  | none => exact ⟨standard, rfl⟩
  | some text => exact h text rfl

theorem exists_readBool (v : Variable) (h : text = "true" ∨ text = "false") :
    ∃ b, readBool v text = .ok b := by
  rcases h with rfl | rfl
  · exact ⟨true, rfl⟩
  · exact ⟨false, rfl⟩

theorem exists_readNumber (v : Variable) (h : ∃ x, Binary64.parse text = .ok x) :
    ∃ x, readNumber v text = .ok x := by
  obtain ⟨x, hx⟩ := h
  exact ⟨x, by rw [readNumber, hx]⟩

/-- Variables that can be read make settings, and the hosts are read from theirs alone. -/
theorem Parsable.exists_ofVariables (h : Parsable lookup) :
    ∃ s : Settings, ∀ text, ofVariables (Function.update lookup .hosts text) =
      .ok { s with hosts := (text.map readHosts).getD [] } := by
  obtain ⟨randomize, hrandomize⟩ :=
    exists_readOr standard.randomize fun text htext =>
      exists_readBool .randomize (h.randomize text htext)
  obtain ⟨factor, hfactor⟩ :=
    exists_readOr standard.factor fun text htext =>
      exists_readNumber .factor (h.factor text htext)
  obtain ⟨limit, hlimit⟩ :=
    exists_readOr standard.limit fun text htext =>
      exists_readNumber .limit (h.limit text htext)
  obtain ⟨logJson, hlogJson⟩ :=
    exists_readOr standard.logJson fun text htext =>
      exists_readBool .logJson (h.logJson text htext)
  refine ⟨{
    hosts := []
    cloudId := (lookup .cloudId).filter fun id => !id.isEmpty
    selector := (lookup .selector).getD standard.selector
    randomize
    factor
    limit
    logLevel := (lookup .logLevel).getD standard.logLevel
    logJson }, fun text => ?_⟩
  have hother : ∀ v ≠ Variable.hosts, Function.update lookup .hosts text v = lookup v :=
    fun v hv => Function.update_of_ne hv text lookup
  simp only [ofVariables, Function.update_self, hother .cloudId nofun, hother .selector nofun,
    hother .randomize nofun, hother .factor nofun, hother .limit nofun, hother .logLevel nofun,
    hother .logJson nofun, hrandomize, hfactor, hlimit, hlogJson]
  rfl

/-- What becomes of a text that lists hosts. -/
structure HostsRead (lookup : Variable → Option String) (text : String) (s : Settings) : Prop where
  /-- Whatever hosts the items of the text list, these are read. -/
  listed : ∀ items hosts, text = ",".intercalate items → Lists items hosts →
    (∀ host ∈ hosts, IsHost host) → s.hosts = hosts
  /-- What is read can be listed, and the items of the text list it. -/
  isHost : ∀ host ∈ s.hosts, IsHost host
  lists : ∃ items, text = ",".intercalate items ∧ Lists items s.hosts
  /-- With nothing but commas between the hosts, the settings are the same. -/
  again : ofVariables (Function.update lookup .hosts (some (",".intercalate s.hosts))) = .ok s
  /-- No host is read from commas and blanks. -/
  none_iff : s.hosts = [] ↔ ∀ c ∈ text.toList, c = ',' ∨ Text.isBlank c = true

/-- **The hosts of settings** are those that the text of their variable lists. -/
theorem hostsRead_of_parsable (h : Parsable lookup) (htext : lookup .hosts = some text) :
    ∃ s, ofVariables lookup = .ok s ∧ HostsRead lookup text s := by
  obtain ⟨rest, hrest⟩ := h.exists_ofVariables
  obtain ⟨hhosts, hlists⟩ := readHosts_eq_iff.mp (rfl : readHosts text = readHosts text)
  refine ⟨{ rest with hosts := readHosts text }, ?_, ?_, hhosts, hlists, ?_, readHosts_eq_nil_iff⟩
  · have hread := hrest (some text)
    rwa [← htext, Function.update_eq_self, htext] at hread
  · exact fun items hosts hitems hlists hhosts =>
      readHosts_eq_iff.mpr ⟨hhosts, items, hitems, hlists⟩
  · rw [hrest, Option.map_some, readHosts_intercalate hhosts, Option.getD_some]

end Reading

/-- Two hosts, one of them twice, among blanks of several kinds and items without a host. -/
def spreadHosts : Variable → Option String
  | .hosts => some "\u2003http://es1:9200 ,,\t \u3000,https://es2\u0085,http://es1:9200,"
  | .randomize => some "false"
  | .factor => some "0.5"
  | .cloudId | .selector | .limit | .logLevel | .logJson => none

theorem hostsRead_of_parsable_spread :
    Parsable spreadHosts ∧ ∃ text s, spreadHosts .hosts = some text ∧
      ofVariables spreadHosts = .ok s ∧ HostsRead spreadHosts text s ∧
      s.hosts = ["http://es1:9200", "https://es2", "http://es1:9200"] := by
  have hparsable : Parsable spreadHosts :=
    { randomize := fun text htext => .inr (Option.some.inj htext).symm
      factor := fun text htext => by
        obtain rfl := Option.some.inj htext
        exact ⟨.ofDecimal false 5 (-1), by decide +kernel⟩
      limit := nofun
      logJson := nofun }
  obtain ⟨s, hs, hread⟩ := hostsRead_of_parsable hparsable rfl
  have hlists : Lists
      ["\u2003" ++ "http://es1:9200" ++ " ", "", "\t \u3000", "" ++ "https://es2" ++ "\u0085",
        "" ++ "http://es1:9200" ++ "", ""]
      ["http://es1:9200", "https://es2", "http://es1:9200"] := by
    refine .host ?_ ?_ (.skip ?_ (.skip ?_ (.host ?_ ?_ (.host ?_ ?_ (.skip ?_ .nil)))))
    all_goals exact List.all_eq_true.mp (by decide)
  refine ⟨hparsable, _, s, rfl, hs, hread, hread.listed _ _ (by decide) hlists ?_⟩
  have hhost : ∀ host ∈ ["http://es1:9200", "https://es2", "http://es1:9200"],
      host ≠ "" ∧ ',' ∉ host.toList ∧ Text.trim Text.isBlank host.toList = host.toList := by
    decide
  intro host hmem
  obtain ⟨hne, hcomma, htrim⟩ := hhost host hmem
  exact ⟨hne, hcomma, htrim ▸ Text.isTrimmed_trim _ _⟩

end Settings

end EndpointPool
