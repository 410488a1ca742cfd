import EndpointPool.Fault
import EndpointPool.NameMap
import EndpointPool.Selector
import EndpointPool.Text.Quoted

/-!
# Selector registries

A registry knows selectors by name. Each name stands for the selector as it is before its first
choice, so every selector made from a registry starts anew and none shares its memory with
another.

## Main definitions

* `Registry`, `Registry.register`, `Registry.names`, `Registry.contains`, `Registry.create`
* `Registry.standard`: the selectors every program has
-/

namespace EndpointPool

/-- Selectors by name, each as it is before its first choice. -/
abbrev Registry (σ : Type) := NameMap σ

namespace Registry

variable {σ : Type}

/-- The registry in which `name` stands for `selector`. -/
def register (r : Registry σ) (name : String) (selector : σ) : Registry σ :=
  NameMap.insert r name selector

/-- The registered names, in order. -/
def names (r : Registry σ) : List String := NameMap.keys r

/-- Whether a name is registered. -/
def contains (r : Registry σ) (name : String) : Bool := (NameMap.find? r name).isSome

/-- A new selector of the given name. -/
def create (r : Registry σ) (name : String) : Except Fault σ :=
  match NameMap.find? r name with
  | some selector => .ok selector
  | none => .error (.configuration (.unknownSelector name (names r)))

/-- The text that stands for a registry in a listing: its names, quoted. -/
def describe (r : Registry σ) : String :=
  "SelectorRegistry \x7b names: [" ++ ", ".intercalate (r.names.map Text.quote) ++ "] \x7d"

/-- The registry of the selectors every program has, among selectors of a wider type. -/
def standardIn (embed : BuiltIn → σ) : Registry σ :=
  BuiltIn.named.foldl (fun r (name, selector) => register r name (embed selector)) NameMap.empty

/-- The registry of the selectors every program has. -/
def standard : Registry BuiltIn := standardIn fun s => s

end Registry

end EndpointPool
