import EndpointPool.Fault
import EndpointPool.Json.Number
import EndpointPool.Json.Reader
import EndpointPool.NameMap

/-!
# Reading values from JSON

What a document is read as decides what may stand where. A document is read from its beginning,
and the first thing that is wrong in the order of the text is what is wrong with it; only when all
of a record has been read does it matter which of its fields are missing.

A record is an object of its fields in any order, each at most once, or an array of all of them in
the order of their declaration.

## Main definitions

* `ReadFault`: what is wrong with a document
* `Json.asText`, `Json.asBool`, `Json.asWord`, `Json.asReal`, `Json.asOption`, `Json.asTexts`,
  `Json.asTextMap`: simple values
* `Schema`, `Schema.read`, `Record.get?`: records
* `Json.Document.read`: whole documents
-/

namespace EndpointPool

/-- What is wrong with a document that is to be read as a value. -/
inductive ReadFault
  /-- It is not JSON. -/
  | malformed
  | invalidType
  | invalidValue
  | invalidLength
  | missingField (name : String)
  | duplicateField (name : String)
  | unknownField (name : String)
  | unknownVariant (name : String)
  | durationOverflow
  /-- The value is read, and refused for a fault of its own. -/
  | refused (fault : Fault)
  deriving DecidableEq

/-- The wording of such a fault. -/
def ReadFault.message : ReadFault → String
  | malformed => "malformed"
  | invalidType => "invalid type"
  | invalidValue => "invalid value"
  | invalidLength => "invalid length"
  | missingField name => "missing field `" ++ name ++ "`"
  | duplicateField name => "duplicate field `" ++ name ++ "`"
  | unknownField name => "unknown field `" ++ name ++ "`, expected `secs` or `nanos`"
  | unknownVariant name => "unknown variant `" ++ name ++ "`, expected `http` or `https`"
  | durationOverflow => "overflow deserializing Duration"
  | refused fault => fault.message

namespace Json

/-- What is wrong with a value of another kind than expected: it may be broken, or have no value. -/
def kindFault : Json → ReadFault
  | .broken => .malformed
  | .string none => .malformed
  | .number n =>
    match n.value with
    | .tooLarge => .malformed
    | _ => .invalidType
  | _ => .invalidType

/-- A value as a text. -/
def asText : Json → Except ReadFault String
  | .string (some s) => .ok s
  | v => .error v.kindFault

/-- A value as a truth value. -/
def asBool : Json → Except ReadFault Bool
  | .bool b => .ok b
  | v => .error v.kindFault

/-- A value as a natural number below a limit. -/
def asWord (limit : Nat) : Json → Except ReadFault Nat
  | .number n =>
    match n.value with
    | .natural k => if k < limit then .ok k else .error .invalidValue
    | .negative _ => .error .invalidValue
    | .real _ => .error .invalidType
    | .tooLarge => .error .malformed
  | v => .error v.kindFault

/-- A value as a binary64 number. -/
def asReal : Json → Except ReadFault Binary64
  | .number n =>
    match n.value with
    | .natural k => .ok (.ofNat k)
    | .negative k => .ok (Binary64.ofNat k).negate
    | .real x => .ok x
    | .tooLarge => .error .malformed
  | v => .error v.kindFault

/-- A value that may be null. -/
def asOption {α : Type} (read : Json → Except ReadFault α) : Json → Except ReadFault (Option α)
  | .null => .ok none
  | v => (read v).map some

/-- A value as a list of texts. -/
def asTexts : Json → Except ReadFault (List String)
  | .array items => items.mapM asText
  | v => .error v.kindFault

/-- The members of an object added to a map of texts; of members with one key the last counts. -/
def addTexts (m : NameMap String) : List (Key × Json) → Except ReadFault (NameMap String)
  | [] => .ok m
  | (.text name, v) :: rest =>
    match asText v with
    | .ok s => addTexts (m.insert name s) rest
    | .error fault => .error fault
  | _ :: _ => .error .malformed

/-- A value as a map of texts. -/
def asTextMap : Json → Except ReadFault (NameMap String)
  | .object members => addTexts .empty members
  | v => .error v.kindFault

end Json

/-- The fields of a kind of record: all of them in the order of declaration, their names, how
their values are read, and what to make of a name that is none of theirs. -/
structure Schema (F : Type) (V : F → Type) where
  all : List F
  name : F → String
  read : (f : F) → Json → Except ReadFault (V f)
  unknown : String → Option ReadFault

/-- The fields that were read, in the order of the text. -/
abbrev Record (F : Type) (V : F → Type) := List (Σ f, V f)

namespace Record

variable {F : Type} {V : F → Type} [DecidableEq F]

/-- The value of a field. -/
def get? : Record F V → (f : F) → Option (V f)
  | [], _ => none
  | ⟨g, v⟩ :: rest, f => if h : g = f then some (h ▸ v) else get? rest f

/-- Whether a field was read. -/
def has (r : Record F V) (f : F) : Bool := r.any fun x => x.1 = f

end Record

namespace Schema

variable {F : Type} {V : F → Type} [DecidableEq F] (s : Schema F V)

/-- The field of a name. -/
def field? (name : String) : Option F := s.all.find? fun f => s.name f = name

/-- The fields of the members of an object, after those read before. -/
def readMembers (before : Record F V) : List (Key × Json) → Except ReadFault (Record F V)
  | [] => .ok before
  | (.text name, v) :: rest =>
    match s.field? name with
    | some f =>
      if before.has f then .error (.duplicateField name)
      else
        match s.read f v with
        | .ok x => readMembers (before ++ [⟨f, x⟩]) rest
        | .error fault => .error fault
    | none =>
      match s.unknown name with
      | some fault => .error fault
      | none => if v.isWhole then readMembers before rest else .error .malformed
  | _ :: _ => .error .malformed

/-- The given fields, from the items of an array. -/
def readItems : List F → List Json → Except ReadFault (Record F V)
  | [], [] => .ok []
  | [], _ :: _ => .error .malformed
  | _ :: _, [] => .error .invalidLength
  | f :: fields, v :: items =>
    match s.read f v with
    | .ok x => (readItems fields items).map (⟨f, x⟩ :: ·)
    | .error fault => .error fault

/-- The fields of a record. -/
def readRecord : Json → Except ReadFault (Record F V)
  | .object members => s.readMembers [] members
  | .array items => s.readItems s.all items
  | v => .error v.kindFault

/-- The value of a field that a record must have. -/
def need (r : Record F V) (f : F) : Except ReadFault (V f) :=
  match r.get? f with
  | some x => .ok x
  | none => .error (.missingField (s.name f))

end Schema

/-- A whole document as a value. What stands behind the value counts last. -/
def Json.Document.read {α : Type} (read : Json → Except ReadFault α) (d : Json.Document) :
    Except ReadFault α :=
  match read d.value with
  | .ok a => if d.trailing then .error .malformed else .ok a
  | .error fault => .error fault

end EndpointPool
