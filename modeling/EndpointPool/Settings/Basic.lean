import EndpointPool.CloudId
import EndpointPool.Endpoint.Url
import EndpointPool.Pool.Creation
import EndpointPool.Settings.Fault

/-!
# Settings

Settings name the endpoints of a pool, by their URLs or by a Cloud ID, and say how the pool and its
log are to work. They are read from variables, each with a value that stands in for it; being read
is no promise that they can be used, which is a check of its own.

## Main definitions

* `Settings`, `Settings.standard`: settings
* `Settings.ofVariables`, `Settings.readHosts`: settings from variables
* `Settings.check`: whether settings can be used
* `Settings.plan`, `Settings.endpoints`: the pool that settings describe
-/

namespace EndpointPool

/-- The settings of a pool and its log. The backoff is in seconds. -/
structure Settings where
  hosts : List String
  cloudId : Option String
  selector : String
  randomize : Bool
  factor : Binary64
  limit : Binary64
  logLevel : String
  logJson : Bool
  deriving DecidableEq

namespace Settings

/-- The settings if no variable is set. They name no endpoint. -/
def standard : Settings where
  hosts := []
  cloudId := none
  selector := "random"
  randomize := true
  factor := .ofNat 1
  limit := .ofNat 30
  logLevel := "info"
  logJson := false

/-! ### Variables -/

/-- The hosts that a text lists: what stands between its commas, without the blanks around it, if
anything is left. -/
def readHosts (text : String) : List String :=
  ((Text.pieces ',' text.toList).map (Text.trim Text.isBlank)).filterMap fun host =>
    if host.isEmpty then none else some (String.ofList host)

/-- A variable as a truth value. -/
def readBool (v : Variable) (text : String) : Except SettingsFault Bool :=
  if text = "true" then .ok true
  else if text = "false" then .ok false
  else .error (.notTruthValue v)

/-- A variable as a number. -/
def readNumber (v : Variable) (text : String) : Except SettingsFault Binary64 :=
  match Binary64.parse text with
  | .ok x => .ok x
  | .error cause => .error (.notNumber v cause)

/-- The value of a variable if it is set, or else a value that stands in for it. -/
def readOr {α : Type} (standard : α) (read : String → Except SettingsFault α) :
    Option String → Except SettingsFault α
  | some text => read text
  | none => .ok standard

/-- The settings of variables. An empty Cloud ID is none. -/
def ofVariables (lookup : Variable → Option String) : Except SettingsFault Settings := do
  let randomize ← readOr standard.randomize (readBool .randomize) (lookup .randomize)
  let factor ← readOr standard.factor (readNumber .factor) (lookup .factor)
  let limit ← readOr standard.limit (readNumber .limit) (lookup .limit)
  let logJson ← readOr standard.logJson (readBool .logJson) (lookup .logJson)
  return {
    hosts := ((lookup .hosts).map readHosts).getD []
    cloudId := (lookup .cloudId).filter fun id => !id.isEmpty
    selector := (lookup .selector).getD standard.selector
    randomize
    factor
    limit
    logLevel := (lookup .logLevel).getD standard.logLevel
    logJson }

/-! ### Use -/

/-- The first reason why settings cannot be used, if there is one. -/
def defect? (s : Settings) : Option SettingsFault :=
  if s.hosts.isEmpty && s.cloudId.isNone then some .noSourceSet
  -- what is no number is not finite, so it fails here and not in the comparison
  else if !s.factor.isFinite || !Binary64.lt (.ofNat 0) s.factor then some .factorNotPositive
  else if !s.limit.isFinite || Binary64.lt s.limit s.factor then some .limitBelowFactor
  else none

/-- Whether settings can be used, and what is to be reported of them then. -/
def check (s : Settings) : Except SettingsFault (List Event) :=
  match s.defect? with
  | some fault => .error fault
  | none => .ok (if !s.hosts.isEmpty && s.cloudId.isSome then [.cloudIdIgnored] else [])

/-- The plan of the pool. -/
def plan (s : Settings) : Except SettingsFault Plan :=
  match Duration.ofSeconds s.factor, Duration.ofSeconds s.limit with
  | .ok factor, .ok limit =>
    .ok { selector := s.selector, randomize := s.randomize, factor, limit }
  | .error cause, _ => .error (.factorNoDuration cause)
  | _, .error cause => .error (.limitNoDuration cause)

/-- The endpoint of a host. Its port may be left out. -/
def hostEndpoint (host : String) : Except SettingsFault Endpoint :=
  match Endpoint.ofUrl host true with
  | .ok e => .ok e
  | .error cause => .error (.badHost host cause)

/-- The endpoint of a Cloud ID. -/
def cloudEndpoint (text : String) : Except SettingsFault Endpoint :=
  match CloudId.parse text with
  | .error cause => .error (.badCloudId cause)
  | .ok id =>
    match id.endpoint with
    | .ok e => .ok e
    | .error cause => .error (.badCloudId cause)

/-- The endpoints of the pool: those of the hosts, or of the Cloud ID if there are no hosts. -/
def endpoints (s : Settings) : Except SettingsFault (List Endpoint) :=
  if !s.hosts.isEmpty then s.hosts.mapM hostEndpoint
  else
    match s.cloudId with
    | none => .error .noSource
    | some id => (cloudEndpoint id).map fun e => [e]

end Settings

end EndpointPool
