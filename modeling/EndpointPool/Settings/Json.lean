import EndpointPool.Json.Printer
import EndpointPool.Json.Real
import EndpointPool.Json.Record
import EndpointPool.Settings.Basic

/-!
# Settings as JSON

Settings are a record of their fields, of which only the Cloud ID may be missing. It is not written
either, since it is not for everyone's eyes.

## Main definitions

* `Settings.toJson`: settings as JSON
* `Settings.Field`, `Settings.schema`: the fields of settings
* `Settings.ofJson`, `Settings.parse`: settings from JSON
-/

namespace EndpointPool.Settings

/-- The fields of settings. -/
inductive Field
  | hosts
  | cloudId
  | selector
  | randomize
  | factor
  | limit
  | logLevel
  | logJson
  deriving DecidableEq

namespace Field

/-- Every field, in the order of declaration. -/
def all : List Field := [hosts, cloudId, selector, randomize, factor, limit, logLevel, logJson]

/-- The name of a field. -/
def name : Field → String
  | hosts => "hosts"
  | cloudId => "cloud_id"
  | selector => "node_selector_class"
  | randomize => "randomize_nodes"
  | factor => "dead_node_backoff_factor_secs"
  | limit => "max_dead_node_backoff_secs"
  | logLevel => "log_level"
  | logJson => "log_json"

/-- What is read for a field. -/
def Value : Field → Type
  | hosts => List String
  | cloudId => Option String
  | selector => String
  | randomize => Bool
  | factor => Binary64
  | limit => Binary64
  | logLevel => String
  | logJson => Bool

end Field

/-- What is written for a field of settings. -/
def fieldJson (s : Settings) : Field → Json
  | .hosts => .array (s.hosts.map Json.ofText)
  | .cloudId => Json.ofOption Json.ofText s.cloudId
  | .selector => .ofText s.selector
  | .randomize => .bool s.randomize
  | .factor => s.factor.toJson
  | .limit => s.limit.toJson
  | .logLevel => .ofText s.logLevel
  | .logJson => .bool s.logJson

/-- Settings as JSON, without the Cloud ID. -/
def toJson (s : Settings) : Json :=
  .ofFields ((Field.all.filter (· ≠ .cloudId)).map fun f => (f.name, s.fieldJson f))

/-- Settings in JSON. Fields of other names are passed over. -/
def schema : Schema Field Field.Value where
  all := Field.all
  name := Field.name
  read
    | .hosts => Json.asTexts
    | .cloudId => Json.asOption Json.asText
    | .selector => Json.asText
    | .randomize => Json.asBool
    | .factor => Json.asReal
    | .limit => Json.asReal
    | .logLevel => Json.asText
    | .logJson => Json.asBool
  unknown _ := none

/-- A value as settings. -/
def ofJson (v : Json) : Except ReadFault Settings := do
  let r ← schema.readRecord v
  return {
    hosts := ← schema.need r .hosts
    cloudId := (r.get? .cloudId).join
    selector := ← schema.need r .selector
    randomize := ← schema.need r .randomize
    factor := ← schema.need r .factor
    limit := ← schema.need r .limit
    logLevel := ← schema.need r .logLevel
    logJson := ← schema.need r .logJson }

/-- The settings of a JSON text. -/
def parse (text : String) : Except ReadFault Settings := (Json.Document.parse text).read ofJson

end EndpointPool.Settings
