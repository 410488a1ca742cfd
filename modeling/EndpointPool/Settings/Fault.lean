import EndpointPool.Binary64.Reading
import EndpointPool.Binary64.Seconds
import EndpointPool.Fault

/-!
# Faults of settings

What can be wrong with settings, from the variables they are read from to the endpoints they name.
A fault that lies deeper is worded behind the place where it was met.

## Main definitions

* `Variable`: the variables that settings are read from
* `SettingsFault`, `SettingsFault.message`: the causes and their wording
-/

namespace EndpointPool

/-- A variable that settings are read from. -/
inductive Variable
  | hosts
  | cloudId
  | selector
  | randomize
  | factor
  | limit
  | logLevel
  | logJson
  deriving DecidableEq

/-- The name of a variable. -/
def Variable.name : Variable → String
  | hosts => "NODE_POOL_HOSTS"
  | cloudId => "NODE_POOL_CLOUD_ID"
  | selector => "NODE_POOL_SELECTOR"
  | randomize => "NODE_POOL_RANDOMIZE_NODES"
  | factor => "NODE_POOL_DEAD_BACKOFF_FACTOR_SECS"
  | limit => "NODE_POOL_MAX_DEAD_BACKOFF_SECS"
  | logLevel => "LOG_LEVEL"
  | logJson => "LOG_JSON"

/-- What can be wrong with settings. -/
inductive SettingsFault
  /-- A variable is no truth value. -/
  | notTruthValue (v : Variable)
  /-- A variable is no number. -/
  | notNumber (v : Variable) (cause : NumberFault)
  /-- The settings are to be used, and name neither hosts nor a Cloud ID. -/
  | noSourceSet
  | factorNotPositive
  | limitBelowFactor
  | factorNoDuration (cause : SecondsFault)
  | limitNoDuration (cause : SecondsFault)
  /-- Endpoints are asked for, and there are neither hosts nor a Cloud ID. -/
  | noSource
  | badHost (host : String) (cause : Fault)
  | badCloudId (cause : Fault)
  deriving DecidableEq

namespace SettingsFault

/-- A place and what was met there. -/
def chain (place cause : String) : String := place ++ ": " ++ cause

/-- The place of a fault in a variable. -/
def inVariable (v : Variable) : String := "Invalid " ++ v.name ++ " value"

/-- The wording of a fault. -/
def message : SettingsFault → String
  | notTruthValue v => chain (inVariable v) "provided string was not `true` or `false`"
  | notNumber v cause => chain (inVariable v) cause.message
  | noSourceSet =>
    "Either " ++ Variable.hosts.name ++ " or " ++ Variable.cloudId.name ++ " must be set"
  | factorNotPositive => "Dead node backoff factor must be a positive number of seconds"
  | limitBelowFactor => "Max dead node backoff must be at least the backoff factor"
  | factorNoDuration cause => chain "Invalid dead node backoff factor" cause.message
  | limitNoDuration cause => chain "Invalid max dead node backoff" cause.message
  | noSource => "No hosts or Cloud ID configured"
  | badHost host cause =>
    chain ("Invalid host in " ++ Variable.hosts.name) (chain host cause.message)
  | badCloudId cause => chain ("Invalid " ++ Variable.cloudId.name) cause.message

end SettingsFault

end EndpointPool
