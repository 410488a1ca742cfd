import EndpointPool.Endpoint

/-!
# Events

What a pool reports of its work, and the log line of each event: its level, its message and its
fields.

## Main definitions

* `Event`, `Event.line`: the events and their log lines
-/

namespace EndpointPool

/-- What a pool reports. -/
inductive Event
  /-- A pool was made. -/
  | created (nodes : Nat) (selector : String) (randomized : Bool)
  /-- An endpoint was added. -/
  | added (endpoint : Endpoint)
  /-- An endpoint was removed. -/
  | removed (endpoint : Endpoint)
  /-- A failure put an endpoint into quarantine. -/
  | died (endpoint : Endpoint) (failures : Nat) (delay : Duration)
  /-- A success ended a quarantine. -/
  | revived (endpoint : Endpoint)
  /-- A quarantine ran out. -/
  | resurrected (endpoint : Endpoint) (failures : Nat)
  /-- No endpoint was alive, so the one whose quarantine ends first was handed out. -/
  | fellBack
  /-- Settings name a Cloud ID beside the hosts that replace it. -/
  | cloudIdIgnored
  deriving DecidableEq

namespace Event

/-- A field of a log line. -/
private def field (name value : String) : String := " " ++ name ++ "=" ++ value

/-- The log line of an event. -/
def line : Event → String
  | created nodes selector randomized =>
    "DEBUG Created node pool" ++ field "nodes" (Decimal.render nodes) ++ field "selector" selector
      ++ field "randomized" (if randomized then "true" else "false")
  | added e => "DEBUG Adding node to pool" ++ field "node" e.url
  | removed e => "DEBUG Removed node from pool" ++ field "node" e.url
  | died e failures delay =>
    "WARN Node marked dead" ++ field "node" e.url ++ field "failures" (Decimal.render failures)
      ++ field "backoff_ms" (Decimal.render delay.milliseconds)
  | revived e => "INFO Node marked live" ++ field "node" e.url
  | resurrected e failures =>
    "INFO Resurrecting node after backoff" ++ field "node" e.url
      ++ field "failures" (Decimal.render failures)
  | fellBack => "DEBUG No alive nodes, falling back to the next node due for resurrection"
  | cloudIdIgnored => "WARN NODE_POOL_CLOUD_ID is ignored because NODE_POOL_HOSTS is set"

end Event

end EndpointPool
