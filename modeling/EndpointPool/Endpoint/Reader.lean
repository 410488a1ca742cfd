import EndpointPool.Endpoint
import EndpointPool.Json.Record

/-!
# Endpoints from JSON

An endpoint is a record of its fields, of which only the address is needed. A field that is
missing, or null where that is allowed, has its default; the endpoint is checked at the end, like
one made by settings.

## Main definitions

* `Scheme.ofJson`, `Duration.ofJson`: schemes and durations
* `Endpoint.Field`, `Endpoint.schema`: the fields of an endpoint
* `Endpoint.ofJson`, `Endpoint.parse`: endpoints
-/

namespace EndpointPool

namespace Scheme

/-- The scheme of a name. -/
def ofVariant (name : String) : Except ReadFault Scheme :=
  match ofName? name with
  | some s => .ok s
  | none => .error (.unknownVariant name)

/-- A value as a scheme: its name, or an object of its name and null. What stands in the place of
the name counts before what is missing around it. -/
def ofJson : Json → Except ReadFault Scheme
  | .string (some name) => ofVariant name
  | .object ((.text name, v) :: rest) =>
    match ofVariant name, v with
    | .error fault, _ => .error fault
    | .ok s, .null => if rest.isEmpty then .ok s else .error .malformed
    | .ok _, v => .error v.kindFault
  | .object ((.absent, v) :: _) => .error v.kindFault
  | _ => .error .malformed

end Scheme

namespace Duration

/-- The fields of a duration. -/
inductive Field
  | seconds
  | nanos
  deriving DecidableEq

/-- A duration in JSON: whole seconds, and nanoseconds of which there may be more than a second's.
It has no other fields. -/
def schema : Schema Field fun _ => Nat where
  all := [.seconds, .nanos]
  name
    | .seconds => "secs"
    | .nanos => "nanos"
  read
    | .seconds => Json.asWord UInt64.size
    | .nanos => Json.asWord UInt32.size
  unknown name := some (.unknownField name)

/-- A value as a duration. -/
def ofJson (v : Json) : Except ReadFault Duration := do
  let r ← schema.readRecord v
  let seconds ← schema.need r .seconds
  let nanos ← schema.need r .nanos
  match ofNanos? (seconds * nanosPerSecond + nanos) with
  | some d => .ok d
  | none => .error .durationOverflow

end Duration

namespace Endpoint

/-- The fields of an endpoint. -/
inductive Field
  | scheme
  | host
  | port
  | pathPrefix
  | headers
  | connections
  | timeout
  | compress
  | verifyCerts
  | tls (option : TlsOption)
  | showWarnings
  deriving DecidableEq

/-- What is read for a field. -/
def Field.Value : Field → Type
  | scheme => Scheme
  | host => String
  | port => UInt16
  | pathPrefix => String
  | headers => NameMap String
  | connections => Option UInt64
  | timeout => Option Duration
  | compress => Bool
  | verifyCerts => Option Bool
  | tls _ => Option String
  | showWarnings => Option Bool

/-- An endpoint in JSON. Fields of other names are passed over. -/
def schema : Schema Field Field.Value where
  all := [.scheme, .host, .port, .pathPrefix, .headers, .connections, .timeout, .compress,
    .verifyCerts] ++ TlsOption.all.map .tls ++ [.showWarnings]
  name
    | .scheme => "scheme"
    | .host => "host"
    | .port => "port"
    | .pathPrefix => "path_prefix"
    | .headers => "headers"
    | .connections => "connections_per_node"
    | .timeout => "request_timeout"
    | .compress => "http_compress"
    | .verifyCerts => "verify_certs"
    | .tls option => option.name
    | .showWarnings => "ssl_show_warn"
  read
    | .scheme => Scheme.ofJson
    | .host => Json.asText
    | .port => fun v => (Json.asWord UInt16.size v).map UInt16.ofNat
    | .pathPrefix => Json.asText
    | .headers => Json.asTextMap
    | .connections => Json.asOption fun v => (Json.asWord UInt64.size v).map UInt64.ofNat
    | .timeout => Json.asOption Duration.ofJson
    | .compress => Json.asBool
    | .verifyCerts => Json.asOption Json.asBool
    | .tls _ => Json.asOption Json.asText
    | .showWarnings => Json.asOption Json.asBool
  unknown _ := none

/-- The endpoint of the fields that were read, before it is checked. -/
def ofRecord (r : Record Field Field.Value) : Except ReadFault Endpoint := do
  let scheme ← schema.need r .scheme
  let host ← schema.need r .host
  let port ← schema.need r .port
  let standard := new scheme host port
  let text (option : TlsOption) : Option String := (r.get? (.tls option)).join
  return {
    standard with
    pathPrefix := normalizePrefix ((r.get? .pathPrefix).getD "")
    headers := (r.get? .headers).getD .empty
    connections := (r.get? .connections).join.getD standard.connections
    timeout := (r.get? .timeout).getD standard.timeout
    compress := (r.get? .compress).getD standard.compress
    verifyCerts := (r.get? .verifyCerts).join.getD standard.verifyCerts
    tls := ⟨text .caCerts, text .clientCert, text .clientKey, text .assertHostname,
      text .assertFingerprint⟩
    showWarnings := (r.get? .showWarnings).join.getD standard.showWarnings }

/-- A value as an endpoint. -/
def ofJson (v : Json) : Except ReadFault Endpoint := do
  let e ← ofRecord (← schema.readRecord v)
  match e.checked with
  | .ok e => .ok e
  | .error fault => .error (.refused fault)

/-- The endpoint of a JSON text. -/
def parse (text : String) : Except ReadFault Endpoint := (Json.Document.parse text).read ofJson

end Endpoint

end EndpointPool
