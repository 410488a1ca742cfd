import EndpointPool.Encoding.Base64
import EndpointPool.Endpoint
import EndpointPool.Json.Printer

/-!
# Cloud IDs

A Cloud ID is a cluster's name, a colon, and the Base64 form of an ASCII text: the host of the
cluster, with a port or without, then the labels of its services, all separated by dollar signs.
A service lives at its label followed by the host; a label that is empty or missing is no service.

## Main definitions

* `CloudId`, `CloudId.parse`: Cloud IDs and how they are read
* `CloudId.endpoint`: the endpoint of the search service
* `CloudId.toJson`: a Cloud ID as JSON
-/

namespace EndpointPool

/-- A Cloud ID read: the name of the cluster and the addresses of its services. -/
structure CloudId where
  clusterName : String
  elasticsearch : Option (String × UInt16)
  kibana : Option (String × UInt16)
  deriving DecidableEq

namespace CloudId

/-- The port of a host that names none. -/
def defaultPort : UInt16 := 443

/-- The port that digits, perhaps after a plus sign, spell. -/
def readPort? (text : List Char) : Option UInt16 :=
  let digits := match text with
    | '+' :: rest => rest
    | rest => rest
  match Decimal.read? digits with
  | some n => if n < 65536 then some (UInt16.ofNat n) else none
  | none => none

/-- The host and the port that the first part of a payload names. -/
def readHost? (text : List Char) : Option (List Char × UInt16) :=
  match Text.cutLast? ':' text with
  | none => if text.isEmpty then none else some (text, defaultPort)
  | some (host, port) => if host.isEmpty then none else (readPort? port).map fun p => (host, p)

/-- The address of a service, if it has a label. -/
def address? (host : List Char) (port : UInt16) : Option (List Char) → Option (String × UInt16)
  | none => none
  | some label =>
    if label.isEmpty then none else some (String.ofList (label ++ '.' :: host), port)

/-- The ASCII text that a payload carries. -/
def decodePayload? (payload : List Char) : Option (List Char) :=
  match Base64.decode? payload with
  | some bytes =>
    if bytes.all (· < 128) then some (bytes.map fun b => Char.ofNat b.toNat) else none
  | none => none

/-- The Cloud ID of a text. -/
def parse? (text : List Char) : Option CloudId :=
  match Text.cut? ':' text with
  | none => none
  | some (name, payload) =>
    match decodePayload? payload with
    | none => none
    | some decoded =>
      let parts := Text.pieces '$' decoded
      match readHost? (parts.headD []) with
      | none => none
      | some (host, port) =>
        some {
          clusterName := String.ofList name
          elasticsearch := address? host port parts[1]?
          kibana := address? host port parts[2]? }

/-- The Cloud ID of a text, any other text being malformed. -/
def parse (text : String) : Except Fault CloudId :=
  match parse? text.toList with
  | some id => .ok id
  | none => .error .cloudIdFormat

/-- The endpoint of the search service: over `https`, with compression. -/
def endpoint (id : CloudId) : Except Fault Endpoint :=
  match id.elasticsearch with
  | some (host, port) => (Endpoint.new .https host port).revise [.compress true]
  | none => .error (.configuration .cloudIdWithoutAddress)

/-- A Cloud ID as JSON. -/
def toJson (id : CloudId) : Json :=
  let address := Json.ofOption fun a : String × UInt16 =>
    .array [.ofText a.1, .ofNat a.2.toNat]
  .ofFields [("cluster_name", .ofText id.clusterName), ("es_address", address id.elasticsearch),
    ("kibana_address", address id.kibana)]

end CloudId

end EndpointPool
