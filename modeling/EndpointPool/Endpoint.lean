import EndpointPool.Decimal
import EndpointPool.Fault
import EndpointPool.NameMap
import EndpointPool.Scheme
import EndpointPool.Text
import EndpointPool.Time

/-!
# Endpoints

An endpoint describes one address of a cluster and how to connect to it. Its identity is its
scheme, host, port and path; a pool tells endpoints apart by nothing else. An endpoint is made from
its address by settings, applied in order, and checked once at the end.

## Main definitions

* `Endpoint`, `Endpoint.Identity`, `Endpoint.id`: endpoints and what tells them apart
* `Endpoint.url`: the text that names an endpoint
* `Setting`, `Endpoint.set`: one change of an endpoint
* `Endpoint.defect?`, `Endpoint.revise`: the check, and settings followed by the check
-/

namespace EndpointPool

/-- The values of the options that concern certificates. -/
structure TlsValues where
  caCerts : Option String
  clientCert : Option String
  clientKey : Option String
  assertHostname : Option String
  assertFingerprint : Option String
  deriving DecidableEq

namespace TlsValues

/-- No option set. -/
def none : TlsValues := ⟨.none, .none, .none, .none, .none⟩

/-- The value of an option. -/
def get (v : TlsValues) : TlsOption → Option String
  | .caCerts => v.caCerts
  | .clientCert => v.clientCert
  | .clientKey => v.clientKey
  | .assertHostname => v.assertHostname
  | .assertFingerprint => v.assertFingerprint

/-- The values with one option set. -/
def set (v : TlsValues) (text : String) : TlsOption → TlsValues
  | .caCerts => { v with caCerts := some text }
  | .clientCert => { v with clientCert := some text }
  | .clientKey => { v with clientKey := some text }
  | .assertHostname => { v with assertHostname := some text }
  | .assertFingerprint => { v with assertFingerprint := some text }

theorem get_set (v : TlsValues) (text : String) (o p : TlsOption) :
    (v.set text o).get p = if p = o then some text else v.get p := by
  cases o <;> cases p <;> rfl

end TlsValues

/-- One address of a cluster, with the parameters of the connections to it. -/
structure Endpoint where
  scheme : Scheme
  host : String
  port : UInt16
  pathPrefix : String
  headers : NameMap String
  connections : UInt64
  timeout : Option Duration
  compress : Bool
  verifyCerts : Bool
  tls : TlsValues
  showWarnings : Bool
  deriving DecidableEq

/-- The path that a prefix stands for: the text between its surrounding slashes, with one slash in
front unless nothing is left. -/
def normalizePrefix (text : String) : String :=
  match Text.trim (· = '/') text.toList with
  | [] => ""
  | inner => String.ofList ('/' :: inner)

/-- One change of an endpoint. -/
inductive Setting
  | pathPrefix (text : String)
  | header (name value : String)
  | headers (all : NameMap String)
  | connections (count : UInt64)
  | timeout (limit : Option Duration)
  | compress (on : Bool)
  | verifyCerts (on : Bool)
  | tls (option : TlsOption) (text : String)
  | showWarnings (on : Bool)

namespace Endpoint

/-- The time a request may take unless a setting says otherwise. -/
def defaultTimeout : Duration := ⟨10 * nanosPerSecond, by decide⟩

/-- The endpoint at an address, with the default parameters. -/
def new (scheme : Scheme) (host : String) (port : UInt16) : Endpoint where
  scheme
  host
  port
  pathPrefix := ""
  headers := .empty
  connections := 10
  timeout := some defaultTimeout
  compress := false
  verifyCerts := true
  tls := .none
  showWarnings := true

/-- What tells endpoints apart. -/
structure Identity where
  scheme : Scheme
  host : String
  port : UInt16
  pathPrefix : String
  deriving DecidableEq

/-- The identity of an endpoint. -/
def id (e : Endpoint) : Identity := ⟨e.scheme, e.host, e.port, e.pathPrefix⟩

/-- The host as a URL writes it: in brackets if it contains a colon. -/
def writtenHost (host : String) : String :=
  if host.toList.contains ':' then "[" ++ host ++ "]" else host

/-- The URL of an endpoint. It always writes the port. -/
def url (e : Endpoint) : String :=
  e.scheme.name ++ "://" ++ writtenHost e.host ++ ":" ++ Decimal.render e.port.toNat ++ e.pathPrefix

/-- The endpoint after one change. -/
def set (e : Endpoint) : Setting → Endpoint
  | .pathPrefix text => { e with pathPrefix := normalizePrefix text }
  | .header name value => { e with headers := e.headers.insert name value }
  | .headers all => { e with headers := all }
  | .connections count => { e with connections := count }
  | .timeout limit => { e with timeout := limit }
  | .compress on => { e with compress := on }
  | .verifyCerts on => { e with verifyCerts := on }
  | .tls option text => { e with tls := e.tls.set text option }
  | .showWarnings on => { e with showWarnings := on }

/-- What is wrong with an endpoint: no connections, or else the first option for certificates that
is set although the scheme is not `https`. -/
def defect? (e : Endpoint) : Option ConfigFault :=
  if e.connections = 0 then some .noConnections
  else if e.scheme = .https then none
  else (TlsOption.all.find? fun o => (e.tls.get o).isSome).map .tlsWithoutHttps

/-- The endpoint, unless something is wrong with it. -/
def checked (e : Endpoint) : Except Fault Endpoint :=
  match e.defect? with
  | some cause => .error (.configuration cause)
  | none => .ok e

/-- The endpoint after the settings, in order, unless something is wrong with the result. -/
def revise (e : Endpoint) (settings : List Setting) : Except Fault Endpoint :=
  (settings.foldl set e).checked

end Endpoint

/-- An endpoint with the connection made for it. -/
structure Node (C : Type) where
  endpoint : Endpoint
  connection : C

namespace Node

variable {C : Type}

/-- The URL of a node is its endpoint's. -/
def url (n : Node C) : String := n.endpoint.url

/-- The text that stands for a node in a listing. -/
def describe (n : Node C) : String := "<Node(" ++ n.url ++ ")>"

end Node

end EndpointPool
