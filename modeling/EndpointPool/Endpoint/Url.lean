import EndpointPool.Credentials
import EndpointPool.Endpoint
import EndpointPool.Url.Basic

/-!
# Endpoints from URLs

A URL names an endpoint: its host and port, its path as the path of the endpoint, and the user's
name and password as the credentials of every request. The port must be written, unless the
scheme's own port is allowed to stand in for it.

## Main definitions

* `Url.credentials?`: the credentials in a URL
* `Endpoint.ofUrl`: the endpoint of a URL
-/

namespace EndpointPool

namespace Url

/-- A percent-encoded text. -/
def decodeText (written : List Char) : Except Fault String :=
  match Utf8.decode? (Percent.decode written) with
  | some text => .ok text
  | none => .error .credentialsNotUtf8

/-- The credentials in a URL, if it has a name or a password. -/
def credentials? (u : Url) : Except Fault (Option Credentials) :=
  if u.username.isEmpty && u.password.isNone then .ok none
  else
    match decodeText u.username, decodeText (u.password.getD []) with
    | .ok username, .ok password => .ok (some ⟨username, password⟩)
    | .error fault, _ => .error fault
    | _, .error fault => .error fault

/-- The port of a URL that is read from a text. The scheme's own stands in for a port that is left
out, if the text writes it or it may be left out. -/
def portOf? (u : Url) (text : List Char) (defaultPorts : Bool) : Option UInt16 :=
  match u.port with
  | some port => some port
  | none => if defaultPorts || writesPort text then some u.scheme.defaultPort else none

end Url

namespace Endpoint

/-- The settings that a URL makes. -/
def urlSettings (path : String) : Option Credentials → List Setting
  | none => [.pathPrefix path]
  | some c => [.pathPrefix path, .header Credentials.headerName c.header]

/-- The endpoint of a URL. -/
def ofUrl (text : String) (defaultPorts : Bool) : Except Fault Endpoint :=
  match Url.parse? text.toList with
  | none => .error .urlIncomplete
  | some u =>
    match u.portOf? text.toList defaultPorts, u.credentials? with
    | none, _ => .error .urlIncomplete
    | some _, .error fault => .error fault
    | some port, .ok credentials =>
      (Endpoint.new u.scheme u.host.text port).revise (urlSettings u.path credentials)

end Endpoint

end EndpointPool
