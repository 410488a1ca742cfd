/-!
# Schemes

The two schemes an endpoint may have, with the names and ports that URLs use for them.
-/

namespace EndpointPool

/-- The scheme of an endpoint's URL. -/
inductive Scheme
  | http
  | https
  deriving DecidableEq, Repr

namespace Scheme

/-- The name a URL starts with. -/
def name : Scheme → String
  | http => "http"
  | https => "https"

/-- The port of a URL that writes none. -/
def defaultPort : Scheme → UInt16
  | http => 80
  | https => 443

/-- The scheme of exactly this name. -/
def ofName? (text : String) : Option Scheme :=
  if text = "http" then some http else if text = "https" then some https else none

/-- The scheme of this name in any mixture of upper and lower case. Only ASCII letters have lower
case forms in the two names, so folding ASCII letters decides it. -/
def ofText? (text : String) : Option Scheme :=
  ofName? (String.ofList (text.toList.map Char.toLower))

@[simp] theorem ofName?_name (s : Scheme) : ofName? s.name = some s := by cases s <;> decide

end Scheme

end EndpointPool
