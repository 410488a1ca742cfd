import EndpointPool.Encoding.Base64
import EndpointPool.Encoding.Utf8

/-!
# Credentials

A user name and a password, and the header value that carries them with every request.
-/

namespace EndpointPool

/-- A user name and a password. -/
structure Credentials where
  username : String
  password : String
  deriving DecidableEq

namespace Credentials

/-- The name of the header that carries credentials. -/
def headerName : String := "authorization"

/-- The value of that header: the Base64 form of the user name, a colon and the password. -/
def header (c : Credentials) : String :=
  "Basic " ++ String.ofList
    (Base64.encode (Utf8.encode (c.username.toList ++ ':' :: c.password.toList)))

end Credentials

end EndpointPool
