import EndpointPool.Scheme
import EndpointPool.Url.Host
import EndpointPool.Url.Path

/-!
# URLs

A URL of the two schemes of the web, as it is read from a text that a person may have written. The
controls and spaces around it and the line breaks and tabs in it do not count. After the scheme and
any slashes of either kind comes the authority, up to the next slash, question mark or number sign:
the user's name and password up to the last at sign, the host, and the port. The path ends at a
question mark or a number sign; what follows has no part in what is read.

## Main definitions

* `Url`: the parts of a URL
* `Url.parse?`: the URL of a text
* `Url.writesPort`: whether a text writes a port, as far as can be told without reading it as a URL
-/

namespace EndpointPool

/-- The parts of a URL. The user's name and password are as they are written, and a port is left
out if it is the scheme's own. -/
structure Url where
  scheme : Scheme
  username : List Char
  password : Option (List Char)
  host : Host
  port : Option UInt16
  path : String

namespace Url

/-- The text that counts. -/
def clean (text : List Char) : List Char :=
  (Text.trim (· ≤ ' ') text).filter fun c => c ≠ '\t' && c ≠ '\n' && c ≠ '\r'

/-- Whether a character may stand in the name of a scheme behind its first letter. -/
def isSchemeChar (c : Char) : Bool := c.isAlphanum || c = '+' || c = '-' || c = '.'

/-- The scheme of a text, if it is one of the web, and what follows its colon. -/
def scheme? (text : List Char) : Option (Scheme × List Char) :=
  match Text.cut? ':' text with
  | some (c :: name, rest) =>
    if c.isAlpha && name.all isSchemeChar then
      (Scheme.ofText? (String.ofList (c :: name))).map fun s => (s, rest)
    else none
  | _ => none

/-- Whether a character is a slash of either kind. -/
def isSlash (c : Char) : Bool := c = '/' || c = '\\'

/-- Whether a character ends a path. -/
def endsPath (c : Char) : Bool := c = '?' || c = '#'

/-- The user's name and password that are written, and the host and port behind them. A password
is not empty. -/
def splitUser (authority : List Char) : List Char × Option (List Char) × List Char :=
  match Text.cutLast? '@' authority with
  | none => ([], none, authority)
  | some (user, rest) =>
    match Text.cut? ':' user with
    | none => (user, none, rest)
    | some (name, password) => (name, if password.isEmpty then none else some password, rest)

/-- The host that is written, up to a colon outside of brackets, and what follows that colon. -/
def splitHost (inBrackets : Bool) : List Char → List Char × Option (List Char)
  | [] => ([], none)
  | c :: rest =>
    if c = ':' ∧ ¬ inBrackets then ([], some rest)
    else
      let (host, port) := splitHost (c = '[' || inBrackets && c ≠ ']') rest
      (c :: host, port)

/-- The port that digits spell; without digits there is none. It is left out if it is the scheme's
own. -/
def readPort? (scheme : Scheme) : Option (List Char) → Option (Option UInt16)
  | none | some [] => some none
  | some digits =>
    match Decimal.read? digits with
    | some n =>
      if 65536 ≤ n then none
      else if UInt16.ofNat n = scheme.defaultPort then some none
      else some (some (UInt16.ofNat n))
    | none => none

/-- The URL of a text. -/
def parse? (text : List Char) : Option Url :=
  match scheme? (clean text) with
  | none => none
  | some (scheme, rest) =>
    let rest := rest.dropWhile isSlash
    -- the authority ends at the first character that could not stand in it
    let inAuthority (c : Char) := !isSlash c && !endsPath c
    let (username, password, hostAndPort) := splitUser (rest.takeWhile inAuthority)
    let (host, port) := splitHost false hostAndPort
    let path := (rest.dropWhile inAuthority).takeWhile fun c => !endsPath c
    match Host.parse? host, readPort? scheme port with
    | some host, some port =>
      some { scheme, username, password, host, port, path := Path.parse path }
    | _, _ => none

/-- Whether a text writes a colon where the port of a URL stands: between the last at sign or
bracket behind `://` and the next slash, question mark or number sign. -/
def writesPort (text : List Char) : Bool :=
  match Text.cutAt? [':', '/', '/'] text with
  | none => false
  | some (_, rest) =>
    let authority := rest.takeWhile fun c => c ≠ '/' && !endsPath c
    let hostAndPort := match Text.cutLast? '@' authority with
      | some (_, r) => r
      | none => authority
    match Text.cutLast? ']' hostAndPort with
    | some (_, r) => r.head? = some ':'
    | none => hostAndPort.contains ':'

end Url

end EndpointPool
