import EndpointPool.Encoding.Percent
import EndpointPool.Idna.Domain
import EndpointPool.Url.Ipv6

/-!
# Hosts of URLs

A host is an address of version 6 in brackets, an address of version 4, or a domain name, in
ASCII. A domain name may be percent-encoded and in any script where it is read.

## Main definitions

* `Host`, `Host.text`: hosts and their text, without brackets
* `Host.parse?`: the host that a URL names
-/

namespace EndpointPool

/-- A host. -/
inductive Host
  | domain (name : List Char)
  | ipv4 (address : Ipv4)
  | ipv6 (address : Ipv6)
  deriving DecidableEq

namespace Host

/-- The text of a host. -/
def text : Host → String
  | domain name => String.ofList name
  | ipv4 address => String.ofList address.text
  | ipv6 address => String.ofList address.text

/-- The domain name of a percent-encoded text, in ASCII. -/
def domain? (written : List Char) : Option (List Char) :=
  match Utf8.decode? (Percent.decode written) with
  | some name => Idna.domainToAscii? name.toList
  | none => none

/-- The host of a text that does not start with a bracket. -/
def parseName? (written : List Char) : Option Host :=
  match domain? written with
  | none | some [] => none
  | some name => if Ipv4.endsInNumber name then (Ipv4.parse? name).map ipv4 else some (domain name)

/-- The host that a URL names. -/
def parse? : List Char → Option Host
  | '[' :: rest =>
    -- brackets are for addresses alone, and nothing in them is percent-encoded
    if rest.getLast? = some ']' then (Ipv6.parse? rest.dropLast).map ipv6 else none
  | written => parseName? written

end Host

end EndpointPool
