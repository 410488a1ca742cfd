/-!
# Faults

What can be wrong with an endpoint, a pool, a Cloud ID or a URL. A fault is its cause; its wording
is `Fault.message` alone.

## Main definitions

* `TlsOption`: the options that only the `https` scheme has
* `ConfigFault`, `Fault`: the causes
* `Fault.message`: their wording
-/

namespace EndpointPool

/-- An option that concerns certificates, and so the `https` scheme only. -/
inductive TlsOption
  | caCerts
  | clientCert
  | clientKey
  | assertHostname
  | assertFingerprint
  deriving DecidableEq, Repr

namespace TlsOption

/-- Every option, in the order in which they are checked and written. -/
def all : List TlsOption := [caCerts, clientCert, clientKey, assertHostname, assertFingerprint]

/-- The name under which an option is written. -/
def name : TlsOption → String
  | caCerts => "ca_certs"
  | clientCert => "client_cert"
  | clientKey => "client_key"
  | assertHostname => "ssl_assert_hostname"
  | assertFingerprint => "ssl_assert_fingerprint"

end TlsOption

/-- What can be wrong with the configuration of an endpoint or a pool. -/
inductive ConfigFault
  | unknownScheme
  | noConnections
  | tlsWithoutHttps (option : TlsOption)
  | zeroBackoffFactor
  | backoffLimitBelowFactor
  | noEndpoints
  | duplicateEndpoints
  | unknownSelector (name : String) (available : List String)
  | cloudIdWithoutAddress
  deriving DecidableEq

/-- Why an endpoint or a pool cannot be had. -/
inductive Fault
  | configuration (cause : ConfigFault)
  | cloudIdFormat
  | urlIncomplete
  | credentialsNotUtf8
  deriving DecidableEq

namespace ConfigFault

/-- The wording of a configuration fault. -/
def message : ConfigFault → String
  | unknownScheme => "'scheme' must be either 'http' or 'https'"
  | noConnections => "'connections_per_node' must be greater than zero"
  | tlsWithoutHttps option =>
    "'" ++ option.name ++ "' option should be only set for 'https' scheme"
  | zeroBackoffFactor => "'dead_node_backoff_factor' must be greater than zero"
  | backoffLimitBelowFactor =>
    "'max_dead_node_backoff' must be greater than or equal to 'dead_node_backoff_factor'"
  | noEndpoints => "Must specify at least one NodeConfig"
  | duplicateEndpoints => "Cannot use duplicate NodeConfigs within a NodePool"
  | unknownSelector name available =>
    "Unknown option for selector_class: '" ++ name ++ "'. Available options are: "
      ++ ", ".intercalate (available.map fun a => "'" ++ a ++ "'")
  | cloudIdWithoutAddress => "Cloud ID doesn't contain an Elasticsearch address"

end ConfigFault

namespace Fault

/-- The wording of a fault. -/
def message : Fault → String
  | configuration cause => cause.message
  | cloudIdFormat => "Cloud ID is not properly formatted"
  | urlIncomplete =>
    "URL must include a 'scheme', 'host', and 'port' component (ie 'https://localhost:9200')"
  | credentialsNotUtf8 => "URL credentials must be valid UTF-8"

/-- Whether the fault lies in a configuration. -/
def isConfiguration : Fault → Bool
  | configuration _ => true
  | _ => false

end Fault

end EndpointPool
