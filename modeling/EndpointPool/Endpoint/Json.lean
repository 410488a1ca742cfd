import EndpointPool.Endpoint
import EndpointPool.Json.Printer

/-!
# Endpoints in JSON

An endpoint is written as an object of all its fields, in a fixed order.

## Main definitions

* `Duration.toJson`, `Endpoint.toJson`: what is written
-/

namespace EndpointPool

/-- A duration as its whole seconds and the nanoseconds beyond them. -/
def Duration.toJson (d : Duration) : Json :=
  .ofFields [("secs", .ofNat d.seconds), ("nanos", .ofNat d.subsecond)]

namespace Endpoint

/-- An endpoint with all its fields. -/
def toJson (e : Endpoint) : Json :=
  let text := Json.ofOption Json.ofText
  .ofFields [
    ("scheme", .ofText e.scheme.name),
    ("host", .ofText e.host),
    ("port", .ofNat e.port.toNat),
    ("path_prefix", .ofText e.pathPrefix),
    ("headers", .ofFields (e.headers.entries.map fun h => (h.1, .ofText h.2))),
    ("connections_per_node", .ofNat e.connections.toNat),
    ("request_timeout", .ofOption Duration.toJson e.timeout),
    ("http_compress", .bool e.compress),
    ("verify_certs", .bool e.verifyCerts),
    (TlsOption.caCerts.name, text e.tls.caCerts),
    (TlsOption.clientCert.name, text e.tls.clientCert),
    (TlsOption.clientKey.name, text e.tls.clientKey),
    (TlsOption.assertHostname.name, text e.tls.assertHostname),
    (TlsOption.assertFingerprint.name, text e.tls.assertFingerprint),
    ("ssl_show_warn", .bool e.showWarnings)]

end Endpoint

end EndpointPool
