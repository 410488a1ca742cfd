import EndpointPool.Endpoint.Json
import EndpointPool.Endpoint.Reader
import EndpointPool.LogFilter
import EndpointPool.Settings.Json
import EndpointPool.Proofs.Roster.Coherence
import EndpointPool.Proofs.Roster.Operations
import EndpointPool.Proofs.Pool.Run
import EndpointPool.Proofs.Pool.Request
import EndpointPool.Proofs.Pool.Calls
import EndpointPool.Proofs.Pool.Tenure
import EndpointPool.Proofs.Pool.Interleaving
import EndpointPool.Proofs.Pool.Linearization
import EndpointPool.Proofs.Pool.Listing
import EndpointPool.Proofs.Pool.Turns
import EndpointPool.Proofs.Pool.Since
import EndpointPool.Proofs.Pool.Presence
import EndpointPool.Proofs.Pool.Chronicle
import EndpointPool.Proofs.Pool.Crashes
import EndpointPool.Proofs.Pool.Entries
import EndpointPool.Proofs.Roster.Holding
import EndpointPool.Proofs.Pool.Independence
import EndpointPool.Proofs.Pool.Report
import EndpointPool.Proofs.Pool.Ledger
import EndpointPool.Proofs.Pool.Batching
import EndpointPool.Proofs.Pool.Checks
import EndpointPool.Proofs.Pool.Making
import EndpointPool.Proofs.Health.Delay
import EndpointPool.Proofs.Health.Deadline
import EndpointPool.Proofs.Pool.Prolonging
import EndpointPool.Proofs.Binary64.Value
import EndpointPool.Proofs.Settings.Building
import EndpointPool.Proofs.Text.Parts
import EndpointPool.Proofs.Encoding.Base64
import EndpointPool.Proofs.CloudId.Writing
import EndpointPool.Proofs.Json.Reading
import EndpointPool.Proofs.Json.Records
import EndpointPool.Proofs.Endpoint.Fields
import EndpointPool.Proofs.Endpoint.Reading
import EndpointPool.Proofs.Endpoint.Obtaining
import EndpointPool.Proofs.Endpoint.RoundTrip
import EndpointPool.Proofs.Url.Authority
import EndpointPool.Proofs.Endpoint.Port
import EndpointPool.Proofs.Health.Overflow
import EndpointPool.Proofs.Health.Halving
import EndpointPool.Proofs.Pool.Quarantining
import EndpointPool.Proofs.CloudId.Address
import EndpointPool.Proofs.Endpoint.LastWrite
import EndpointPool.Proofs.Idna.Characters
import EndpointPool.Proofs.Url.Hosts
import EndpointPool.Proofs.Endpoint.Naming
import EndpointPool.Proofs.Encoding.Percent
import EndpointPool.Proofs.Url.Reading
import EndpointPool.Proofs.Url.Credentials
import EndpointPool.Proofs.Endpoint.Credentials
import EndpointPool.Proofs.Url.Path
import EndpointPool.Proofs.Url.Addresses
import EndpointPool.Proofs.Idna.Plain
import EndpointPool.Proofs.Endpoint.Rereading
import EndpointPool.Proofs.Settings.Hosts
import EndpointPool.Proofs.Encoding.Utf8
import EndpointPool.Proofs.Registry.Names
import EndpointPool.Proofs.Registry.Workshop
