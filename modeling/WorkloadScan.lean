import WorkloadScan.Endpoint
import WorkloadScan.Http.Exchange
import WorkloadScan.Json.Reader
import WorkloadScan.Main
import WorkloadScan.Session
import WorkloadScan.Proofs.Debouncer.Log
import WorkloadScan.Proofs.Engine.Path
import WorkloadScan.Proofs.Debouncer.Takes
import WorkloadScan.Proofs.Engine.Flushing
import WorkloadScan.Proofs.Debouncer.Policy
import WorkloadScan.Proofs.Engine.Mirroring
import WorkloadScan.Proofs.Registry
import WorkloadScan.Proofs.Engine.Linearization
import WorkloadScan.Proofs.Debouncer.Spacing
import WorkloadScan.Proofs.Engine.Counting
import WorkloadScan.Proofs.Debouncer.Age
import WorkloadScan.Proofs.Debouncer.Quiet
import WorkloadScan.Proofs.Engine.Watching
import WorkloadScan.Proofs.Engine.Dispatching
import WorkloadScan.Proofs.Engine.Inquiry
import WorkloadScan.Proofs.Engine.Observation
import WorkloadScan.Proofs.Engine.Fanout
import WorkloadScan.Proofs.Engine.Provenance
import WorkloadScan.Proofs.Engine.Discard
import WorkloadScan.Proofs.Engine.Timer
import WorkloadScan.Proofs.Engine.Shutdown
import WorkloadScan.Proofs.Engine.InFlight
import WorkloadScan.Proofs.Engine.Succession
import WorkloadScan.Proofs.Engine.Accounting
import WorkloadScan.Proofs.Engine.Revocation
import WorkloadScan.Proofs.Engine.Tokens
import WorkloadScan.Proofs.Engine.Ownership
import WorkloadScan.Proofs.Engine.Confinement
import WorkloadScan.Proofs.Flight
import WorkloadScan.Proofs.Engine.Completion
import WorkloadScan.Proofs.Engine.Confluence
import WorkloadScan.Proofs.Interference
import WorkloadScan.Proofs.Namespaces.Filter
import WorkloadScan.Proofs.Namespaces.Edits
import WorkloadScan.Proofs.Resource
import WorkloadScan.Proofs.Http.Body
import WorkloadScan.Proofs.Integration.Decoding
import WorkloadScan.Proofs.Interval.Whole
import WorkloadScan.Proofs.Interval.RoundTrip
