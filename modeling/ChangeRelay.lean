import ChangeRelay.Catalog.Listing
import ChangeRelay.Json.Writer
import ChangeRelay.Main
import ChangeRelay.Metrics.Endpoint
import ChangeRelay.Proofs.Admission.Drift
import ChangeRelay.Proofs.Admission.Explanation
import ChangeRelay.Proofs.Admission.Fallback
import ChangeRelay.Proofs.Admission.Lifecycle
import ChangeRelay.Proofs.Admission.Miscast
import ChangeRelay.Proofs.Config.Restoring
import ChangeRelay.Proofs.Relay.Bookkeeping
import ChangeRelay.Proofs.Relay.Composition
import ChangeRelay.Proofs.Relay.Conservation
import ChangeRelay.Proofs.Relay.Session
import ChangeRelay.Proofs.Relay.Unfiltered
import ChangeRelay.Proofs.Sink.Headers
import ChangeRelay.Proofs.Sink.Lines
import ChangeRelay.Proofs.Tracker.Isolation
import ChangeRelay.Proofs.Tracker.Keys
import ChangeRelay.Proofs.Watch.Failures
import ChangeRelay.Proofs.Watch.Forwarding
import ChangeRelay.Startup
