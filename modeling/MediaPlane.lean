import MediaPlane.Admission
import MediaPlane.Config
import MediaPlane.ControlPlane.Call
import MediaPlane.ControlPlane.Element
import MediaPlane.ControlPlane.Lifecycle
import MediaPlane.ControlPlane.Operation
import MediaPlane.ControlPlane.State
import MediaPlane.ControlPlane.Status
import MediaPlane.Event.Dispatcher
import MediaPlane.Event.Handler
import MediaPlane.Failure
import MediaPlane.Http.Body
import MediaPlane.Http.MediaType
import MediaPlane.Http.Router
import MediaPlane.Identity
import MediaPlane.Metrics
import MediaPlane.Number.Binary64
import MediaPlane.Number.Decimal
import MediaPlane.Number.Word
import MediaPlane.Object.Catalog
import MediaPlane.Object.Registry
import MediaPlane.Proofs.Object.Forest
import MediaPlane.Proofs.Object.Removal
import MediaPlane.Proofs.Session.References
import MediaPlane.Request.Message
import MediaPlane.Request.Operation
import MediaPlane.Request.Placeholder
import MediaPlane.RetryCache
import MediaPlane.Scenario.Activity
import MediaPlane.Scenario.EventBench
import MediaPlane.Scenario.Report
import MediaPlane.Scenario.RetryBench
import MediaPlane.Scenario.Routine
import MediaPlane.Scenario.SessionBench
import MediaPlane.Scenario.Setup
import MediaPlane.Scenario.Step
import MediaPlane.Scenario.World
import MediaPlane.Session.Collector
import MediaPlane.Session.Table
import MediaPlane.Text.Hidden
import MediaPlane.Text.Quoted
import MediaPlane.Value.Basic
import MediaPlane.Value.Embedded
import MediaPlane.Value.Fault
import MediaPlane.Value.Lenient
import MediaPlane.Value.Reader
import MediaPlane.Value.Record
import MediaPlane.Value.Token
import MediaPlane.Value.Writer
import MediaPlane.Proofs.Session.Collection
import MediaPlane.Proofs.Session.Closing
import MediaPlane.Proofs.ControlPlane.Change
import MediaPlane.Proofs.ControlPlane.Stage
import MediaPlane.Proofs.ControlPlane.Settled
import MediaPlane.Proofs.Service.Run
import MediaPlane.Proofs.Service.Reachability
import MediaPlane.Proofs.Service.ForcedClose
import MediaPlane.Proofs.ControlPlane.Subscriptions
import MediaPlane.Proofs.ControlPlane.Sparing
import MediaPlane.Proofs.ControlPlane.Lasting
import MediaPlane.Proofs.Service.Isolation
import MediaPlane.Proofs.Service.Account
import MediaPlane.Proofs.Service.Ledger
import MediaPlane.Proofs.Service.Retry
import MediaPlane.Proofs.Event.Delivery
import MediaPlane.Proofs.Service.Release
import MediaPlane.Proofs.Service.Sweep
import MediaPlane.Proofs.Request.Substitution
import MediaPlane.Proofs.Session.Alike
import MediaPlane.Proofs.ControlPlane.Alike
import MediaPlane.Proofs.ControlPlane.Completion
import MediaPlane.Proofs.Service.Unfolding
import MediaPlane.Proofs.ControlPlane.Anchoring
import MediaPlane.Proofs.Service.Anchoring
import MediaPlane.Proofs.ControlPlane.Enduring
import MediaPlane.Proofs.ControlPlane.Footing
import MediaPlane.Proofs.Service.Tidiness
import MediaPlane.Proofs.ControlPlane.Traceless
import MediaPlane.Proofs.Service.Failures
import MediaPlane.Proofs.ControlPlane.Dropping
import MediaPlane.Proofs.Service.Confluence
import MediaPlane.Proofs.Session.Mirror
import MediaPlane.Proofs.ControlPlane.Typing
import MediaPlane.Proofs.Service.TypedForest
import MediaPlane.Proofs.Event.Thinning
import MediaPlane.Proofs.ControlPlane.Handling
import MediaPlane.Proofs.ControlPlane.Expiry
import MediaPlane.Proofs.Service.IdleSweep
import MediaPlane.Proofs.ControlPlane.Uncached
import MediaPlane.Proofs.Service.Staleness
import MediaPlane.Proofs.Service.Eviction
import MediaPlane.Proofs.Session.Candidates
import MediaPlane.Proofs.ControlPlane.Move
import MediaPlane.Proofs.ControlPlane.Performance
import MediaPlane.Proofs.ControlPlane.Recording
import MediaPlane.Proofs.ControlPlane.SubscriptionGauge
import MediaPlane.Proofs.ControlPlane.Admittance
import MediaPlane.Proofs.Service.History
import MediaPlane.Proofs.Service.Balance
import MediaPlane.Proofs.Service.Overshoot
import MediaPlane.Proofs.ControlPlane.SessionGauge
import MediaPlane.Proofs.Service.SessionGauge
import MediaPlane.Proofs.Event.Lifetime
import MediaPlane.Proofs.Object.Lineage
import MediaPlane.Proofs.ControlPlane.Rearing
import MediaPlane.Proofs.ControlPlane.Ancestry
import MediaPlane.Proofs.Request.Reference
import MediaPlane.Proofs.Service.ForwardReferences
import MediaPlane.Proofs.Service.Shutdown
import MediaPlane.Proofs.Service.Uniqueness
import MediaPlane.Proofs.ControlPlane.Tracking
import MediaPlane.Proofs.Service.Connections
import MediaPlane.Proofs.Config.Acceptance
import MediaPlane.Proofs.Service.Answers
import MediaPlane.Proofs.Request.WireForms
import MediaPlane.Proofs.Object.Walks
import MediaPlane.Proofs.Object.Exactness
import MediaPlane.Proofs.Request.Replacement
import MediaPlane.Proofs.Service.Ancestry
import MediaPlane.Proofs.Service.SubscriptionGauge
import MediaPlane.Proofs.Service.Exchange
