import Fabric.Support.OrdMap
import Fabric.Support.KeySet
import Fabric.Support.Machine
import Fabric.Support.Refinement
import Fabric.Support.Checks
import Fabric.Support.Double
import Fabric.Support.Rational
import Fabric.Support.Decoder
import Fabric.Support.Exact
import Fabric.Support.Replay
import Fabric.Support.Format
import Fabric.Support.Stream
import Fabric.Support.Prefix
import Fabric.Support.Separator
import Fabric.Support.Average
import Fabric.Support.Crc
import Fabric.Core.Basic
import Fabric.Core.Enumerations
import Fabric.Core.ResourceVector
import Fabric.Core.Snapshot
import Fabric.Core.Descriptor
import Fabric.Policy.Engine
import Fabric.Policy.History
import Fabric.Policy.Overrides
import Fabric.Prediction.Predictor
import Fabric.Prediction.History
import Fabric.Prediction.Tables
import Fabric.Prediction.Footprint
import Fabric.Prediction.Sums
import Fabric.Prediction.Coverage
import Fabric.Prediction.Resolution
import Fabric.Prediction.Keys
import Fabric.Prediction.Margins
import Fabric.Prediction.Tokens
import Fabric.Prediction.Rates
import Fabric.Engine.Decision
import Fabric.Engine.Fairness
import Fabric.Engine.Tenants
import Fabric.Engine.State
import Fabric.Engine.Evaluate
import Fabric.Engine.Ownership
import Fabric.Engine.Backing
import Fabric.Engine.Admissions
import Fabric.Engine.Terminal
import Fabric.Engine.Authority
import Fabric.Engine.Resubmission
import Fabric.Engine.Expiry
import Fabric.Engine.Settings
import Fabric.Engine.Stamp
import Fabric.Engine.Soundness
import Fabric.Engine.Holdings
import Fabric.Engine.Releases
import Fabric.Engine.Stored
import Fabric.Engine.Outcome
import Fabric.Engine.Metrics
import Fabric.Engine.Commit
import Fabric.Engine.Deferrals
import Fabric.Engine.Headroom
import Fabric.Engine.Refusals
import Fabric.Engine.Monotone
import Fabric.Engine.Starvation
import Fabric.Engine.Probe
import Fabric.Engine.Durations
import Fabric.Engine.Explanation
import Fabric.Reservation.Accounting
import Fabric.Reservation.Restore
import Fabric.Reservation.Account
import Fabric.Reservation.Probe
import Fabric.Codec.Serialize
import Fabric.Codec.Checksum
import Fabric.Codec.Enumerators
import Fabric.Codec.Domain
import Fabric.Codec.Protocol
import Fabric.Codec.Layout
import Fabric.Codec.Acceptance
import Fabric.Coordinator.Model
import Fabric.Coordinator.Steps
import Fabric.Coordinator.Fencing
import Fabric.Coordinator.Capacity
import Fabric.Coordinator.Placement
import Fabric.Coordinator.Authority
import Fabric.Coordinator.Interleaving
import Fabric.Coordinator.Attribution
import Fabric.Coordinator.Eligibility
import Fabric.Coordinator.Outage
import Fabric.Coordinator.Staleness
import Fabric.Coordinator.Frames
import Fabric.Coordinator.Dispatch
import Fabric.Coordinator.Transcript
import Fabric.Coordinator.Ledger
import Fabric.Coordinator.Replies
import Fabric.Net.Transport
import Fabric.Coordinator.Sockets
import Fabric.Agent.Model
import Fabric.Agent.Site
import Fabric.Agent.StartUp
import Fabric.Agent.Agreement
import Fabric.Agent.Silence
import Fabric.Agent.Arrival
import Fabric.Persistence.State
import Fabric.Persistence.Sections
import Fabric.Persistence.Size
import Fabric.Persistence.Recovery
import Fabric.Persistence.Saved
import Fabric.Persistence.Contents
import Fabric.Persistence.Truncation
import Fabric.Persistence.Install
import Fabric.Persistence.Atomicity
import Fabric.Persistence.Consistency
import Fabric.Persistence.Fidelity
import Fabric.Persistence.Files
import Fabric.Persistence.Restarts
