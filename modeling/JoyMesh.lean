import JoyMesh.CodingWorker.ChangedFiles
import JoyMesh.CodingWorker.Exclusion
import JoyMesh.Completion.Completed
import JoyMesh.Completion.Composite
import JoyMesh.Completion.Counted
import JoyMesh.Completion.Presented
import JoyMesh.Completion.Restore
import JoyMesh.Completion.TerminalEvents
import JoyMesh.Connectors.AccessMode
import JoyMesh.Connectors.Certification
import JoyMesh.Connectors.Terminal
import JoyMesh.Control.OnboardingFlow
import JoyMesh.Control.Pairing
import JoyMesh.Control.Proven
import JoyMesh.Control.Replay
import JoyMesh.Delivery.Compaction
import JoyMesh.Delivery.Sends
import JoyMesh.Execution.Authentic
import JoyMesh.Harnesses.Approvals
import JoyMesh.Harnesses.Resolution
import JoyMesh.Legal.Atomicity
import JoyMesh.Lifecycle.Offers
import JoyMesh.Lifecycle.TerminalOnce
import JoyMesh.Node.Agreement
import JoyMesh.Processes.Cancels
import JoyMesh.Processes.LineFraming
import JoyMesh.ProviderRoutes.Blocked
import JoyMesh.ProviderRoutes.Cleanup
import JoyMesh.ProviderRoutes.Equivalence
import JoyMesh.ProviderRoutes.Exclusive
import JoyMesh.ProviderRoutes.Inspection
import JoyMesh.ProviderRoutes.Selection
import JoyMesh.ProviderRoutes.Snapshot
import JoyMesh.Routing.Bookkeeping
import JoyMesh.Routing.Cancelled
import JoyMesh.Routing.FireConnectBackend
import JoyMesh.Runs.Balance
import JoyMesh.Runs.Checkpoints
import JoyMesh.Runs.Final
import JoyMesh.Runs.Ledger
import JoyMesh.Runtime.Agreement
import JoyMesh.Runtime.Finished
import JoyMesh.Runtime.Gate
import JoyMesh.Runtime.RemoteSuccess
import JoyMesh.Runtime.Requirements
import JoyMesh.Runtime.Retries
import JoyMesh.Snapshots.Complete
import JoyMesh.Snapshots.Consistency
import JoyMesh.Snapshots.Failures
import JoyMesh.Snapshots.Launches
import JoyMesh.Snapshots.Privacy
import JoyMesh.Workers.LeaseValidator
