import OpenKit.PolicyKernel.Monotonicity
import OpenKit.Policy.Narrowing
import OpenKit.PendingRequests.Closeout
import OpenKit.ExecutionJournal.Exclusion
import OpenKit.ExecutionAttempts.Acceptance
import OpenKit.FilesystemSync.Recovery
import OpenKit.FilesystemSync.Reservations
import OpenKit.LightApps.FilterCorrectness
import OpenKit.Gateway.Safety
import OpenKit.CapabilityLedger.Idempotence
import OpenKit.Automations.Coverage
import OpenKit.Automations.Admission
import OpenKit.Harness.Fencing
import OpenKit.Policy.Circuits
import OpenKit.Policy.GoalTaskAccess
import OpenKit.WorkerControl.Sequences
import OpenKit.FileTransfer.Reservations
import OpenKit.Epoch.RebuildMarker
import OpenKit.Knowledge.NotebookLinks
import OpenKit.FileTransfer.RelativePath
import OpenKit.Retrieval.Streams
import OpenKit.Retrieval.Base64url
import OpenKit.Paging.Readers
import OpenKit.EntityIds.Sha1
