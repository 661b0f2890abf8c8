import IdentityCache.Http.AccountPath
import IdentityCache.Main
import IdentityCache.Notifier
import IdentityCache.Service.Operation
import IdentityCache.Proofs.Run
import IdentityCache.Proofs.Signal
import IdentityCache.Proofs.AccountStep
import IdentityCache.Proofs.Wakeup
import IdentityCache.Proofs.SnapshotTable
import IdentityCache.Proofs.LatestEvents
import IdentityCache.Proofs.BoundedWait
import IdentityCache.Proofs.ActiveRefresh
import IdentityCache.Proofs.StaleFetch
import IdentityCache.Proofs.FaithfulDump
import IdentityCache.Proofs.RolelessEntries
import IdentityCache.Proofs.Relist
import IdentityCache.Proofs.Separation
import IdentityCache.Proofs.RefreshWindows
import IdentityCache.Proofs.SnapshotReplacement
import IdentityCache.Proofs.AnswerPage
import IdentityCache.Proofs.Readiness
import IdentityCache.Proofs.DebugRequests
import IdentityCache.Proofs.UniqueReading
import IdentityCache.Proofs.LifetimeFloor
import IdentityCache.Proofs.AnnotatedEntries
import IdentityCache.Proofs.RoleNames
import IdentityCache.Proofs.TruncatedSnapshots
import IdentityCache.Proofs.JsonValues
import IdentityCache.Proofs.NumberReading
import IdentityCache.Proofs.Skimming
import IdentityCache.Proofs.ValueReading
import IdentityCache.Proofs.EntryReading
import IdentityCache.Proofs.PartialEntries
import IdentityCache.Proofs.NameSegments
import IdentityCache.Proofs.RequestPaths
import IdentityCache.Proofs.ChosenOptions
import IdentityCache.Proofs.Launching
import IdentityCache.Proofs.Ledger
import IdentityCache.Proofs.Broadcast
