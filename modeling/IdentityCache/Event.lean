import IdentityCache.Request
import IdentityCache.Json.Basic

/-!
# Events

What the cache and its worker report besides their results.  An event names its
cause; its level and its message are derived from it.
-/

namespace IdentityCache

set_option autoImplicit false

/-! ## Refusals -/

/-- Why a ConfigMap holds no snapshot. -/
inductive SnapshotError
  /-- It has no text under the name that snapshots are stored under. -/
  | missingData
  /-- The text is not a snapshot. -/
  | unreadable (fault : Json.Fault)
  deriving DecidableEq, Repr

/-- Why a delivered object was not taken in. -/
inductive IngestError
  | missingIdentity
  /-- The ConfigMap holds no snapshot. -/
  | snapshot (cause : SnapshotError)
  /-- The ConfigMap that it replaces holds no snapshot. -/
  | previousSnapshot (cause : SnapshotError)
  deriving DecidableEq, Repr

/-- What a ConfigMap without a snapshot is refused with. -/
def SnapshotError.message : SnapshotError → String
  | .missingData => "configmap has no \"config\" data key"
  | .unreadable _ => "failed to parse configmap snapshot"

/-- What a delivered object is refused with. -/
def IngestError.message : IngestError → String
  | .missingIdentity => "ServiceAccount has no namespace or name"
  | .snapshot cause => cause.message
  | .previousSnapshot cause =>
    "failed to parse previous configmap snapshot, stale entries were kept: " ++ cause.message

/-- What became of a request to fetch a ServiceAccount. -/
inductive RequestFate
  | queued
  | full
  /-- Nobody receives requests any more. -/
  | closed
  deriving DecidableEq, Repr

/-! ## Events and their messages -/

/-- The importance of an event. -/
inductive Level
  | debug
  | info
  | warn
  | error
  deriving DecidableEq, Repr

/-- An occurrence that is reported. -/
inductive Event
  /-- An annotation names a role that is not well formed. -/
  | invalidRole (arn : String)
  | accountIgnored (cause : IngestError)
  /-- The deletion of a ServiceAccount could not be attributed. -/
  | deletionDropped (cause : IngestError)
  | mapRejected (cause : IngestError)
  /-- A ConfigMap was taken in without removing the entries of the one before. -/
  | staleEntriesKept (cause : IngestError)
  | watchedMapDeleted
  /-- The cache asked for a ServiceAccount to be fetched. -/
  | refreshRequested (request : Request) (fate : RequestFate)
  | accountNotFound
  | fetchFailed
  | fetchedAccountIgnored (cause : IngestError)
  deriving DecidableEq, Repr

/-- The level at which an event is reported. -/
def Event.level : Event → Level
  | .invalidRole _ | .accountIgnored _ | .deletionDropped _ | .fetchFailed
  | .fetchedAccountIgnored _ | .refreshRequested _ .full => .warn
  | .mapRejected _ | .staleEntriesKept _ => .error
  | .watchedMapDeleted | .accountNotFound => .info
  | .refreshRequested _ .queued | .refreshRequested _ .closed => .debug

/-- The message with which an event is reported. -/
def Event.message : Event → String
  | .invalidRole _ => "Role ARN is not a valid IAM role ARN; using it anyway"
  | .accountIgnored _ => "Ignoring service account"
  | .deletionDropped _ => "Dropping service account deletion"
  | .mapRejected _ => "Failed to apply configmap"
  | .staleEntriesKept _ => "Failed to remove stale configmap entries"
  | .watchedMapDeleted => "Watched configmap deleted; keeping entries"
  | .refreshRequested _ .queued => "Refresh requested"
  | .refreshRequested _ .full => "Refresh queue is full; dropping request"
  | .refreshRequested _ .closed => "Refresh queue is closed"
  | .accountNotFound => "Service account not found"
  | .fetchFailed => "Failed to fetch service account"
  | .fetchedAccountIgnored _ => "Failed to index fetched service account"

/-- The name of a level. -/
def Level.name : Level → String
  | .debug => "DEBUG"
  | .info => "INFO"
  | .warn => "WARN"
  | .error => "ERROR"

/-- The line that an event leaves in the log; details are left out. -/
def Event.logLine? (event : Event) : Option String :=
  match event.level with
  | .debug => none
  | level => some (level.name ++ " " ++ event.message)

end IdentityCache
