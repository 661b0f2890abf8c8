import IdentityCache.Service.Clock

/-!
# Using the service

Calls are put to the service and awaited; accounts are fetched on demand; the cache
can be replaced while the service runs.
-/

namespace IdentityCache.Service

set_option autoImplicit false

/-! ## Calls -/

/-- Whether the debug endpoint reports the service as ready. -/
def isReady (service : Service) : Bool := (service.formerGate.getD service.cache.gate).isOpen

/-- Begins a call. -/
def beginCall (service : Service) (call : Call) : Cache × CallProgress × List Event :=
  match call with
  | .lookup ns name grace => service.cache.beginPresented service.now .plain ns name grace
  | .http method target =>
    match Http.isMethod method, Http.targetPath? target with
    | true, some path =>
      service.cache.beginHttp service.now service.isReady service.pageGrace method path
    | _, _ => (service.cache, .answered .invalidRequest service.now, [])

/-- Puts a call to the service; the call is known by its place in the order of calls. -/
def start (service : Service) (call : Call) : Service × Nat × List Event :=
  let (cache, progress, events) := service.beginCall call
  ({ service with cache, calls := service.calls ++ [progress] }, service.calls.length, events)

/-- The answer of a call and when it was given. -/
def answer? (service : Service) (call : Nat) : Option (CallAnswer × Nat) :=
  match service.calls[call]? with
  | some (.answered answer time) => some (answer, time)
  | some (.waiting _ _) | none => none

/-- Lets time pass until a call is answered. -/
def await (service : Service) (call : Nat) : Service × List Event :=
  service.runWhile fun service _ => (service.answer? call).isNone

/-! ## Workers -/

/-- Sends a worker off. -/
def employ (service : Service) (worker : RefreshWorker) : Service :=
  { service with workers := service.workers ++ [worker] }

/-- Has the given requests fetched and lets time pass until they all are.  Returns the requests
in order of beginning and when their fetches began. -/
def refresh (service : Service) (fetcher : Fetcher) (requests : List Request) :
    Service × List (Request × Nat) × List Event :=
  let place := service.workers.length
  let worker : RefreshWorker := { fetcher, source := .backlog requests }
  let (begun, events) := (service.employ worker).settle
  let (final, later) := begun.runWhile fun service _ =>
    service.workers[place]?.any fun worker => !worker.isFinished
  let log := ((final.workers[place]?).map RefreshWorker.log).getD []
  ({ final with workers := final.workers.take place }, log, events ++ later)

/-- Puts a new cache in the place of the present one.  Workers finish what the old queue still
holds, and the debug endpoint goes on showing the gate of the first cache. -/
def replaceCache (service : Service) (settings : Settings) (source : Option WatchedMap)
    (queue : Option RefreshQueue) : Service :=
  { service with
    cache := service.cache.replace settings source queue
    formerGate := some (service.formerGate.getD service.cache.gate)
    workers := service.workers.map (·.detach service.cache) }

end IdentityCache.Service
