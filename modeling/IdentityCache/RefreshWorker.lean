import IdentityCache.Cache.AccountEvents

/-!
# The refresh worker

The worker takes requests from the queue, oldest first, and fetches the account that
each of them names.  At most ten fetches run at once; another one begins as soon as
there is room.  A fetched account is taken in like one that the watch delivers.

A fetch lasts a number of milliseconds, or as long as an exchange with the API server.
An exchange takes no time on the clock, but its answer does not arrive before the
worker has begun all the fetches that it can.

The worker advances by single steps: a fetch that is due completes, or the next
request is taken; when neither is possible the answers of the API server arrive.
`RefreshWorker.load` bounds the steps that are left, and every step lowers the load.
-/

namespace IdentityCache

set_option autoImplicit false

/-- What a fetch finds. -/
inductive FetchOutcome
  /-- An account, which need not be the one that was asked for. -/
  | account (found : ServiceAccount)
  | missing
  | failed
  deriving DecidableEq, Repr

/-- How long a fetch takes. -/
inductive FetchDuration
  | milliseconds (count : Nat)
  /-- An exchange with the API server. -/
  | exchange
  deriving DecidableEq, Repr

/-- The course of a fetch. -/
structure Fetch where
  outcome : FetchOutcome
  duration : FetchDuration
  deriving DecidableEq, Repr

/-- How fetches go, by their number in order of beginning and their request. -/
abbrev Fetcher := Nat → Request → Fetch

/-- A fetch that is running. -/
structure RunningFetch where
  /-- Its number in order of beginning. -/
  number : Nat
  due : Nat
  /-- Whether the answer of the API server has yet to arrive. -/
  awaitsAnswer : Bool := false
  outcome : FetchOutcome
  deriving DecidableEq, Repr

/-- The fetch of the given number that begins at the given time. -/
def Fetch.begin (fetch : Fetch) (number now : Nat) : RunningFetch :=
  match fetch.duration with
  | .milliseconds count => { number, due := now + count, outcome := fetch.outcome }
  | .exchange => { number, due := now, awaitsAnswer := true, outcome := fetch.outcome }

/-- Whether a running fetch completes now. -/
def RunningFetch.isDue (fetch : RunningFetch) (now : Nat) : Bool :=
  !fetch.awaitsAnswer && fetch.due ≤ now

/-- A running fetch whose answer has arrived. -/
def RunningFetch.answered (fetch : RunningFetch) : RunningFetch :=
  { fetch with awaitsAnswer := false }

/-- Where a worker's requests come from. -/
inductive RequestSource
  /-- The queue of the cache. -/
  | queue
  /-- What a closed queue still holds. -/
  | backlog (requests : List Request)

/-- A worker and its running fetches. -/
structure RefreshWorker where
  fetcher : Fetcher
  source : RequestSource
  /-- The running fetches, in order of beginning. -/
  running : List RunningFetch := []
  /-- The requests of all fetches begun so far and when they began. -/
  log : List (Request × Nat) := []

/-- The number of fetches that may run at once. -/
def maxRunningFetches : Nat := 10

/-- The effect of a fetch that completes. -/
def FetchOutcome.complete (outcome : FetchOutcome) (cache : Cache) : Cache × List Event :=
  match outcome with
  | .account found =>
    match cache.ingestAccount found with
    | .ok result => result
    | .error cause => (cache, [.fetchedAccountIgnored cause])
  | .missing => (cache, [.accountNotFound])
  | .failed => (cache, [.fetchFailed])

/-- The first fetch that is due, and the others. -/
def takeDue? (now : Nat) : List RunningFetch → Option (RunningFetch × List RunningFetch)
  | [] => none
  | fetch :: fetches =>
    if fetch.isDue now then some (fetch, fetches)
    else (takeDue? now fetches).map fun (due, others) => (due, fetch :: others)

/-- If a running fetch is due, one that is due is found. -/
theorem takeDue?_isSome {now : Nat} {fetches : List RunningFetch} {fetch : RunningFetch}
    (running : fetch ∈ fetches) (due : fetch.isDue now) : (takeDue? now fetches).isSome := by
  induction fetches with
  | nil => simp at running
  | cons head fetches ih =>
    unfold takeDue?
    split
    · rfl
    · rename_i notDue
      rcases List.mem_cons.mp running with here | later
      · exact absurd (here ▸ due) notDue
      · simpa using ih later

/-! ## The load of running fetches -/

/-- The steps that a running fetch needs: one to complete, and one for its answer to arrive. -/
def RunningFetch.load (fetch : RunningFetch) : Nat := if fetch.awaitsAnswer then 2 else 1

/-- The loads of several running fetches together. -/
def runningLoad : List RunningFetch → Nat
  | [] => 0
  | fetch :: fetches => fetch.load + runningLoad fetches

/-- A running fetch needs a step. -/
theorem RunningFetch.load_pos (fetch : RunningFetch) : 0 < fetch.load := by
  unfold RunningFetch.load
  split <;> decide

/-- A fetch that begins needs at most two steps. -/
theorem Fetch.load_begin_le (fetch : Fetch) (number now : Nat) :
    (fetch.begin number now).load ≤ 2 := by
  unfold RunningFetch.load
  split <;> decide

/-- The load of a list is that of its parts. -/
theorem runningLoad_append (front fetches : List RunningFetch) :
    runningLoad (front ++ fetches) = runningLoad front + runningLoad fetches := by
  induction front with
  | nil => simp [runningLoad]
  | cons fetch front ih =>
    simp only [List.cons_append, runningLoad, ih]
    omega

/-- Taking out a fetch that is due lowers the load. -/
theorem runningLoad_takeDue? {now : Nat} {fetches others : List RunningFetch}
    {due : RunningFetch} (taken : takeDue? now fetches = some (due, others)) :
    runningLoad others < runningLoad fetches := by
  induction fetches generalizing due others with
  | nil => simp [takeDue?] at taken
  | cons fetch fetches ih =>
    unfold takeDue? at taken
    split at taken
    · simp only [Option.some.injEq, Prod.mk.injEq] at taken
      have positive := fetch.load_pos
      simp only [runningLoad, ← taken.2]
      omega
    · obtain ⟨⟨later, rest⟩, found, same⟩ := Option.map_eq_some_iff.mp taken
      simp only [Prod.mk.injEq] at same
      have lowered := ih found
      simp only [runningLoad, ← same.2]
      omega

/-- Answers that arrive do not raise the load. -/
theorem runningLoad_answered_le (fetches : List RunningFetch) :
    runningLoad (fetches.map RunningFetch.answered) ≤ runningLoad fetches := by
  induction fetches with
  | nil => exact Nat.le_refl _
  | cons fetch fetches ih =>
    have one : fetch.answered.load = 1 := rfl
    have positive := fetch.load_pos
    simp only [List.map_cons, runningLoad]
    omega

/-- Answers that arrive lower the load if any was awaited. -/
theorem runningLoad_answered_lt {fetches : List RunningFetch}
    (awaited : fetches.any RunningFetch.awaitsAnswer) :
    runningLoad (fetches.map RunningFetch.answered) < runningLoad fetches := by
  induction fetches with
  | nil => simp at awaited
  | cons fetch fetches ih =>
    have one : fetch.answered.load = 1 := rfl
    have positive := fetch.load_pos
    simp only [List.map_cons, runningLoad]
    rcases Bool.or_eq_true _ _ ▸ awaited with here | later
    · have two : fetch.load = 2 := by simp [RunningFetch.load, here]
      have rest := runningLoad_answered_le fetches
      omega
    · have lowered := ih later
      omega

/-! ## Taking in what was fetched -/

/-- Taking in an account leaves the queue alone. -/
theorem FetchOutcome.queue_complete (outcome : FetchOutcome) (cache : Cache) :
    (outcome.complete cache).1.queue = cache.queue := by
  cases outcome with
  | account found =>
    cases identified : found.key? with
    | none => simp [FetchOutcome.complete, Cache.ingestAccount, identified]
    | some key =>
      simp [FetchOutcome.complete, Cache.ingestAccount, identified, Cache.queue_writeAccount]
  | missing => rfl
  | failed => rfl

/-- The requests that wait in the queue of a cache. -/
def Cache.waitingRequests (cache : Cache) : Nat :=
  match cache.queue with
  | some queue => queue.waiting.length
  | none => 0

namespace RefreshWorker

/-- Takes the next request. -/
def takeRequest? (worker : RefreshWorker) (cache : Cache) :
    Option (Request × RefreshWorker × Cache) :=
  match worker.source with
  | .queue =>
    match cache.queue with
    | some queue =>
      queue.take?.map fun (request, queue) => (request, worker, { cache with queue := some queue })
    | none => none
  | .backlog [] => none
  | .backlog (request :: requests) =>
    some (request, { worker with source := .backlog requests }, cache)

/-- Begins a fetch. -/
def begin (worker : RefreshWorker) (now : Nat) (request : Request) : RefreshWorker :=
  let number := worker.log.length
  { worker with
    running := worker.running ++ [(worker.fetcher number request).begin number now]
    log := worker.log ++ [(request, now)] }

/-- A step that the worker makes by itself, if there is one. -/
def step? (worker : RefreshWorker) (now : Nat) (cache : Cache) :
    Option (RefreshWorker × Cache × List Event) :=
  match takeDue? now worker.running with
  | some (fetch, others) =>
    let (cache, events) := fetch.outcome.complete cache
    some ({ worker with running := others }, cache, events)
  | none =>
    if worker.running.length < maxRunningFetches then
      (worker.takeRequest? cache).map fun (request, worker, cache) =>
        (worker.begin now request, cache, [])
    else none

/-- Lets the answers of the API server arrive, if any is awaited. -/
def receive? (worker : RefreshWorker) : Option RefreshWorker :=
  if worker.running.any RunningFetch.awaitsAnswer then
    some { worker with running := worker.running.map RunningFetch.answered }
  else none

/-- Whether the worker has nothing left to do and will get nothing more. -/
def isFinished (worker : RefreshWorker) : Bool :=
  match worker.source with
  | .queue => false
  | .backlog requests => requests.isEmpty && worker.running.isEmpty

/-- The worker after the queue that it drew from was closed. -/
def detach (worker : RefreshWorker) (cache : Cache) : RefreshWorker :=
  match worker.source with
  | .queue =>
    { worker with source := .backlog ((cache.queue.map RefreshQueue.waiting).getD []) }
  | .backlog _ => worker

/-! ## The load of a worker -/

/-- A bound on the steps that a worker makes with the requests that it already has. -/
def load (worker : RefreshWorker) : Nat :=
  runningLoad worker.running +
    match worker.source with
    | .queue => 0
    | .backlog requests => 3 * requests.length

/-- Taking a request lowers the load of the worker and its queue by three. -/
theorem load_takeRequest? {worker next : RefreshWorker} {cache after : Cache}
    {request : Request} (taken : worker.takeRequest? cache = some (request, next, after)) :
    next.load + 3 * after.waitingRequests + 3 = worker.load + 3 * cache.waitingRequests := by
  unfold takeRequest? at taken
  split at taken
  · rename_i source
    split at taken
    · rename_i queue present
      obtain ⟨⟨first, rest⟩, found, same⟩ := Option.map_eq_some_iff.mp taken
      simp only [Prod.mk.injEq] at same
      obtain ⟨-, rfl, rfl⟩ := same
      unfold RefreshQueue.take? at found
      split at found
      · simp at found
      · rename_i waiting
        simp only [Option.some.injEq, Prod.mk.injEq] at found
        obtain ⟨-, rfl⟩ := found
        simp only [Cache.waitingRequests, present, waiting, List.length_cons]
        omega
    · simp at taken
  · simp at taken
  · rename_i source
    simp only [Option.some.injEq, Prod.mk.injEq] at taken
    obtain ⟨-, rfl, rfl⟩ := taken
    simp only [load, source, List.length_cons]
    omega

/-- Beginning a fetch raises the load by at most two. -/
theorem load_begin_le (worker : RefreshWorker) (now : Nat) (request : Request) :
    (worker.begin now request).load ≤ worker.load + 2 := by
  have added :=
    (worker.fetcher worker.log.length request).load_begin_le worker.log.length now
  simp only [load, begin, runningLoad_append, runningLoad]
  omega

/-- **Every step of a worker lowers the load of the worker and its queue.** -/
theorem load_step? {worker next : RefreshWorker} {now : Nat}
    {cache after : Cache} {events : List Event}
    (stepped : worker.step? now cache = some (next, after, events)) :
    next.load + 3 * after.waitingRequests < worker.load + 3 * cache.waitingRequests := by
  unfold step? at stepped
  split at stepped
  · rename_i due others taken
    simp only [Option.some.injEq, Prod.mk.injEq] at stepped
    obtain ⟨rfl, rfl, -⟩ := stepped
    have lowered := runningLoad_takeDue? taken
    simp only [load, Cache.waitingRequests, FetchOutcome.queue_complete]
    omega
  · split at stepped
    · obtain ⟨⟨request, taking, taken⟩, found, same⟩ := Option.map_eq_some_iff.mp stepped
      simp only [Prod.mk.injEq] at same
      obtain ⟨rfl, rfl, -⟩ := same
      have lowered := load_takeRequest? found
      have raised := load_begin_le taking now request
      omega
    · simp at stepped

/-- **Answers that arrive lower the load of the worker.** -/
theorem load_receive? {worker next : RefreshWorker} (received : worker.receive? = some next) :
    next.load < worker.load := by
  unfold receive? at received
  split at received
  · rename_i awaited
    simp only [Option.some.injEq] at received
    subst received
    have lowered := runningLoad_answered_lt awaited
    simp only [load]
    omega
  · simp at received

end RefreshWorker

end IdentityCache
