import IdentityCache.Proofs.ServiceRun

/-!
# The work of the refresh worker

One worker serves the queue while anything else may happen to the service.  In every service
that a run reaches the worker is at work (`AtWork`): the requests that it has begun to fetch,
followed by those that wait, are the requests put in the queue, in their order; each fetch that
was begun is either running or has been completed, and no fetch twice; and at most ten run.

A fetch completes exactly when its time is over, with what the fetcher finds for its request
(`AtWork.complete`), and time does not pass while a request waits and another fetch may begin
(`AtWork.pass`).  If nothing else changes the cache, the cache is in the end what the outcomes
make of it, taken in the order of the requests; so the order in which fetches complete, and with
it their latencies, make no difference (`AtWork.cache_of_idle`).  The main statement is
`every_request_is_fetched_once`.
-/

namespace IdentityCache

set_option autoImplicit false

/-! ## Fetches and their completion -/

/-- How many milliseconds after its beginning a fetch is due. -/
def Fetch.latency (fetch : Fetch) : Nat :=
  match fetch.duration with
  | .milliseconds count => count
  | .exchange => 0

@[simp] theorem Fetch.due_begin (fetch : Fetch) (number now : Nat) :
    (fetch.begin number now).due = now + fetch.latency := by
  unfold Fetch.begin latency
  cases fetch.duration <;> rfl

@[simp] theorem Fetch.number_begin (fetch : Fetch) (number now : Nat) :
    (fetch.begin number now).number = number := by
  unfold Fetch.begin
  cases fetch.duration <;> rfl

@[simp] theorem Fetch.outcome_begin (fetch : Fetch) (number now : Nat) :
    (fetch.begin number now).outcome = fetch.outcome := by
  unfold Fetch.begin
  cases fetch.duration <;> rfl

/-- The account whose entry a fetch writes: the one that was found, if it has a namespace and a
name. -/
def FetchOutcome.key? : FetchOutcome → Option CacheKey
  | .account found => found.key?
  | .missing | .failed => none

/-- A fetch that finds no account with a namespace and a name changes nothing. -/
theorem FetchOutcome.complete_of_key?_eq_none {outcome : FetchOutcome}
    (nameless : outcome.key? = none) (cache : Cache) : (outcome.complete cache).1 = cache := by
  cases outcome with
  | account found =>
    have noKey : found.key? = none := nameless
    rw [Cache.complete_account_fst, Cache.applyAccount_fst, noKey]
  | missing | failed => rfl

/-- The number of the fetch that a happening completes. -/
def Happening.completed? : Happening → Option Nat
  | .complete number => some number
  | _ => none

theorem completed_concat {happening : Happening} (silent : happening.completed? = none)
    (run : List Happening) :
    (run ++ [happening]).filterMap Happening.completed? = run.filterMap Happening.completed? := by
  rw [List.filterMap_append, List.filterMap_cons_none silent, List.filterMap_nil, List.append_nil]

namespace RefreshWorker

variable {worker : RefreshWorker}

/-- What waits for a worker grows like the queue that it draws from. -/
theorem waiting_of_grows {cache next : Cache} {events : List Event}
    (connected : cache.queue.isSome = worker.isConnected) (grows : cache.QueueGrows next events) :
    worker.waiting next = worker.waiting cache ++ events.filterMap Event.queued? := by
  unfold waiting
  unfold isConnected at connected
  cases source : worker.source with
  | queue =>
    rw [source] at connected
    obtain ⟨queue, present⟩ := Option.isSome_iff_exists.mp connected
    rw [grows.queue, present]
    rfl
  | backlog requests =>
    rw [source] at connected
    rw [grows.absent (Option.isSome_eq_false_iff.mp connected |> Option.isNone_iff_eq_none.mp),
      List.append_nil]

/-- A request can be taken if one waits. -/
theorem takeRequest?_isSome_iff (cache : Cache) :
    (worker.takeRequest? cache).isSome = true ↔ worker.waiting cache ≠ [] := by
  obtain ⟨fetcher, source, running, log⟩ := worker
  unfold takeRequest? waiting
  cases source with
  | queue =>
    cases cache.queue with
    | none => simp
    | some queue =>
      unfold RefreshQueue.take?
      cases waits : queue.waiting <;> simp [waits]
  | backlog requests => cases requests <;> simp

theorem beginNext?_isSome_iff (now : Nat) (cache : Cache) :
    (worker.beginNext? now cache).isSome = true ↔
      worker.running.length < maxRunningFetches ∧ worker.waiting cache ≠ [] := by
  unfold beginNext?
  rw [← takeRequest?_isSome_iff]
  split
  · rename_i room
    simp [room]
  · rename_i full
    simp [full]

theorem detach_frame (worker : RefreshWorker) (cache : Cache) :
    (worker.detach cache) = { worker with source := (worker.detach cache).source } ∧
      (worker.detach cache).isConnected = false := by
  obtain ⟨fetcher, source, running, log⟩ := worker
  cases source <;> exact ⟨rfl, rfl⟩

/-- A worker whose queue is closed keeps what waits in it. -/
theorem waiting_detach (worker : RefreshWorker) (cache next : Cache) :
    (worker.detach cache).waiting next = worker.waiting cache := by
  obtain ⟨fetcher, source, running, log⟩ := worker
  cases source <;> rfl

theorem isFinished_iff (worker : RefreshWorker) (cache : Cache) :
    worker.isFinished = true ↔
      worker.isConnected = false ∧ worker.waiting cache = [] ∧ worker.running = [] := by
  obtain ⟨fetcher, source, running, log⟩ := worker
  cases source <;> simp [isFinished, isConnected, waiting]

end RefreshWorker

/-- The numbers of the fetches that are left when one of them is completed. -/
theorem numbers_of_completed {running : List RunningFetch} {fetch : RunningFetch}
    (numbered : (running.map RunningFetch.number).Nodup) (among : fetch ∈ running) :
    (fetch.number :: (running.filter fun other => other.number ≠ fetch.number).map
      RunningFetch.number).Perm (running.map RunningFetch.number) := by
  have left : (running.filter fun other => other.number ≠ fetch.number).map RunningFetch.number =
      (running.map RunningFetch.number).erase fetch.number := by
    rw [numbered.erase_eq_filter, List.filter_map]
    refine congrArg (List.map _) (List.filter_congr fun other _ => ?_)
    exact Bool.eq_iff_iff.mpr (by simp)
  rw [left]
  exact (List.perm_cons_erase (List.mem_map_of_mem among)).symm

/-- The requests put in a queue keep their places. -/
theorem getElem?_queued_append {asked : List Request} {events : List Event} {number : Nat}
    {request : Request}
    (found : (asked ++ events.filterMap Event.queued?)[number]? = some request)
    (more : List Event) :
    (asked ++ (events ++ more).filterMap Event.queued?)[number]? = some request := by
  rw [List.filterMap_append, ← List.append_assoc,
    List.getElem?_append_left (List.getElem?_eq_some_iff.mp found).1, found]

/-! ## The worker at work -/

/-- A worker that serves a queue is at work: the state that it and the cache are in after a run
in which the given events were reported. -/
structure AtWork (queue : RefreshQueue) (fetcher : Fetcher) (run : List Happening)
    (events : List Event) (service : Service) (worker : RefreshWorker) : Prop where
  only : service.workers = [worker]
  serves : worker.fetcher = fetcher
  /-- The requests put in the queue are those whose fetch was begun, and after them those that
  wait. -/
  inOrder : worker.log.map Prod.fst ++ worker.waiting service.cache =
    queue.waiting ++ events.filterMap Event.queued?
  bounded : worker.running.length ≤ maxRunningFetches
  /-- Each fetch that was begun has been completed or is running, and none twice. -/
  numbered : (run.filterMap Happening.completed? ++ worker.running.map RunningFetch.number).Perm
    (List.range worker.log.length)
  /-- A running fetch goes as its request and its number let it go. -/
  running : ∀ fetch ∈ worker.running, ∃ request began,
    worker.log[fetch.number]? = some (request, began) ∧
      fetch.outcome = (fetcher fetch.number request).outcome ∧
      fetch.due = began + (fetcher fetch.number request).latency
  /-- No running fetch is overdue. -/
  punctual : ∀ fetch ∈ worker.running, service.now ≤ fetch.due
  source : service.cache.queue.isSome = worker.isConnected
  connected : worker.isConnected = false ↔ .disconnect ∈ run

namespace AtWork

variable {queue : RefreshQueue} {fetcher : Fetcher} {run : List Happening}
  {events more : List Event} {service next : Service} {worker : RefreshWorker}
  {happening : Happening}

theorem start (base : Service) (queue : RefreshQueue) (fetcher : Fetcher) :
    AtWork queue fetcher [] [] (base.withWorker queue fetcher) { fetcher, source := .queue } where
  only := rfl
  serves := rfl
  inOrder := (List.append_nil _).symm
  bounded := Nat.zero_le _
  numbered := .nil
  running := nofun
  punctual := nofun
  source := rfl
  connected := ⟨nofun, nofun⟩

theorem nodup (atWork : AtWork queue fetcher run events service worker) :
    (worker.running.map RunningFetch.number).Nodup :=
  (List.nodup_append.mp (atWork.numbered.nodup_iff.mpr List.nodup_range)).2.1

/-- The fetches that were completed have been begun. -/
theorem completed_lt (atWork : AtWork queue fetcher run events service worker) {number : Nat}
    (completed : number ∈ run.filterMap Happening.completed?) : number < worker.log.length :=
  List.mem_range.mp (atWork.numbered.mem_iff.mp (List.mem_append_left _ completed))

theorem mem_workers (atWork : AtWork queue fetcher run events service worker) :
    worker ∈ service.workers := by
  rw [atWork.only]
  exact List.mem_singleton_self _

theorem due_mem_deadlines (atWork : AtWork queue fetcher run events service worker)
    {fetch : RunningFetch} (among : fetch ∈ worker.running) : fetch.due ∈ service.deadlines :=
  List.mem_append_right _
    (List.mem_flatMap.mpr ⟨worker, atWork.mem_workers, List.mem_map_of_mem among⟩)

/-- Without deadlines no fetch runs. -/
theorem running_eq_nil (atWork : AtWork queue fetcher run events service worker)
    (nothing : service.deadlines = []) : worker.running = [] := by
  refine List.eq_nil_iff_forall_not_mem.mpr fun fetch among => ?_
  have ends := atWork.due_mem_deadlines among
  rw [nothing] at ends
  cases ends

/-- What happens to the cache apart from the worker leaves the worker at work. -/
theorem of_grows (atWork : AtWork queue fetcher run events service worker)
    (grows : service.cache.QueueGrows next.cache more)
    (sameWorkers : next.workers = service.workers) (sameNow : next.now = service.now)
    (silent : happening.completed? = none)
    (stays : happening ≠ .disconnect) :
    AtWork queue fetcher (run ++ [happening]) (events ++ more) next worker where
  only := sameWorkers.trans atWork.only
  serves := atWork.serves
  inOrder := by
    rw [RefreshWorker.waiting_of_grows atWork.source grows, ← List.append_assoc, atWork.inOrder,
      List.filterMap_append, List.append_assoc]
  bounded := atWork.bounded
  numbered := by
    rw [completed_concat silent]
    exact atWork.numbered
  running := atWork.running
  punctual := sameNow ▸ atWork.punctual
  source := by rw [grows.queue, Option.isSome_map, atWork.source]
  connected := by
    rw [List.mem_append, List.mem_singleton, atWork.connected]
    simp [Ne.symm stays]

/-- A fetch that is begun is that of the request that waits longest. -/
theorem begin (atWork : AtWork queue fetcher run events service worker)
    (happened : service.happen? .begin = some (next, more)) :
    ∃ after, AtWork queue fetcher (run ++ [.begin]) (events ++ more) next after := by
  obtain ⟨after, cache, begun, rfl⟩ := (Service.letWorker?_eq_some atWork.only).mp happened
  obtain ⟨request, taking, room, took, rfl, rfl⟩ := RefreshWorker.beginNext?_eq_some begun
  obtain ⟨first, kept, -, connected, present⟩ := RefreshWorker.takeRequest?_eq_some took
  have log : taking.log = worker.log := by rw [kept]
  have running : taking.running = worker.running := by rw [kept]
  have serves : taking.fetcher = fetcher := by rw [kept]; exact atWork.serves
  have number : (taking.begin service.now request).log =
      worker.log ++ [(request, service.now)] := by
    rw [← log]
    rfl
  have fetches : (taking.begin service.now request).running =
      worker.running ++
        [(fetcher worker.log.length request).begin worker.log.length service.now] := by
    rw [← log, ← running, ← serves]
    rfl
  refine ⟨taking.begin service.now request, rfl, serves, ?_, ?_, ?_, ?_, ?_, ?_, ?_⟩
  · have inOrder := atWork.inOrder
    rw [first] at inOrder
    rw [number, List.map_append, List.append_assoc, List.append_nil]
    exact inOrder
  · rw [fetches, List.length_append]
    exact room
  · rw [number, fetches, List.map_append, List.length_append, List.length_singleton,
      List.range_succ, completed_concat rfl, ← List.append_assoc, List.map_singleton,
      Fetch.number_begin]
    exact atWork.numbered.append_right _
  · rw [number, fetches]
    intro fetch member
    rcases List.mem_append.mp member with before | new
    · obtain ⟨asked, began, logged, how⟩ := atWork.running fetch before
      refine ⟨asked, began, ?_, how⟩
      rw [List.getElem?_append_left (List.getElem?_eq_some_iff.mp logged).1]
      exact logged
    · obtain rfl := List.mem_singleton.mp new
      refine ⟨request, service.now, ?_, ?_, ?_⟩
      · rw [Fetch.number_begin]
        exact List.getElem?_concat_length
      · rw [Fetch.number_begin, Fetch.outcome_begin]
      · rw [Fetch.number_begin, Fetch.due_begin]
  · rw [fetches]
    intro fetch member
    rcases List.mem_append.mp member with before | new
    · exact atWork.punctual fetch before
    · obtain rfl := List.mem_singleton.mp new
      rw [Fetch.due_begin]
      exact Nat.le_add_right _ _
  · exact present.trans (atWork.source.trans connected.symm)
  · rw [List.mem_append, ← atWork.connected, ← connected]
    simp [RefreshWorker.begin, RefreshWorker.isConnected]

/-- The fetch that is completed is over, and what it has found is taken in. -/
theorem complete (atWork : AtWork queue fetcher run events service worker) {number : Nat}
    (happened : service.happen? (.complete number) = some (next, more)) :
    (∃ request began, worker.log[number]? = some (request, began) ∧
      service.now = began + (fetcher number request).latency ∧
      (next.cache, more) = (fetcher number request).outcome.complete service.cache) ∧
    ∃ after, AtWork queue fetcher (run ++ [.complete number]) (events ++ more) next after := by
  obtain ⟨after, cache, completed, rfl⟩ := (Service.letWorker?_eq_some atWork.only).mp happened
  obtain ⟨fetch, among, rfl, isDue, rfl, taken⟩ := RefreshWorker.complete?_eq_some completed
  obtain ⟨request, began, logged, outcome, ends⟩ := atWork.running fetch among
  have due : fetch.due ≤ service.now := by
    simp only [RunningFetch.isDue, Bool.and_eq_true, decide_eq_true_eq] at isDue
    exact isDue.2
  have grows : service.cache.QueueGrows cache more := by
    have grown := service.cache.queueGrows_complete fetch.outcome
    rw [← taken] at grown
    exact grown
  have left : ∀ other ∈ worker.running.filter fun other => other.number ≠ fetch.number,
      other ∈ worker.running := fun other member => (List.mem_filter.mp member).1
  refine ⟨⟨request, began, logged, ?_, ?_⟩, _, rfl, atWork.serves, ?_, ?_, ?_, ?_, ?_, ?_, ?_⟩
  · rw [← ends]
    exact Nat.le_antisymm (atWork.punctual fetch among) due
  · rw [← outcome]
    exact taken
  · have waiting := RefreshWorker.waiting_of_grows atWork.source grows
    rw [List.filterMap_append, ← List.append_assoc, ← atWork.inOrder, List.append_assoc, ← waiting]
    rfl
  · exact Nat.le_trans (List.length_filter_le _ _) atWork.bounded
  · have counted : (run ++ [Happening.complete fetch.number]).filterMap Happening.completed? =
        run.filterMap Happening.completed? ++ [fetch.number] := List.filterMap_append
    rw [counted, List.append_assoc]
    exact ((numbers_of_completed atWork.nodup among).append_left _).trans atWork.numbered
  · exact fun other member => atWork.running other (left other member)
  · exact fun other member => atWork.punctual other (left other member)
  · exact grows.queue ▸ Option.isSome_map.trans atWork.source
  · rw [List.mem_append, ← atWork.connected]
    simp [RefreshWorker.isConnected]

/-- Closing the queue takes nothing from the worker. -/
theorem disconnect (atWork : AtWork queue fetcher run events service worker)
    (happened : service.happen? .disconnect = some (next, more)) :
    ∃ after, AtWork queue fetcher (run ++ [.disconnect]) (events ++ more) next after := by
  rw [Service.happen?] at happened
  split at happened
  · obtain ⟨after, cache, detached, rfl⟩ := (Service.letWorker?_eq_some atWork.only).mp happened
    cases detached
    obtain ⟨kept, closed⟩ := worker.detach_frame service.cache
    have log : (worker.detach service.cache).log = worker.log := by rw [kept]
    have running : (worker.detach service.cache).running = worker.running := by rw [kept]
    have serves : (worker.detach service.cache).fetcher = fetcher := by
      rw [kept]
      exact atWork.serves
    refine ⟨_, rfl, serves, ?_, ?_, ?_, ?_, ?_, closed.symm, ?_⟩
    · rw [log, RefreshWorker.waiting_detach, atWork.inOrder, List.append_nil]
    · rw [running]
      exact atWork.bounded
    · rw [log, running, completed_concat rfl]
      exact atWork.numbered
    · rw [log, running]
      exact atWork.running
    · rw [running]
      exact atWork.punctual
    · exact ⟨fun _ => List.mem_concat_self, fun _ => closed⟩
  · cases happened

/-- The answers of the API server make fetches due and nothing else. -/
theorem arrive (atWork : AtWork queue fetcher run events service worker)
    (happened : service.happen? .arrive = some (next, more)) :
    ∃ after, AtWork queue fetcher (run ++ [.arrive]) (events ++ more) next after := by
  obtain ⟨after, cache, arrived, rfl⟩ := (Service.letWorker?_eq_some atWork.only).mp happened
  obtain ⟨other, received, same⟩ := Option.map_eq_some_iff.mp arrived
  cases same
  unfold RefreshWorker.receive? at received
  split at received
  · cases received
    have answered : ∀ fetch ∈ worker.running.map RunningFetch.answered,
        ∃ before ∈ worker.running, fetch = before.answered := by
      intro fetch member
      obtain ⟨before, among, rfl⟩ := List.mem_map.mp member
      exact ⟨before, among, rfl⟩
    refine ⟨_, rfl, atWork.serves, ?_, ?_, ?_, ?_, ?_, atWork.source, ?_⟩
    · rw [List.append_nil]
      exact atWork.inOrder
    · rw [List.length_map]
      exact atWork.bounded
    · rw [completed_concat rfl, List.map_map]
      exact atWork.numbered
    · intro fetch member
      obtain ⟨before, among, rfl⟩ := answered fetch member
      exact atWork.running before among
    · intro fetch member
      obtain ⟨before, among, rfl⟩ := answered fetch member
      exact atWork.punctual before among
    · rw [List.mem_append, ← atWork.connected]
      simp [RefreshWorker.isConnected]
  · cases received

/-- At rest nothing waits that could be begun. -/
theorem idle_of_rest (atWork : AtWork queue fetcher run events service worker)
    (rest : service.step? = none) :
    worker.waiting service.cache = [] ∨ worker.running.length = maxRunningFetches := by
  rcases Nat.lt_or_ge worker.running.length maxRunningFetches with room | full
  · refine .inl (Decidable.byContradiction fun waits => ?_)
    have ready : (worker.step? service.now service.cache).isSome = true := by
      unfold RefreshWorker.step?
      split
      · rfl
      · rw [if_pos room, Option.isSome_map]
        exact (RefreshWorker.takeRequest?_isSome_iff service.cache).mpr waits
    have possible : service.step?.isSome = true := by
      refine Service.step?_isSome Service.stepWorker? (by simp [Service.stepKinds]) ?_
      rw [Service.stepWorker?, Option.isSome_map]
      exact stepFirst?_isSome atWork.mem_workers ready
    rw [rest] at possible
    cases possible
  · exact .inr (Nat.le_antisymm atWork.bounded full)

/-- While a request waits and another fetch may begin, time does not pass. -/
theorem pass (atWork : AtWork queue fetcher run events service worker) {duration : Nat}
    (happened : service.happen? (.pass duration) = some (next, more)) :
    (worker.waiting service.cache = [] ∨ worker.running.length = maxRunningFetches) ∧
      AtWork queue fetcher (run ++ [.pass duration]) (events ++ more) next worker := by
  rw [Service.happen?] at happened
  split at happened
  · rename_i possible
    obtain ⟨rest, ahead⟩ := possible
    cases happened
    refine ⟨atWork.idle_of_rest (Option.isNone_iff_eq_none.mp rest), ?_⟩
    have later : max service.now (service.now + duration) = service.now + duration :=
      Nat.max_eq_right (Nat.le_add_right _ _)
    refine ⟨atWork.only, atWork.serves, ?_, atWork.bounded, ?_, atWork.running, ?_,
      atWork.source, ?_⟩
    · rw [List.append_nil]
      exact atWork.inOrder
    · rw [completed_concat rfl]
      exact atWork.numbered
    · intro fetch among
      rw [Service.jump, later]
      exact ahead _ (atWork.due_mem_deadlines among)
    · rw [List.mem_append, ← atWork.connected]
      simp
  · cases happened

/-- **Whatever happens, the worker stays at work.** -/
theorem happen (atWork : AtWork queue fetcher run events service worker)
    (happened : service.happen? happening = some (next, more)) :
    ∃ after, AtWork queue fetcher (run ++ [happening]) (events ++ more) next after := by
  cases happening with
  | operation operation =>
    rw [Service.happen?] at happened
    split at happened
    · cases happened
    · rename_i notReceivers
      have grows := service.cache.queueGrows_perform (Bool.eq_false_iff.mpr notReceivers)
      obtain ⟨rfl, rfl⟩ := Prod.mk.inj (Option.some.inj happened)
      exact ⟨worker, atWork.of_grows grows rfl rfl rfl (by simp)⟩
  | offer request =>
    obtain ⟨own, present, same⟩ := Option.map_eq_some_iff.mp happened
    obtain ⟨rfl, rfl⟩ := Prod.mk.inj same
    exact ⟨worker, atWork.of_grows (.of_offer present request rfl) rfl rfl rfl (by simp)⟩
  | disconnect => exact atWork.disconnect happened
  | call call =>
    rw [Service.happen?_call] at happened
    obtain ⟨rfl, rfl⟩ := Prod.mk.inj (Option.some.inj happened)
    refine ⟨worker, atWork.of_grows ?_ rfl rfl rfl (by simp)⟩
    cases service.query? call with
    | none => exact .refl _
    | some request => exact service.cache.queueGrows_get request
  | answer place =>
    obtain ⟨call, -, same⟩ := Option.map_eq_some_iff.mp happened
    obtain ⟨rfl, rfl⟩ := Prod.mk.inj same
    exact ⟨worker, atWork.of_grows (.refl _) rfl rfl rfl (by simp)⟩
  | begin => exact atWork.begin happened
  | complete number => exact (atWork.complete happened).2
  | arrive => exact atWork.arrive happened
  | pass duration => exact ⟨worker, (atWork.pass happened).2⟩

/-- **After every run the worker is at work.** -/
theorem of_run {base : Service}
    (reached : (base.withWorker queue fetcher).run? run = some (service, events)) :
    ∃ worker, AtWork queue fetcher run events service worker :=
  Service.run_induction
    (P := fun run events service => ∃ worker, AtWork queue fetcher run events service worker)
    (fun atWork happened => atWork.elim fun _ atWork => atWork.happen happened)
    ⟨_, .start base queue fetcher⟩ reached

/-- **Left to itself the service completes every fetch.** -/
theorem exists_run_idle {base : Service}
    (reached : (base.withWorker queue fetcher).run? run = some (service, events)) :
    ∃ own final later worker, (∀ happening ∈ own, happening.isOwn = true) ∧
      service.run? own = some (final, later) ∧ final.workers = [worker] ∧
      worker.waiting final.cache = [] ∧ worker.running = [] := by
  -- Being reached by a run is kept by whatever happens, and tells the running fetches apart.
  let Reached (service : Service) : Prop :=
    ∃ run events, (base.withWorker queue fetcher).run? run = some (service, events)
  have staffed : ∀ {service}, Reached service → ∃ worker, service.workers = [worker] ∧
      (worker.running.map RunningFetch.number).Nodup := by
    rintro service ⟨run, events, reached⟩
    obtain ⟨worker, atWork⟩ := of_run reached
    exact ⟨worker, atWork.only, atWork.nodup⟩
  have kept : ∀ {service happening next events}, Reached service →
      service.happen? happening = some (next, events) → Reached next := by
    rintro service happening next more ⟨run, events, reached⟩ happened
    exact ⟨run ++ [happening], events ++ more, Service.run?_append_eq_some.mpr
      ⟨service, events, more, reached, Service.run?_singleton_eq_some.mpr happened, rfl⟩⟩
  obtain ⟨settling, ownSettling, settled⟩ :=
    Service.exists_run_settle staffed kept service ⟨run, events, reached⟩
  have restsThere : Reached service.settle.1 :=
    ⟨run ++ settling, events ++ service.settle.2, Service.run?_append_eq_some.mpr
      ⟨service, events, service.settle.2, reached, settled, rfl⟩⟩
  obtain ⟨going, ownGoing, went, rest⟩ := Service.exists_run_runWhile staffed kept
    (fun _ _ => true) service.settle.1 restsThere (Service.step?_settle service)
  obtain ⟨before, past, reachedBefore⟩ := restsThere
  obtain ⟨worker, atWork⟩ := of_run (Service.run?_append_eq_some.mpr
    ⟨_, _, _, reachedBefore, went, rfl⟩)
  have idle := atWork.running_eq_nil (Service.deadlines_runWhile _)
  refine ⟨settling ++ going, _, _, worker, List.forall_mem_append.mpr ⟨ownSettling, ownGoing⟩,
    Service.run?_append_eq_some.mpr ⟨_, _, _, settled, went, rfl⟩, atWork.only, ?_, idle⟩
  rcases atWork.idle_of_rest rest with none | full
  · exact none
  · rw [idle] at full
    cases full

end AtWork

/-! ## The order of completion makes no difference -/

/-- What the fetches of requests find, in the order of the requests. -/
def Fetcher.outcomes (fetcher : Fetcher) (asked : List Request) : List FetchOutcome :=
  asked.mapIdx fun number request => (fetcher number request).outcome

namespace Cache

/-- The cache after several fetches were completed. -/
def afterFetches (cache : Cache) (outcomes : List FetchOutcome) : Cache :=
  outcomes.foldl (fun cache outcome => (outcome.complete cache).1) cache

end Cache

theorem SignalLedger.release_comm (ledger : SignalLedger) (first second : Option SignalId) :
    (ledger.release first).release second = (ledger.release second).release first := by
  cases first with
  | none => rfl
  | some one =>
    cases second with
    | none => rfl
    | some other =>
      simp only [release, fire, drop, SignalLedger.mk.injEq]
      refine List.ext_getElem? fun index => ?_
      simp only [List.getElem?_modify]
      grind

theorem Cache.settings_writeAccount (cache : Cache) (key : CacheKey) (entry : Entry) :
    (cache.writeAccount key entry).settings = cache.settings := by
  rw [writeAccount_eq]

theorem Cache.writeAccount_comm {key other : CacheKey} (differ : key ≠ other) (cache : Cache)
    (entry second : Entry) :
    (cache.writeAccount key entry).writeAccount other second =
      (cache.writeAccount other second).writeAccount key entry := by
  simp only [writeAccount_eq, Table.get?_erase, if_neg differ, if_neg (Ne.symm differ)]
  rw [Table.insert_comm differ, Table.erase_comm, SignalLedger.release_comm]

/-- Fetches that write different accounts may be completed in either order. -/
theorem FetchOutcome.complete_comm {first second : FetchOutcome}
    (differ : ∀ key, first.key? = some key → second.key? ≠ some key) (cache : Cache) :
    (second.complete (first.complete cache).1).1 =
      (first.complete (second.complete cache).1).1 := by
  cases own : first.key? with
  | none => rw [complete_of_key?_eq_none own, complete_of_key?_eq_none own]
  | some key =>
    cases other : second.key? with
    | none => rw [complete_of_key?_eq_none other, complete_of_key?_eq_none other]
    | some theirs =>
      have different : key ≠ theirs := fun same => differ key own (same ▸ other)
      cases first with
      | account found =>
        cases second with
        | account foundToo =>
          have keyed : found.key? = some key := own
          have keyedToo : foundToo.key? = some theirs := other
          simp only [Cache.complete_fst, keyed, keyedToo, Cache.settings_writeAccount]
          exact cache.writeAccount_comm different _ _
        | missing | failed => cases other
      | missing | failed => cases own

/-- **Fetches that write different accounts may be completed in any order.** -/
theorem Cache.afterFetches_perm {outcomes others : List FetchOutcome}
    (same : outcomes.Perm others) (distinct : (outcomes.filterMap FetchOutcome.key?).Nodup)
    (cache : Cache) : cache.afterFetches outcomes = cache.afterFetches others := by
  induction same generalizing cache with
  | nil => rfl
  | cons outcome _ ih =>
    exact ih (distinct.sublist ((List.sublist_cons_self _ _).filterMap _)) _
  | swap first second rest =>
    have differ := (List.pairwise_cons.mp (List.pairwise_filterMap.mp distinct)).1 first
      List.mem_cons_self
    exact congrArg (afterFetches · rest) (FetchOutcome.complete_comm
      (fun key own theirs => differ key own key theirs rfl) cache)
  | trans one other ihOne ihOther =>
    exact (ihOne distinct cache).trans
      (ihOther ((one.filterMap _).nodup_iff.mp distinct) cache)

theorem Fetcher.outcomes_append_left (fetcher : Fetcher) {asked : List Request} {number : Nat}
    (early : number < asked.length) (more : List Request) :
    (fetcher.outcomes (asked ++ more))[number]? = (fetcher.outcomes asked)[number]? := by
  rw [outcomes, outcomes, List.getElem?_mapIdx, List.getElem?_mapIdx,
    List.getElem?_append_left early]

theorem filterMap_getElem?_range {α : Type} (items : List α) :
    (List.range items.length).filterMap (fun place => items[place]?) = items := by
  induction items with
  | nil => rfl
  | cons item items ih =>
    rw [List.length_cons, List.range_succ_eq_map, List.filterMap_cons, List.getElem?_cons_zero,
      List.filterMap_map]
    exact congrArg (List.cons item) ih

/-- What the fetches of the given numbers find. -/
def Fetcher.found (fetcher : Fetcher) (asked : List Request) (numbers : List Nat) :
    List FetchOutcome :=
  numbers.filterMap fun number => (fetcher.outcomes asked)[number]?

theorem Fetcher.found_append_left (fetcher : Fetcher) {asked : List Request} {numbers : List Nat}
    (early : ∀ number ∈ numbers, number < asked.length) (more : List Request) :
    fetcher.found (asked ++ more) numbers = fetcher.found asked numbers := by
  induction numbers with
  | nil => rfl
  | cons number numbers ih =>
    obtain ⟨here, later⟩ := List.forall_mem_cons.mp early
    have rest := ih later
    unfold found at rest ⊢
    rw [List.filterMap_cons, List.filterMap_cons, rest, fetcher.outcomes_append_left here]

theorem Fetcher.found_range (fetcher : Fetcher) (asked : List Request) :
    fetcher.found asked (List.range asked.length) = fetcher.outcomes asked := by
  have length : (fetcher.outcomes asked).length = asked.length := List.length_mapIdx
  rw [found, ← length]
  exact filterMap_getElem?_range _

/-- Nobody but the worker changes the cache in a happening. -/
def Happening.IsQuiet (service : Service) (happening : Happening) : Prop :=
  happening.isOwn = true ∨
    (service.cache.performed (service.deed? happening)).1.withoutQueue = service.cache.withoutQueue

/-- Whether a happening is neither an operation nor a call. -/
def Happening.isNoDeed : Happening → Bool
  | .operation _ | .call _ => false
  | _ => true

theorem Happening.isQuiet_of_isNoDeed {happening : Happening} (noDeed : happening.isNoDeed = true)
    (service : Service) : happening.IsQuiet service := by
  cases happening with
  | operation | call => cases noDeed
  | offer | disconnect => exact .inr rfl
  | answer | begin | complete | arrive | pass => exact .inl rfl

namespace AtWork

variable {queue : RefreshQueue} {fetcher : Fetcher} {run : List Happening}
  {events more : List Event} {service next : Service} {worker : RefreshWorker}
  {happening : Happening}

/-- A quiet happening that completes no fetch leaves the cache as it is, but for the queue. -/
theorem withoutQueue_of_quiet (atWork : AtWork queue fetcher run events service worker)
    (happened : service.happen? happening = some (next, more)) (quiet : happening.IsQuiet service)
    (silent : happening.completed? = none) :
    next.cache.withoutQueue = service.cache.withoutQueue := by
  have result : next.cache.withoutQueue =
      (service.cache.performed (service.deed? happening)).1.withoutQueue := by
    rw [Service.cache_happen atWork.only happened]
    rfl
  rcases quiet with own | unchanged
  · rw [result]
    cases happening with
    | complete number => cases silent
    | answer | begin | arrive | pass => rfl
    | operation | offer | disconnect | call => cases own
  · exact result.trans unchanged

/-- The request of a fetch that was begun is the one that was put in the queue at its place. -/
theorem getElem?_asked (atWork : AtWork queue fetcher run events service worker) {number : Nat}
    {request : Request} {began : Nat} (logged : worker.log[number]? = some (request, began)) :
    (queue.waiting ++ events.filterMap Event.queued?)[number]? = some request := by
  have early : number < (worker.log.map Prod.fst).length := by
    rw [List.length_map]
    exact (List.getElem?_eq_some_iff.mp logged).1
  rw [← atWork.inOrder, List.getElem?_append_left early, List.getElem?_map, logged]
  rfl

theorem completed_lt_asked (atWork : AtWork queue fetcher run events service worker) {number : Nat}
    (completed : number ∈ run.filterMap Happening.completed?) :
    number < (queue.waiting ++ events.filterMap Event.queued?).length := by
  have early := atWork.completed_lt completed
  rw [← atWork.inOrder, List.length_append, List.length_map]
  omega

/-- **In a run in which nobody else changes the cache it is what the completed fetches make of
it.** -/
theorem cache_of_quiet {base : Service}
    (quiet : (base.withWorker queue fetcher).Throughout Happening.IsQuiet run)
    (reached : (base.withWorker queue fetcher).run? run = some (service, events)) :
    service.cache.withoutQueue = base.cache.withoutQueue.afterFetches
      (fetcher.found (queue.waiting ++ events.filterMap Event.queued?)
        (run.filterMap Happening.completed?)) := by
  refine (Service.throughout_induction (P := fun run events service =>
    (∃ worker, AtWork queue fetcher run events service worker) ∧
      service.cache.withoutQueue = base.cache.withoutQueue.afterFetches
        (fetcher.found (queue.waiting ++ events.filterMap Event.queued?)
          (run.filterMap Happening.completed?)))
    ?_ ⟨⟨_, .start base queue fetcher⟩, rfl⟩ quiet reached).2
  rintro run events service happening next more ⟨⟨worker, atWork⟩, holds⟩ quiet happened
  refine ⟨atWork.happen happened, ?_⟩
  have before := fetcher.found_append_left (fun number => atWork.completed_lt_asked)
    (more.filterMap Event.queued?)
  rw [List.filterMap_append, ← List.append_assoc]
  cases completed : happening.completed? with
  | none =>
    rw [completed_concat completed, before, ← holds]
    exact atWork.withoutQueue_of_quiet happened quiet completed
  | some number =>
    obtain rfl : happening = .complete number := by
      cases happening <;> cases completed
      rfl
    obtain ⟨⟨request, began, logged, -, taken⟩, -⟩ := atWork.complete happened
    have asked := atWork.getElem?_asked logged
    have found : (fetcher.outcomes ((queue.waiting ++ events.filterMap Event.queued?) ++
        more.filterMap Event.queued?))[number]? = some (fetcher number request).outcome := by
      rw [fetcher.outcomes_append_left (List.getElem?_eq_some_iff.mp asked).1, Fetcher.outcomes,
        List.getElem?_mapIdx, asked]
      rfl
    have result : next.cache = ((fetcher number request).outcome.complete service.cache).1 :=
      congrArg Prod.fst taken
    rw [Fetcher.found] at before
    rw [List.filterMap_append, List.filterMap_cons_some completed, List.filterMap_nil,
      Fetcher.found, List.filterMap_append, before, List.filterMap_cons_some found,
      List.filterMap_nil, Cache.afterFetches, List.foldl_append, result,
      Cache.withoutQueue_complete, holds]
    rfl

/-- **Once every fetch has been completed, the cache is what the outcomes make of it in the order of
the requests**, if they write different accounts and nobody else changes the cache. -/
theorem cache_of_idle {base : Service} (atWork : AtWork queue fetcher run events service worker)
    (quiet : (base.withWorker queue fetcher).Throughout Happening.IsQuiet run)
    (reached : (base.withWorker queue fetcher).run? run = some (service, events))
    (distinct : ((fetcher.outcomes (queue.waiting ++ events.filterMap Event.queued?)).filterMap
      FetchOutcome.key?).Nodup)
    (nothingWaits : worker.waiting service.cache = []) (noneRuns : worker.running = []) :
    service.cache.withoutQueue = base.cache.withoutQueue.afterFetches
      (fetcher.outcomes (queue.waiting ++ events.filterMap Event.queued?)) := by
  have begun : worker.log.length = (queue.waiting ++ events.filterMap Event.queued?).length := by
    rw [← atWork.inOrder, nothingWaits, List.append_nil, List.length_map]
  have completed := atWork.numbered
  rw [noneRuns, List.map_nil, List.append_nil, begun] at completed
  have same := completed.filterMap fun number =>
    (fetcher.outcomes (queue.waiting ++ events.filterMap Event.queued?))[number]?
  rw [cache_of_quiet quiet reached, ← fetcher.found_range]
  refine (Cache.afterFetches_perm same.symm ?_ _).symm
  rw [← Fetcher.found, fetcher.found_range]
  exact distinct

end AtWork

/-! ## The main statement -/

/-- Nothing is left to be fetched. -/
def Service.IsIdle (service : Service) : Prop :=
  ∀ worker ∈ service.workers, worker.waiting service.cache = [] ∧ worker.running = []

instance (service : Service) : Decidable service.IsIdle :=
  inferInstanceAs (Decidable (∀ worker ∈ service.workers, _ ∧ _))

/-- **Every request is fetched exactly once, at most ten at a time, and latencies make no
difference.**  Let a worker serve a queue, and let anything happen meanwhile.  At every moment the
requests whose fetches have begun, followed by those that wait, are the requests put in the queue;
each fetch that has begun either runs or has been completed, and none twice.  At most ten run, a
fetch begins whenever fewer do and a request waits, and until then time does not pass.  No fetch
is completed before or after its time, and then its own outcome is taken in; what the worker does
besides leaves the cache as it is but for the queue.  The worker is finished exactly when the queue
is closed, nothing waits and no fetch runs, and left to itself the service comes to that.

An outcome without an account, or with one that lacks a namespace or a name, changes nothing, and
any other one does what its delivery would do.  If the outcomes write different accounts and nobody
else changes the cache, runs with the same requests and outcomes end in the same cache. -/
theorem every_request_is_fetched_once (base : Service) (queue : RefreshQueue) (fetcher : Fetcher) :
    let start := base.withWorker queue fetcher
    (∀ run events service, start.run? run = some (service, events) →
      ∃ worker, service.workers = [worker] ∧
        let begun := worker.log.map Prod.fst
        let waiting := worker.waiting service.cache
        let running := worker.running.map RunningFetch.number
        begun ++ waiting = queue.waiting ++ events.filterMap Event.queued? ∧
        (run.filterMap Happening.completed? ++ running).Perm (List.range begun.length) ∧
        running.length ≤ 10 ∧
        ((service.happen? .begin).isSome ↔ running.length < 10 ∧ waiting ≠ []) ∧
        (∀ duration, (service.happen? (.pass duration)).isSome →
          waiting = [] ∨ running.length = 10) ∧
        (∀ number ∈ running, ∃ request began, worker.log[number]? = some (request, began) ∧
          service.now ≤ began + (fetcher number request).latency) ∧
        (∀ number next more, service.happen? (.complete number) = some (next, more) →
          ∃ request began, worker.log[number]? = some (request, began) ∧
            service.now = began + (fetcher number request).latency ∧
            (next.cache, more) = (fetcher number request).outcome.complete service.cache) ∧
        (∀ happening next more, service.happen? happening = some (next, more) →
          happening.isOwn = true → happening.completed? = none →
          next.cache.withoutQueue = service.cache.withoutQueue) ∧
        (worker.isFinished = true ↔ .disconnect ∈ run ∧ waiting = [] ∧ running = []) ∧
        ∃ own final later, (∀ happening ∈ own, happening.isOwn = true) ∧
          service.run? own = some (final, later) ∧ final.IsIdle) ∧
    (∀ (outcome : FetchOutcome) cache, outcome.key? = none → (outcome.complete cache).1 = cache) ∧
    (∀ found cache, ((FetchOutcome.account found).complete cache).1 =
      (cache.applyAccount found).1) ∧
    ∀ other : Fetcher,
      (∀ number request, (other number request).outcome = (fetcher number request).outcome) →
      ∀ run events service otherRun otherEvents otherService,
        start.run? run = some (service, events) →
        (base.withWorker queue other).run? otherRun = some (otherService, otherEvents) →
        start.Throughout Happening.IsQuiet run →
        (base.withWorker queue other).Throughout Happening.IsQuiet otherRun →
        events.filterMap Event.queued? = otherEvents.filterMap Event.queued? →
        ((fetcher.outcomes (queue.waiting ++ events.filterMap Event.queued?)).filterMap
          FetchOutcome.key?).Nodup →
        service.IsIdle → otherService.IsIdle →
        service.cache.withoutQueue = otherService.cache.withoutQueue := by
  intro start
  refine ⟨fun run events service reached => ?_,
    fun outcome cache nameless => outcome.complete_of_key?_eq_none nameless cache,
    fun found cache => cache.complete_account_fst found, ?_⟩
  · obtain ⟨worker, atWork⟩ := AtWork.of_run reached
    have count : (worker.running.map RunningFetch.number).length = worker.running.length :=
      List.length_map _
    have noNumbers : worker.running.map RunningFetch.number = [] ↔ worker.running = [] :=
      List.map_eq_nil_iff
    refine ⟨worker, atWork.only, ?_⟩
    intro begun waiting running
    refine ⟨atWork.inOrder, ?_, count ▸ atWork.bounded, ?_, fun duration possible => ?_,
      fun number among => ?_, fun number next more happened => (atWork.complete happened).1,
      fun happening next more happened own silent => ?_, ?_, ?_⟩
    · rw [List.length_map]
      exact atWork.numbered
    · rw [Service.happen?, Service.letWorker?_eq atWork.only, Option.isSome_map, count]
      exact RefreshWorker.beginNext?_isSome_iff _ _
    · obtain ⟨⟨next, more⟩, happened⟩ := Option.isSome_iff_exists.mp possible
      exact count ▸ (atWork.pass happened).1
    · obtain ⟨fetch, member, rfl⟩ := List.mem_map.mp among
      obtain ⟨request, began, logged, -, ends⟩ := atWork.running fetch member
      exact ⟨request, began, logged, ends ▸ atWork.punctual fetch member⟩
    · exact atWork.withoutQueue_of_quiet happened (.inl own) silent
    · rw [worker.isFinished_iff service.cache, atWork.connected, noNumbers]
    · obtain ⟨own, final, later, rested, allOwn, went, only, nothingWaits, noneRuns⟩ :=
        AtWork.exists_run_idle reached
      refine ⟨own, final, later, allOwn, went, fun worker among => ?_⟩
      rw [only] at among
      obtain rfl := List.mem_singleton.mp among
      exact ⟨nothingWaits, noneRuns⟩
  · intro other sameOutcomes run events service otherRun otherEvents otherService reached
      otherReached quiet otherQuiet sameRequests distinct idle otherIdle
    have outcomes : other.outcomes = fetcher.outcomes := by
      funext asked
      refine congrArg (asked.mapIdx ·) ?_
      funext number request
      exact sameOutcomes number request
    obtain ⟨worker, atWork⟩ := AtWork.of_run reached
    obtain ⟨otherWorker, otherAtWork⟩ := AtWork.of_run otherReached
    obtain ⟨nothingWaits, noneRuns⟩ := idle worker atWork.mem_workers
    obtain ⟨nothingWaitsToo, noneRunsToo⟩ := otherIdle otherWorker otherAtWork.mem_workers
    rw [atWork.cache_of_idle quiet reached distinct nothingWaits noneRuns,
      otherAtWork.cache_of_idle otherQuiet otherReached
        (by rw [outcomes, ← sameRequests]; exact distinct) nothingWaitsToo noneRunsToo,
      outcomes, sameRequests]

/-- Two fetches that are completed in either order leave the same cache. -/
theorem latencies_make_no_difference :
    let base : Service := { cache := Cache.new {} none none }
    let queue : RefreshQueue :=
      { capacity := 4, waiting := [⟨"ns", "first", false⟩, ⟨"ns", "second", false⟩] }
    let fetcher (latencies : List Nat) : Fetcher := fun number request =>
      { outcome := .account { ns := some request.ns, name := some request.name }
        duration := .milliseconds (latencies.getD number 0) }
    let run : List Happening :=
      [.begin, .begin, .pass 2, .complete 1, .offer ⟨"ns", "third", false⟩, .begin, .complete 2,
        .pass 3, .complete 0, .disconnect]
    let otherRun : List Happening :=
      [.offer ⟨"ns", "third", false⟩, .begin, .begin, .begin, .pass 1, .complete 0, .complete 2,
        .pass 3, .complete 1]
    ∃ service events otherService otherEvents,
      (base.withWorker queue (fetcher [5, 2, 0])).run? run = some (service, events) ∧
      (base.withWorker queue (fetcher [1, 4, 1])).run? otherRun = some (otherService, otherEvents) ∧
      service.cache.withoutQueue = otherService.cache.withoutQueue := by
  intro base queue fetcher run otherRun
  refine ⟨_, _, _, _, rfl, rfl, ?_⟩
  refine (every_request_is_fetched_once base queue (fetcher [5, 2, 0])).2.2.2 (fetcher [1, 4, 1])
    (fun _ _ => rfl) run _ _ otherRun _ _ rfl rfl ?_ ?_ rfl (by decide) ?_ ?_
  · exact Service.throughout_of_forall (fun happening among =>
      Happening.isQuiet_of_isNoDeed (List.all_eq_true.mp (by decide) happening among)) _
  · exact Service.throughout_of_forall (fun happening among =>
      Happening.isQuiet_of_isNoDeed (List.all_eq_true.mp (by decide) happening among)) _
  · decide +kernel
  · decide +kernel

end IdentityCache
