import IdentityCache.Proofs.RefreshRequests
import IdentityCache.Service.Clock
import IdentityCache.Service.Operation

/-!
# Runs of the service with one worker

`Service.step?` is one order in which things happen in an instant.  Here the order is left
open: while one worker serves the queue, other tasks use the cache and put requests in the
queue, calls come in, any waiting call that has come to an answer is answered, the worker
begins the next fetch or takes in any fetch that is due, and the answers of the API server
arrive.  Time passes only while nothing of this can happen by itself, and never beyond a
deadline.

`Service.run?` is the service after any list of such happenings, with the events reported on
the way.  Whatever the service does by itself is such a run (`exists_run_settle`,
`exists_run_runWhile`), so what holds in all runs holds of the service as it is.
-/

namespace IdentityCache

set_option autoImplicit false

/-! ## Happenings -/

/-- What may happen next while one worker serves the queue. -/
inductive Happening
  /-- Another task makes an operation on the cache. -/
  | operation (operation : Operation)
  /-- Someone puts a request in the queue. -/
  | offer (request : Request)
  /-- All who could put requests in the queue are gone. -/
  | disconnect
  | call (call : Call)
  /-- The waiting call at a place is answered. -/
  | answer (place : Nat)
  /-- The worker begins to fetch the next request. -/
  | begin
  /-- The worker takes in what the fetch of a number has found. -/
  | complete (number : Nat)
  /-- The answers of the API server arrive. -/
  | arrive
  /-- Milliseconds pass. -/
  | pass (duration : Nat)

/-- Whether a happening needs nobody but the service itself. -/
def Happening.isOwn : Happening → Bool
  | .answer _ | .begin | .complete _ | .arrive | .pass _ => true
  | .operation _ | .offer _ | .disconnect | .call _ => false

namespace RefreshWorker

/-- Begins to fetch the next request, if there is one and fewer than ten fetches run. -/
def beginNext? (worker : RefreshWorker) (now : Nat) (cache : Cache) :
    Option (RefreshWorker × Cache × List Event) :=
  if worker.running.length < maxRunningFetches then
    (worker.takeRequest? cache).map fun (request, worker, cache) =>
      (worker.begin now request, cache, [])
  else none

/-- Takes in what the running fetch of the given number has found, if it is due. -/
def complete? (worker : RefreshWorker) (number now : Nat) (cache : Cache) :
    Option (RefreshWorker × Cache × List Event) :=
  (worker.running.find? fun fetch => fetch.number = number && fetch.isDue now).map fun fetch =>
    let (cache, events) := fetch.outcome.complete cache
    ({ worker with running := worker.running.filter fun other => other.number ≠ number },
      cache, events)

/-- The requests that wait to be fetched. -/
def waiting (worker : RefreshWorker) (cache : Cache) : List Request :=
  match worker.source with
  | .queue => (cache.queue.map RefreshQueue.waiting).getD []
  | .backlog requests => requests

/-- Whether the queue that a worker draws from is still that of the cache. -/
def isConnected (worker : RefreshWorker) : Bool :=
  match worker.source with
  | .queue => true
  | .backlog _ => false

/-- Taking a request takes the first one that waits, and nothing else. -/
theorem takeRequest?_eq_some {worker next : RefreshWorker} {cache after : Cache}
    {request : Request} (taken : worker.takeRequest? cache = some (request, next, after)) :
    worker.waiting cache = request :: next.waiting after ∧
      next = { worker with source := next.source } ∧ after = { cache with queue := after.queue } ∧
      next.isConnected = worker.isConnected ∧ after.queue.isSome = cache.queue.isSome := by
  obtain ⟨fetcher, source, running, log⟩ := worker
  unfold takeRequest? at taken
  cases source with
  | queue =>
    dsimp only at taken
    split at taken
    · rename_i queue present
      obtain ⟨⟨first, rest⟩, found, same⟩ := Option.map_eq_some_iff.mp taken
      cases same
      unfold RefreshQueue.take? at found
      split at found
      · cases found
      · rename_i waits
        cases found
        exact ⟨by simp [waiting, present, waits], rfl, rfl, rfl, by rw [present]; rfl⟩
    · cases taken
  | backlog requests =>
    cases requests with
    | nil => cases taken
    | cons first rest =>
      cases taken
      exact ⟨rfl, rfl, rfl, rfl, rfl⟩

theorem beginNext?_eq_some {worker after : RefreshWorker} {now : Nat} {cache next : Cache}
    {events : List Event} (begun : worker.beginNext? now cache = some (after, next, events)) :
    ∃ request taking, worker.running.length < maxRunningFetches ∧
      worker.takeRequest? cache = some (request, taking, next) ∧
      after = taking.begin now request ∧ events = [] := by
  unfold beginNext? at begun
  split at begun
  · rename_i room
    obtain ⟨⟨request, taking, left⟩, took, same⟩ := Option.map_eq_some_iff.mp begun
    cases same
    exact ⟨request, taking, room, took, rfl, rfl⟩
  · cases begun

theorem complete?_eq_some {worker after : RefreshWorker} {number now : Nat} {cache next : Cache}
    {events : List Event}
    (completed : worker.complete? number now cache = some (after, next, events)) :
    ∃ fetch ∈ worker.running, fetch.number = number ∧ fetch.isDue now = true ∧
      after =
        { worker with running := worker.running.filter fun other => other.number ≠ number } ∧
      (next, events) = fetch.outcome.complete cache := by
  obtain ⟨fetch, found, same⟩ := Option.map_eq_some_iff.mp completed
  obtain ⟨left, rest⟩ := Prod.mk.inj same
  have isIt := List.find?_some found
  simp only [Bool.and_eq_true, decide_eq_true_eq] at isIt
  exact ⟨fetch, List.mem_of_find?_eq_some found, isIt.1, isIt.2, left.symm, rest.symm⟩

end RefreshWorker

namespace Service

/-- A service with a queue and one worker that serves it. -/
def withWorker (base : Service) (queue : RefreshQueue) (fetcher : Fetcher) : Service :=
  { base with
    cache := { base.cache with queue := some queue }
    workers := [{ fetcher, source := .queue }] }

/-- Lets the only worker make a step. -/
def letWorker? (service : Service)
    (step : RefreshWorker → Option (RefreshWorker × Cache × List Event)) :
    Option (Service × List Event) :=
  match service.workers with
  | [worker] =>
    (step worker).map fun (worker, cache, events) =>
      ({ service with cache, workers := [worker] }, events)
  | _ => none

/-- The service after a happening and the events that are reported, if it can happen. -/
def happen? (service : Service) : Happening → Option (Service × List Event)
  | .operation operation =>
    if operation.isReceivers then none
    else
      let (cache, events) := service.cache.perform operation
      some ({ service with cache }, events)
  | .offer request =>
    service.cache.queue.map fun queue =>
      let (queue, fate) := queue.offer request
      ({ service with cache := { service.cache with queue := some queue } },
        [.refreshRequested request fate])
  | .disconnect =>
    if service.cache.queue.isSome then
      service.letWorker? fun worker =>
        some (worker.detach service.cache, { service.cache with queue := none }, [])
    else none
  | .call call =>
    let (next, _, events) := service.start call
    some (next, events)
  | .answer place =>
    ((service.calls[place]?).bind (·.poll? service.cache service.now)).map fun call =>
      ({ service with calls := service.calls.set place call }, [])
  | .begin => service.letWorker? (·.beginNext? service.now service.cache)
  | .complete number => service.letWorker? (·.complete? number service.now service.cache)
  | .arrive =>
    service.letWorker? fun worker => worker.receive?.map fun next => (next, service.cache, [])
  | .pass duration =>
    if service.step?.isNone ∧ ∀ deadline ∈ service.deadlines, service.now + duration ≤ deadline
    then some (service.jump (service.now + duration), [])
    else none

/-- The service after a run and the events that are reported on the way, if all of it can
happen. -/
def run? (service : Service) : List Happening → Option (Service × List Event)
  | [] => some (service, [])
  | happening :: later =>
    (service.happen? happening).bind fun (next, events) =>
      (next.run? later).map fun (final, more) => (final, events ++ more)

@[simp] theorem run?_nil (service : Service) : service.run? [] = some (service, []) := rfl

theorem run?_cons_eq_some {service final : Service} {happening : Happening}
    {later : List Happening} {events : List Event} :
    service.run? (happening :: later) = some (final, events) ↔
      ∃ next first more, service.happen? happening = some (next, first) ∧
        next.run? later = some (final, more) ∧ events = first ++ more := by
  rw [run?]
  constructor
  · intro reached
    obtain ⟨⟨next, first⟩, happened, went⟩ := Option.bind_eq_some_iff.mp reached
    obtain ⟨⟨last, more⟩, rest, same⟩ := Option.map_eq_some_iff.mp went
    cases same
    exact ⟨next, first, more, happened, rest, rfl⟩
  · rintro ⟨next, first, more, happened, rest, rfl⟩
    rw [happened, Option.bind_some]
    dsimp only
    rw [rest]
    rfl

/-- A run may be cut anywhere. -/
theorem run?_append_eq_some {service final : Service} {earlier later : List Happening}
    {events : List Event} :
    service.run? (earlier ++ later) = some (final, events) ↔
      ∃ middle first more, service.run? earlier = some (middle, first) ∧
        middle.run? later = some (final, more) ∧ events = first ++ more := by
  induction earlier generalizing service events with
  | nil =>
    constructor
    · intro reached
      exact ⟨service, [], events, rfl, reached, rfl⟩
    · rintro ⟨middle, first, more, stays, rest, rfl⟩
      cases stays
      exact rest
  | cons happening earlier ih =>
    rw [List.cons_append, run?_cons_eq_some]
    constructor
    · rintro ⟨next, first, more, happened, went, rfl⟩
      obtain ⟨middle, second, last, start, rest, rfl⟩ := ih.mp went
      exact ⟨middle, first ++ second, last,
        run?_cons_eq_some.mpr ⟨next, first, second, happened, start, rfl⟩, rest,
        (List.append_assoc _ _ _).symm⟩
    · rintro ⟨middle, first, more, start, rest, rfl⟩
      obtain ⟨next, here, second, happened, went, rfl⟩ := run?_cons_eq_some.mp start
      exact ⟨next, here, second ++ more, happened, ih.mpr ⟨middle, second, more, went, rest, rfl⟩,
        List.append_assoc _ _ _⟩

theorem run?_singleton_eq_some {service final : Service} {happening : Happening}
    {events : List Event} :
    service.run? [happening] = some (final, events) ↔
      service.happen? happening = some (final, events) := by
  rw [run?_cons_eq_some]
  constructor
  · rintro ⟨next, first, more, happened, stays, rfl⟩
    cases stays
    rw [List.append_nil]
    exact happened
  · intro happened
    exact ⟨final, events, [], happened, rfl, (List.append_nil _).symm⟩

/-- Whether each happening of a run is of a kind, with the service as it is when it happens. -/
def Throughout (kind : Service → Happening → Prop) (service : Service) : List Happening → Prop
  | [] => True
  | happening :: later =>
    kind service happening ∧
      match service.happen? happening with
      | some (next, _) => next.Throughout kind later
      | none => True

theorem Throughout.of_append {kind : Service → Happening → Prop} {service middle : Service}
    {earlier later : List Happening} {events : List Event}
    (every : service.Throughout kind (earlier ++ later))
    (reached : service.run? earlier = some (middle, events)) :
    service.Throughout kind earlier ∧ middle.Throughout kind later := by
  induction earlier generalizing service events with
  | nil =>
    cases reached
    exact ⟨trivial, every⟩
  | cons happening earlier ih =>
    obtain ⟨next, first, more, happened, went, -⟩ := run?_cons_eq_some.mp reached
    obtain ⟨here, others⟩ := every
    rw [happened] at others
    obtain ⟨left, right⟩ := ih others went
    refine ⟨⟨here, ?_⟩, right⟩
    rw [happened]
    exact left

/-- What holds at the start and is kept by happenings of a kind holds after every run of them. -/
theorem throughout_induction {kind : Service → Happening → Prop}
    {P : List Happening → List Event → Service → Prop}
    (step : ∀ {run events middle happening next more}, P run events middle →
      kind middle happening → middle.happen? happening = some (next, more) →
      P (run ++ [happening]) (events ++ more) next)
    {service final : Service} {run : List Happening} {events : List Event} (start : P [] [] service)
    (every : service.Throughout kind run) (reached : service.run? run = some (final, events)) :
    P run events final := by
  suffices go : ∀ later earlier past middle more, P earlier past middle →
      middle.Throughout kind later → middle.run? later = some (final, more) →
      P (earlier ++ later) (past ++ more) final from
    go run [] [] service events start every reached
  intro later
  induction later with
  | nil =>
    intro earlier past middle more holds _ stays
    cases stays
    rw [List.append_nil, List.append_nil]
    exact holds
  | cons happening later ih =>
    intro earlier past middle more holds every went
    obtain ⟨next, first, rest, happened, onward, rfl⟩ := run?_cons_eq_some.mp went
    obtain ⟨here, others⟩ := every
    rw [happened] at others
    have onwards := ih _ _ next rest (step holds here happened) others onward
    rw [List.append_assoc, List.append_assoc] at onwards
    exact onwards

/-- What is of a kind in every service is so in a run. -/
theorem throughout_of_forall {kind : Service → Happening → Prop} {run : List Happening}
    (always : ∀ happening ∈ run, ∀ service, kind service happening) (service : Service) :
    service.Throughout kind run := by
  induction run generalizing service with
  | nil => exact trivial
  | cons happening run ih =>
    obtain ⟨here, later⟩ := List.forall_mem_cons.mp always
    refine ⟨here service, ?_⟩
    split
    · exact ih later _
    · exact trivial

/-- What holds at the start and is kept by whatever happens holds after every run. -/
theorem run_induction {P : List Happening → List Event → Service → Prop}
    (step : ∀ {run events middle happening next more}, P run events middle →
      middle.happen? happening = some (next, more) →
      P (run ++ [happening]) (events ++ more) next)
    {service final : Service} {run : List Happening} {events : List Event} (start : P [] [] service)
    (reached : service.run? run = some (final, events)) : P run events final :=
  have every : service.Throughout (fun _ _ => True) run :=
    throughout_of_forall (fun _ _ _ => trivial) service
  throughout_induction (fun holds _ happened => step holds happened) start every reached

/-! ## What the service does by itself -/

theorem letWorker?_eq {service : Service} {worker : RefreshWorker}
    (only : service.workers = [worker])
    (step : RefreshWorker → Option (RefreshWorker × Cache × List Event)) :
    service.letWorker? step =
      (step worker).map fun (worker, cache, events) =>
        ({ service with cache, workers := [worker] }, events) := by
  unfold letWorker?
  rw [only]

theorem letWorker?_eq_some {service next : Service} {worker : RefreshWorker} {events : List Event}
    (only : service.workers = [worker])
    {step : RefreshWorker → Option (RefreshWorker × Cache × List Event)} :
    service.letWorker? step = some (next, events) ↔
      ∃ after cache, step worker = some (after, cache, events) ∧
        next = { service with cache, workers := [after] } := by
  rw [letWorker?_eq only, Option.map_eq_some_iff]
  constructor
  · rintro ⟨⟨after, cache, these⟩, made, same⟩
    cases same
    exact ⟨after, cache, made, rfl⟩
  · rintro ⟨after, cache, made, rfl⟩
    exact ⟨(after, cache, events), made, rfl⟩

end Service

/-- The call that is changed first has a place, and all others stay as they are. -/
theorem changeFirst?_eq_some {change : CallProgress → Option CallProgress}
    {calls nexts : List CallProgress} (changed : changeFirst? change calls = some nexts) :
    ∃ (place : Nat) (call after : CallProgress), calls[place]? = some call ∧
      change call = some after ∧ nexts = calls.set place after := by
  induction calls generalizing nexts with
  | nil => cases changed
  | cons call calls ih =>
    unfold changeFirst? at changed
    split at changed
    · rename_i after here
      cases changed
      exact ⟨0, call, after, rfl, here, rfl⟩
    · obtain ⟨others, found, rfl⟩ := Option.map_eq_some_iff.mp changed
      obtain ⟨place, other, after, among, altered, rfl⟩ := ih found
      exact ⟨place + 1, other, after, among, altered, rfl⟩

/-- Among fetches with different numbers the first that is due is told by its number. -/
theorem takeDue?_eq_some {now : Nat} {fetches others : List RunningFetch} {due : RunningFetch}
    (numbered : (fetches.map RunningFetch.number).Nodup)
    (taken : takeDue? now fetches = some (due, others)) :
    (fetches.find? fun fetch => fetch.number = due.number && fetch.isDue now) = some due ∧
      others = fetches.filter fun other => other.number ≠ due.number := by
  induction fetches generalizing due others with
  | nil => cases taken
  | cons fetch fetches ih =>
    obtain ⟨fresh, distinct⟩ := List.nodup_cons.mp numbered
    unfold takeDue? at taken
    split at taken
    · rename_i isDue
      cases taken
      refine ⟨List.find?_cons_of_pos (by simp [isDue]), ?_⟩
      rw [List.filter_cons_of_neg (by simp)]
      refine (List.filter_eq_self.mpr fun other among => ?_).symm
      simp only [ne_eq, decide_not, Bool.not_eq_eq_eq_not, Bool.not_true, decide_eq_false_iff_not]
      intro same
      exact fresh (same ▸ List.mem_map_of_mem among)
    · rename_i notDue
      obtain ⟨⟨first, rest⟩, found, same⟩ := Option.map_eq_some_iff.mp taken
      cases same
      obtain ⟨isFirst, left⟩ := ih distinct found
      have among : due ∈ fetches := List.mem_of_find?_eq_some isFirst
      have different : fetch.number ≠ due.number := fun same =>
        fresh (same ▸ List.mem_map_of_mem among)
      refine ⟨(List.find?_cons_of_neg (by simp [different])).trans isFirst, ?_⟩
      rw [List.filter_cons_of_pos (by simpa using different), ← left]

namespace Service

variable {service next : Service} {worker : RefreshWorker} {events : List Event}

/-- An answered call can be answered by itself. -/
theorem happen?_answer {place : Nat} {call after : CallProgress}
    (among : service.calls[place]? = some call)
    (polled : call.poll? service.cache service.now = some after) :
    service.happen? (.answer place) =
      some ({ service with calls := service.calls.set place after }, []) := by
  rw [happen?, among, Option.bind_some, polled, Option.map_some]

/-- **Every step of the service is one of the happenings.** -/
theorem exists_happening (only : service.workers = [worker])
    (numbered : (worker.running.map RunningFetch.number).Nodup)
    (stepped : service.step? = some (next, events)) :
    ∃ happening : Happening, happening.isOwn = true ∧
      service.happen? happening = some (next, events) := by
  obtain ⟨kind, member, made⟩ := List.exists_of_findSome?_eq_some stepped
  simp only [stepKinds, List.mem_cons, List.not_mem_nil, or_false] at member
  rcases member with rfl | rfl | rfl | rfl
  · obtain ⟨calls, changed, same⟩ := Option.map_eq_some_iff.mp made
    cases same
    obtain ⟨place, call, after, among, expired, rfl⟩ := changeFirst?_eq_some changed
    unfold CallProgress.expire? at expired
    split at expired
    · exact ⟨.answer place, rfl, happen?_answer among expired⟩
    · cases expired
  · obtain ⟨⟨workers, cache, these⟩, found, same⟩ := Option.map_eq_some_iff.mp made
    cases same
    rw [only, stepFirst?] at found
    cases stepOfWorker : worker.step? service.now service.cache with
    | none =>
      rw [stepOfWorker] at found
      cases found
    | some result =>
      obtain ⟨after, cacheAfter, reported⟩ := result
      rw [stepOfWorker] at found
      cases found
      unfold RefreshWorker.step? at stepOfWorker
      split at stepOfWorker
      · rename_i due others taken
        cases stepOfWorker
        obtain ⟨isFirst, rfl⟩ := takeDue?_eq_some numbered taken
        refine ⟨.complete due.number, rfl, (letWorker?_eq_some only).mpr ⟨_, _, ?_, rfl⟩⟩
        rw [RefreshWorker.complete?, isFirst]
        rfl
      · exact ⟨.begin, rfl, (letWorker?_eq_some only).mpr ⟨after, cache, stepOfWorker, rfl⟩⟩
  · obtain ⟨calls, changed, same⟩ := Option.map_eq_some_iff.mp made
    cases same
    obtain ⟨place, call, after, among, polled, rfl⟩ := changeFirst?_eq_some changed
    exact ⟨.answer place, rfl, happen?_answer among polled⟩
  · obtain ⟨⟨workers, cache, these⟩, found, same⟩ := Option.map_eq_some_iff.mp made
    cases same
    rw [only, stepFirst?] at found
    refine ⟨.arrive, rfl, (letWorker?_eq_some only).mpr ?_⟩
    cases received : worker.receive? with
    | none =>
      rw [received] at found
      cases found
    | some after =>
      rw [received] at found
      cases found
      exact ⟨after, service.cache, rfl, rfl⟩

/-! ## Coming to rest and letting time pass -/

section Own

variable {P : Service → Prop}

/-- At rest nothing can happen without time passing. -/
theorem step?_settle (service : Service) : service.settle.1.step? = none := by
  induction h : service.load using Nat.strongRecOn generalizing service with
  | _ n ih =>
    subst h
    unfold settle
    split
    · assumption
    · rename_i next events stepped
      exact ih next.load (load_step? stepped) next rfl

/-- **Coming to rest is a run**, as long as there is one worker whose fetches can be told apart. -/
theorem exists_run_settle
    (staffed : ∀ {service}, P service → ∃ worker, service.workers = [worker] ∧
      (worker.running.map RunningFetch.number).Nodup)
    (kept : ∀ {service happening next events}, P service →
      service.happen? happening = some (next, events) → P next)
    (service : Service) (holds : P service) :
    ∃ run : List Happening, (∀ happening ∈ run, happening.isOwn = true) ∧
      service.run? run = some service.settle := by
  induction h : service.load using Nat.strongRecOn generalizing service with
  | _ n ih =>
    subst h
    unfold settle
    split
    · exact ⟨[], List.forall_mem_nil _, rfl⟩
    · rename_i next events stepped
      obtain ⟨worker, only, numbered⟩ := staffed holds
      obtain ⟨happening, own, happened⟩ := exists_happening only numbered stepped
      obtain ⟨run, allOwn, went⟩ := ih next.load (load_step? stepped) next (kept holds happened) rfl
      exact ⟨happening :: run, List.forall_mem_cons.mpr ⟨own, allOwn⟩,
        run?_cons_eq_some.mpr ⟨next, events, next.settle.2, happened, went, rfl⟩⟩

/-- At rest every deadline is still to come. -/
theorem lt_deadline_of_rest (rest : service.step? = none) {deadline : Nat}
    (member : deadline ∈ service.deadlines) : service.now < deadline := by
  rw [← Nat.not_le]
  intro reached
  have possible := step?_isSome_of_deadline member
  rw [jump, Nat.max_eq_left reached, rest] at possible
  cases possible

/-- Jumping to the next deadline lets time pass. -/
theorem happen?_pass_jump (rest : service.step? = none) {deadline : Nat}
    (first : service.nextDeadline? = some deadline) :
    service.happen? (.pass (deadline - service.now)) = some (service.jump deadline, []) := by
  have ahead : service.now < deadline := lt_deadline_of_rest rest (List.min?_mem first)
  have reach : service.now + (deadline - service.now) = deadline := by omega
  have least : ∀ other ∈ service.deadlines, deadline ≤ other :=
    (List.min?_eq_some_iff.mp first).2
  rw [happen?, if_pos ⟨by rw [rest]; rfl, by rw [reach]; exact least⟩, reach]

/-- **Letting time pass from deadline to deadline is a run.** -/
theorem exists_run_runWhile
    (staffed : ∀ {service}, P service → ∃ worker, service.workers = [worker] ∧
      (worker.running.map RunningFetch.number).Nodup)
    (kept : ∀ {service happening next events}, P service →
      service.happen? happening = some (next, events) → P next)
    (goOn : Service → Nat → Bool) (service : Service) (holds : P service)
    (rest : service.step? = none) :
    ∃ run : List Happening, (∀ happening ∈ run, happening.isOwn = true) ∧
      service.run? run = some (service.runWhile goOn) ∧
      (service.runWhile goOn).1.step? = none := by
  induction h : service.load using Nat.strongRecOn generalizing service with
  | _ n ih =>
    subst h
    unfold runWhile
    split
    · exact ⟨[], List.forall_mem_nil _, rfl, rest⟩
    · rename_i deadline first
      split
      · have passed := happen?_pass_jump rest first
        obtain ⟨here, own, settled⟩ := exists_run_settle staffed kept _ (kept holds passed)
        have holdsThere := run_induction (P := fun _ _ service => P service)
          (fun holds happened => kept holds happened) (kept holds passed) settled
        obtain ⟨onward, ownToo, went, atRest⟩ := ih _ (load_settle_jump first) _ holdsThere
          (step?_settle _) rfl
        refine ⟨.pass (deadline - service.now) :: (here ++ onward), ?_, ?_, atRest⟩
        · exact List.forall_mem_cons.mpr ⟨rfl, List.forall_mem_append.mpr ⟨own, ownToo⟩⟩
        · exact run?_cons_eq_some.mpr ⟨_, [], _, passed,
            run?_append_eq_some.mpr ⟨_, _, _, settled, went, rfl⟩, rfl⟩
      · exact ⟨[], List.forall_mem_nil _, rfl, rest⟩

/-- If time goes on as long as there are deadlines, there are none in the end. -/
theorem deadlines_runWhile (service : Service) :
    (service.runWhile fun _ _ => true).1.deadlines = [] := by
  induction h : service.load using Nat.strongRecOn generalizing service with
  | _ n ih =>
    subst h
    unfold runWhile
    split
    · rename_i none
      exact List.min?_eq_none_iff.mp none
    · rename_i deadline first
      exact ih _ (load_settle_jump first) _ rfl

end Own

end Service

/-! ## What happens to the cache -/

/-- The question that a call asks the cache. -/
def Service.query? (service : Service) : Call → Option Request
  | .lookup ns name grace => some ⟨ns, name, grace ≠ 0⟩
  | .http method target =>
    match Http.isMethod method, Http.targetPath? target with
    | true, some path =>
      match Http.route method path with
      | .lookup ns name => some ⟨ns, name, service.pageGrace ≠ 0⟩
      | .ready | .cache | .methodNotAllowed | .notFound => none
    | _, _ => none

/-- The operation on the cache that a happening comes to, but for taking requests from the queue
and putting them in. -/
def Service.deed? (service : Service) : Happening → Option Operation
  | .operation operation => some operation
  | .call call => (service.query? call).map .get
  | .complete number =>
    ((service.workers.flatMap RefreshWorker.running).find? fun fetch =>
      fetch.number = number && fetch.isDue service.now).map fun fetch =>
        .completeFetch fetch.outcome
  | .offer _ | .disconnect | .answer _ | .begin | .arrive | .pass _ => none

namespace Cache

theorem beginLookup_effect (cache : Cache) (now : Nat) (ns name : String) (grace : Nat) :
    (cache.beginLookup now ns name grace).1 = (cache.get ⟨ns, name, grace ≠ 0⟩).1 ∧
      (cache.beginLookup now ns name grace).2.2 = (cache.get ⟨ns, name, grace ≠ 0⟩).2.2 := by
  unfold beginLookup
  dsimp only
  split
  · split <;> exact ⟨rfl, rfl⟩
  · exact ⟨rfl, rfl⟩

theorem beginPresented_effect (cache : Cache) (now : Nat) (presentation : Presentation)
    (ns name : String) (grace : Nat) :
    (cache.beginPresented now presentation ns name grace).1 =
        (cache.get ⟨ns, name, grace ≠ 0⟩).1 ∧
      (cache.beginPresented now presentation ns name grace).2.2 =
        (cache.get ⟨ns, name, grace ≠ 0⟩).2.2 := by
  rw [← (cache.beginLookup_effect now ns name grace).1,
    ← (cache.beginLookup_effect now ns name grace).2]
  unfold beginPresented
  split
  · rename_i begun
    rw [begun]
    exact ⟨rfl, rfl⟩
  · rename_i begun
    rw [begun]
    exact ⟨rfl, rfl⟩

/-- The cache after an operation, if there is one. -/
def performed (cache : Cache) : Option Operation → Cache × List Event
  | some operation => cache.perform operation
  | none => (cache, [])

end Cache

namespace Service

variable {service next : Service} {worker : RefreshWorker} {events : List Event}

/-- A call does to the cache what its question does. -/
theorem beginCall_effect (service : Service) (call : Call) :
    ((service.beginCall call).1, (service.beginCall call).2.2) =
      service.cache.performed ((service.query? call).map .get) := by
  have looks (presentation : Presentation) (ns name : String) (grace : Nat) :
      ((service.cache.beginPresented service.now presentation ns name grace).1,
        (service.cache.beginPresented service.now presentation ns name grace).2.2) =
        service.cache.perform (.get ⟨ns, name, grace ≠ 0⟩) :=
    Prod.ext (service.cache.beginPresented_effect service.now presentation ns name grace).1
      (service.cache.beginPresented_effect service.now presentation ns name grace).2
  cases call with
  | lookup ns name grace => exact looks .plain ns name grace
  | http method target =>
    rw [beginCall, query?]
    cases Http.isMethod method with
    | false => rfl
    | true =>
      cases Http.targetPath? target with
      | none => rfl
      | some path =>
        dsimp only
        rw [Cache.beginHttp]
        cases Http.route method path with
        | lookup ns name => exact looks .page ns name service.pageGrace
        | ready | cache | methodNotAllowed | notFound => rfl

/-- A call is added to the others and asks its question. -/
theorem happen?_call (service : Service) (call : Call) :
    service.happen? (.call call) =
      some ({ service with
        cache := (service.cache.performed ((service.query? call).map .get)).1
        calls := service.calls ++ [(service.beginCall call).2.1] },
        (service.cache.performed ((service.query? call).map .get)).2) := by
  rw [← beginCall_effect]
  rfl

/-- **What happens to the cache is the operation that a happening comes to**, but for the queue. -/
theorem cache_happen (only : service.workers = [worker]) {happening : Happening}
    (happened : service.happen? happening = some (next, events)) :
    next.cache =
      { (service.cache.performed (service.deed? happening)).1 with queue := next.cache.queue } := by
  cases happening with
  | operation operation =>
    rw [happen?] at happened
    split at happened
    · cases happened
    · cases happened
      rfl
  | offer request =>
    obtain ⟨queue, -, same⟩ := Option.map_eq_some_iff.mp happened
    cases same
    rfl
  | disconnect =>
    rw [happen?] at happened
    split at happened
    · obtain ⟨after, cache, made, rfl⟩ := (letWorker?_eq_some only).mp happened
      cases made
      rfl
    · cases happened
  | call call =>
    rw [happen?_call] at happened
    cases happened
    rfl
  | answer place =>
    obtain ⟨call, -, same⟩ := Option.map_eq_some_iff.mp happened
    cases same
    rfl
  | begin =>
    obtain ⟨after, cache, begun, rfl⟩ := (letWorker?_eq_some only).mp happened
    obtain ⟨request, taking, -, took, -, -⟩ := RefreshWorker.beginNext?_eq_some begun
    exact (RefreshWorker.takeRequest?_eq_some took).2.2.1
  | complete number =>
    obtain ⟨after, cache, completed, rfl⟩ := (letWorker?_eq_some only).mp happened
    obtain ⟨fetch, found, same⟩ := Option.map_eq_some_iff.mp completed
    cases same
    rw [deed?, only, List.flatMap_singleton, found]
    rfl
  | arrive =>
    obtain ⟨after, cache, received, rfl⟩ := (letWorker?_eq_some only).mp happened
    obtain ⟨next, -, same⟩ := Option.map_eq_some_iff.mp received
    cases same
    rfl
  | pass duration =>
    rw [happen?] at happened
    split at happened
    · cases happened
      rfl
    · cases happened

end Service

end IdentityCache
