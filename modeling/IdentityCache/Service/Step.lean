import IdentityCache.Cache.SnapshotEvents
import IdentityCache.Call
import IdentityCache.RefreshWorker

/-!
# The running service and its steps

The service is the cache together with what goes on around it: calls that wait for an
account, workers that fetch accounts, and the clock.  The clock stands still while
there is anything to do and then jumps to the next deadline.

A step is the smallest thing that can happen without time passing.  In one instant
the calls whose grace period ends there are answered first, so a grace period that
ends as a fetch completes has ended first.  Then the workers go as far as they can;
then the calls that they have woken are answered; and when nothing else is left to
do, the answers of the API server arrive.

`Service.load` bounds the steps that are left, and every step lowers it
(`Service.load_step?`).
-/

namespace IdentityCache

set_option autoImplicit false

/-- The cache, its callers, its workers and the clock. -/
structure Service where
  /-- The time in milliseconds. -/
  now : Nat := 0
  cache : Cache
  /-- The grace period of lookups through the debug endpoint. -/
  pageGrace : Nat := 0
  /-- The gate that the debug endpoint watches, once the cache it belongs to was replaced. -/
  formerGate : Option Gate := none
  /-- The calls in order of beginning. -/
  calls : List CallProgress := []
  workers : List RefreshWorker := []

/-! ## Changing one call or one worker -/

/-- Changes the first call that can be changed in the given way. -/
def changeFirst? (change : CallProgress → Option CallProgress) :
    List CallProgress → Option (List CallProgress)
  | [] => none
  | call :: calls =>
    match change call with
    | some changed => some (changed :: calls)
    | none => (changeFirst? change calls).map (call :: ·)

/-- Lets the first worker that can go on in the given way go on. -/
def stepFirst? (step : RefreshWorker → Option (RefreshWorker × Cache × List Event)) :
    List RefreshWorker → Option (List RefreshWorker × Cache × List Event)
  | [] => none
  | worker :: workers =>
    match step worker with
    | some (worker, cache, events) => some (worker :: workers, cache, events)
    | none =>
      (stepFirst? step workers).map fun (workers, cache, events) =>
        (worker :: workers, cache, events)

/-- The loads of several workers together. -/
def totalLoad : List RefreshWorker → Nat
  | [] => 0
  | worker :: workers => worker.load + totalLoad workers

/-- If some call can be changed, a call is changed. -/
theorem changeFirst?_isSome {calls : List CallProgress} {call : CallProgress}
    {change : CallProgress → Option CallProgress} (member : call ∈ calls)
    (ready : (change call).isSome) : (changeFirst? change calls).isSome := by
  induction calls with
  | nil => simp at member
  | cons head calls ih =>
    unfold changeFirst?
    split
    · rfl
    · rename_i notReady
      rcases List.mem_cons.mp member with here | later
      · rw [← here] at notReady
        simp [notReady] at ready
      · simpa using ih later

/-- If some worker can go on, a worker goes on. -/
theorem stepFirst?_isSome {workers : List RefreshWorker} {worker : RefreshWorker}
    {step : RefreshWorker → Option (RefreshWorker × Cache × List Event)}
    (member : worker ∈ workers) (ready : (step worker).isSome) :
    (stepFirst? step workers).isSome := by
  induction workers with
  | nil => simp at member
  | cons head workers ih =>
    unfold stepFirst?
    split
    · rfl
    · rename_i notReady
      rcases List.mem_cons.mp member with here | later
      · rw [← here] at notReady
        simp [notReady] at ready
      · simpa using ih later

/-- Answering a call leaves one waiting call less. -/
theorem countP_changeFirst? {calls nexts : List CallProgress}
    {change : CallProgress → Option CallProgress}
    (answers : ∀ call after, change call = some after →
      call.isWaiting = true ∧ after.isWaiting = false)
    (changed : changeFirst? change calls = some nexts) :
    nexts.countP CallProgress.isWaiting + 1 = calls.countP CallProgress.isWaiting := by
  induction calls generalizing nexts with
  | nil => simp [changeFirst?] at changed
  | cons call calls ih =>
    unfold changeFirst? at changed
    split at changed
    · rename_i after found
      simp only [Option.some.injEq] at changed
      subst changed
      obtain ⟨before, answered⟩ := answers call after found
      simp [before, answered]
    · obtain ⟨others, found, rfl⟩ := Option.map_eq_some_iff.mp changed
      have lowered := ih found
      simp only [List.countP_cons]
      omega

/-- If going on lowers the load of any worker and its queue, it lowers the load of all workers
and the queue. -/
theorem load_stepFirst? {workers nexts : List RefreshWorker} (cache : Cache) {after : Cache}
    {events : List Event}
    {step : RefreshWorker → Option (RefreshWorker × Cache × List Event)}
    (lowers : ∀ worker next cacheAfter these, step worker = some (next, cacheAfter, these) →
      next.load + 3 * cacheAfter.waitingRequests < worker.load + 3 * cache.waitingRequests)
    (stepped : stepFirst? step workers = some (nexts, after, events)) :
    totalLoad nexts + 3 * after.waitingRequests <
      totalLoad workers + 3 * cache.waitingRequests := by
  induction workers generalizing nexts events with
  | nil => simp [stepFirst?] at stepped
  | cons worker workers ih =>
    unfold stepFirst? at stepped
    split at stepped
    · rename_i next cacheAfter these found
      simp only [Option.some.injEq, Prod.mk.injEq] at stepped
      obtain ⟨rfl, rfl, -⟩ := stepped
      have lowered := lowers worker next _ these found
      simp only [totalLoad]
      omega
    · obtain ⟨⟨others, cacheAfter, these⟩, found, same⟩ := Option.map_eq_some_iff.mp stepped
      simp only [Prod.mk.injEq] at same
      obtain ⟨rfl, rfl, -⟩ := same
      have lowered := ih found
      simp only [totalLoad]
      omega

namespace Service

/-! ## Steps -/

/-- Answers a call whose grace period is over. -/
def expireCall? (service : Service) : Option (Service × List Event) :=
  (changeFirst? (·.expire? service.cache service.now) service.calls).map fun calls =>
    ({ service with calls }, [])

/-- Lets a worker make a step of its own. -/
def stepWorker? (service : Service) : Option (Service × List Event) :=
  (stepFirst? (·.step? service.now service.cache) service.workers).map
    fun (workers, cache, events) => ({ service with workers, cache }, events)

/-- Answers a call that was woken. -/
def answerCall? (service : Service) : Option (Service × List Event) :=
  (changeFirst? (·.poll? service.cache service.now) service.calls).map fun calls =>
    ({ service with calls }, [])

/-- Lets the answers of the API server arrive at a worker. -/
def receiveAnswers? (service : Service) : Option (Service × List Event) :=
  (stepFirst? (fun worker => worker.receive?.map fun next => (next, service.cache, []))
    service.workers).map fun (workers, cache, events) => ({ service with workers, cache }, events)

/-- The kinds of steps, the most urgent first. -/
def stepKinds : List (Service → Option (Service × List Event)) :=
  [expireCall?, stepWorker?, answerCall?, receiveAnswers?]

/-- Something that can happen without time passing. -/
def step? (service : Service) : Option (Service × List Event) :=
  stepKinds.findSome? fun kind => kind service

/-- A bound on the steps that are left: one for each waiting call, two for each running fetch
whose answer is awaited and one for any other, and three for each request that waits to be
fetched. -/
def load (service : Service) : Nat :=
  service.calls.countP CallProgress.isWaiting + totalLoad service.workers +
    3 * service.cache.waitingRequests

/-- If a step of some kind is possible, a step is made. -/
theorem step?_isSome {service : Service} (kind : Service → Option (Service × List Event))
    (member : kind ∈ stepKinds) (possible : (kind service).isSome) : service.step?.isSome :=
  List.findSome?_isSome_iff.mpr ⟨kind, member, possible⟩

/-! ## Every step lowers the load -/

/-- Answering a call whose grace period is over lowers the load. -/
theorem load_expireCall? {service next : Service} {events : List Event}
    (stepped : service.expireCall? = some (next, events)) : next.load < service.load := by
  obtain ⟨calls, changed, same⟩ := Option.map_eq_some_iff.mp stepped
  simp only [Prod.mk.injEq] at same
  obtain ⟨rfl, -⟩ := same
  have lowered := countP_changeFirst? (fun call after found => by
    unfold CallProgress.expire? at found
    split at found
    · exact CallProgress.isWaiting_of_poll? found
    · simp at found) changed
  simp only [load]
  omega

/-- A step of a worker lowers the load. -/
theorem load_stepWorker? {service next : Service} {events : List Event}
    (stepped : service.stepWorker? = some (next, events)) : next.load < service.load := by
  obtain ⟨⟨workers, cache, these⟩, found, same⟩ := Option.map_eq_some_iff.mp stepped
  simp only [Prod.mk.injEq] at same
  obtain ⟨rfl, -⟩ := same
  have lowered := load_stepFirst? service.cache
    (fun _ _ _ _ madeStep => RefreshWorker.load_step? madeStep) found
  simp only [load]
  omega

/-- Answering a call that was woken lowers the load. -/
theorem load_answerCall? {service next : Service} {events : List Event}
    (stepped : service.answerCall? = some (next, events)) : next.load < service.load := by
  obtain ⟨calls, changed, same⟩ := Option.map_eq_some_iff.mp stepped
  simp only [Prod.mk.injEq] at same
  obtain ⟨rfl, -⟩ := same
  have lowered := countP_changeFirst?
    (fun _ _ found => CallProgress.isWaiting_of_poll? found) changed
  simp only [load]
  omega

/-- Answers of the API server that arrive lower the load. -/
theorem load_receiveAnswers? {service next : Service} {events : List Event}
    (stepped : service.receiveAnswers? = some (next, events)) : next.load < service.load := by
  obtain ⟨⟨workers, cache, these⟩, found, same⟩ := Option.map_eq_some_iff.mp stepped
  simp only [Prod.mk.injEq] at same
  obtain ⟨rfl, -⟩ := same
  have lowered := load_stepFirst? service.cache (fun _ _ _ _ arrived => by
    obtain ⟨received, possible, equal⟩ := Option.map_eq_some_iff.mp arrived
    simp only [Prod.mk.injEq] at equal
    obtain ⟨rfl, rfl, -⟩ := equal
    have less := RefreshWorker.load_receive? possible
    omega) found
  simp only [load]
  omega

/-- **Every step lowers the load.** -/
theorem load_step? {service next : Service} {events : List Event}
    (stepped : service.step? = some (next, events)) : next.load < service.load := by
  obtain ⟨kind, member, made⟩ := List.exists_of_findSome?_eq_some stepped
  simp only [stepKinds, List.mem_cons, List.not_mem_nil, or_false] at member
  rcases member with rfl | rfl | rfl | rfl
  · exact load_expireCall? made
  · exact load_stepWorker? made
  · exact load_answerCall? made
  · exact load_receiveAnswers? made

end Service

end IdentityCache
