import IdentityCache.Proofs.Run

/-!
# Requests that are put in the queue

Only the receiver takes requests out of the queue.  Every other operation leaves what waits
there and adds to it the requests that its events report as queued (`queueGrows_perform`).  A
cache without a queue reports no request as queued, so the requests put in a queue can be read
off the events of a run.
-/

namespace IdentityCache

set_option autoImplicit false

/-- The request that an event reports as put in the queue. -/
def Event.queued? : Event → Option Request
  | .refreshRequested request .queued => some request
  | _ => none

/-- Whether an operation is one that only the receiver of requests makes. -/
def Operation.isReceivers : Operation → Bool
  | .takeRequest | .closeQueue => true
  | _ => false

/-- An offer adds the request to what waits if it is reported as queued, and else changes
nothing. -/
theorem RefreshQueue.offer_fst (queue : RefreshQueue) (request : Request) :
    (queue.offer request).1 =
      { queue with
        waiting := queue.waiting ++
          ([Event.refreshRequested request (queue.offer request).2].filterMap Event.queued?) } := by
  unfold offer
  split
  · rw [List.filterMap_cons_none rfl, List.filterMap_nil, List.append_nil]
  · split
    · rw [List.filterMap_cons_none rfl, List.filterMap_nil, List.append_nil]
    · rfl

namespace Cache

/-- A cache but for its queue. -/
def withoutQueue (cache : Cache) : Cache := { cache with queue := none }

theorem complete_fst (cache : Cache) (outcome : FetchOutcome) :
    (outcome.complete cache).1 =
      match outcome with
      | .account found =>
        match found.key? with
        | some key => cache.writeAccount key (.ofAnnotations cache.settings found.annotations)
        | none => cache
      | .missing | .failed => cache := by
  cases outcome with
  | account found => exact (cache.complete_account_fst found).trans (cache.applyAccount_fst found)
  | missing | failed => rfl

theorem withoutQueue_complete (cache : Cache) (outcome : FetchOutcome) :
    (outcome.complete cache).1.withoutQueue = (outcome.complete cache.withoutQueue).1 := by
  rw [complete_fst, complete_fst]
  cases outcome with
  | account found =>
    dsimp only
    cases found.key? with
    | none => rfl
    | some key =>
      dsimp only
      rw [writeAccount_eq, writeAccount_eq]
      rfl
  | missing | failed => rfl

/-- From one cache to the next the queue has grown by the requests that the events report as
queued. -/
structure QueueGrows (cache next : Cache) (events : List Event) : Prop where
  queue : next.queue = cache.queue.map fun queue =>
    { queue with waiting := queue.waiting ++ events.filterMap Event.queued? }
  /-- Without a queue no request is queued. -/
  absent : cache.queue = none → events.filterMap Event.queued? = []

namespace QueueGrows

variable {cache next : Cache} {events : List Event}

theorem of_queue_eq (same : next.queue = cache.queue)
    (silent : ∀ event ∈ events, event.queued? = none) : cache.QueueGrows next events := by
  have nothing : events.filterMap Event.queued? = [] := List.filterMap_eq_nil_iff.mpr silent
  refine ⟨?_, fun _ => nothing⟩
  simp only [same, nothing, List.append_nil]
  exact Option.map_id'.symm

theorem refl (cache : Cache) : cache.QueueGrows cache [] := of_queue_eq rfl nofun

theorem trans {final : Cache} {later : List Event} (first : cache.QueueGrows next events)
    (second : next.QueueGrows final later) : cache.QueueGrows final (events ++ later) := by
  constructor
  · rw [second.queue, first.queue, Option.map_map, List.filterMap_append]
    simp only [Function.comp_def, List.append_assoc]
  · intro absent
    have still : next.queue = none := by rw [first.queue, absent, Option.map_none]
    rw [List.filterMap_append, first.absent absent, second.absent still, List.append_nil]

theorem of_offer {queue : RefreshQueue} (present : cache.queue = some queue) (request : Request)
    (offered : next.queue = some (queue.offer request).1) :
    cache.QueueGrows next [.refreshRequested request (queue.offer request).2] := by
  constructor
  · rw [offered, present, Option.map_some, ← RefreshQueue.offer_fst]
  · rw [present]
    exact nofun

end QueueGrows

/-- A query puts at most its own request in the queue. -/
theorem queueGrows_get (cache : Cache) (request : Request) :
    cache.QueueGrows (cache.get request).1 (cache.get request).2.2 := by
  unfold get
  dsimp only
  split
  · unfold subscribe
    cases cache.pending.get? request.key with
    | some signal => exact .refl cache
    | none =>
      dsimp only
      unfold requestRefresh
      dsimp only
      split
      · exact .of_queue_eq rfl nofun
      · rename_i queue present
        exact .of_offer present _ rfl
  · exact .refl cache

theorem queueGrows_applyAccount (cache : Cache) (account : ServiceAccount) :
    cache.QueueGrows (cache.applyAccount account).1 (cache.applyAccount account).2 := by
  refine .of_queue_eq ?_ fun event reported => ?_
  · rw [applyAccount_fst]
    cases account.key? with
    | none => rfl
    | some key => exact cache.queue_writeAccount key _
  · rcases cache.applyAccount_events account reported with ⟨arn, rfl⟩ | rfl <;> rfl

theorem queueGrows_deleteAccount (cache : Cache) (deletion : Deletion) :
    cache.QueueGrows (cache.deleteAccount deletion).1 (cache.deleteAccount deletion).2 := by
  refine .of_queue_eq ?_ fun event reported => ?_
  · rw [deleteAccount_fst]
    cases deletion.key? <;> rfl
  · rw [cache.deleteAccount_events deletion reported]
    rfl

theorem queueGrows_complete (cache : Cache) (outcome : FetchOutcome) :
    cache.QueueGrows (outcome.complete cache).1 (outcome.complete cache).2 := by
  refine .of_queue_eq (outcome.queue_complete cache) fun event reported => ?_
  rcases cache.complete_events outcome reported with ⟨arn, rfl⟩ | rfl | rfl | rfl <;> rfl

/-- A ConfigMap is remarked on only for what it holds, or for what the one before it held. -/
theorem applyMap_reports (cache : Cache) (map : ConfigMap) {event : Event}
    (reported : event ∈ (cache.applyMap map).2) :
    ∃ cause, event = .mapRejected cause ∨ event = .staleEntriesKept cause := by
  unfold applyMap at reported
  split at reported
  · split at reported
    · cases reported
    · exact ⟨_, .inr (List.mem_singleton.mp reported)⟩
    · exact ⟨_, .inl (List.mem_singleton.mp reported)⟩
  · cases reported

theorem queueGrows_applyMap (cache : Cache) (map : ConfigMap) :
    cache.QueueGrows (cache.applyMap map).1 (cache.applyMap map).2 := by
  refine .of_queue_eq ?_ fun event reported => ?_
  · obtain ⟨mapped, lastMap, changed⟩ := cache.applyMap_frame map
    rw [changed]
  · obtain ⟨cause, rfl | rfl⟩ := cache.applyMap_reports map reported <;> rfl

theorem queueGrows_forEach {α : Type} {operation : Cache → α → Cache × List Event}
    (each : ∀ (cache : Cache) item,
      cache.QueueGrows (operation cache item).1 (operation cache item).2)
    (cache : Cache) (items : List α) :
    cache.QueueGrows (forEach operation cache items).1 (forEach operation cache items).2 := by
  induction items generalizing cache with
  | nil => exact .refl cache
  | cons item items ih => exact (each cache item).trans (ih _)

/-- **An operation adds to the queue what it reports as queued**, unless the receiver makes it. -/
theorem queueGrows_perform (cache : Cache) {operation : Operation}
    (other : operation.isReceivers = false) :
    cache.QueueGrows (cache.perform operation).1 (cache.perform operation).2 := by
  cases operation with
  | get request => exact cache.queueGrows_get request
  | applyAccount account => exact cache.queueGrows_applyAccount account
  | deleteAccount deletion => exact cache.queueGrows_deleteAccount deletion
  | resetAccounts accounts removed =>
    have applied := queueGrows_forEach queueGrows_applyAccount cache accounts
    have deleted := queueGrows_forEach
      (fun cache names => cache.queueGrows_deleteAccount (.tombstone (some names.1) names.2))
      (forEach applyAccount cache accounts).1 removed.eraseDups
    exact ⟨(applied.trans deleted).queue, (applied.trans deleted).absent⟩
  | completeFetch outcome => exact cache.queueGrows_complete outcome
  | applyMap map => exact cache.queueGrows_applyMap map
  | deleteMap ns name =>
    refine .of_queue_eq rfl fun event reported => ?_
    rw [perform, deleteMap] at reported
    split at reported
    · rw [List.mem_singleton.mp reported]
      rfl
    · cases reported
  | resetMaps maps =>
    have applied := queueGrows_forEach queueGrows_applyMap cache maps
    exact ⟨applied.queue, applied.absent⟩
  | clear => exact .of_queue_eq rfl nofun
  | takeRequest | closeQueue => cases other

end Cache

end IdentityCache
