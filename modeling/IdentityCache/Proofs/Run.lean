import IdentityCache.Cache.Query
import IdentityCache.Cache.SnapshotEvents
import IdentityCache.RefreshWorker
import IdentityCache.Proofs.Table

/-!
# Runs of the cache

The users of a cache share it by making one operation at a time on it: queries, the events
of the two watches, fetches of the refresh worker that come to an end, and what the
receiver does with the queue of requests.  `Cache.after` is the cache after a run, that is
after any list of such operations.

The operations that are made of several parts are given in one equation each, which says
what becomes of every field of the cache: `writeAccount_eq` for recording an entry and
`get_fst` for a query.  What a query answers does not depend on whether the caller wants to
be notified (`get_answer`), and `get_notifier` says which signal a notifier belongs to.
-/

namespace IdentityCache

set_option autoImplicit false

/-! ## The latest step that decides -/

section Latest

variable {α β σ : Type}

/-- What the latest of the items that decide sets, or else what was there before them. -/
def latestOr (decides : α → Bool) (value : α → β) (before : β) (items : List α) : β :=
  ((items.reverse.find? decides).map value).getD before

variable {decides : α → Bool} {value : α → β}

@[simp] theorem latestOr_nil (before : β) : latestOr decides value before [] = before := rfl

theorem latestOr_cons (before : β) (item : α) (items : List α) :
    latestOr decides value before (item :: items) =
      latestOr decides value (if decides item then value item else before) items := by
  unfold latestOr
  rw [List.reverse_cons, List.find?_append]
  cases items.reverse.find? decides with
  | some later => rfl
  | none => cases decided : decides item <;> simp [decided]

theorem latestOr_append (before : β) (earlier later : List α) :
    latestOr decides value before (earlier ++ later) =
      latestOr decides value (latestOr decides value before earlier) later := by
  induction earlier generalizing before with
  | nil => rfl
  | cons item earlier ih => rw [List.cons_append, latestOr_cons, latestOr_cons, ih]

theorem latestOr_map {γ : Type} (change : γ → α) (before : β) (items : List γ) :
    latestOr decides value before (items.map change) =
      latestOr (fun item => decides (change item)) (fun item => value (change item)) before
        items := by
  induction items generalizing before with
  | nil => rfl
  | cons item items ih => rw [List.map_cons, latestOr_cons, latestOr_cons, ih]

/-- A reading that the deciding steps set and the other steps keep is what the latest of the
deciding steps set, as long as an invariant holds that the steps rely on. -/
theorem foldl_eq_latestOr (read : σ → β) {step : σ → α → σ} {P : σ → Prop}
    (follows : ∀ state item, P state → P (step state item) ∧
      read (step state item) = if decides item then value item else read state)
    (items : List α) {state : σ} (start : P state) :
    P (items.foldl step state) ∧
      read (items.foldl step state) = latestOr decides value (read state) items := by
  induction items generalizing state with
  | nil => exact ⟨start, rfl⟩
  | cons item items ih =>
    obtain ⟨next, here⟩ := follows state item start
    obtain ⟨final, kept⟩ := ih next
    refine ⟨final, ?_⟩
    rw [List.foldl_cons, kept, here, latestOr_cons]

end Latest

/-! ## Operations and runs -/

/-- What is done to a cache as one indivisible step: a query, an event of one of the two watches,
a fetch of the refresh worker that comes to its end, emptying both tables, or what the receiver
of requests does with the queue. -/
inductive Operation
  | get (request : Request)
  | applyAccount (account : ServiceAccount)
  | deleteAccount (deletion : Deletion)
  | resetAccounts (accounts : List ServiceAccount) (removed : List (String × String))
  | completeFetch (outcome : FetchOutcome)
  | applyMap (map : ConfigMap)
  | deleteMap (ns name : String)
  | resetMaps (maps : List ConfigMap)
  | clear
  | takeRequest
  | closeQueue

namespace Cache

/-- The cache after an operation, and the events that the operation reports. -/
def perform (cache : Cache) : Operation → Cache × List Event
  | .get request => ((cache.get request).1, (cache.get request).2.2)
  | .applyAccount account => cache.applyAccount account
  | .deleteAccount deletion => cache.deleteAccount deletion
  | .resetAccounts accounts removed => cache.resetAccounts accounts removed
  | .completeFetch outcome => outcome.complete cache
  | .applyMap map => cache.applyMap map
  | .deleteMap ns name => cache.deleteMap ns name
  | .resetMaps maps => cache.resetMaps maps
  | .clear => (cache.clear, [])
  | .takeRequest =>
    ({ cache with
        queue := cache.queue.map fun queue => ((queue.take?).map Prod.snd).getD queue }, [])
  | .closeQueue => ({ cache with queue := cache.queue.map RefreshQueue.close }, [])

/-- The cache after a run. -/
def after (cache : Cache) (run : List Operation) : Cache :=
  run.foldl (fun cache operation => (cache.perform operation).1) cache

@[simp] theorem after_nil (cache : Cache) : cache.after [] = cache := rfl

@[simp] theorem after_cons (cache : Cache) (operation : Operation) (run : List Operation) :
    cache.after (operation :: run) = (cache.perform operation).1.after run := rfl

theorem after_append (cache : Cache) (earlier later : List Operation) :
    cache.after (earlier ++ later) = (cache.after earlier).after later :=
  List.foldl_append

/-- Operations that can be replaced one by one, or left out, can be so throughout a run. -/
theorem after_filterMap {P : Cache → Prop} {replace : Operation → Option Operation}
    (replaces : ∀ cache operation, P cache →
      P (cache.perform operation).1 ∧
        cache.after (replace operation).toList = (cache.perform operation).1)
    (run : List Operation) {cache : Cache} (start : P cache) :
    cache.after (run.filterMap replace) = cache.after run := by
  induction run generalizing cache with
  | nil => rfl
  | cons operation run ih =>
    obtain ⟨next, here⟩ := replaces cache operation start
    rw [after_cons, ← ih next, ← here]
    cases replaced : replace operation with
    | none =>
      rw [List.filterMap_cons_none replaced]
      rfl
    | some other =>
      rw [List.filterMap_cons_some replaced]
      rfl

/-! ## Operations on many objects -/

theorem forEach_fst {α : Type} (operation : Cache → α → Cache × List Event) (cache : Cache)
    (items : List α) :
    (forEach operation cache items).1 =
      items.foldl (fun cache item => (operation cache item).1) cache := by
  induction items generalizing cache with
  | nil => rfl
  | cons item items ih => exact ih _

/-- What holds after each of many operations holds after them all, and whatever each of them
reports has been reported by them all. -/
theorem forEach_induction {α : Type} {operation : Cache → α → Cache × List Event}
    {P : Cache → Prop} {Q : Event → Prop} {cache : Cache} (items : List α)
    (keeps : ∀ cache item, P cache →
      P (operation cache item).1 ∧ ∀ event ∈ (operation cache item).2, Q event)
    (start : P cache) :
    P (forEach operation cache items).1 ∧ ∀ event ∈ (forEach operation cache items).2, Q event := by
  induction items generalizing cache with
  | nil => exact ⟨start, fun event member => by cases member⟩
  | cons item items ih =>
    obtain ⟨next, reported⟩ := keeps cache item start
    obtain ⟨final, later⟩ := ih next
    refine ⟨final, fun event member => ?_⟩
    rcases List.mem_append.mp member with here | there
    · exact reported event here
    · exact later event there

/-- What each of many operations reports in any cache is all that they report together. -/
theorem forEach_events {α : Type} {operation : Cache → α → Cache × List Event}
    {Q : Event → Prop} (cache : Cache) (items : List α)
    (each : ∀ cache item, ∀ event ∈ (operation cache item).2, Q event) :
    ∀ event ∈ (forEach operation cache items).2, Q event :=
  (forEach_induction (P := fun _ => True) items
    (fun next item _ => ⟨trivial, each next item⟩) trivial).2

end Cache

/-- The signals after those who wait for one of them have been woken. -/
def SignalLedger.release (ledger : SignalLedger) : Option SignalId → SignalLedger
  | some signal => (ledger.fire signal).drop signal
  | none => ledger

namespace Cache

/-! ## Recording and removing entries -/

/-- Recording an entry ends the pending window of the account and touches no other field. -/
theorem writeAccount_eq (cache : Cache) (key : CacheKey) (entry : Entry) :
    cache.writeAccount key entry =
      { cache with
        accounts := cache.accounts.insert key entry
        pending := cache.pending.erase key
        signals := cache.signals.release (cache.pending.get? key) } := by
  unfold writeAccount release
  cases waiting : cache.pending.get? key with
  | some signal => rfl
  | none =>
    rw [Table.erase_eq_self waiting]
    rfl

theorem applyAccount_fst (cache : Cache) (account : ServiceAccount) :
    (cache.applyAccount account).1 =
      match account.key? with
      | some key => cache.writeAccount key (.ofAnnotations cache.settings account.annotations)
      | none => cache := by
  unfold applyAccount ingestAccount
  cases account.key? <;> rfl

/-- A fetched account is recorded like one that the watch delivers. -/
theorem complete_account_fst (cache : Cache) (account : ServiceAccount) :
    ((FetchOutcome.account account).complete cache).1 = (cache.applyAccount account).1 := by
  rw [applyAccount_fst]
  unfold FetchOutcome.complete ingestAccount
  dsimp only
  cases account.key? <;> rfl

theorem deleteAccount_fst (cache : Cache) (deletion : Deletion) :
    (cache.deleteAccount deletion).1 =
      match deletion.key? with
      | some key => { cache with accounts := cache.accounts.erase key }
      | none => cache := by
  unfold deleteAccount
  cases deletion.key? <;> rfl

/-! ## Snapshots -/

/-- Delivering a ConfigMap touches nothing but the snapshot's table and the map it came from. -/
theorem applyMap_frame (cache : Cache) (map : ConfigMap) :
    ∃ mapped lastMap, (cache.applyMap map).1 = { cache with mapped, lastMap } := by
  unfold applyMap ingestMap
  split
  · cases map.snapshot with
    | error cause => exact ⟨cache.mapped, cache.lastMap, rfl⟩
    | ok snapshot =>
      cases cache.lastMap with
      | none => exact ⟨_, _, rfl⟩
      | some old =>
        dsimp only
        cases old.snapshot with
        | error cause => exact ⟨_, _, rfl⟩
        | ok previous => exact ⟨_, _, rfl⟩
  · exact ⟨cache.mapped, cache.lastMap, rfl⟩

/-! ## Queries -/

/-- Whether a query asks to be notified of an account that has not been observed. -/
def subscribes (cache : Cache) (request : Request) : Prop :=
  request.notify = true ∧ cache.accounts.get? request.key = none

instance (cache : Cache) (request : Request) : Decidable (cache.subscribes request) :=
  inferInstanceAs (Decidable (_ ∧ _))

theorem subscribes_iff (cache : Cache) (request : Request) :
    (request.notify && !cache.accounts.contains request.key) = true ↔ cache.subscribes request := by
  simp [subscribes, Table.contains]

theorem requestRefresh_fst (cache : Cache) (request : Request) :
    (cache.requestRefresh request).1 =
      { cache with
        queue :=
          cache.queue.map fun queue => (queue.offer { request with notify := false }).1 } := by
  obtain ⟨_, _, _, _, _, _, _, _ | queue, _, _, _⟩ := cache
  · rfl
  · rfl

/-- **A query changes the cache only by opening a pending window**, for an account that has
not been observed and that nobody waits for yet. -/
theorem get_fst (cache : Cache) (request : Request) :
    (cache.get request).1 =
      if cache.subscribes request ∧ cache.pending.get? request.key = none then
        { cache with
          pending := cache.pending.insert request.key cache.signals.create.2
          signals := cache.signals.create.1
          queue := cache.queue.map fun queue => (queue.offer { request with notify := false }).1 }
      else cache := by
  unfold get
  by_cases asks : cache.subscribes request
  · simp only [(cache.subscribes_iff request).mpr asks, if_true, asks, true_and]
    unfold subscribe
    cases waiting : cache.pending.get? request.key with
    | some signal => rfl
    | none => simp only [requestRefresh_fst, if_true]
  · simp only [mt (cache.subscribes_iff request).mp asks, if_false, asks, false_and]
    rfl

/-- What a query answers does not depend on whether the caller wants to be notified. -/
theorem get_answer (cache : Cache) (request : Request) :
    (cache.get request).2.1.answer = cache.answer request.key := by
  unfold get
  dsimp only
  split <;> rfl

/-- A notifier belongs to the signal of the pending window, or else to a new one. -/
theorem get_notifier (cache : Cache) (request : Request) :
    (cache.get request).2.1.notifier =
      if cache.subscribes request then
        some ((cache.pending.get? request.key).getD cache.signals.create.2)
      else none := by
  unfold get
  by_cases asks : cache.subscribes request
  · simp only [(cache.subscribes_iff request).mpr asks, if_true, asks]
    unfold subscribe
    cases waiting : cache.pending.get? request.key with
    | some signal => rfl
    | none => rfl
  · simp only [mt (cache.subscribes_iff request).mp asks, if_false, asks]
    rfl

/-! ## What operations on accounts report -/

/-- **A query reports what became of one request to fetch the account** if it opens a pending window
and there is a queue, and otherwise nothing. -/
theorem events_get (cache : Cache) (request : Request) :
    (cache.get request).2.2 =
      if cache.subscribes request ∧ cache.pending.get? request.key = none then
        (cache.queue.map fun queue =>
          Event.refreshRequested { request with notify := false }
            (queue.offer { request with notify := false }).2).toList
      else [] := by
  unfold get
  by_cases asks : cache.subscribes request
  · simp only [(cache.subscribes_iff request).mpr asks, if_true, asks, true_and]
    unfold subscribe
    cases waiting : cache.pending.get? request.key with
    | some signal => rfl
    | none =>
      simp only [if_true]
      unfold requestRefresh
      cases cache.queue <;> rfl
  · simp only [mt (cache.subscribes_iff request).mp asks, if_false, asks, false_and]
    rfl

/-- A query reports nothing but what became of a request to fetch the account. -/
theorem get_events (cache : Cache) (request : Request) {event : Event}
    (reported : event ∈ (cache.get request).2.2) :
    ∃ asked fate, event = .refreshRequested asked fate := by
  rw [events_get] at reported
  split at reported
  · obtain ⟨queue, -, rfl⟩ := Option.map_eq_some_iff.mp (Option.mem_toList.mp reported)
    exact ⟨_, _, rfl⟩
  · cases reported

/-- The annotations of an account are remarked on for their role only. -/
theorem annotationEvents_mem (cache : Cache) (annotations : Labels) {event : Event}
    (reported : event ∈ cache.annotationEvents annotations) :
    ∃ arn, event = .invalidRole arn := by
  unfold annotationEvents at reported
  split at reported
  · split at reported
    · cases reported
    · exact ⟨_, List.mem_singleton.mp reported⟩
  · cases reported

theorem applyAccount_events (cache : Cache) (account : ServiceAccount) {event : Event}
    (reported : event ∈ (cache.applyAccount account).2) :
    (∃ arn, event = .invalidRole arn) ∨ event = .accountIgnored .missingIdentity := by
  unfold applyAccount ingestAccount at reported
  cases identified : account.key? with
  | some key =>
    rw [identified] at reported
    exact .inl (cache.annotationEvents_mem account.annotations reported)
  | none =>
    rw [identified] at reported
    exact .inr (List.mem_singleton.mp reported)

theorem complete_events (cache : Cache) (outcome : FetchOutcome) {event : Event}
    (reported : event ∈ (outcome.complete cache).2) :
    (∃ arn, event = .invalidRole arn) ∨ event = .fetchedAccountIgnored .missingIdentity ∨
      event = .accountNotFound ∨ event = .fetchFailed := by
  unfold FetchOutcome.complete ingestAccount at reported
  cases outcome with
  | account found =>
    dsimp only at reported
    cases identified : found.key? with
    | some key =>
      rw [identified] at reported
      exact .inl (cache.annotationEvents_mem found.annotations reported)
    | none =>
      rw [identified] at reported
      exact .inr (.inl (List.mem_singleton.mp reported))
  | missing => exact .inr (.inr (.inl (List.mem_singleton.mp reported)))
  | failed => exact .inr (.inr (.inr (List.mem_singleton.mp reported)))

theorem deleteAccount_events (cache : Cache) (deletion : Deletion) {event : Event}
    (reported : event ∈ (cache.deleteAccount deletion).2) :
    event = .deletionDropped .missingIdentity := by
  unfold deleteAccount at reported
  split at reported
  · cases reported
  · exact List.mem_singleton.mp reported

end Cache

end IdentityCache
