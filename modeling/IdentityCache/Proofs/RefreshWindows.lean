import IdentityCache.Proofs.RefreshRequests
import IdentityCache.Proofs.Wakeup

/-!
# One request for each pending window

An account that is waited for is asked for once: the query that opens its pending window attempts to
put one request in the queue, and no other operation does.  The attempt is refused if the queue is
full or its receiver is gone.  Refused or not, it leaves everything but the queue as it would be
otherwise; in particular the window is open, so the account is not asked for again before it is
written.

The receiver may take requests, refuse further ones or go away at any time, so the turns of a run
are operations and the receiver's refusal (`Turn`).  What a run shows is collected turn by turn: the
attempts, the turns that opened the window of an account, and the requests that were received.  The
main statement is `one_request_for_each_window`.
-/

namespace IdentityCache

set_option autoImplicit false

/-! ## Turns -/

/-- The receiver refuses further requests and may still take those that wait. -/
def RefreshQueue.shut (queue : RefreshQueue) : RefreshQueue := { queue with isOpen := false }

/-- An operation on a cache, or the receiver's refusal of further requests. -/
inductive Turn
  | perform (operation : Operation)
  | shut

/-- Whether the receiver refuses requests from this turn on. -/
def Turn.ends : Turn → Bool
  | .shut | .perform .closeQueue => true
  | .perform _ => false

/-- An attempt to have an account fetched. -/
structure Attempt where
  request : Request
  fate : RequestFate
  deriving DecidableEq

/-- The request that an attempt puts in the queue. -/
def Attempt.entered? (attempt : Attempt) : Option Request :=
  if attempt.fate = .queued then some attempt.request else none

/-- The attempt that an event reports. -/
def Event.attempt? : Event → Option Attempt
  | .refreshRequested request fate => some ⟨request, fate⟩
  | _ => none

namespace Cache

/-- The cache after a turn, and the events that it reports. -/
def turn (cache : Cache) : Turn → Cache × List Event
  | .perform operation => cache.perform operation
  | .shut => ({ cache with queue := cache.queue.map RefreshQueue.shut }, [])

/-- The cache after several turns. -/
def afterTurns (cache : Cache) (turns : List Turn) : Cache :=
  turns.foldl (fun cache turn => (cache.turn turn).1) cache

/-- What is seen at each turn, all together. -/
def collect {α : Type} (see : Cache → Turn → List α) (cache : Cache) : List Turn → List α
  | [] => []
  | turn :: turns => see cache turn ++ collect see (cache.turn turn).1 turns

/-- The attempts that are made at a turn. -/
def attemptsAt (cache : Cache) (turn : Turn) : List Attempt :=
  (cache.turn turn).2.filterMap Event.attempt?

/-- Whether a turn takes an account from not pending to pending. -/
def Opens (key : CacheKey) (cache : Cache) (turn : Turn) : Prop :=
  cache.pending.get? key = none ∧ (cache.turn turn).1.pending.get? key ≠ none

instance (key : CacheKey) (cache : Cache) (turn : Turn) : Decidable (Opens key cache turn) :=
  inferInstanceAs (Decidable (_ ∧ _))

/-- The request that the receiver takes at a turn. -/
def receivedAt (cache : Cache) : Turn → List Request
  | .perform .takeRequest => ((cache.queue.bind RefreshQueue.take?).map Prod.fst).toList
  | .perform _ | .shut => []

/-- The response that is given at a turn. -/
def responseAt (cache : Cache) : Turn → List Response
  | .perform (.get request) => [(cache.get request).2.1]
  | .perform _ | .shut => []

/-- The events of a turn that do not report attempts. -/
def otherEventsAt (cache : Cache) (turn : Turn) : List Event :=
  (cache.turn turn).2.filter fun event => event.attempt?.isNone

/-- All attempts of a run. -/
def attempts (cache : Cache) (turns : List Turn) : List Attempt := cache.collect attemptsAt turns

/-- The turns of a run at which the window of an account was opened. -/
def openings (key : CacheKey) (cache : Cache) (turns : List Turn) : List Turn :=
  cache.collect (fun cache turn => if Opens key cache turn then [turn] else []) turns

/-! ## Attempts are made by the queries that open a window -/

/-- A query that opens a window attempts to put its request in the queue, if there is one. -/
theorem attempts_get (cache : Cache) (request : Request) :
    (cache.get request).2.2.filterMap Event.attempt? =
      if cache.subscribes request ∧ cache.pending.get? request.key = none then
        (cache.queue.map fun queue =>
          ⟨{ request with notify := false },
            (queue.offer { request with notify := false }).2⟩).toList
      else [] := by
  rw [events_get]
  split
  · cases cache.queue <;> rfl
  · rfl

/-- Operations other than queries make no attempt. -/
theorem attempt?_eq_none_of_not_get (cache : Cache) {operation : Operation}
    (noQuery : ∀ request, operation ≠ .get request) {event : Event}
    (reported : event ∈ (cache.perform operation).2) : event.attempt? = none := by
  cases operation with
  | get request => exact absurd rfl (noQuery request)
  | applyAccount account =>
    rcases cache.applyAccount_events account reported with ⟨arn, rfl⟩ | rfl <;> rfl
  | deleteAccount deletion =>
    rw [cache.deleteAccount_events deletion reported]
    rfl
  | resetAccounts accounts removed =>
    rcases List.mem_append.mp reported with applied | gone
    · rcases forEach_events cache accounts
        (fun next account event => next.applyAccount_events account) _ applied with
        ⟨arn, rfl⟩ | rfl <;> rfl
    · rw [forEach_events _ removed.eraseDups
        (fun next names event => next.deleteAccount_events (.tombstone (some names.1) names.2))
        _ gone]
      rfl
  | completeFetch outcome =>
    rcases cache.complete_events outcome reported with ⟨arn, rfl⟩ | rfl | rfl | rfl <;> rfl
  | applyMap map =>
    obtain ⟨cause, rfl | rfl⟩ := cache.applyMap_reports map reported <;> rfl
  | deleteMap ns name =>
    rw [perform, deleteMap] at reported
    split at reported
    · rw [List.mem_singleton.mp reported]
      rfl
    · cases reported
  | resetMaps maps =>
    obtain ⟨cause, rfl | rfl⟩ := forEach_events cache maps
      (fun next map event => next.applyMap_reports map) _ reported <;> rfl
  | clear | takeRequest | closeQueue => cases reported

/-- **An attempt is made by a query that opens the window of its account**, and it is an offer of
the query's names to the queue. -/
theorem mem_attemptsAt {cache : Cache} {turn : Turn} {attempt : Attempt}
    (made : attempt ∈ cache.attemptsAt turn) :
    ∃ request queue, turn = .perform (.get request) ∧ cache.queue = some queue ∧
      (cache.subscribes request ∧ cache.pending.get? request.key = none) ∧
      attempt = ⟨{ request with notify := false },
        (queue.offer { request with notify := false }).2⟩ := by
  cases turn with
  | shut => cases made
  | perform operation =>
    by_cases isQuery : ∃ request, operation = .get request
    · obtain ⟨request, rfl⟩ := isQuery
      rw [attemptsAt, turn, perform, attempts_get] at made
      split at made
      · rename_i opens
        obtain ⟨queue, present, rfl⟩ := Option.map_eq_some_iff.mp (Option.mem_toList.mp made)
        exact ⟨request, queue, rfl, present, opens, rfl⟩
      · cases made
    · obtain ⟨event, reported, isAttempt⟩ := List.mem_filterMap.mp made
      rw [cache.attempt?_eq_none_of_not_get (fun request same => isQuery ⟨request, same⟩) reported]
        at isAttempt
      cases isAttempt

/-- A window is opened by a query for its account that asks to be notified. -/
theorem opens_iff {key : CacheKey} {cache : Cache} {turn : Turn} :
    Opens key cache turn ↔ ∃ request, turn = .perform (.get request) ∧ request.key = key ∧
      cache.subscribes request ∧ cache.pending.get? request.key = none := by
  constructor
  · rintro ⟨closed, opened⟩
    cases turn with
    | shut => exact absurd closed opened
    | perform operation =>
      obtain ⟨signal, inWindow⟩ := Option.ne_none_iff_exists'.mp opened
      by_cases isQuery : ∃ request, operation = .get request
      · obtain ⟨request, rfl⟩ := isQuery
        rw [turn, perform, get_fst] at inWindow
        split at inWindow
        · rename_i opens
          rw [Table.get?_insert] at inWindow
          split at inWindow
          · rename_i own
            exact ⟨request, rfl, own.symm, opens⟩
          · rw [closed] at inWindow
            cases inWindow
        · rw [closed] at inWindow
          cases inWindow
      · rw [pending_of_perform (fun request same => isQuery ⟨request, same⟩) inWindow] at closed
        cases closed
  · rintro ⟨request, rfl, rfl, opens⟩
    refine ⟨opens.2, ?_⟩
    rw [turn, perform, get_fst, if_pos opens, Table.get?_insert, if_pos rfl]
    exact Option.some_ne_none _

end Cache

/-! ## What enters the queue and what is received -/

theorem RefreshQueue.offer_snd_eq_queued_iff (queue : RefreshQueue) (request : Request) :
    (queue.offer request).2 = .queued ↔
      queue.isOpen = true ∧ queue.waiting.length < queue.capacity := by
  unfold offer
  cases queue.isOpen with
  | false => simp
  | true =>
    by_cases full : queue.capacity ≤ queue.waiting.length
    · simp [full, Nat.not_lt.mpr full]
    · simp [full, Nat.not_le.mp full]

/-- An offer adds to what waits the request that enters, if it does, and nothing else. -/
theorem RefreshQueue.offer_fst_eq_entered (queue : RefreshQueue) (request : Request) :
    (queue.offer request).1 =
      { queue with
        waiting := queue.waiting ++
          (Attempt.entered? ⟨request, (queue.offer request).2⟩).toList } := by
  rw [queue.offer_fst]
  cases (queue.offer request).2 <;> rfl

theorem Event.queued?_eq (event : Event) :
    event.queued? = event.attempt?.bind Attempt.entered? := by
  cases event with
  | refreshRequested request fate => cases fate <;> rfl
  | _ => rfl

theorem filterMap_queued? (events : List Event) :
    events.filterMap Event.queued? =
      (events.filterMap Event.attempt?).filterMap Attempt.entered? := by
  rw [List.filterMap_filterMap]
  exact congrArg (List.filterMap · events) (funext Event.queued?_eq)

namespace Cache

/-- Nothing enters a queue whose receiver refuses it. -/
theorem entered_eq_nil {cache : Cache} {queue : RefreshQueue} (present : cache.queue = some queue)
    (refuses : queue.isOpen = false) (turn : Turn) :
    (cache.attemptsAt turn).filterMap Attempt.entered? = [] := by
  refine List.filterMap_eq_nil_iff.mpr fun attempt made => ?_
  obtain ⟨request, own, -, isQueue, -, rfl⟩ := mem_attemptsAt made
  obtain rfl := Option.some.inj (present.symm.trans isQueue)
  refine if_neg fun queued => ?_
  rw [((queue.offer_snd_eq_queued_iff _).mp queued).1] at refuses
  cases refuses

/-- **At each turn what waited and what enters is received, waits or is lost**, in this order, and
it is lost only if the receiver goes away, after which nothing enters any more. -/
theorem account_turn {cache : Cache} {queue : RefreshQueue} (present : cache.queue = some queue)
    (turn : Turn) :
    ∃ next lost, (cache.turn turn).1.queue = some next ∧ next.capacity = queue.capacity ∧
      next.isOpen = (queue.isOpen && !turn.ends) ∧
      queue.waiting ++ (cache.attemptsAt turn).filterMap Attempt.entered? =
        cache.receivedAt turn ++ (next.waiting ++ lost) ∧
      (lost = [] ∨ turn = .perform .closeQueue ∧ next.isOpen = false) := by
  cases turn with
  | shut =>
    refine ⟨queue.shut, [], by rw [Cache.turn, present]; rfl, rfl, (Bool.and_false _).symm, ?_,
      .inl rfl⟩
    simp [attemptsAt, Cache.turn, receivedAt, RefreshQueue.shut]
  | perform operation =>
    cases receivers : operation.isReceivers with
    | false =>
      have grown := (cache.queueGrows_perform receivers).queue
      rw [present, Option.map_some, filterMap_queued?] at grown
      have silent : (Turn.perform operation).ends = false ∧
          cache.receivedAt (.perform operation) = [] := by
        cases operation with
        | takeRequest | closeQueue => cases receivers
        | _ => exact ⟨rfl, rfl⟩
      refine ⟨_, [], grown, rfl, ?_, ?_, .inl rfl⟩
      · rw [silent.1, Bool.not_false, Bool.and_true]
      · rw [silent.2, List.nil_append, List.append_nil]
        rfl
    | true =>
      cases operation with
      | takeRequest =>
        cases waiting : queue.waiting with
        | nil =>
          refine ⟨queue, [], ?_, rfl, (Bool.and_true _).symm, ?_, .inl rfl⟩
          · simp [Cache.turn, perform, present, RefreshQueue.take?, waiting]
          · simp [attemptsAt, Cache.turn, perform, receivedAt, present, RefreshQueue.take?, waiting]
        | cons oldest others =>
          refine ⟨{ queue with waiting := others }, [], ?_, rfl, (Bool.and_true _).symm, ?_,
            .inl rfl⟩
          · simp [Cache.turn, perform, present, RefreshQueue.take?, waiting]
          · simp [attemptsAt, Cache.turn, perform, receivedAt, present, RefreshQueue.take?, waiting]
      | closeQueue =>
        refine ⟨queue.close, queue.waiting, by rw [Cache.turn, perform, present]; rfl, rfl,
          (Bool.and_false _).symm, ?_, .inr ⟨rfl, rfl⟩⟩
        simp [attemptsAt, Cache.turn, perform, receivedAt, RefreshQueue.close]
      | _ => cases receivers

theorem entered_attempts_eq_nil {cache : Cache} {queue : RefreshQueue}
    (present : cache.queue = some queue) (refuses : queue.isOpen = false) (turns : List Turn) :
    (cache.attempts turns).filterMap Attempt.entered? = [] := by
  induction turns generalizing cache queue with
  | nil => rfl
  | cons turn turns ih =>
    obtain ⟨next, -, isNext, -, refusesStill, -⟩ := account_turn present turn
    rw [refuses, Bool.false_and] at refusesStill
    rw [attempts, collect, List.filterMap_append, entered_eq_nil present refuses]
    exact ih isNext refusesStill

/-- **In a run what waited and what enters is received, waits or is lost**, in this order, and
nothing is lost unless the receiver goes away. -/
theorem account_turns {cache : Cache} {queue : RefreshQueue} (present : cache.queue = some queue)
    (turns : List Turn) :
    ∃ final lost, (cache.afterTurns turns).queue = some final ∧
      final.capacity = queue.capacity ∧
      final.isOpen = (queue.isOpen && turns.all fun turn => !turn.ends) ∧
      queue.waiting ++ (cache.attempts turns).filterMap Attempt.entered? =
        cache.collect receivedAt turns ++ (final.waiting ++ lost) ∧
      (.perform .closeQueue ∉ turns → lost = []) := by
  induction turns generalizing cache queue with
  | nil =>
    refine ⟨queue, [], present, rfl, (Bool.and_true _).symm, ?_, fun _ => rfl⟩
    simp [attempts, collect]
  | cons turn turns ih =>
    obtain ⟨next, lost, isNext, capacity, isOpen, here, gone⟩ := account_turn present turn
    obtain ⟨final, later, isFinal, capacityToo, isOpenToo, rest, goneToo⟩ := ih isNext
    -- What is lost is lost before anything could enter after it.
    have order : lost ++ ((cache.turn turn).1.attempts turns).filterMap Attempt.entered? =
        ((cache.turn turn).1.attempts turns).filterMap Attempt.entered? ++ lost := by
      rcases gone with rfl | ⟨-, refuses⟩
      · simp
      · simp [entered_attempts_eq_nil isNext refuses]
    refine ⟨final, later ++ lost, isFinal, capacityToo.trans capacity, ?_, ?_, fun stays => ?_⟩
    · rw [isOpenToo, isOpen, List.all_cons, Bool.and_assoc]
    · rw [attempts, collect, List.filterMap_append, collect]
      calc queue.waiting ++ ((cache.attemptsAt turn).filterMap Attempt.entered? ++
            ((cache.turn turn).1.attempts turns).filterMap Attempt.entered?)
          = cache.receivedAt turn ++ (next.waiting ++ (lost ++
              ((cache.turn turn).1.attempts turns).filterMap Attempt.entered?)) := by
            rw [← List.append_assoc, here]
            simp only [List.append_assoc]
        _ = cache.receivedAt turn ++ ((next.waiting ++
              ((cache.turn turn).1.attempts turns).filterMap Attempt.entered?) ++ lost) := by
            rw [order, List.append_assoc]
        _ = cache.receivedAt turn ++ (cache.turn turn).1.collect receivedAt turns ++
              (final.waiting ++ (later ++ lost)) := by
            rw [rest]
            simp only [List.append_assoc]
    · rw [List.mem_cons, not_or] at stays
      obtain ⟨other, stays⟩ := stays
      rcases gone with rfl | ⟨isClose, -⟩
      · rw [goneToo stays, List.append_nil]
      · exact absurd isClose.symm other

/-! ## Attempts and windows -/

theorem countP_attemptsAt {key : CacheKey} {cache : Cache} {queue : RefreshQueue}
    (present : cache.queue = some queue) (turn : Turn) :
    (cache.attemptsAt turn).countP (fun attempt => attempt.request.key = key) =
      (if Opens key cache turn then [turn] else []).length := by
  by_cases opens : Opens key cache turn
  · obtain ⟨request, rfl, rfl, asks⟩ := opens_iff.mp opens
    rw [if_pos opens, attemptsAt, Cache.turn, perform, attempts_get, if_pos asks, present]
    simp [Request.key]
  · rw [if_neg opens, List.length_nil, List.countP_eq_zero]
    intro attempt made
    obtain ⟨request, -, rfl, -, asks, rfl⟩ := mem_attemptsAt made
    simp only [decide_eq_true_eq]
    intro own
    exact opens (opens_iff.mpr ⟨request, rfl, own, asks⟩)

/-- **The attempts for an account are as many as the openings of its window.** -/
theorem countP_attempts {key : CacheKey} {cache : Cache} {queue : RefreshQueue}
    (present : cache.queue = some queue) (turns : List Turn) :
    (cache.attempts turns).countP (fun attempt => attempt.request.key = key) =
      (cache.openings key turns).length := by
  induction turns generalizing cache queue with
  | nil => rfl
  | cons turn turns ih =>
    obtain ⟨next, -, isNext, -⟩ := account_turn present turn
    have rest := ih isNext
    rw [attempts, openings, collect, collect, List.countP_append, List.length_append,
      countP_attemptsAt present]
    exact congrArg _ rest

/-- A window stays open throughout turns that do not write its account. -/
theorem pending_afterTurns {cache : Cache} {turns : List Turn} {key : CacheKey}
    {signal : SignalId} (inWindow : cache.pending.get? key = some signal)
    (unwritten : ∀ operation, .perform operation ∈ turns → ¬ operation.Writes key) :
    (cache.afterTurns turns).pending.get? key = some signal := by
  induction turns generalizing cache with
  | nil => exact inWindow
  | cons turn turns ih =>
    refine ih ?_ fun operation member => unwritten operation (List.mem_cons_of_mem _ member)
    cases turn with
    | shut => exact inWindow
    | perform operation =>
      have spared : ∀ only ∈ [operation], ¬ only.Writes key := by
        intro only member
        rw [List.mem_singleton.mp member]
        exact unwritten operation List.mem_cons_self
      exact pending_after inWindow spared

/-! ## Everything but the queue -/

/-- Whether an operation does the same without the queue. -/
def IgnoresQueue (operation : Cache → Cache × List Event) : Prop :=
  ∀ cache, (operation cache).1.withoutQueue = (operation cache.withoutQueue).1 ∧
    (operation cache).2 = (operation cache.withoutQueue).2

theorem ignoresQueue_applyAccount (account : ServiceAccount) :
    IgnoresQueue (·.applyAccount account) := by
  intro cache
  dsimp only
  rw [applyAccount_fst, applyAccount_fst]
  unfold applyAccount ingestAccount
  cases account.key? with
  | none => exact ⟨rfl, rfl⟩
  | some key =>
    refine ⟨?_, rfl⟩
    simp only [writeAccount_eq]
    rfl

theorem ignoresQueue_deleteAccount (deletion : Deletion) :
    IgnoresQueue (·.deleteAccount deletion) := by
  intro cache
  unfold deleteAccount
  cases deletion.key? <;> exact ⟨rfl, rfl⟩

theorem ignoresQueue_complete (outcome : FetchOutcome) : IgnoresQueue outcome.complete := by
  intro cache
  refine ⟨cache.withoutQueue_complete outcome, ?_⟩
  cases outcome with
  | missing | failed => rfl
  | account found =>
    unfold FetchOutcome.complete ingestAccount
    dsimp only
    cases found.key? <;> rfl

theorem ignoresQueue_applyMap (map : ConfigMap) : IgnoresQueue (·.applyMap map) := by
  intro cache
  dsimp only
  have watches : cache.withoutQueue.watchesMap map = cache.watchesMap map := rfl
  have last : cache.withoutQueue.lastMap = cache.lastMap := rfl
  unfold applyMap ingestMap
  rw [watches, last]
  cases cache.watchesMap map with
  | false => exact ⟨rfl, rfl⟩
  | true =>
    cases map.snapshot with
    | error cause => exact ⟨rfl, rfl⟩
    | ok snapshot =>
      cases cache.lastMap with
      | none => exact ⟨rfl, rfl⟩
      | some old =>
        dsimp only
        cases old.snapshot <;> exact ⟨rfl, rfl⟩

theorem ignoresQueue_forEach {α : Type} {operation : Cache → α → Cache × List Event}
    (each : ∀ item, IgnoresQueue (operation · item)) (items : List α) :
    IgnoresQueue (forEach operation · items) := by
  intro cache
  induction items generalizing cache with
  | nil => exact ⟨rfl, rfl⟩
  | cons item items ih =>
    obtain ⟨here, events⟩ := each item cache
    obtain ⟨later, laterEvents⟩ := ih (operation cache item).1
    dsimp only [forEach] at later laterEvents ⊢
    rw [here] at later laterEvents
    exact ⟨later, by rw [events, laterEvents]⟩

/-- A query does the same without the queue, but for the attempt. -/
theorem withoutQueue_get (cache : Cache) (request : Request) :
    (cache.get request).1.withoutQueue = (cache.withoutQueue.get request).1 ∧
      (cache.get request).2.1 = (cache.withoutQueue.get request).2.1 := by
  have asks : cache.withoutQueue.subscribes request ↔ cache.subscribes request := .rfl
  have pending : cache.withoutQueue.pending = cache.pending := rfl
  constructor
  · rw [get_fst, get_fst]
    simp only [asks, pending]
    split <;> rfl
  · have notifier : (cache.get request).2.1.notifier =
        (cache.withoutQueue.get request).2.1.notifier := by
      rw [get_notifier, get_notifier]
      simp only [asks, pending]
      rfl
    have answer : (cache.get request).2.1.answer =
        (cache.withoutQueue.get request).2.1.answer := by
      rw [get_answer, get_answer]
      rfl
    exact (Response.mk.injEq ..).mpr ⟨answer, notifier⟩

/-- Operations other than queries do the same without the queue. -/
theorem ignoresQueue_perform {operation : Operation}
    (noQuery : ∀ request, operation ≠ .get request) : IgnoresQueue (·.perform operation) := by
  cases operation with
  | get request => exact absurd rfl (noQuery request)
  | applyAccount account => exact ignoresQueue_applyAccount account
  | deleteAccount deletion => exact ignoresQueue_deleteAccount deletion
  | completeFetch outcome => exact ignoresQueue_complete outcome
  | applyMap map => exact ignoresQueue_applyMap map
  | deleteMap | clear | takeRequest | closeQueue => exact fun cache => ⟨rfl, rfl⟩
  | resetAccounts accounts removed =>
    intro cache
    obtain ⟨applied, events⟩ := ignoresQueue_forEach ignoresQueue_applyAccount accounts cache
    obtain ⟨deleted, later⟩ := ignoresQueue_forEach
      (fun names => ignoresQueue_deleteAccount (.tombstone (some names.1) names.2))
      removed.eraseDups (forEach applyAccount cache accounts).1
    rw [applied] at deleted later
    exact ⟨congrArg (fun cache : Cache => { cache with accountsListed := true }.publish) deleted,
      by dsimp only [perform, resetAccounts]; rw [events, later]⟩
  | resetMaps maps =>
    intro cache
    obtain ⟨applied, events⟩ := ignoresQueue_forEach ignoresQueue_applyMap maps cache
    exact ⟨congrArg (fun cache : Cache => { cache with mapListed := true }.publish) applied, events⟩

/-- **A turn does the same without the queue, but for the attempts that it makes.** -/
theorem withoutQueue_turn (cache : Cache) (turn : Turn) :
    (cache.turn turn).1.withoutQueue = (cache.withoutQueue.turn turn).1 ∧
      cache.responseAt turn = cache.withoutQueue.responseAt turn ∧
      cache.otherEventsAt turn = cache.withoutQueue.otherEventsAt turn := by
  cases turn with
  | shut => exact ⟨rfl, rfl, rfl⟩
  | perform operation =>
    by_cases isQuery : ∃ request, operation = .get request
    · obtain ⟨request, rfl⟩ := isQuery
      obtain ⟨same, response⟩ := cache.withoutQueue_get request
      have silent (next : Cache) : next.otherEventsAt (.perform (.get request)) = [] := by
        refine List.filter_eq_nil_iff.mpr fun event reported => ?_
        obtain ⟨asked, fate, rfl⟩ := next.get_events request reported
        exact Bool.false_ne_true
      exact ⟨same, congrArg (fun response => [response]) response,
        (silent cache).trans (silent cache.withoutQueue).symm⟩
    · obtain ⟨same, events⟩ :=
        ignoresQueue_perform (fun request asks => isQuery ⟨request, asks⟩) cache
      refine ⟨same, ?_, congrArg (List.filter fun event : Event => event.attempt?.isNone) events⟩
      cases operation with
      | get request => exact absurd ⟨request, rfl⟩ isQuery
      | _ => rfl

/-- Without a queue a turn makes no attempt. -/
theorem attemptsAt_eq_nil {cache : Cache} (absent : cache.queue = none) (turn : Turn) :
    cache.attemptsAt turn = [] := by
  refine List.eq_nil_iff_forall_not_mem.mpr fun attempt made => ?_
  obtain ⟨-, queue, -, present, -, -⟩ := mem_attemptsAt made
  rw [absent] at present
  cases present

/-- **A run does the same without the queue, but for the attempts.** -/
theorem withoutQueue_afterTurns (cache : Cache) (turns : List Turn) :
    (cache.afterTurns turns).withoutQueue = cache.withoutQueue.afterTurns turns ∧
      cache.collect responseAt turns = cache.withoutQueue.collect responseAt turns ∧
      cache.collect otherEventsAt turns = cache.withoutQueue.collect otherEventsAt turns ∧
      cache.withoutQueue.attempts turns = [] := by
  induction turns generalizing cache with
  | nil => exact ⟨rfl, rfl, rfl, rfl⟩
  | cons turn turns ih =>
    obtain ⟨next, response, events⟩ := cache.withoutQueue_turn turn
    obtain ⟨final, responses, laterEvents, attempts⟩ := ih (cache.turn turn).1
    rw [next] at final responses laterEvents attempts
    refine ⟨final, ?_, ?_, ?_⟩
    · rw [collect, collect, response, responses]
    · rw [collect, collect, events, laterEvents]
    · rw [Cache.attempts, collect, attemptsAt_eq_nil rfl]
      exact attempts

end Cache

/-! ## The main statement -/

/-- **One request for each pending window.**  Take any run of a new cache with a queue, during which
the receiver may take requests, refuse further ones or go away at any time.  The attempts to have an
account fetched are as many as the times at which the account went from not pending to pending. Each
is made by the query that opens the window and carries the names that it asks for, without the wish
to be notified; it enters the queue exactly if the receiver takes requests and fewer wait than the
capacity, and otherwise the queue stays as it is.  What enters is received in this order, or still
waits, or was lost when the receiver went away.  What the queue is like, and so the fate of an
attempt, makes no difference to what a query answers or to the rest of the cache.  Between two
attempts for an account it is written.  Without a queue there are no attempts, and all else is the
same. -/
theorem one_request_for_each_window (settings : Settings) (source : Option WatchedMap)
    (capacity : Nat) :
    let start := Cache.new settings source (some { capacity })
    let bare := Cache.new settings source none
    (∀ turns key,
      (start.attempts turns).countP (fun attempt => attempt.request.key = key) =
        (start.openings key turns).length) ∧
    (∀ turns turn attempt,
      let cache := start.afterTurns turns
      let next := (cache.turn turn).1
      attempt ∈ cache.attemptsAt turn →
      ∃ request queue, turn = .perform (.get request) ∧ Cache.Opens request.key cache turn ∧
        attempt.request = { request with notify := false } ∧ cache.queue = some queue ∧
        (attempt.fate = .queued ↔
          queue.isOpen = true ∧ queue.waiting.length < queue.capacity) ∧
        next.queue =
          some { queue with waiting := queue.waiting ++ attempt.entered?.toList }) ∧
    (∀ turns, ∃ queue lost, (start.afterTurns turns).queue = some queue ∧
      queue.capacity = capacity ∧ queue.isOpen = (turns.all fun turn => !turn.ends) ∧
      (start.attempts turns).filterMap Attempt.entered? =
        start.collect Cache.receivedAt turns ++ (queue.waiting ++ lost) ∧
      (.perform .closeQueue ∉ turns → lost = [])) ∧
    (∀ turns request queue,
      let cache := start.afterTurns turns
      let other := { cache with queue }
      (other.get request).2.1 = (cache.get request).2.1 ∧
        (other.get request).1.withoutQueue = (cache.get request).1.withoutQueue) ∧
    (∀ earlier first between second attempt attemptToo,
      attempt ∈ (start.afterTurns earlier).attemptsAt first →
      attemptToo ∈ (start.afterTurns (earlier ++ first :: between)).attemptsAt second →
      attempt.request.key = attemptToo.request.key →
      ∃ operation, .perform operation ∈ between ∧ operation.Writes attempt.request.key) ∧
    (∀ turns, bare.attempts turns = [] ∧
      bare.afterTurns turns = (start.afterTurns turns).withoutQueue ∧
      bare.collect Cache.responseAt turns = start.collect Cache.responseAt turns ∧
      bare.collect Cache.otherEventsAt turns = start.collect Cache.otherEventsAt turns) := by
  intro start bare
  have present : start.queue = some { capacity } := rfl
  refine ⟨fun turns key => Cache.countP_attempts present turns, fun turns turn attempt => ?_,
    fun turns => ?_, fun turns request queue => ?_,
    fun earlier first between second attempt attemptToo made madeToo same => ?_, fun turns => ?_⟩
  · intro cache next made
    obtain ⟨request, queue, rfl, present, asks, rfl⟩ := Cache.mem_attemptsAt made
    refine ⟨request, queue, rfl, Cache.opens_iff.mpr ⟨request, rfl, rfl, asks⟩, rfl, present,
      queue.offer_snd_eq_queued_iff _, ?_⟩
    rw [← queue.offer_fst_eq_entered, show next = _ from cache.get_fst request, if_pos asks]
    dsimp only
    rw [present, Option.map_some]
  · obtain ⟨queue, lost, present, capacityToo, isOpen, order, kept⟩ :=
      Cache.account_turns present turns
    exact ⟨queue, lost, present, capacityToo, isOpen.trans (Bool.true_and _), order, kept⟩
  · intro cache other
    obtain ⟨same, response⟩ := cache.withoutQueue_get request
    obtain ⟨sameToo, responseToo⟩ := other.withoutQueue_get request
    exact ⟨responseToo.trans response.symm, sameToo.trans same.symm⟩
  · obtain ⟨request, queue, rfl, -, asks, rfl⟩ := Cache.mem_attemptsAt made
    obtain ⟨requestToo, queueToo, -, -, ⟨-, closed⟩, rfl⟩ := Cache.mem_attemptsAt madeToo
    change request.key = requestToo.key at same
    obtain ⟨-, opened⟩ := Cache.opens_iff.mpr ⟨request, rfl, rfl, asks⟩
    obtain ⟨signal, inWindow⟩ := Option.ne_none_iff_exists'.mp opened
    by_cases written : ∃ operation, .perform operation ∈ between ∧ operation.Writes request.key
    · exact written
    · have kept := Cache.pending_afterTurns inWindow
        fun operation member writes => written ⟨operation, member, writes⟩
      rw [Cache.afterTurns, List.foldl_append] at closed
      rw [same] at kept
      cases kept.symm.trans closed
  · obtain ⟨final, responses, events, attempts⟩ := start.withoutQueue_afterTurns turns
    exact ⟨attempts, final.symm, responses.symm, events.symm⟩

/-- An account whose request was refused is asked for again only after it was written, and then
enters. -/
theorem requested_again_after_a_write :
    let start := Cache.new {} none (some { capacity := 1 })
    let query (name : String) : Turn := .perform (.get ⟨"ns", name, true⟩)
    let between : List Turn :=
      [query "b", .perform .takeRequest,
        .perform (.applyAccount { ns := some "ns", name := some "b" }),
        .perform (.deleteAccount (.tombstone (some "ns") "b"))]
    let turns := query "a" :: query "b" :: between ++ [query "b", .shut, query "c"]
    start.attempts turns = [⟨⟨"ns", "a", false⟩, .queued⟩, ⟨⟨"ns", "b", false⟩, .full⟩,
        ⟨⟨"ns", "b", false⟩, .queued⟩, ⟨⟨"ns", "c", false⟩, .closed⟩] ∧
      (start.openings (.ofNames "ns" "b") turns).length = 2 ∧
      ∃ operation, .perform operation ∈ between ∧ operation.Writes (.ofNames "ns" "b") := by
  intro start query between turns
  obtain ⟨count, -, -, -, again, -⟩ := one_request_for_each_window {} none 1
  have made : ⟨⟨"ns", "b", false⟩, .full⟩ ∈
      (start.afterTurns [query "a"]).attemptsAt (query "b") := by
    decide
  have madeToo : ⟨⟨"ns", "b", false⟩, .queued⟩ ∈
      (start.afterTurns ([query "a"] ++ query "b" :: between)).attemptsAt (query "b") := by
    decide
  exact ⟨by decide, (count turns (.ofNames "ns" "b")).symm.trans (by decide),
    again [query "a"] (query "b") between (query "b") _ _ made madeToo rfl⟩

end IdentityCache
