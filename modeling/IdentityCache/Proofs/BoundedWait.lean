import IdentityCache.BoundedLookup
import IdentityCache.Proofs.Wakeup

/-!
# Waiting for an account takes no longer than the grace period

While a lookup waits, other tasks go on using the cache and time passes.  What happens is a list
of moments: in each, either a task makes one operation on the cache or a millisecond passes.

The signal of a waiting lookup is fired by the first write of the account and by nothing else.
So whenever the lookup is resumed it answers a second look if the account has been written, and
otherwise its first answer once the grace period is over (`poll_after`).  If it is resumed as
soon as it can be, time passes only while it has nothing to answer (`WaitsThrough`), and then it
is resumed within the grace period.  The main statement is `lookup_answers_within_grace`.
-/

namespace IdentityCache

set_option autoImplicit false

/-! ## The first look -/

namespace Cache

/-- Without a grace period a lookup is a query that changes nothing. -/
theorem beginLookup_zero (cache : Cache) (now : Nat) (ns name : String) :
    cache.beginLookup now ns name 0 =
      (cache, .answered (cache.get ⟨ns, name, false⟩).2.1, []) := rfl

/-- The snapshot answers for an account that has not been observed. -/
theorem answer_of_unobserved {cache : Cache} {key : CacheKey}
    (unobserved : cache.accounts.get? key = none) : cache.answer key = cache.mappedAnswer key := by
  unfold answer observed?
  rw [unobserved]
  rfl

theorem found_mappedAnswer (cache : Cache) (key : CacheKey) :
    (cache.mappedAnswer key).found = (cache.mapped.get? key).isSome := by
  unfold mappedAnswer
  cases cache.mapped.get? key <;> rfl

/-- With a grace period a lookup waits exactly if neither source knows the account. -/
theorem beginLookup_of_pos (cache : Cache) (now : Nat) (ns name : String) {grace : Nat}
    (positive : 0 < grace) {request : Request} (asked : request = ⟨ns, name, true⟩) :
    cache.beginLookup now ns name grace =
      ((cache.get request).1,
        if cache.accounts.get? request.key = none ∧ cache.mapped.get? request.key = none then
          .waiting
            { key := request.key
              first := (cache.get request).2.1
              signal := (cache.pending.get? request.key).getD cache.signals.create.2
              deadline := now + grace }
        else .answered (cache.get request).2.1,
        (cache.get request).2.2) := by
  have asks : decide (grace ≠ 0) = true := decide_eq_true (Nat.ne_of_gt positive)
  have notifier := cache.get_notifier request
  have answer := cache.get_answer request
  unfold beginLookup
  rw [asks, ← asked]
  dsimp only
  generalize cache.get request = looked at notifier answer ⊢
  obtain ⟨opened, response, events⟩ := looked
  dsimp only at notifier answer ⊢
  by_cases unobserved : cache.accounts.get? request.key = none
  · have subscribes : cache.subscribes request := ⟨by rw [asked], unobserved⟩
    rw [if_pos subscribes] at notifier
    have found := cache.found_mappedAnswer request.key
    rw [← answer_of_unobserved unobserved, ← answer] at found
    cases mapped : cache.mapped.get? request.key with
    | none =>
      rw [mapped] at found
      simp [notifier, found, unobserved]
    | some entry =>
      rw [mapped] at found
      simp [notifier, found]
  · have content : ¬ cache.subscribes request := fun subscribes => unobserved subscribes.2
    rw [if_neg content] at notifier
    simp [notifier, unobserved]

/-- A lookup that waits has seen that neither source knows the account, and has been handed a
notifier. -/
theorem of_beginLookup_eq_waiting {cache : Cache} {now : Nat} {ns name : String} {grace : Nat}
    (positive : 0 < grace) {lookup : WaitingLookup}
    (begun : (cache.beginLookup now ns name grace).2.1 = .waiting lookup) :
    (cache.accounts.get? (.ofNames ns name) = none ∧
        cache.mapped.get? (.ofNames ns name) = none) ∧
      lookup.key = .ofNames ns name ∧ lookup.first = (cache.get ⟨ns, name, true⟩).2.1 ∧
      lookup.deadline = now + grace ∧ cache.HandsOut ⟨ns, name, true⟩ lookup.signal := by
  rw [cache.beginLookup_of_pos now ns name positive rfl] at begun
  dsimp only at begun
  split at begun
  · rename_i unknown
    cases begun
    refine ⟨unknown, rfl, rfl, rfl, ?_⟩
    rw [HandsOut, get_notifier, if_pos ⟨rfl, unknown.1⟩]
  · cases begun

end Cache

/-! ## Waiting -/

/-- What may happen while a lookup waits: another task makes an operation on the cache, or a
millisecond passes. -/
inductive Moment
  | step (operation : Operation)
  | tick

/-- The operation that is made in a moment. -/
def Moment.operation? : Moment → Option Operation
  | .step operation => some operation
  | .tick => none

/-- The number of milliseconds that pass. -/
def elapsed : List Moment → Nat
  | [] => 0
  | .step _ :: moments => elapsed moments
  | .tick :: moments => elapsed moments + 1

namespace WaitingLookup

/-- Whether a lookup is resumed promptly: time passes only while it has nothing to answer yet. -/
def WaitsThrough (lookup : WaitingLookup) (cache : Cache) (now : Nat) : List Moment → Prop
  | [] => True
  | .step operation :: moments => lookup.WaitsThrough (cache.perform operation).1 now moments
  | .tick :: moments =>
    lookup.poll cache now = none ∧ lookup.WaitsThrough cache (now + 1) moments

variable {lookup : WaitingLookup}

/-- A lookup that has nothing to answer has not reached its deadline. -/
theorem lt_deadline_of_poll_eq_none {cache : Cache} {now : Nat}
    (unanswered : lookup.poll cache now = none) : now < lookup.deadline := by
  rw [← Nat.not_le]
  intro expired
  have answered := lookup.poll_isSome_of_deadline_le cache expired
  rw [unanswered] at answered
  cases answered

/-- A lookup that is resumed promptly does not outlast its deadline. -/
theorem WaitsThrough.elapsed_le {moments : List Moment} {cache : Cache} {now : Nat}
    (waits : lookup.WaitsThrough cache now moments) (early : now ≤ lookup.deadline) :
    now + elapsed moments ≤ lookup.deadline := by
  induction moments generalizing cache now with
  | nil => exact early
  | cons moment moments ih =>
    cases moment with
    | step operation => exact ih waits early
    | tick =>
      obtain ⟨unanswered, later⟩ := waits
      have rest := ih later (lt_deadline_of_poll_eq_none unanswered)
      rw [elapsed]
      omega

/-- **What a lookup has come to while it waits**: the answer of a second look if the account has
been written, and else its first answer once the deadline is reached. -/
theorem poll_after {cache : Cache} {request : Request} (order : cache.WindowsInOrder)
    (handed : cache.HandsOut request lookup.signal) (own : lookup.key = request.key)
    (operations : List Operation) (time : Nat) :
    let final := (cache.get request).1.after operations
    final.signals.wakeup lookup.signal ≠ .dropped ∧
      lookup.poll final time =
        if ∃ operation ∈ operations, operation.Writes request.key then
          some { answer := final.answer request.key }
        else if lookup.deadline ≤ time then some lookup.first
        else none := by
  intro final
  obtain ⟨fired, kept⟩ := handed.fate order operations
  by_cases written : ∃ operation ∈ operations, operation.Writes request.key
  · have woken : final.signals.wakeup lookup.signal = .fired := fired.mpr written
    refine ⟨fun dropped => ?_, ?_⟩
    · rw [woken] at dropped
      cases dropped
    · rw [if_pos written, poll, woken, own]
  · have waits : final.signals.wakeup lookup.signal = .pending := (kept (mt fired.mp written)).2
    refine ⟨fun dropped => ?_, ?_⟩
    · rw [waits] at dropped
      cases dropped
    · rw [if_neg written, poll, waits]

/-- If nobody writes the account, a lookup waits as long as its grace period lasts and no longer. -/
theorem waitsThrough_iff {cache : Cache} {key : CacheKey} {moments : List Moment} {now : Nat}
    (order : cache.WindowsInOrder) (inWindow : cache.pending.get? key = some lookup.signal)
    (unwritten : ∀ operation ∈ moments.filterMap Moment.operation?, ¬ operation.Writes key)
    (early : now ≤ lookup.deadline) :
    lookup.WaitsThrough cache now moments ↔ now + elapsed moments ≤ lookup.deadline := by
  refine ⟨fun waits => waits.elapsed_le early, fun punctual => ?_⟩
  induction moments generalizing cache now with
  | nil => exact trivial
  | cons moment moments ih =>
    cases moment with
    | step operation =>
      obtain ⟨here, later⟩ := List.forall_mem_cons.mp unwritten
      have stillOpen : (cache.after [operation]).pending.get? key = some lookup.signal :=
        Cache.pending_after inWindow (List.forall_mem_singleton.mpr here)
      exact ih (order.after [operation]) stillOpen later early punctual
    | tick =>
      rw [elapsed] at punctual
      have waits := order.waiting key lookup.signal inWindow
      have unexpired : ¬ lookup.deadline ≤ now := by omega
      have unanswered : lookup.poll cache now = none := by rw [poll, waits, if_neg unexpired]
      exact ⟨unanswered, ih order inWindow unwritten (by omega) (by omega)⟩

end WaitingLookup

/-! ## The main statement -/

/-- **A lookup answers within its grace period, and at once when the account is written.**  Let a
lookup begin in a cache that a run of a new one leads to.  Without a grace period it answers what
a query answers and changes nothing.  With one it waits exactly if neither the accounts nor the
snapshot know the account, and else answers its first look.

Whatever the other tasks do while it waits, it answers a second look in the cache as it is when
the lookup is resumed if the account has been written, and else its first look once the grace
period is over; before that it has no answer, and it is never told that it waits in vain.  Resumed
promptly it answers within the grace period, and at the end of it if nobody writes the account.
A write in the same millisecond as the end counts if it comes before the lookup is resumed. -/
theorem lookup_answers_within_grace (settings : Settings) (source : Option WatchedMap)
    (queue : Option RefreshQueue) :
    let start := Cache.new settings source queue
    ∀ run now ns name,
      let cache := start.after run
      let key := CacheKey.ofNames ns name
      cache.beginLookup now ns name 0 =
        (cache, .answered (cache.get ⟨ns, name, false⟩).2.1, []) ∧
      ∀ grace, 0 < grace →
        let opened := (cache.beginLookup now ns name grace).1
        let begun := (cache.beginLookup now ns name grace).2.1
        let first := (cache.get ⟨ns, name, true⟩).2.1
        ((∃ lookup, begun = .waiting lookup) ↔
          cache.accounts.get? key = none ∧ cache.mapped.get? key = none) ∧
        (∀ response, begun = .answered response → response = first) ∧
        ∀ lookup, begun = .waiting lookup →
          first.answer = .notFound cache.settings.defaultExpiration ∧
          ∀ moments,
            let operations := moments.filterMap Moment.operation?
            let final := opened.after operations
            final.signals.wakeup lookup.signal ≠ .dropped ∧
            ((∃ operation ∈ operations, operation.Writes key) →
              lookup.poll final (now + elapsed moments) =
                some (final.get ⟨ns, name, false⟩).2.1) ∧
            ((∀ operation ∈ operations, ¬ operation.Writes key) →
              lookup.poll final (now + elapsed moments) =
                (if grace ≤ elapsed moments then some first else none) ∧
              (lookup.WaitsThrough opened now moments ↔ elapsed moments ≤ grace)) ∧
            (lookup.WaitsThrough opened now moments → elapsed moments ≤ grace) := by
  intro start run now ns name cache key
  have order : cache.WindowsInOrder :=
    (Cache.windowsInOrder_new settings source queue).after run
  refine ⟨cache.beginLookup_zero now ns name, fun grace positive => ?_⟩
  intro opened begun first
  have look := cache.beginLookup_of_pos now ns name positive rfl
  have sameCache : opened = (cache.get ⟨ns, name, true⟩).1 := congrArg Prod.fst look
  have sameStart : begun = _ := congrArg (fun result => result.2.1) look
  refine ⟨⟨?_, fun unknown => ?_⟩, fun response answered => ?_, fun lookup waiting => ?_⟩
  · rintro ⟨lookup, waiting⟩
    exact (Cache.of_beginLookup_eq_waiting positive waiting).1
  · exact ⟨_, sameStart.trans (if_pos unknown)⟩
  · rw [sameStart] at answered
    dsimp only at answered
    split at answered
    · cases answered
    · cases answered
      rfl
  · obtain ⟨unknown, own, same, deadline, handed⟩ :=
      Cache.of_beginLookup_eq_waiting positive waiting
    have early : now ≤ lookup.deadline := deadline ▸ Nat.le_add_right now grace
    refine ⟨?_, fun moments => ?_⟩
    · rw [Cache.get_answer, Request.key, Cache.answer_of_unobserved unknown.1, Cache.mappedAnswer,
        unknown.2]
    intro operations final
    obtain ⟨kept, response⟩ :=
      WaitingLookup.poll_after order handed own operations (now + elapsed moments)
    rw [← sameCache] at kept response
    simp only [deadline, same, Nat.add_le_add_iff_left] at response
    refine ⟨kept, fun written => response.trans (if_pos written), fun unwritten => ⟨?_, ?_⟩,
      fun waits => ?_⟩
    · refine response.trans (if_neg ?_)
      rintro ⟨operation, member, writes⟩
      exact unwritten operation member writes
    · rw [sameCache, WaitingLookup.waitsThrough_iff (order.query _) handed.pending unwritten early,
        deadline, Nat.add_le_add_iff_left]
    · have punctual := waits.elapsed_le early
      omega

/-- A lookup that joins an open window is answered by a relist one millisecond later. -/
theorem waiting_lookup_answered_by_relist :
    let cache := (Cache.new {} none none).after [.get ⟨"ns", "sa", true⟩]
    let lookup : WaitingLookup :=
      { key := ⟨"ns/sa"⟩
        first := { answer := .notFound .oneDay, notifier := some ⟨0⟩ }
        signal := ⟨0⟩
        deadline := 12 }
    let relist : Operation :=
      .resetAccounts [{ ns := some "ns", name := some "sa" }, { ns := some "ns" }] [("ns", "other")]
    let final := cache.after [.clear, relist]
    (cache.beginLookup 10 "ns" "sa" 2).2.1 = .waiting lookup ∧
      lookup.poll final 11 = some (final.get ⟨"ns", "sa", false⟩).2.1 := by
  intro cache lookup relist final
  have waiting : (cache.beginLookup 10 "ns" "sa" 2).2.1 = .waiting lookup := by decide
  have written :
      ∃ operation ∈ [Operation.clear, relist], operation.Writes (.ofNames "ns" "sa") := by
    decide
  have response :=
    (((lookup_answers_within_grace {} none none [.get ⟨"ns", "sa", true⟩] 10 "ns" "sa").2 2
      (by decide)).2.2 lookup waiting).2 [.step .clear, .tick, .step relist]
  exact ⟨waiting, response.2.1 written⟩

end IdentityCache
