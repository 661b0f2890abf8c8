import IdentityCache.Proofs.AccountStep

/-!
# Nobody is woken in vain and nobody is forgotten

An account that is waited for has a pending window: a row of `Cache.pending` that holds
the signal of its arrival.  In every cache that a run reaches the windows are in order
(`WindowsInOrder`): a window is open only for an account that has not been observed, its
signal can still be fired, and no signal belongs to two windows.

From the moment at which a query hands out a notifier, its signal stays in the window of
the account until the account is written, and is fired by that write
(`pending_afterSteps`, `fired_afterSteps`).  An elementary step fires exactly the signal of
the window that it ends (`fired_accountStep_iff`).  The main statement,
`notifiers_fire_exactly_on_writes`, says this of all runs of a new cache.
-/

namespace IdentityCache

set_option autoImplicit false

namespace Cache

/-! ## The invariant -/

/-- The pending windows of a cache are in order. -/
structure WindowsInOrder (cache : Cache) : Prop where
  /-- An account that is waited for has not been observed. -/
  unobserved : ∀ key signal, cache.pending.get? key = some signal →
    cache.accounts.get? key = none
  /-- The signal of a window can still be fired. -/
  waiting : ∀ key signal, cache.pending.get? key = some signal →
    cache.signals.wakeup signal = .pending
  /-- A signal belongs to one window at most. -/
  distinct : ∀ key other signal, cache.pending.get? key = some signal →
    cache.pending.get? other = some signal → key = other

theorem windowsInOrder_new (settings : Settings) (source : Option WatchedMap)
    (queue : Option RefreshQueue) : (new settings source queue).WindowsInOrder where
  unobserved _ _ inWindow := nomatch inWindow
  waiting _ _ inWindow := nomatch inWindow
  distinct _ _ _ inWindow _ := nomatch inWindow

theorem WindowsInOrder.of_agrees {cache other : Cache} (agree : AgreesOnAccounts cache other)
    (order : other.WindowsInOrder) : cache.WindowsInOrder := by
  constructor
  · rw [agree.accounts, agree.pending]
    exact order.unobserved
  · rw [agree.signals, agree.pending]
    exact order.waiting
  · rw [agree.pending]
    exact order.distinct

namespace WindowsInOrder

variable {cache : Cache}

/-- The signal that is created next belongs to no window. -/
theorem next_not_pending (order : cache.WindowsInOrder) (key : CacheKey) :
    cache.pending.get? key ≠ some cache.signals.create.2 := by
  intro inWindow
  have waiting := order.waiting key _ inWindow
  rw [SignalLedger.wakeup_next] at waiting
  cases waiting

/-- What becomes of a signal when the window of an account ends: it is fired if it belongs to
that window. -/
theorem wakeup_release (order : cache.WindowsInOrder) (key : CacheKey) (signal : SignalId) :
    (cache.signals.release (cache.pending.get? key)).wakeup signal =
      if cache.pending.get? key = some signal then .fired
      else cache.signals.wakeup signal := by
  cases inWindow : cache.pending.get? key with
  | none => simp [SignalLedger.release]
  | some own =>
    rw [SignalLedger.release, SignalLedger.wakeup_drop_fire (order.waiting key own inWindow)]
    by_cases same : signal = own
    · simp [same]
    · simp [same, Ne.symm same]

theorem query (order : cache.WindowsInOrder) (request : Request) :
    (cache.get request).1.WindowsInOrder := by
  rw [get_fst]
  split
  · rename_i opens
    obtain ⟨⟨-, unobserved⟩, -⟩ := opens
    constructor
    · intro key signal inWindow
      rw [Table.get?_insert] at inWindow
      split at inWindow
      · rename_i own
        exact own ▸ unobserved
      · exact order.unobserved key signal inWindow
    · intro key signal inWindow
      rw [Table.get?_insert] at inWindow
      rw [SignalLedger.wakeup_create]
      split at inWindow
      · cases inWindow
        exact if_pos rfl
      · split
        · rfl
        · exact order.waiting key signal inWindow
    · intro key other signal inWindow inOther
      rw [Table.get?_insert] at inWindow inOther
      split at inWindow
      · cases inWindow
        split at inOther
        · rename_i own ownToo
          exact own.trans ownToo.symm
        · exact absurd inOther (order.next_not_pending other)
      · split at inOther
        · cases inOther
          exact absurd inWindow (order.next_not_pending key)
        · exact order.distinct key other signal inWindow inOther
  · exact order

theorem write (order : cache.WindowsInOrder) (key : CacheKey) (entry : Entry) :
    (cache.writeAccount key entry).WindowsInOrder := by
  rw [writeAccount_eq]
  -- A window that is left is the window of another account.
  have left : ∀ other signal, (cache.pending.erase key).get? other = some signal →
      other ≠ key ∧ cache.pending.get? other = some signal := by
    intro other signal inWindow
    rw [Table.get?_erase] at inWindow
    split at inWindow
    · cases inWindow
    · rename_i different
      exact ⟨different, inWindow⟩
  constructor
  · intro other signal inWindow
    obtain ⟨different, before⟩ := left other signal inWindow
    rw [Table.get?_insert, if_neg different]
    exact order.unobserved other signal before
  · intro other signal inWindow
    obtain ⟨different, before⟩ := left other signal inWindow
    rw [order.wakeup_release, if_neg]
    · exact order.waiting other signal before
    · intro own
      exact different (order.distinct other key signal before own)
  · intro other third signal inWindow inOther
    exact order.distinct other third signal (left other signal inWindow).2
      (left third signal inOther).2

/-- **Every elementary step keeps the windows in order.** -/
theorem accountStep (order : cache.WindowsInOrder) (step : AccountStep) :
    (cache.accountStep step).WindowsInOrder := by
  cases step with
  | query request => exact order.query request
  | apply account =>
    rw [Cache.accountStep, applyAccount_fst]
    cases account.key? with
    | none => exact order
    | some key => exact order.write key _
  | delete deletion =>
    rw [Cache.accountStep, deleteAccount_fst]
    cases deletion.key? with
    | none => exact order
    | some key =>
      refine ⟨fun other signal inWindow => ?_, order.waiting, order.distinct⟩
      rw [Table.get?_erase]
      split
      · rfl
      · exact order.unobserved other signal inWindow
  | clear => exact ⟨fun _ _ _ => rfl, order.waiting, order.distinct⟩

theorem afterSteps (order : cache.WindowsInOrder) (steps : List AccountStep) :
    (cache.afterSteps steps).WindowsInOrder := by
  induction steps generalizing cache with
  | nil => exact order
  | cons step steps ih => exact ih (order.accountStep step)

/-- **Every run keeps the windows in order.** -/
theorem after (order : cache.WindowsInOrder) (run : List Operation) :
    (cache.after run).WindowsInOrder :=
  .of_agrees (cache.agreesOnAccounts_after run) (order.afterSteps _)

end WindowsInOrder

/-! ## The fate of one signal -/

section Fate

variable {cache : Cache}

/-- **An elementary step fires exactly the signal of the window that it ends.** -/
theorem fired_accountStep_iff (order : cache.WindowsInOrder) (step : AccountStep)
    (signal : SignalId) :
    (cache.accountStep step).signals.wakeup signal = .fired ↔
      cache.signals.wakeup signal = .fired ∨
        ∃ key, step.written? = some key ∧ cache.pending.get? key = some signal := by
  cases step with
  | query request =>
    simp only [accountStep, get_fst, AccountStep.written?]
    split
    · rw [SignalLedger.wakeup_create]
      split
      · rename_i new
        simp [new, SignalLedger.wakeup_next]
      · simp
    · simp
  | apply account =>
    simp only [accountStep, applyAccount_fst, AccountStep.written?]
    cases account.key? with
    | none => simp
    | some key =>
      simp only [writeAccount_eq, order.wakeup_release]
      by_cases own : cache.pending.get? key = some signal
      · simp [own]
      · simp [own]
  | delete deletion =>
    simp only [accountStep, deleteAccount_fst, AccountStep.written?]
    cases deletion.key? <;> simp
  | clear => simp [accountStep, clear, AccountStep.written?]

/-- A window stays open as long as its account is not written. -/
theorem pending_accountStep {step : AccountStep} {key : CacheKey} {signal : SignalId}
    (inWindow : cache.pending.get? key = some signal) (unwritten : step.written? ≠ some key) :
    (cache.accountStep step).pending.get? key = some signal := by
  cases step with
  | query request =>
    simp only [accountStep, get_fst]
    split
    · rename_i opens
      rw [Table.get?_insert, if_neg, inWindow]
      intro own
      rw [own, opens.2] at inWindow
      cases inWindow
    · exact inWindow
  | apply account =>
    simp only [AccountStep.written?] at unwritten
    simp only [accountStep, applyAccount_fst]
    cases identified : account.key? with
    | none => exact inWindow
    | some other =>
      simp only [writeAccount_eq, Table.get?_erase]
      rw [if_neg, inWindow]
      intro own
      rw [own, identified] at unwritten
      exact unwritten rfl
  | delete deletion =>
    simp only [accountStep, deleteAccount_fst]
    cases deletion.key? with
    | none => exact inWindow
    | some other => exact inWindow
  | clear => exact inWindow

/-- Steps other than queries open no window. -/
theorem pending_of_accountStep {step : AccountStep} {key : CacheKey} {signal : SignalId}
    (noQuery : ∀ request, step ≠ .query request)
    (inWindow : (cache.accountStep step).pending.get? key = some signal) :
    cache.pending.get? key = some signal := by
  cases step with
  | query request => exact absurd rfl (noQuery request)
  | apply account =>
    simp only [accountStep, applyAccount_fst] at inWindow
    cases identified : account.key? with
    | none => simpa only [identified] using inWindow
    | some other =>
      simp only [identified, writeAccount_eq, Table.get?_erase] at inWindow
      split at inWindow
      · cases inWindow
      · exact inWindow
  | delete deletion =>
    simp only [accountStep, deleteAccount_fst] at inWindow
    cases identified : deletion.key? with
    | none => simpa only [identified] using inWindow
    | some other => simpa only [identified] using inWindow
  | clear => exact inWindow

/-- Operations other than queries open no window. -/
theorem pending_of_perform {operation : Operation} {key : CacheKey} {signal : SignalId}
    (noQuery : ∀ request, operation ≠ .get request)
    (inWindow : (cache.perform operation).1.pending.get? key = some signal) :
    cache.pending.get? key = some signal := by
  rw [(cache.agreesOnAccounts_perform operation).pending] at inWindow
  have noQueries : ∀ step ∈ operation.accountSteps, ∀ request, step ≠ .query request :=
    fun step member request isQuery =>
      noQuery request (Operation.eq_get_of_query_mem (isQuery ▸ member))
  generalize operation.accountSteps = steps at inWindow noQueries
  induction steps generalizing cache with
  | nil => exact inWindow
  | cons step steps ih =>
    obtain ⟨here, later⟩ := List.forall_mem_cons.mp noQueries
    exact pending_of_accountStep here (ih inWindow later)

/-- What was fired stays fired. -/
theorem fired_afterSteps_of_fired (order : cache.WindowsInOrder) (steps : List AccountStep)
    {signal : SignalId} (fired : cache.signals.wakeup signal = .fired) :
    (cache.afterSteps steps).signals.wakeup signal = .fired := by
  induction steps generalizing cache with
  | nil => exact fired
  | cons step steps ih =>
    exact ih (order.accountStep step) ((fired_accountStep_iff order step signal).mpr (.inl fired))

/-- A window stays open until its account is written. -/
theorem pending_afterSteps {steps : List AccountStep} {key : CacheKey} {signal : SignalId}
    (inWindow : cache.pending.get? key = some signal)
    (unwritten : ∀ step ∈ steps, step.written? ≠ some key) :
    (cache.afterSteps steps).pending.get? key = some signal := by
  induction steps generalizing cache with
  | nil => exact inWindow
  | cons step steps ih =>
    obtain ⟨here, later⟩ := List.forall_mem_cons.mp unwritten
    exact ih (pending_accountStep inWindow here) later

/-- The signal of a window is fired when its account is written. -/
theorem fired_afterSteps (order : cache.WindowsInOrder) {steps : List AccountStep}
    {key : CacheKey} {signal : SignalId} (inWindow : cache.pending.get? key = some signal)
    (written : ∃ step ∈ steps, step.written? = some key) :
    (cache.afterSteps steps).signals.wakeup signal = .fired := by
  induction steps generalizing cache with
  | nil =>
    obtain ⟨step, member, -⟩ := written
    cases member
  | cons step steps ih =>
    by_cases here : step.written? = some key
    · exact fired_afterSteps_of_fired (order.accountStep step) steps
        ((fired_accountStep_iff order step signal).mpr (.inr ⟨key, here, inWindow⟩))
    · refine ih (order.accountStep step) (pending_accountStep inWindow here) ?_
      obtain ⟨writer, member, writes⟩ := written
      rcases List.mem_cons.mp member with first | later
      · exact absurd (first ▸ writes) here
      · exact ⟨writer, later, writes⟩

/-- Without queries among them, steps fire only signals of windows that were open before. -/
theorem pending_of_fired_afterSteps (order : cache.WindowsInOrder) {steps : List AccountStep}
    (noQuery : ∀ step ∈ steps, ∀ request, step ≠ .query request) {signal : SignalId}
    (fired : (cache.afterSteps steps).signals.wakeup signal = .fired) :
    cache.signals.wakeup signal = .fired ∨
      ∃ key, (∃ step ∈ steps, step.written? = some key) ∧
        cache.pending.get? key = some signal := by
  induction steps generalizing cache with
  | nil => exact .inl fired
  | cons step steps ih =>
    obtain ⟨here, later⟩ := List.forall_mem_cons.mp noQuery
    rcases ih (order.accountStep step) later fired with early | ⟨key, ⟨writer, member, writes⟩, own⟩
    · rcases (fired_accountStep_iff order step signal).mp early with before | ⟨key, writes, own⟩
      · exact .inl before
      · exact .inr ⟨key, ⟨step, List.mem_cons_self, writes⟩, own⟩
    · exact .inr ⟨key, ⟨writer, List.mem_cons_of_mem _ member, writes⟩,
        pending_of_accountStep here own⟩

end Fate

/-! ## The fate of one signal in a run -/

section Run

variable {cache : Cache}

/-- A window stays open throughout a run that does not write its account. -/
theorem pending_after {run : List Operation} {key : CacheKey} {signal : SignalId}
    (inWindow : cache.pending.get? key = some signal)
    (unwritten : ∀ operation ∈ run, ¬ operation.Writes key) :
    (cache.after run).pending.get? key = some signal := by
  rw [(cache.agreesOnAccounts_after run).pending]
  refine pending_afterSteps inWindow fun step member writes => ?_
  obtain ⟨operation, among, writer⟩ :=
    (Operation.writes_run_iff run key).mpr ⟨step, member, writes⟩
  exact unwritten operation among writer

/-- The signal of a window is fired in a run that writes its account. -/
theorem fired_after (order : cache.WindowsInOrder) {run : List Operation} {key : CacheKey}
    {signal : SignalId} (inWindow : cache.pending.get? key = some signal)
    (written : ∃ operation ∈ run, operation.Writes key) :
    (cache.after run).signals.wakeup signal = .fired := by
  rw [(cache.agreesOnAccounts_after run).signals]
  exact fired_afterSteps order inWindow ((Operation.writes_run_iff run key).mp written)

theorem fired_after_of_fired (order : cache.WindowsInOrder) (run : List Operation)
    {signal : SignalId} (fired : cache.signals.wakeup signal = .fired) :
    (cache.after run).signals.wakeup signal = .fired := by
  rw [(cache.agreesOnAccounts_after run).signals]
  exact fired_afterSteps_of_fired order _ fired

/-- **An operation fires exactly the signals of the windows whose accounts it writes.** -/
theorem fired_perform_iff (order : cache.WindowsInOrder) (operation : Operation)
    (signal : SignalId) :
    (cache.perform operation).1.signals.wakeup signal = .fired ↔
      cache.signals.wakeup signal = .fired ∨
        ∃ key, operation.Writes key ∧ cache.pending.get? key = some signal := by
  rw [(cache.agreesOnAccounts_perform operation).signals]
  constructor
  · intro fired
    by_cases isQuery : ∃ request, operation = .get request
    · obtain ⟨request, rfl⟩ := isQuery
      rcases (fired_accountStep_iff order (.query request) signal).mp fired with
        before | ⟨key, writes, -⟩
      · exact .inl before
      · cases writes
    · refine pending_of_fired_afterSteps order (fun step member request same => ?_) fired
      exact isQuery ⟨request, Operation.eq_get_of_query_mem (same ▸ member)⟩
  · rintro (before | ⟨key, writes, own⟩)
    · exact fired_afterSteps_of_fired order _ before
    · exact fired_afterSteps order own writes

end Run

/-! ## Notifiers -/

/-- A query is answered with a notifier that belongs to the signal. -/
def HandsOut (cache : Cache) (request : Request) (signal : SignalId) : Prop :=
  (cache.get request).2.1.notifier = some signal

instance (cache : Cache) (request : Request) (signal : SignalId) :
    Decidable (cache.HandsOut request signal) :=
  inferInstanceAs (Decidable (_ = _))

namespace HandsOut

variable {cache : Cache} {request : Request} {signal : SignalId}

/-- The signal of a notifier is the one of the open window, if there is one. -/
theorem eq_of_pending (handed : cache.HandsOut request signal) {own : SignalId}
    (inWindow : cache.pending.get? request.key = some own) : signal = own := by
  rw [HandsOut, get_notifier, inWindow] at handed
  split at handed
  · exact (Option.some.inj handed).symm
  · cases handed

/-- After a notifier was handed out its signal is in the window of the account. -/
theorem pending (handed : cache.HandsOut request signal) :
    (cache.get request).1.pending.get? request.key = some signal := by
  rw [HandsOut, get_notifier] at handed
  split at handed
  · rename_i asks
    rw [get_fst]
    cases inWindow : cache.pending.get? request.key with
    | none =>
      rw [inWindow] at handed
      rw [if_pos ⟨asks, rfl⟩, Table.get?_insert, if_pos rfl]
      exact handed
    | some own =>
      rw [inWindow] at handed
      rw [if_neg (fun opens => nomatch opens.2), inWindow]
      exact handed
  · cases handed

/-- A notifier is woken by the first write of its account and by nothing else, and until then
its signal is kept. -/
theorem fate (order : cache.WindowsInOrder) (handed : cache.HandsOut request signal)
    (later : List Operation) :
    let final := cache.after (.get request :: later)
    (final.signals.wakeup signal = .fired ↔ ∃ operation ∈ later, operation.Writes request.key) ∧
    (final.signals.wakeup signal ≠ .fired →
      final.pending.get? request.key = some signal ∧ final.signals.wakeup signal = .pending) := by
  have opened := handed.pending
  have orderly := order.query request
  intro final
  by_cases written : ∃ operation ∈ later, operation.Writes request.key
  · have fired : final.signals.wakeup signal = .fired := fired_after orderly opened written
    exact ⟨⟨fun _ => written, fun _ => fired⟩, fun notFired => absurd fired notFired⟩
  · have kept : ((cache.get request).1.after later).pending.get? request.key = some signal :=
      pending_after opened fun operation member writes => written ⟨operation, member, writes⟩
    have waits : final.signals.wakeup signal = .pending :=
      (orderly.after later).waiting request.key signal kept
    refine ⟨⟨fun fired => ?_, fun writes => absurd writes written⟩, fun _ => ⟨kept, waits⟩⟩
    rw [waits] at fired
    cases fired

/-- Two notifiers belong to one signal exactly if they were handed out for the same account and
the account was not written in between. -/
theorem eq_iff (order : cache.WindowsInOrder) (handed : cache.HandsOut request signal)
    (between : List Operation) {second : Request} {other : SignalId}
    (handedToo : (cache.after (.get request :: between)).HandsOut second other) :
    signal = other ↔
      request.key = second.key ∧ ∀ operation ∈ between, ¬ operation.Writes request.key := by
  have orderly := order.query request
  have opened := handed.pending
  have openedToo := handedToo.pending
  have orderlyToo := (orderly.after between).query second
  constructor
  · rintro rfl
    by_cases written : ∃ operation ∈ between, operation.Writes request.key
    · -- The first signal has been fired, and the second is in a window.
      have fired := fired_after_of_fired (orderly.after between) [.get second]
        (fired_after orderly opened written)
      have waits := orderlyToo.waiting second.key signal openedToo
      exact nomatch waits.symm.trans fired
    · have unwritten : ∀ operation ∈ between, ¬ operation.Writes request.key :=
        fun operation member writes => written ⟨operation, member, writes⟩
      have writesNone : (AccountStep.query second).written? ≠ some request.key := nofun
      have stillOpen := pending_accountStep (pending_after opened unwritten) writesNone
      exact ⟨orderlyToo.distinct request.key second.key signal stillOpen openedToo, unwritten⟩
  · rintro ⟨same, unwritten⟩
    have kept := pending_after opened unwritten
    rw [same] at kept
    exact (handedToo.eq_of_pending kept).symm

end HandsOut

end Cache

/-! ## The main statement -/

/-- **No wake-up is lost and none is spurious.**  In every cache that a run of a new one leads
to, an account that is waited for has not been observed and its signal has not been fired.  A
notifier that a query hands out is fired exactly if the account has been written since; until
then its signal is kept for the account, so it never waits in vain.  Two notifiers share their
signal exactly if they were asked for the same account with no write of it in between.  And an
operation fires the signals of those who wait for the accounts that it writes and no others;
deliveries without names, deletions, snapshots and emptying the cache write none. -/
theorem notifiers_fire_exactly_on_writes (settings : Settings) (source : Option WatchedMap)
    (queue : Option RefreshQueue) :
    let start := Cache.new settings source queue
    (∀ run key signal, (start.after run).pending.get? key = some signal →
      (start.after run).accounts.get? key = none ∧
        (start.after run).signals.isFired signal = false) ∧
    (∀ earlier request later signal, (start.after earlier).HandsOut request signal →
      let cache := start.after (earlier ++ .get request :: later)
      (cache.signals.isFired signal = true ↔
        ∃ operation ∈ later, operation.Writes request.key) ∧
      (cache.signals.isFired signal = false →
        cache.pending.get? request.key = some signal) ∧
      cache.signals.wakeup signal ≠ .dropped) ∧
    (∀ earlier first between second signal other,
      (start.after earlier).HandsOut first signal →
      (start.after (earlier ++ .get first :: between)).HandsOut second other →
      (signal = other ↔
        first.key = second.key ∧ ∀ operation ∈ between, ¬ operation.Writes first.key)) ∧
    (∀ run operation signal,
      (((start.after run).perform operation).1.signals.isFired signal = true ↔
        (start.after run).signals.isFired signal = true ∨
          ∃ key, operation.Writes key ∧
            (start.after run).pending.get? key = some signal)) := by
  intro start
  have order : ∀ run, (start.after run).WindowsInOrder :=
    (Cache.windowsInOrder_new settings source queue).after
  refine ⟨fun run key signal inWindow => ?_, fun earlier request later signal handed => ?_,
    fun earlier first between second signal other handed handedToo => ?_,
    fun run operation signal => ?_⟩
  · exact ⟨(order run).unobserved key signal inWindow,
      SignalLedger.isFired_eq_false_of_pending ((order run).waiting key signal inWindow)⟩
  · intro cache
    have fate := handed.fate (order earlier) later
    rw [← Cache.after_append] at fate
    refine ⟨by rw [SignalLedger.isFired_iff]; exact fate.1, fun unfired => ?_, fun dropped => ?_⟩
    · refine (fate.2 fun fired => ?_).1
      rw [← SignalLedger.isFired_iff] at fired
      exact nomatch unfired.symm.trans fired
    · have waits := (fate.2 (by rw [dropped]; exact nofun)).2
      exact nomatch waits.symm.trans dropped
  · rw [Cache.after_append] at handedToo
    exact handed.eq_iff (order earlier) between handedToo
  · rw [SignalLedger.isFired_iff, SignalLedger.isFired_iff]
    exact Cache.fired_perform_iff (order run) operation signal

/-- A notifier is fired by a relist, although the cache was emptied before and the relist goes
on to report the account gone. -/
theorem notifier_fired_by_relist :
    let start := Cache.new {} none none
    let earlier : List Operation := [.get ⟨"ns", "other", true⟩]
    let request : Request := ⟨"ns", "sa", true⟩
    let later : List Operation :=
      [.clear, .resetAccounts [{ ns := some "ns", name := some "sa" }] [("ns", "sa")]]
    (start.after earlier).HandsOut request ⟨1⟩ ∧
      (start.after (earlier ++ .get request :: later)).signals.isFired ⟨1⟩ = true := by
  intro start earlier request later
  have handed : (start.after earlier).HandsOut request ⟨1⟩ := by decide
  have written : ∃ operation ∈ later, operation.Writes request.key := by decide
  exact ⟨handed, ((notifiers_fire_exactly_on_writes {} none none).2.1 earlier request later ⟨1⟩
    handed).1.mpr written⟩

end IdentityCache
