import IdentityCache.Proofs.BoundedWait
import IdentityCache.Proofs.LatestEvents
import IdentityCache.Proofs.ServiceRun

/-!
# Calls that wait while the service runs

What a happening does to the accounts is a list of elementary steps (`Service.accountSteps`), so
the windows stay in order whatever happens, and every waiting call either has its signal in the
window of its account or has been woken (`CallsInOrder`).

Of a happening that spares an account nothing is seen under its key (`Happening.Spares`).  As long
as all of them do, a call that waits in the window of the account is not answered before its
deadline (`Waits.keeps`), and time does not pass while a woken call has yet to be answered
(`no_pass_of_woken`).
-/

namespace IdentityCache

set_option autoImplicit false

namespace Service

variable {service next : Service} {worker : RefreshWorker} {happening : Happening}
  {events : List Event}

/-! ## What happens to the accounts -/

/-- The elementary steps that a happening makes on the accounts. -/
def accountSteps (service : Service) (happening : Happening) : List AccountStep :=
  ((service.deed? happening).map Operation.accountSteps).getD []

/-- What happens to the accounts is the elementary steps that a happening makes. -/
theorem agreesOnAccounts_happen (only : service.workers = [worker])
    (happened : service.happen? happening = some (next, events)) :
    AgreesOnAccounts next.cache (service.cache.afterSteps (service.accountSteps happening)) := by
  have performed : AgreesOnAccounts next.cache
      (service.cache.performed (service.deed? happening)).1 := by
    rw [cache_happen only happened]
    exact ⟨rfl, rfl, rfl, rfl⟩
  refine performed.trans ?_
  unfold accountSteps
  cases service.deed? happening with
  | none => exact .refl _
  | some operation => exact service.cache.agreesOnAccounts_perform operation

/-! ## What happens to the clock, the calls and the worker -/

theorem letWorker?_frame {step : RefreshWorker → Option (RefreshWorker × Cache × List Event)}
    (made : service.letWorker? step = some (next, events)) :
    next = { service with cache := next.cache, workers := next.workers } ∧
      ∃ worker, next.workers = [worker] := by
  unfold letWorker? at made
  split at made
  · obtain ⟨⟨after, cache, these⟩, -, same⟩ := Option.map_eq_some_iff.mp made
    cases same
    exact ⟨rfl, after, rfl⟩
  · cases made

/-- One worker stays one worker. -/
theorem staffed_happen (only : service.workers = [worker])
    (happened : service.happen? happening = some (next, events)) :
    ∃ after, next.workers = [after] := by
  cases happening with
  | operation operation =>
    rw [happen?] at happened
    split at happened
    · cases happened
    · cases happened
      exact ⟨worker, only⟩
  | offer request =>
    obtain ⟨queue, -, same⟩ := Option.map_eq_some_iff.mp happened
    cases same
    exact ⟨worker, only⟩
  | disconnect =>
    rw [happen?] at happened
    split at happened
    · exact (letWorker?_frame happened).2
    · cases happened
  | call call =>
    rw [happen?_call] at happened
    cases happened
    exact ⟨worker, only⟩
  | answer place =>
    obtain ⟨call, -, same⟩ := Option.map_eq_some_iff.mp happened
    cases same
    exact ⟨worker, only⟩
  | begin | complete | arrive => exact (letWorker?_frame happened).2
  | pass duration =>
    rw [happen?] at happened
    split at happened
    · cases happened
      exact ⟨worker, only⟩
    · cases happened

/-- What a happening does to the calls and the clock. -/
inductive Moves (service next : Service) : Happening → Prop
  | answered {place : Nat} {call after : CallProgress} (among : service.calls[place]? = some call)
    (polled : call.poll? service.cache service.now = some after)
    (calls : next.calls = service.calls.set place after) (now : next.now = service.now) :
    Moves service next (.answer place)
  | begun {call : Call} (calls : next.calls = service.calls ++ [(service.beginCall call).2.1])
    (now : next.now = service.now) : Moves service next (.call call)
  | passed {duration : Nat} (busy : service.step? = none) (calls : next.calls = service.calls)
    (now : next.now = service.now + duration) : Moves service next (.pass duration)
  | kept {happening : Happening} (others : ∀ place, happening ≠ .answer place)
    (calls : next.calls = service.calls) (now : next.now = service.now) :
    Moves service next happening

theorem moves_happen (happened : service.happen? happening = some (next, events)) :
    Moves service next happening := by
  have byWorker {step : RefreshWorker → Option (RefreshWorker × Cache × List Event)}
      (others : ∀ place, happening ≠ .answer place)
      (made : service.letWorker? step = some (next, events)) : Moves service next happening := by
    rw [(letWorker?_frame made).1]
    exact .kept others rfl rfl
  cases happening with
  | operation operation =>
    rw [happen?] at happened
    split at happened
    · cases happened
    · cases happened
      exact .kept (by simp) rfl rfl
  | offer request =>
    obtain ⟨queue, -, same⟩ := Option.map_eq_some_iff.mp happened
    cases same
    exact .kept (by simp) rfl rfl
  | disconnect =>
    rw [happen?] at happened
    split at happened
    · exact byWorker (by simp) happened
    · cases happened
  | call call =>
    rw [happen?_call] at happened
    cases happened
    exact .begun rfl rfl
  | answer place =>
    obtain ⟨call, polled, same⟩ := Option.map_eq_some_iff.mp happened
    obtain ⟨among, member, answers⟩ := Option.bind_eq_some_iff.mp polled
    cases same
    exact .answered member answers rfl rfl
  | begin | complete | arrive => exact byWorker (by simp) happened
  | pass duration =>
    rw [happen?] at happened
    split at happened
    · rename_i possible
      cases happened
      exact .passed (Option.isNone_iff_eq_none.mp possible.1) rfl
        (Nat.max_eq_right (Nat.le_add_right _ _))
    · cases happened

/-- Time does not go back. -/
theorem now_le_happen (happened : service.happen? happening = some (next, events)) :
    service.now ≤ next.now := by
  cases moves_happen happened with
  | answered _ _ _ now | begun _ now | kept _ _ now => exact Nat.le_of_eq now.symm
  | passed _ _ now => exact now ▸ Nat.le_add_right _ _

/-- A call that waits goes on waiting until it is answered. -/
theorem getElem?_calls_happen (happened : service.happen? happening = some (next, events))
    {place : Nat} {call : CallProgress} (among : service.calls[place]? = some call)
    (unanswered : happening ≠ .answer place) : next.calls[place]? = some call := by
  cases moves_happen happened with
  | @answered other _ _ _ _ calls _ =>
    have elsewhere := fun same => unanswered (congrArg Happening.answer same)
    rw [calls, List.getElem?_set_ne elsewhere, among]
  | begun calls _ =>
    rw [calls, List.getElem?_append_left (List.getElem?_eq_some_iff.mp among).1, among]
  | passed _ calls _ | kept _ calls _ => rw [calls, among]

/-- A call that waits has waited before, or it has just begun. -/
theorem getElem?_calls_of_happen (happened : service.happen? happening = some (next, events))
    {place : Nat} {presentation : Presentation} {lookup : WaitingLookup}
    (waits : next.calls[place]? = some (.waiting presentation lookup)) :
    service.calls[place]? = some (.waiting presentation lookup) ∨
      place = service.calls.length ∧
        ∃ call, happening = .call call ∧
          (service.beginCall call).2.1 = .waiting presentation lookup := by
  cases moves_happen happened with
  | @answered other call after among polled calls _ =>
    rw [calls, List.getElem?_set] at waits
    split at waits
    · split at waits
      · cases waits
        have done := (CallProgress.isWaiting_of_poll? polled).2
        cases done
      · cases waits
    · exact .inl waits
  | @begun call calls _ =>
    rw [calls] at waits
    rcases Nat.lt_trichotomy place service.calls.length with before | here | beyond
    · rw [List.getElem?_append_left before] at waits
      exact .inl waits
    · subst here
      rw [List.getElem?_concat_length] at waits
      exact .inr ⟨rfl, call, rfl, Option.some.inj waits⟩
    · rw [List.getElem?_eq_none (by rw [List.length_append]; exact beyond)] at waits
      cases waits
  | passed _ calls _ | kept _ calls _ =>
    rw [calls] at waits
    exact .inl waits

/-! ## Windows and waiting calls -/

theorem beginPresented_eq_waiting {cache : Cache} {now : Nat} {presentation other : Presentation}
    {ns name : String} {grace : Nat} {lookup : WaitingLookup}
    (begun : (cache.beginPresented now presentation ns name grace).2.1 = .waiting other lookup) :
    grace ≠ 0 ∧ lookup.key = .ofNames ns name ∧ cache.HandsOut ⟨ns, name, true⟩ lookup.signal := by
  unfold Cache.beginPresented at begun
  split at begun
  · cases begun
  · rename_i opened waiting these looked
    cases begun
    have waits : (cache.beginLookup now ns name grace).2.1 = .waiting lookup := by rw [looked]
    rcases Nat.eq_zero_or_pos grace with rfl | positive
    · rw [Cache.beginLookup_zero] at waits
      cases waits
    · obtain ⟨-, own, -, -, handed⟩ := Cache.of_beginLookup_eq_waiting positive waits
      exact ⟨Nat.ne_of_gt positive, own, handed⟩

/-- A call that waits was handed the notifier of its account. -/
theorem beginCall_eq_waiting {call : Call} {presentation : Presentation} {lookup : WaitingLookup}
    (begun : (service.beginCall call).2.1 = .waiting presentation lookup) :
    ∃ request, service.query? call = some request ∧ lookup.key = request.key ∧
      service.cache.HandsOut request lookup.signal := by
  have looks {presented : Presentation} {ns name : String} {grace : Nat}
      (begun : (service.cache.beginPresented service.now presented ns name grace).2.1 =
        .waiting presentation lookup) :
      ∃ request, some (⟨ns, name, grace ≠ 0⟩ : Request) = some request ∧
        lookup.key = request.key ∧ service.cache.HandsOut request lookup.signal := by
    obtain ⟨positive, own, handed⟩ := beginPresented_eq_waiting begun
    exact ⟨⟨ns, name, true⟩, by rw [decide_eq_true positive], own, handed⟩
  cases call with
  | lookup ns name grace => exact looks begun
  | http method target =>
    revert begun
    rw [beginCall, query?]
    cases Http.isMethod method with
    | false =>
      intro begun
      cases begun
    | true =>
      cases Http.targetPath? target with
      | none =>
        intro begun
        cases begun
      | some path =>
        dsimp only
        rw [Cache.beginHttp]
        cases Http.route method path with
        | lookup ns name => exact looks
        | ready | cache | methodNotAllowed | notFound =>
          intro begun
          cases begun

/-- Every waiting call has its signal in the window of its account, or has been woken. -/
structure CallsInOrder (service : Service) : Prop where
  staffed : ∃ worker, service.workers = [worker]
  windows : service.cache.WindowsInOrder
  waiting : ∀ (place : Nat) presentation (lookup : WaitingLookup),
    service.calls[place]? = some (.waiting presentation lookup) →
    service.cache.pending.get? lookup.key = some lookup.signal ∨
      service.cache.signals.wakeup lookup.signal = .fired

namespace CallsInOrder

/-- **Whatever happens, the calls stay in order.** -/
theorem happen (order : service.CallsInOrder)
    (happened : service.happen? happening = some (next, events)) : next.CallsInOrder := by
  obtain ⟨worker, only⟩ := order.staffed
  have agree := agreesOnAccounts_happen only happened
  refine ⟨staffed_happen only happened, .of_agrees agree (order.windows.afterSteps _), ?_⟩
  intro place presentation lookup waits
  rw [agree.pending, agree.signals]
  rcases getElem?_calls_of_happen happened waits with before | ⟨-, call, rfl, begun⟩
  · rcases order.waiting place presentation lookup before with inWindow | fired
    · by_cases written :
          ∃ step ∈ service.accountSteps happening, step.written? = some lookup.key
      · exact .inr (Cache.fired_afterSteps order.windows inWindow written)
      · exact .inl (Cache.pending_afterSteps inWindow fun step member writes =>
          written ⟨step, member, writes⟩)
    · exact .inr (Cache.fired_afterSteps_of_fired order.windows _ fired)
  · obtain ⟨request, asked, own, handed⟩ := beginCall_eq_waiting begun
    have steps : service.accountSteps (.call call) = [.query request] := by
      rw [accountSteps, deed?, asked]
      rfl
    rw [steps, own]
    exact .inl handed.pending

end CallsInOrder

theorem callsInOrder_withWorker {base : Service} (windows : base.cache.WindowsInOrder)
    (nobody : base.calls = []) (queue : RefreshQueue) (fetcher : Fetcher) :
    (base.withWorker queue fetcher).CallsInOrder where
  staffed := ⟨_, rfl⟩
  windows :=
    have same : AgreesOnAccounts (base.withWorker queue fetcher).cache base.cache :=
      ⟨rfl, rfl, rfl, rfl⟩
    .of_agrees same windows
  waiting place presentation lookup waits := by
    have missing : (base.withWorker queue fetcher).calls[place]? = none := by
      rw [withWorker, nobody, List.getElem?_nil]
    rw [missing] at waits
    cases waits

theorem CallsInOrder.of_run {run : List Happening} (order : service.CallsInOrder)
    (reached : service.run? run = some (next, events)) : next.CallsInOrder :=
  run_induction (P := fun _ _ service => service.CallsInOrder)
    (fun order happened => order.happen happened) order reached

end Service

/-! ## Happenings that spare an account -/

/-- A step that does not decide an account does not write it either. -/
theorem AccountStep.written?_ne_of_spares {key : CacheKey} {step : AccountStep}
    (spares : step.decides key = false) : step.written? ≠ some key := by
  cases step with
  | apply account =>
    intro writes
    exact nomatch spares.symm.trans (decide_eq_true writes)
  | query | delete | clear => exact (Option.some_ne_none key).symm

/-- No step of a happening writes an account, deletes it or empties the cache. -/
def Happening.Spares (key : CacheKey) (service : Service) (happening : Happening) : Prop :=
  ∀ step ∈ service.accountSteps happening, step.decides key = false

namespace Cache

theorem get?_accounts_afterSteps_of_spares {key : CacheKey} {steps : List AccountStep}
    (spares : ∀ step ∈ steps, step.decides key = false) (cache : Cache) :
    (cache.afterSteps steps).accounts.get? key = cache.accounts.get? key := by
  induction steps generalizing cache with
  | nil => rfl
  | cons step steps ih =>
    obtain ⟨here, later⟩ := List.forall_mem_cons.mp spares
    rw [afterSteps_cons, ih later, get?_accounts_accountStep, here]
    rfl

end Cache

namespace Service

variable {service next : Service} {worker : RefreshWorker} {happening : Happening}
  {events : List Event} {key : CacheKey}

theorem settings_happen (only : service.workers = [worker])
    (happened : service.happen? happening = some (next, events)) :
    next.cache.settings = service.cache.settings :=
  (agreesOnAccounts_happen only happened).settings.trans (service.cache.settings_afterSteps _)

/-- What has been observed of an account that is spared stays as it is. -/
theorem get?_accounts_of_spares (only : service.workers = [worker])
    (happened : service.happen? happening = some (next, events))
    (spares : happening.Spares key service) :
    next.cache.accounts.get? key = service.cache.accounts.get? key := by
  rw [(agreesOnAccounts_happen only happened).accounts]
  exact Cache.get?_accounts_afterSteps_of_spares spares service.cache

/-- The window of an account that is spared stays open. -/
theorem get?_pending_of_spares (only : service.workers = [worker])
    (happened : service.happen? happening = some (next, events))
    (spares : happening.Spares key service) {signal : SignalId}
    (inWindow : service.cache.pending.get? key = some signal) :
    next.cache.pending.get? key = some signal := by
  rw [(agreesOnAccounts_happen only happened).pending]
  exact Cache.pending_afterSteps inWindow fun step member =>
    AccountStep.written?_ne_of_spares (spares step member)

/-- Settings never change. -/
theorem settings_of_run {run : List Happening} (only : service.workers = [worker])
    (reached : service.run? run = some (next, events)) :
    next.cache.settings = service.cache.settings :=
  (run_induction
    (P := fun _ _ middle => (∃ worker, middle.workers = [worker]) ∧
      middle.cache.settings = service.cache.settings)
    (fun holds happened => holds.1.elim fun _ only =>
      ⟨staffed_happen only happened, (settings_happen only happened).trans holds.2⟩)
    ⟨⟨worker, only⟩, rfl⟩ reached).2

/-- **A run that spares an account changes nothing of what has been observed of it.** -/
theorem get?_accounts_of_spared_run {run : List Happening} (only : service.workers = [worker])
    (spared : service.Throughout (Happening.Spares key) run)
    (reached : service.run? run = some (next, events)) :
    next.cache.accounts.get? key = service.cache.accounts.get? key :=
  (throughout_induction
    (P := fun _ _ middle => (∃ worker, middle.workers = [worker]) ∧
      middle.cache.accounts.get? key = service.cache.accounts.get? key)
    (fun holds spares happened => holds.1.elim fun _ only =>
      ⟨staffed_happen only happened, (get?_accounts_of_spares only happened spares).trans holds.2⟩)
    ⟨⟨worker, only⟩, rfl⟩ spared reached).2

/-! ## Waiting in the window of an account -/

/-- The window of an account is open, and the calls from a place on that wait for the account wait
in it. -/
structure Window (key : CacheKey) (signal : SignalId) (first : Nat) (service : Service) :
    Prop where
  order : service.CallsInOrder
  inWindow : service.cache.pending.get? key = some signal
  joined : ∀ (place : Nat) presentation (lookup : WaitingLookup), first ≤ place →
    service.calls[place]? = some (.waiting presentation lookup) → lookup.key = key →
    lookup.signal = signal

namespace Window

variable {signal : SignalId} {first : Nat}

/-- **As long as the account is spared its window stays open, and who comes joins it.** -/
theorem happen (window : Window key signal first service)
    (happened : service.happen? happening = some (next, events))
    (spares : happening.Spares key service) : Window key signal first next := by
  obtain ⟨worker, only⟩ := window.order.staffed
  refine ⟨window.order.happen happened, get?_pending_of_spares only happened spares window.inWindow,
    ?_⟩
  intro place presentation lookup later waits own
  rcases getElem?_calls_of_happen happened waits with before | ⟨-, call, rfl, begun⟩
  · exact window.joined place presentation lookup later before own
  · obtain ⟨request, -, asked, handed⟩ := beginCall_eq_waiting begun
    exact handed.eq_of_pending ((asked.symm.trans own) ▸ window.inWindow)

/-- Who waits in the window is not answered before the deadline. -/
theorem keeps (window : Window key signal first service)
    (happened : service.happen? happening = some (next, events)) {place : Nat}
    {presentation : Presentation} {lookup : WaitingLookup} (later : first ≤ place)
    (waits : service.calls[place]? = some (.waiting presentation lookup)) (own : lookup.key = key)
    (early : next.now < lookup.deadline) :
    next.calls[place]? = some (.waiting presentation lookup) := by
  by_cases answered : happening = .answer place
  · subst answered
    have signal := window.joined place presentation lookup later waits own
    have pending := window.order.windows.waiting key _ window.inWindow
    have notYet : ¬ lookup.deadline ≤ service.now :=
      Nat.not_le.mpr (Nat.lt_of_le_of_lt (now_le_happen happened) early)
    have unanswered : lookup.poll service.cache service.now = none := by
      rw [WaitingLookup.poll, signal, pending, if_neg notYet]
    rw [happen?, waits, Option.bind_some, CallProgress.poll?, unanswered] at happened
    cases happened
  · exact getElem?_calls_happen happened waits answered

end Window

/-! ## Woken calls -/

/-- A call that has been woken looks again. -/
theorem happen?_answer_of_woken {place : Nat} {presentation : Presentation} {lookup : WaitingLookup}
    (waits : service.calls[place]? = some (.waiting presentation lookup))
    (woken : service.cache.signals.wakeup lookup.signal = .fired) :
    service.happen? (.answer place) =
      some ({ service with
        calls := service.calls.set place
          (.answered (presentation.present { answer := service.cache.answer lookup.key })
            service.now) }, []) := by
  refine happen?_answer waits ?_
  rw [CallProgress.poll?, WaitingLookup.poll, woken]
  rfl

/-- While a woken call has yet to be answered time does not pass. -/
theorem step?_isSome_of_woken {place : Nat} {presentation : Presentation} {lookup : WaitingLookup}
    (waits : service.calls[place]? = some (.waiting presentation lookup))
    (woken : service.cache.signals.wakeup lookup.signal = .fired) :
    service.step?.isSome = true := by
  refine step?_isSome answerCall? (by simp [stepKinds]) ?_
  rw [answerCall?, Option.isSome_map]
  refine changeFirst?_isSome (List.mem_of_getElem? waits) ?_
  rw [CallProgress.poll?, WaitingLookup.poll, woken]
  rfl

theorem happen?_pass_of_woken {place : Nat} {presentation : Presentation} {lookup : WaitingLookup}
    (waits : service.calls[place]? = some (.waiting presentation lookup))
    (woken : service.cache.signals.wakeup lookup.signal = .fired) (duration : Nat) :
    service.happen? (.pass duration) = none := by
  have possible := step?_isSome_of_woken waits woken
  rw [happen?, if_neg]
  rintro ⟨rest, -⟩
  rw [Option.isNone_iff_eq_none.mp rest] at possible
  cases possible

end Service

end IdentityCache
