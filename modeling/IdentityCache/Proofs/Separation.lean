import IdentityCache.Proofs.AccountNames
import IdentityCache.Proofs.LatestEvents
import IdentityCache.Proofs.Wakeup

/-!
# Accounts are kept apart

What a cache says of an account is decided by the account's own history: the deliveries and
deletions under its names, the questions for it, what each snapshot that was taken in has of it,
and when the cache was emptied.  Events of other accounts leave no trace in it, whatever they are
and wherever they come in between.

The proof keeps a view of the account beside the cache (`AccountView.Shows`).  The view changes with
the own history alone, and so do the replies that can be read from it; every operation of a run
keeps the cache and the view together (`AccountView.Shows.perform`).  All of this rests on the keys
of accounts being different, which is so where namespaces hold no slash.

The main statement is `accounts_are_separate`.
-/

namespace IdentityCache

set_option autoImplicit false

/-! ## The history of one account -/

/-- What happens to one account. -/
inductive OwnEvent
  | query (notify : Bool)
  | apply (annotations : Labels)
  | delete
  /-- A snapshot is taken in that has the given entry of the account, if any. -/
  | snapshot (written : Option Entry)
  | clear
  deriving DecidableEq

/-- Whether an event is the delivery of the account. -/
def OwnEvent.isDelivery : OwnEvent → Bool
  | .apply _ => true
  | .query _ | .delete | .snapshot _ | .clear => false

/-- Whether an account is named by the given texts. -/
def AccountNames.Are (ns name : String) (names : AccountNames) : Prop :=
  names.ns = ns ∧ names.name = name

instance (ns name : String) (names : AccountNames) : Decidable (names.Are ns name) :=
  inferInstanceAs (Decidable (_ ∧ _))

/-- What a step does to the account with the given names. -/
def AccountStep.own? (ns name : String) : AccountStep → Option OwnEvent
  | .query request =>
    if request.ns = ns ∧ request.name = name then some (.query request.notify) else none
  | .apply account =>
    if account.names?.any (·.Are ns name) then some (.apply account.annotations) else none
  | .delete deletion => if deletion.names?.any (·.Are ns name) then some .delete else none
  | .clear => some .clear

/-- What a delivered ConfigMap says of a key, if it is taken in. -/
def snapshotEvent? (source : Option WatchedMap) (key : CacheKey) (map : ConfigMap) :
    Option OwnEvent :=
  (takenSnapshot? source map).map fun snapshot => .snapshot (snapshot.get? key)

/-- The ConfigMaps that an operation delivers. -/
def Operation.deliveredMaps : Operation → List ConfigMap
  | .applyMap map => [map]
  | .resetMaps maps => maps
  | .get _ | .applyAccount _ | .deleteAccount _ | .resetAccounts _ _ | .completeFetch _
  | .deleteMap _ _ | .clear | .takeRequest | .closeQueue => []

/-- What an operation does to the account with the given names, in order. -/
def Operation.ownEvents (source : Option WatchedMap) (ns name : String) (operation : Operation) :
    List OwnEvent :=
  operation.accountSteps.filterMap (AccountStep.own? ns name) ++
    operation.deliveredMaps.filterMap (snapshotEvent? source (.ofNames ns name))

/-- The history of the account with the given names in a run. -/
def ownHistory (source : Option WatchedMap) (ns name : String) (run : List Operation) :
    List OwnEvent :=
  run.flatMap (Operation.ownEvents source ns name)

/-- The namespace of the account that a step delivers or reports gone holds no slash. -/
def AccountStep.InPlainNamespace : AccountStep → Prop
  | .apply account => ∀ names ∈ account.names?, HoldsNoSlash names.ns
  | .delete deletion => ∀ names ∈ deletion.names?, HoldsNoSlash names.ns
  | .query _ | .clear => True

instance : (step : AccountStep) → Decidable step.InPlainNamespace
  | .apply account => inferInstanceAs (Decidable (∀ names ∈ account.names?, HoldsNoSlash names.ns))
  | .delete deletion =>
    inferInstanceAs (Decidable (∀ names ∈ deletion.names?, HoldsNoSlash names.ns))
  | .query _ | .clear => inferInstanceAs (Decidable True)

/-- Every account that a run delivers or reports gone is in a namespace without a slash. -/
def InPlainNamespaces (run : List Operation) : Prop :=
  ∀ operation ∈ run, ∀ step ∈ operation.accountSteps, step.InPlainNamespace

instance (run : List Operation) : Decidable (InPlainNamespaces run) :=
  inferInstanceAs (Decidable (∀ _ ∈ _, _))

/-- Where namespaces hold no slash, an account has the key of given names if they are its own. -/
theorem AccountNames.key_eq_iff {ns name : String} (plain : HoldsNoSlash ns) {names : AccountNames}
    (plainToo : HoldsNoSlash names.ns) : names.key = .ofNames ns name ↔ names.Are ns name := by
  constructor
  · exact CacheKey.ofNames_inj plainToo plain
  · rintro ⟨sameNs, sameName⟩
    rw [key, sameNs, sameName]

theorem map_key_eq_iff {ns name : String} (plain : HoldsNoSlash ns) {names? : Option AccountNames}
    (plainToo : ∀ names ∈ names?, HoldsNoSlash names.ns) :
    names?.map AccountNames.key = some (.ofNames ns name) ↔ names?.any (·.Are ns name) = true := by
  cases names? with
  | none => simp
  | some names => simpa using AccountNames.key_eq_iff plain (plainToo names rfl)

/-! ## The view of one account -/

/-- What a cache has of one account. -/
structure AccountView where
  /-- What has been observed of the account. -/
  observed : Option Entry
  /-- What the snapshot's table has of it. -/
  mapped : Option Entry

namespace AccountView

/-- The view after an event. -/
def after (settings : Settings) (view : AccountView) : OwnEvent → AccountView
  | .query _ => view
  | .apply annotations => { view with observed := some (.ofAnnotations settings annotations) }
  | .delete => { view with observed := none }
  | .snapshot written => { view with mapped := written.map (.normalize settings) }
  | .clear => ⟨none, none⟩

/-- What a query answers. -/
def answer (settings : Settings) (view : AccountView) : Answer :=
  match (view.observed.filter fun entry => entry.roleArn ≠ "").or view.mapped with
  | some entry => ⟨entry, true⟩
  | none => .notFound settings.defaultExpiration

/-- The reply to a question, and whether the notifier that it comes with, if any, is fired by the
events that follow. -/
def reply? (settings : Settings) (view : AccountView) (later : List OwnEvent) :
    OwnEvent → Option (Answer × Option Bool)
  | .query notify =>
    some (view.answer settings,
      if notify = true ∧ view.observed = none then some (later.any OwnEvent.isDelivery) else none)
  | .apply _ | .delete | .snapshot _ | .clear => none

/-- The replies to all questions of a history. -/
def replies (settings : Settings) (view : AccountView) :
    List OwnEvent → List (Answer × Option Bool)
  | [] => []
  | event :: later =>
    (view.reply? settings later event).toList ++ replies settings (view.after settings event) later

/-- A cache has of an account what the view says. -/
structure Shows (settings : Settings) (source : Option WatchedMap) (key : CacheKey)
    (view : AccountView) (cache : Cache) : Prop where
  snapshot : cache.SnapshotInOrder settings source
  windows : cache.WindowsInOrder
  observed : cache.accounts.get? key = view.observed
  mapped : cache.mapped.get? key = view.mapped

variable {settings : Settings} {source : Option WatchedMap} {ns name : String}
  {view : AccountView} {cache : Cache}

/-- The events of an account are the steps that decide what is observed of it. -/
theorem observed_step (plain : HoldsNoSlash ns) {step : AccountStep}
    (plainStep : step.InPlainNamespace) :
    ((step.own? ns name).toList.foldl (after settings) view).observed =
      if step.decides (.ofNames ns name) then step.entry? settings else view.observed := by
  cases step with
  | clear => rfl
  | query request =>
    rw [AccountStep.own?]
    split <;> rfl
  | apply account =>
    simp only [AccountStep.own?, AccountStep.decides, account.key?_eq_names?,
      map_key_eq_iff plain plainStep, decide_eq_true_eq]
    split <;> rfl
  | delete deletion =>
    simp only [AccountStep.own?, AccountStep.decides, deletion.key?_eq_names?,
      map_key_eq_iff plain plainStep, decide_eq_true_eq]
    split <;> rfl

theorem mapped_step {step : AccountStep} (kept : step ≠ .clear) :
    ((step.own? ns name).toList.foldl (after settings) view).mapped = view.mapped := by
  cases step with
  | clear => exact absurd rfl kept
  | query request | apply account | delete deletion =>
    rw [AccountStep.own?]
    split <;> rfl

namespace Shows

/-! ## Cache and view go together -/

theorem start (settings : Settings) (source : Option WatchedMap) (queue : Option RefreshQueue)
    (key : CacheKey) : Shows settings source key ⟨none, none⟩ (.new settings source queue) where
  snapshot := Cache.snapshotInOrder_new settings source queue
  windows := Cache.windowsInOrder_new settings source queue
  observed := rfl
  mapped := rfl

theorem of_agrees {key : CacheKey} {other : Cache} (shows : Shows settings source key view cache)
    (accounts : AgreesOnAccounts other cache) (snapshot : AgreesOnSnapshot other cache) :
    Shows settings source key view other where
  snapshot := .of_agrees snapshot shows.snapshot
  windows := .of_agrees accounts shows.windows
  observed := by rw [accounts.accounts, shows.observed]
  mapped := by rw [snapshot.mapped, shows.mapped]

/-- **An elementary step changes the cache as its own event, if it is one, changes the view.** -/
theorem accountStep (plain : HoldsNoSlash ns)
    (shows : Shows settings source (.ofNames ns name) view cache) {step : AccountStep}
    (plainStep : step.InPlainNamespace) :
    Shows settings source (.ofNames ns name)
      ((step.own? ns name).toList.foldl (after settings) view) (cache.accountStep step) := by
  have observed : (cache.accountStep step).accounts.get? (.ofNames ns name) =
      ((step.own? ns name).toList.foldl (after settings) view).observed := by
    rw [cache.get?_accounts_accountStep, observed_step plain plainStep, shows.snapshot.settings,
      shows.observed]
  have windows := shows.windows.accountStep step
  by_cases empties : step = .clear
  · subst empties
    exact ⟨(shows.snapshot.perform .clear).1, windows, observed, rfl⟩
  · have agree := cache.agreesOnSnapshot_accountStep step empties
    refine ⟨shows.snapshot.of_agrees agree, windows, observed, ?_⟩
    rw [agree.mapped, shows.mapped, mapped_step empties]

theorem afterSteps (plain : HoldsNoSlash ns)
    (shows : Shows settings source (.ofNames ns name) view cache) {steps : List AccountStep}
    (plainSteps : ∀ step ∈ steps, step.InPlainNamespace) :
    Shows settings source (.ofNames ns name)
      ((steps.filterMap (AccountStep.own? ns name)).foldl (after settings) view)
      (cache.afterSteps steps) := by
  induction steps generalizing view cache with
  | nil => exact shows
  | cons step steps ih =>
    obtain ⟨here, later⟩ := List.forall_mem_cons.mp plainSteps
    have final := ih (shows.accountStep plain here) later
    rw [List.filterMap_cons]
    cases own : step.own? ns name <;> rw [own] at final <;> exact final

/-- **A delivered ConfigMap changes the cache as its own event, if it is one, changes the view.** -/
theorem applyMap {key : CacheKey} (shows : Shows settings source key view cache)
    (map : ConfigMap) :
    Shows settings source key
      ((snapshotEvent? source key map).toList.foldl (after settings) view)
      (cache.applyMap map).1 := by
  have accounts := cache.agreesOnAccounts_applyMap map
  have windows := shows.windows.of_agrees accounts
  have observed := (congrArg (·.get? key) accounts.accounts).trans shows.observed
  obtain ⟨snapshot, kept⟩ := shows.snapshot.applyMap map
  have before := shows.snapshot.get?_mapped key
  have mapped := snapshot.get?_mapped key
  unfold snapshotEvent?
  cases taken : takenSnapshot? source map with
  | none =>
    refine ⟨snapshot, windows, observed, ?_⟩
    rw [mapped, kept, MapStep.decides, taken]
    exact before.symm.trans shows.mapped
  | some table =>
    refine ⟨snapshot, windows, observed, ?_⟩
    rw [mapped, kept, MapStep.decides, taken]
    simp only [Option.isSome_some, if_true, Option.bind_some, ConfigMap.entryOf?,
      readable_of_takenSnapshot? taken]
    rfl

theorem applyMaps {key : CacheKey} (shows : Shows settings source key view cache)
    (maps : List ConfigMap) :
    Shows settings source key
      ((maps.filterMap (snapshotEvent? source key)).foldl (after settings) view)
      (Cache.forEach Cache.applyMap cache maps).1 := by
  induction maps generalizing view cache with
  | nil => exact shows
  | cons map maps ih =>
    have final := ih (shows.applyMap map)
    rw [List.filterMap_cons]
    cases own : snapshotEvent? source key map <;> rw [own] at final <;> exact final

/-- **An operation changes the cache as its own events change the view.** -/
theorem perform (plain : HoldsNoSlash ns)
    (shows : Shows settings source (.ofNames ns name) view cache) {operation : Operation}
    (plainSteps : ∀ step ∈ operation.accountSteps, step.InPlainNamespace) :
    Shows settings source (.ofNames ns name)
      ((operation.ownEvents source ns name).foldl (after settings) view)
      (cache.perform operation).1 := by
  have stepped := shows.afterSteps plain plainSteps
  rw [Operation.ownEvents, List.foldl_append]
  cases operation with
  | get | applyAccount | deleteAccount | deleteMap | clear => exact stepped
  | takeRequest | closeQueue => exact shows.of_agrees ⟨rfl, rfl, rfl, rfl⟩ ⟨rfl, rfl, rfl, rfl⟩
  | resetAccounts accounts removed =>
    rw [Cache.perform, Cache.resetAccounts_fst]
    exact stepped.of_agrees ⟨rfl, rfl, rfl, rfl⟩ ⟨rfl, rfl, rfl, rfl⟩
  | completeFetch outcome =>
    cases outcome with
    | account found =>
      rw [Cache.perform, Cache.complete_account_fst]
      exact stepped
    | missing | failed => exact stepped
  | applyMap map => exact shows.applyMaps [map]
  | resetMaps maps =>
    exact (shows.applyMaps maps).of_agrees ⟨rfl, rfl, rfl, rfl⟩ ⟨rfl, rfl, rfl, rfl⟩

/-- **A run changes the cache as the account's own history changes the view.** -/
theorem run (plain : HoldsNoSlash ns)
    (shows : Shows settings source (.ofNames ns name) view cache) {run : List Operation}
    (plainRun : InPlainNamespaces run) :
    Shows settings source (.ofNames ns name)
      ((ownHistory source ns name run).foldl (after settings) view) (cache.after run) := by
  induction run generalizing view cache with
  | nil => exact shows
  | cons operation run ih =>
    obtain ⟨here, later⟩ := List.forall_mem_cons.mp plainRun
    rw [ownHistory, List.flatMap_cons, List.foldl_append]
    exact ih (shows.perform plain here) later

end Shows

end AccountView

/-! ## Questions and replies -/

/-- The question that an operation puts for the account with the given names. -/
def Operation.questionFor? (ns name : String) : Operation → Option Request
  | .get request => if request.ns = ns ∧ request.name = name then some request else none
  | .applyAccount _ | .deleteAccount _ | .resetAccounts _ _ | .completeFetch _ | .applyMap _
  | .deleteMap _ _ | .resetMaps _ | .clear | .takeRequest | .closeQueue => none

/-- The responses to the questions for an account, in the order in which they are put. -/
def Cache.responsesFor (ns name : String) (cache : Cache) : List Operation → List Response
  | [] => []
  | operation :: run =>
    ((operation.questionFor? ns name).map fun request => (cache.get request).2.1).toList ++
      responsesFor ns name (cache.perform operation).1 run

/-- A response as it is seen later: what was answered, and whether the notifier that it came with,
if any, has been fired. -/
def Response.seenBy (cache : Cache) (response : Response) : Answer × Option Bool :=
  (response.answer, response.notifier.map cache.signals.isFired)

section Replies

variable {settings : Settings} {source : Option WatchedMap} {ns name : String}

theorem snapshot_of_snapshotEvent? {key : CacheKey} {map : ConfigMap} {event : OwnEvent}
    (isEvent : snapshotEvent? source key map = some event) :
    ∃ written, event = .snapshot written := by
  obtain ⟨snapshot, -, rfl⟩ := Option.map_eq_some_iff.mp isEvent
  exact ⟨_, rfl⟩

theorem AccountStep.isDelivery_iff (plain : HoldsNoSlash ns) {step : AccountStep}
    (plainStep : step.InPlainNamespace) :
    (∃ event, step.own? ns name = some event ∧ event.isDelivery = true) ↔
      step.written? = some (.ofNames ns name) := by
  cases step with
  | apply account =>
    rw [written?, account.key?_eq_names?, map_key_eq_iff plain plainStep, own?]
    split
    · rename_i isOwn
      simp [isOwn, OwnEvent.isDelivery]
    · rename_i other
      simp [other]
  | query request | delete deletion =>
    rw [own?]
    split <;> simp [written?, OwnEvent.isDelivery]
  | clear => simp [own?, written?, OwnEvent.isDelivery]

/-- An operation delivers an account if it writes the account's entry. -/
theorem Operation.any_isDelivery_iff (plain : HoldsNoSlash ns) {operation : Operation}
    (plainSteps : ∀ step ∈ operation.accountSteps, step.InPlainNamespace) :
    (operation.ownEvents source ns name).any OwnEvent.isDelivery = true ↔
      operation.Writes (.ofNames ns name) := by
  simp only [Operation.ownEvents, List.any_eq_true, List.mem_append, List.mem_filterMap]
  constructor
  · rintro ⟨event, ⟨step, member, isOwn⟩ | ⟨map, -, isEvent⟩, delivers⟩
    · exact ⟨step, member,
        (AccountStep.isDelivery_iff plain (plainSteps step member)).mp ⟨event, isOwn, delivers⟩⟩
    · obtain ⟨written, rfl⟩ := snapshot_of_snapshotEvent? isEvent
      cases delivers
  · rintro ⟨step, member, writes⟩
    obtain ⟨event, isOwn, delivers⟩ :=
      (AccountStep.isDelivery_iff plain (plainSteps step member)).mpr writes
    exact ⟨event, .inl ⟨step, member, isOwn⟩, delivers⟩

/-- An operation puts a question for an account, or none of its events is one. -/
theorem Operation.asks_or_noQuestion (source : Option WatchedMap) (ns name : String)
    (operation : Operation) :
    (∃ notify, operation = .get ⟨ns, name, notify⟩) ∨
      operation.questionFor? ns name = none ∧
        ∀ event ∈ operation.ownEvents source ns name, ∀ notify, event ≠ .query notify := by
  by_cases asks : ∃ notify, operation = .get ⟨ns, name, notify⟩
  · exact .inl asks
  · refine .inr ⟨?_, fun event member notify isQuery => ?_⟩
    · cases operation with
      | get request => exact if_neg fun own => asks ⟨request.notify, by rw [← own.1, ← own.2]⟩
      | _ => rfl
    · subst isQuery
      rcases List.mem_append.mp member with account | snapshot
      · obtain ⟨step, among, isOwn⟩ := List.mem_filterMap.mp account
        cases step with
        | query request =>
          obtain rfl := eq_get_of_query_mem among
          rw [AccountStep.own?] at isOwn
          split at isOwn
          · rename_i own
            exact asks ⟨request.notify, by rw [← own.1, ← own.2]⟩
          · cases isOwn
        | apply account | delete deletion =>
          rw [AccountStep.own?] at isOwn
          split at isOwn <;> cases isOwn
        | clear => cases isOwn
      · obtain ⟨map, -, isEvent⟩ := List.mem_filterMap.mp snapshot
        obtain ⟨written, same⟩ := snapshot_of_snapshotEvent? isEvent
        cases same

/-- The deliveries in an account's own history are the writes of its entry. -/
theorem any_isDelivery_iff (plain : HoldsNoSlash ns) {run : List Operation}
    (plainRun : InPlainNamespaces run) :
    (ownHistory source ns name run).any OwnEvent.isDelivery = true ↔
      ∃ operation ∈ run, operation.Writes (.ofNames ns name) := by
  rw [ownHistory, List.any_flatMap, List.any_eq_true]
  constructor
  · rintro ⟨operation, member, delivers⟩
    exact ⟨operation, member,
      (Operation.any_isDelivery_iff plain (plainRun operation member)).mp delivers⟩
  · rintro ⟨operation, member, writes⟩
    exact ⟨operation, member,
      (Operation.any_isDelivery_iff plain (plainRun operation member)).mpr writes⟩

theorem AccountView.replies_append (view : AccountView) {events : List OwnEvent}
    (noQuestion : ∀ event ∈ events, ∀ notify, event ≠ .query notify) (later : List OwnEvent) :
    view.replies settings (events ++ later) =
      (events.foldl (after settings) view).replies settings later := by
  induction events generalizing view with
  | nil => rfl
  | cons event events ih =>
    obtain ⟨here, rest⟩ := List.forall_mem_cons.mp noQuestion
    rw [List.cons_append, replies, ih _ rest]
    cases event with
    | query notify => exact absurd rfl (here notify)
    | apply annotations | delete | snapshot written | clear => rfl

/-- **A question is replied to as the view says.** -/
theorem AccountView.Shows.seenBy_get (plain : HoldsNoSlash ns) {view : AccountView} {cache : Cache}
    (shows : Shows settings source (.ofNames ns name) view cache) (notify : Bool)
    {run : List Operation} (plainRun : InPlainNamespaces run) :
    (cache.get ⟨ns, name, notify⟩).2.1.seenBy (cache.after (.get ⟨ns, name, notify⟩ :: run)) =
      (view.answer settings,
        if notify = true ∧ view.observed = none then
          some ((ownHistory source ns name run).any OwnEvent.isDelivery)
        else none) := by
  have answer : cache.answer (.ofNames ns name) = view.answer settings := by
    rw [Cache.answer_eq, shows.observed, shows.mapped, shows.snapshot.settings]
    rfl
  have asks : cache.subscribes ⟨ns, name, notify⟩ ↔ notify = true ∧ view.observed = none := by
    rw [← shows.observed]
    rfl
  have notifier := cache.get_notifier ⟨ns, name, notify⟩
  rw [Response.seenBy, cache.get_answer, Request.key, answer]
  by_cases subscribes : cache.subscribes ⟨ns, name, notify⟩
  · obtain ⟨signal, handed⟩ : ∃ signal, cache.HandsOut ⟨ns, name, notify⟩ signal :=
      ⟨_, notifier.trans (if_pos subscribes)⟩
    have fired : (cache.after (.get ⟨ns, name, notify⟩ :: run)).signals.isFired signal =
        (ownHistory source ns name run).any OwnEvent.isDelivery := by
      rw [Bool.eq_iff_iff, SignalLedger.isFired_iff, any_isDelivery_iff plain plainRun]
      exact (handed.fate shows.windows run).1
    rw [show _ = some signal from handed, if_pos (asks.mp subscribes), Option.map_some, fired]
  · rw [notifier, if_neg subscribes, if_neg (mt asks.mpr subscribes), Option.map_none]

/-- **The responses of a run are the replies of the account's own history.** -/
theorem AccountView.Shows.responses (plain : HoldsNoSlash ns) {view : AccountView} {cache : Cache}
    (shows : Shows settings source (.ofNames ns name) view cache) {run : List Operation}
    (plainRun : InPlainNamespaces run) :
    (cache.responsesFor ns name run).map (Response.seenBy (cache.after run)) =
      view.replies settings (ownHistory source ns name run) := by
  induction run generalizing view cache with
  | nil => rfl
  | cons operation run ih =>
    obtain ⟨here, later⟩ := List.forall_mem_cons.mp plainRun
    have rest := ih (shows.perform plain here) later
    rw [ownHistory, List.flatMap_cons]
    rcases operation.asks_or_noQuestion source ns name with ⟨notify, rfl⟩ | ⟨none, noQuestion⟩
    · have reply := shows.seenBy_get plain notify later
      have own : (Operation.get ⟨ns, name, notify⟩).ownEvents source ns name = [.query notify] := by
        simp [Operation.ownEvents, Operation.accountSteps, Operation.deliveredMaps,
          AccountStep.own?]
      have asked : (Operation.get ⟨ns, name, notify⟩).questionFor? ns name =
          some ⟨ns, name, notify⟩ := if_pos ⟨rfl, rfl⟩
      rw [own] at rest ⊢
      rw [Cache.responsesFor, asked]
      exact List.cons_eq_cons.mpr ⟨reply, rest⟩
    · rw [replies_append view noQuestion, Cache.responsesFor, none]
      exact rest

end Replies

/-! ## The main statement -/

/-- **Accounts are kept apart.**  Let two runs of the same new cache have the same history of one
account: its deliveries, its deletions and the questions for it, what every snapshot that was taken
in has of it, and when the cache was emptied, all in the same order.  Then whatever else the runs
do, and however it is interleaved, as long as neither delivers or deletes an account in a namespace
with a slash, the two caches say the same of the account: to a query with every field of the answer
and whether a notifier comes with it, on the choice of endpoint and the lifetime, on what was
observed and on what the snapshot has.  The responses to the questions for the account along the way
were the same too, and of the notifiers that came with them the same ones have been fired.  Since a
run may end anywhere, this compares the two at every point up to which the account's history is the
same. -/
theorem accounts_are_separate (settings : Settings) (source : Option WatchedMap)
    (queue : Option RefreshQueue) {ns name : String} (plain : HoldsNoSlash ns)
    {run other : List Operation} (plainRun : InPlainNamespaces run)
    (plainOther : InPlainNamespaces other)
    (same : ownHistory source ns name run = ownHistory source ns name other) :
    let start := Cache.new settings source queue
    let cache := start.after run
    let cacheToo := start.after other
    let key := CacheKey.ofNames ns name
    (∀ notify,
      (cache.get ⟨ns, name, notify⟩).2.1.answer = (cacheToo.get ⟨ns, name, notify⟩).2.1.answer ∧
      (cache.get ⟨ns, name, notify⟩).2.1.notifier.isSome =
        (cacheToo.get ⟨ns, name, notify⟩).2.1.notifier.isSome) ∧
    cache.common key = cacheToo.common key ∧
    cache.observed? key = cacheToo.observed? key ∧
    cache.mapped.get? key = cacheToo.mapped.get? key ∧
    (start.responsesFor ns name run).map (Response.seenBy cache) =
      (start.responsesFor ns name other).map (Response.seenBy cacheToo) := by
  intro start cache cacheToo key
  have new : AccountView.Shows settings source key ⟨none, none⟩ start := .start _ _ queue _
  have shows := new.run plain plainRun
  have showsToo := new.run plain plainOther
  rw [← same] at showsToo
  have accounts : cache.accounts.get? key = cacheToo.accounts.get? key :=
    shows.observed.trans showsToo.observed.symm
  have mapped : cache.mapped.get? key = cacheToo.mapped.get? key :=
    shows.mapped.trans showsToo.mapped.symm
  have settingsToo : cache.settings = cacheToo.settings :=
    shows.snapshot.settings.trans showsToo.snapshot.settings.symm
  refine ⟨fun notify => ⟨?_, ?_⟩, ?_, ?_, mapped, ?_⟩
  · rw [Cache.get_answer, Cache.get_answer, Request.key, Cache.answer_eq, Cache.answer_eq, accounts,
      mapped, settingsToo]
  · rw [Cache.get_notifier, Cache.get_notifier]
    have asks : cache.subscribes ⟨ns, name, notify⟩ ↔ cacheToo.subscribes ⟨ns, name, notify⟩ := by
      rw [Cache.subscribes, Cache.subscribes, Request.key, accounts]
    by_cases subscribes : cache.subscribes ⟨ns, name, notify⟩
    · rw [if_pos subscribes, if_pos (asks.mp subscribes)]
      rfl
    · rw [if_neg subscribes, if_neg (mt asks.mpr subscribes)]
  · rw [Cache.common_eq, Cache.common_eq, accounts, mapped, settingsToo]
  · rw [Cache.observed?, Cache.observed?, accounts]
  · rw [new.responses plain plainRun, new.responses plain plainOther, same]

/-- A relist and a fetch that deliver the same object are alike to the account, whatever happens to
others in between. -/
theorem others_make_no_difference :
    let watched : WatchedMap := ⟨"ns", "map"⟩
    let map (text : String) : ConfigMap :=
      { ns := some "ns", name := some "map", data := [("config", text)] }
    let account (name : String) : ServiceAccount := { ns := some "ns", name := some name }
    let start := Cache.new {} (some watched) none
    let run : List Operation :=
      [.get ⟨"ns", "sa", true⟩, .applyMap (map "\x7b\"ns/sa\":\x7b\x7d,\"ns/other\":\x7b\x7d\x7d"),
        .get ⟨"ns", "sa", false⟩, .resetAccounts [account "other", account "sa"] [("ns", "gone")]]
    let other : List Operation :=
      [.applyAccount (account "third"), .get ⟨"ns", "other", true⟩, .get ⟨"ns", "sa", true⟩,
        .applyMap (map "["), .applyMap (map "\x7b\"ns/sa\":\x7b\x7d\x7d"), .get ⟨"ns", "sa", false⟩,
        .deleteAccount (.tombstone (some "ns") "third"), .completeFetch (.account (account "sa"))]
    ownHistory (some watched) "ns" "sa" run =
        [.query true, .snapshot (some {}), .query false, .apply []] ∧
      (start.responsesFor "ns" "sa" run).map (Response.seenBy (start.after run)) =
        (start.responsesFor "ns" "sa" other).map (Response.seenBy (start.after other)) := by
  intro watched map account start run other
  have history : ownHistory (some watched) "ns" "sa" run =
      [.query true, .snapshot (some {}), .query false, .apply []] := by decide
  have same : ownHistory (some watched) "ns" "sa" run =
      ownHistory (some watched) "ns" "sa" other := by
    decide
  exact ⟨history, (accounts_are_separate {} (some watched) none (by decide) (by decide) (by decide)
    same).2.2.2.2⟩

/-- A slash in a namespace lets one account answer for another. -/
example : ((Cache.new {} none none).after
    [.applyAccount { ns := some "a/b", name := some "c" }]).accounts.get? (.ofNames "a" "b/c") =
      some (.ofAnnotations {} []) := by
  decide

end IdentityCache
