import IdentityCache.Proofs.RefreshWork
import IdentityCache.Proofs.WaitingCalls

/-!
# Fetches that have become stale

The service does not see the accounts at the API server but reports of them.  The watch reports
every change, in order and late; a fetch reads an account at one moment and is completed at a
later one.  A `Cluster` is the service together with the changes that have been made, how many of
them the watch has delivered and what each fetch has read.

Nothing that the service keeps tells which of two reports is newer, so the last one to arrive
counts.  A fetch that is completed after the watch has delivered a newer change records what it
has read all the same: it replaces a newer entry, or brings back an account that is gone
(`stale_fetch_brings_back_a_deleted_account`).  Only then is anything undone, and only until the
next report on the account.  The main statement is `last_report_counts`.
-/

namespace IdentityCache

set_option autoImplicit false

/-! ## Changes at the API server -/

/-- A change of an account at the API server. -/
inductive AccountChange
  | put (account : ServiceAccount)
  | remove (ns name : String)

namespace AccountChange

/-- Whether a change is one of the account with the given names. -/
def isOf (ns name : String) : AccountChange → Bool
  | .put account => account.ns = some ns && account.name = some name
  | .remove goneNs goneName => goneNs = ns && goneName = name

/-- The account that a change leaves. -/
def account? : AccountChange → Option ServiceAccount
  | .put account => some account
  | .remove _ _ => none

/-- The key of the account that a change is of. -/
def key? : AccountChange → Option CacheKey
  | .put account => account.key?
  | .remove ns name => CacheKey.ofNames? (some ns) (some name)

/-- What the watch makes of a change. -/
def report : AccountChange → Operation
  | .put account => .applyAccount account
  | .remove ns name => .deleteAccount (.tombstone (some ns) name)

/-- The account that the API server holds under names after several changes. -/
def stored? (changes : List AccountChange) (ns name : String) : Option ServiceAccount :=
  latestOr (isOf ns name) account? none changes

/-- What the API server holds under names has these names. -/
theorem names_of_stored? {changes : List AccountChange} {ns name : String}
    {found : ServiceAccount} (stored : stored? changes ns name = some found) :
    found.ns = some ns ∧ found.name = some name := by
  unfold stored? latestOr at stored
  cases latest : changes.reverse.find? (isOf ns name) with
  | none =>
    rw [latest] at stored
    cases stored
  | some change =>
    rw [latest] at stored
    have isIts := List.find?_some latest
    cases change with
    | put account =>
      cases stored
      simpa [isOf] using isIts
    | remove => cases stored

/-- Changes of other accounts leave what the API server holds. -/
theorem stored?_append_of_others {changes more : List AccountChange} {ns name : String}
    (others : ∀ change ∈ more, change.isOf ns name = false) :
    stored? (changes ++ more) ns name = stored? changes ns name := by
  have none : more.reverse.find? (isOf ns name) = none := by
    rw [List.find?_eq_none]
    intro change among
    rw [others change (List.mem_reverse.mp among)]
    exact Bool.false_ne_true
  rw [stored?, latestOr_append, latestOr, none]
  rfl

/-- If no change of an account was delivered that was made after so many changes, then what the API
server held after these is what it held after all that have been delivered as well. -/
theorem stored?_take_max {changes : List AccountChange} {ns name : String}
    {revision delivered : Nat} (others : ∀ place change, revision ≤ place → place < delivered →
      changes[place]? = some change → change.isOf ns name = false) :
    stored? (changes.take (max revision delivered)) ns name =
      stored? (changes.take revision) ns name := by
  rcases Nat.le_total delivered revision with behind | ahead
  · rw [Nat.max_eq_left behind]
  · rw [Nat.max_eq_right ahead, ← List.take_append_drop revision (changes.take delivered),
      List.take_take, Nat.min_eq_left ahead]
    refine stored?_append_of_others fun change among => ?_
    obtain ⟨place, found⟩ := List.mem_iff_getElem?.mp among
    rw [List.getElem?_drop, List.getElem?_take] at found
    split at found
    · rename_i early
      exact others (revision + place) change (Nat.le_add_right _ _) early found
    · cases found

end AccountChange

/-- What a fetch finds that reads the given account, unless it fails. -/
def FetchOutcome.ofStored : Option ServiceAccount → FetchOutcome
  | some found => .account found
  | none => .missing

/-! ## The service and the API server -/

/-- A service and the accounts at the API server. -/
structure Cluster where
  service : Service
  /-- The changes at the API server, in order. -/
  changes : List AccountChange := []
  /-- How many of the changes the watch has delivered. -/
  delivered : Nat := 0
  /-- The fetches that have read their account, each with the number of changes made before. -/
  reads : List (Nat × Nat) := []

/-- What may happen next. -/
inductive ClusterStep
  /-- An account is changed at the API server. -/
  | change (change : AccountChange)
  /-- The watch delivers the next change. -/
  | deliver
  /-- The fetch of a number reads its account. -/
  | read (number : Nat)
  | happening (happening : Happening)

namespace Cluster

/-- The request of the fetch of a number. -/
def request? (cluster : Cluster) (number : Nat) : Option Request :=
  cluster.service.workers.head?.bind fun worker => (worker.log[number]?).map Prod.fst

/-- The fetch of a number, if it runs. -/
def running? (cluster : Cluster) (number : Nat) : Option RunningFetch :=
  cluster.service.workers.head?.bind fun worker =>
    worker.running.find? fun fetch => fetch.number = number

/-- Whether a fetch that reads now can have the given outcome: it finds what the API server holds,
or fails. -/
def mayRead (cluster : Cluster) (request : Request) (outcome : FetchOutcome) : Bool :=
  outcome = .failed ||
    outcome = .ofStored (AccountChange.stored? cluster.changes request.ns request.name)

/-- The cluster after a step and what has thereby happened to the service.  A fetch reads once,
after it has begun and before it is completed. -/
def step? (cluster : Cluster) : ClusterStep → Option (Cluster × List Happening)
  | .change change => some ({ cluster with changes := cluster.changes ++ [change] }, [])
  | .deliver =>
    (cluster.changes[cluster.delivered]?).bind fun change =>
      (cluster.service.happen? (.operation change.report)).map fun (service, _) =>
        ({ cluster with service, delivered := cluster.delivered + 1 }, [.operation change.report])
  | .read number =>
    match cluster.running? number, cluster.request? number, cluster.reads.lookup number with
    | some fetch, some request, none =>
      if cluster.mayRead request fetch.outcome then
        some ({ cluster with reads := (number, cluster.changes.length) :: cluster.reads }, [])
      else none
    | _, _, _ => none
  | .happening happening =>
    if happening.completed?.all fun number => (cluster.reads.lookup number).isSome then
      (cluster.service.happen? happening).map fun (service, _) =>
        ({ cluster with service }, [happening])
    else none

/-- The cluster after several steps and what has happened to the service. -/
def run? (cluster : Cluster) : List ClusterStep → Option (Cluster × List Happening)
  | [] => some (cluster, [])
  | step :: later =>
    (cluster.step? step).bind fun (next, happened) =>
      (next.run? later).map fun (final, more) => (final, happened ++ more)

theorem run?_cons_eq_some {cluster final : Cluster} {step : ClusterStep} {later : List ClusterStep}
    {happened : List Happening} :
    cluster.run? (step :: later) = some (final, happened) ↔
      ∃ next first more, cluster.step? step = some (next, first) ∧
        next.run? later = some (final, more) ∧ happened = first ++ more := by
  rw [run?]
  constructor
  · intro reached
    obtain ⟨⟨next, first⟩, stepped, went⟩ := Option.bind_eq_some_iff.mp reached
    obtain ⟨⟨last, more⟩, rest, same⟩ := Option.map_eq_some_iff.mp went
    cases same
    exact ⟨next, first, more, stepped, rest, rfl⟩
  · rintro ⟨next, first, more, stepped, rest, rfl⟩
    rw [stepped, Option.bind_some]
    dsimp only
    rw [rest]
    rfl

/-- What a step does to the service happens to it. -/
theorem run?_service_of_step {cluster next : Cluster} {step : ClusterStep}
    {happened : List Happening} (stepped : cluster.step? step = some (next, happened)) :
    ∃ events, cluster.service.run? happened = some (next.service, events) := by
  cases step with
  | change change =>
    cases stepped
    exact ⟨[], rfl⟩
  | deliver =>
    obtain ⟨change, -, made⟩ := Option.bind_eq_some_iff.mp stepped
    obtain ⟨⟨service, events⟩, delivered, same⟩ := Option.map_eq_some_iff.mp made
    cases same
    exact ⟨events, Service.run?_singleton_eq_some.mpr delivered⟩
  | read number =>
    rw [step?] at stepped
    split at stepped
    · split at stepped
      · cases stepped
        exact ⟨[], rfl⟩
      · cases stepped
    · cases stepped
  | happening happening =>
    rw [step?] at stepped
    split at stepped
    · obtain ⟨⟨service, events⟩, made, same⟩ := Option.map_eq_some_iff.mp stepped
      cases same
      exact ⟨events, Service.run?_singleton_eq_some.mpr made⟩
    · cases stepped

/-- What several steps do to the service happens to it. -/
theorem run?_service {cluster final : Cluster} {steps : List ClusterStep}
    {happened : List Happening} (reached : cluster.run? steps = some (final, happened)) :
    ∃ events, cluster.service.run? happened = some (final.service, events) := by
  induction steps generalizing cluster happened with
  | nil =>
    cases reached
    exact ⟨[], rfl⟩
  | cons step steps ih =>
    obtain ⟨next, first, more, stepped, went, rfl⟩ := run?_cons_eq_some.mp reached
    obtain ⟨events, here⟩ := run?_service_of_step stepped
    obtain ⟨others, later⟩ := ih went
    exact ⟨events ++ others,
      Service.run?_append_eq_some.mpr ⟨next.service, events, others, here, later, rfl⟩⟩

theorem logged_of_request? {cluster : Cluster} {worker : RefreshWorker} {number : Nat}
    {request : Request} (only : cluster.service.workers = [worker])
    (logged : cluster.request? number = some request) :
    ∃ began, worker.log[number]? = some (request, began) := by
  rw [request?, only, List.head?_cons, Option.bind_some] at logged
  obtain ⟨⟨asked, began⟩, found, rfl⟩ := Option.map_eq_some_iff.mp logged
  exact ⟨began, found⟩

theorem mem_of_running? {cluster : Cluster} {worker : RefreshWorker} {number : Nat}
    {fetch : RunningFetch} (only : cluster.service.workers = [worker])
    (runs : cluster.running? number = some fetch) :
    fetch ∈ worker.running ∧ fetch.number = number := by
  rw [running?, only, List.head?_cons, Option.bind_some] at runs
  have numbered := List.find?_some runs
  simp only [decide_eq_true_eq] at numbered
  exact ⟨List.mem_of_find?_eq_some runs, numbered⟩

/-- Settings never change. -/
theorem settings_run {cluster final : Cluster} {worker : RefreshWorker} {steps : List ClusterStep}
    {happened : List Happening} (only : cluster.service.workers = [worker])
    (reached : cluster.run? steps = some (final, happened)) :
    final.service.cache.settings = cluster.service.cache.settings := by
  obtain ⟨events, went⟩ := run?_service reached
  exact Service.settings_of_run only went

/-! ## What the fetches have read -/

/-- What has been read agrees with what is found: the fetch of a request that has read after some of
the changes finds what these have left, unless it fails. -/
structure ReadsInOrder (queue : RefreshQueue) (fetcher : Fetcher) (run : List Happening)
    (events : List Event) (cluster : Cluster) : Prop where
  atWork : ∃ worker, AtWork queue fetcher run events cluster.service worker
  reads : ∀ number revision, cluster.reads.lookup number = some revision →
    revision ≤ cluster.changes.length ∧ ∃ request,
      (queue.waiting ++ events.filterMap Event.queued?)[number]? = some request ∧
        ((fetcher number request).outcome = .failed ∨ (fetcher number request).outcome =
          .ofStored (AccountChange.stored? (cluster.changes.take revision) request.ns request.name))

namespace ReadsInOrder

variable {queue : RefreshQueue} {fetcher : Fetcher} {run : List Happening} {events : List Event}
  {cluster next : Cluster}

theorem start (base : Service) (queue : RefreshQueue) (fetcher : Fetcher)
    (changes : List AccountChange) (delivered : Nat) :
    ReadsInOrder queue fetcher [] []
      { service := base.withWorker queue fetcher, changes, delivered } where
  atWork := ⟨_, .start base queue fetcher⟩
  reads number revision read := by cases read

/-- What happens to the service alone changes nothing that was read. -/
theorem of_happen (order : ReadsInOrder queue fetcher run events cluster) {happening : Happening}
    {more : List Event} (happened :
      cluster.service.happen? happening = some (next.service, more))
    (sameReads : next.reads = cluster.reads) (sameChanges : next.changes = cluster.changes) :
    ReadsInOrder queue fetcher (run ++ [happening]) (events ++ more) next := by
  obtain ⟨worker, atWork⟩ := order.atWork
  refine ⟨atWork.happen happened, fun number revision read => ?_⟩
  rw [sameReads] at read
  obtain ⟨early, request, asked, found⟩ := order.reads number revision read
  rw [sameChanges]
  exact ⟨early, request, getElem?_queued_append asked more, found⟩

/-- **Every step keeps what was read in order.** -/
theorem step (order : ReadsInOrder queue fetcher run events cluster) {step : ClusterStep}
    {happened : List Happening} (stepped : cluster.step? step = some (next, happened)) :
    ∃ more, ReadsInOrder queue fetcher (run ++ happened) (events ++ more) next := by
  cases step with
  | change change =>
    cases stepped
    refine ⟨[], ?_⟩
    rw [List.append_nil, List.append_nil]
    refine ⟨order.atWork, fun number revision read => ?_⟩
    obtain ⟨early, request, asked, found⟩ := order.reads number revision read
    refine ⟨?_, request, asked, ?_⟩
    · rw [List.length_append]
      exact Nat.le_trans early (Nat.le_add_right _ _)
    · rw [List.take_append_of_le_length early]
      exact found
  | deliver =>
    obtain ⟨change, -, made⟩ := Option.bind_eq_some_iff.mp stepped
    obtain ⟨⟨service, more⟩, delivered, same⟩ := Option.map_eq_some_iff.mp made
    cases same
    exact ⟨more, order.of_happen delivered rfl rfl⟩
  | read number =>
    rw [step?] at stepped
    split at stepped
    · rename_i fetch request runs logged unread
      split at stepped
      · rename_i may
        cases stepped
        refine ⟨[], ?_⟩
        rw [List.append_nil, List.append_nil]
        refine ⟨order.atWork, fun other revision read => ?_⟩
        rw [List.lookup_cons] at read
        split at read
        · rename_i same
          cases read
          obtain rfl := beq_iff_eq.mp same
          obtain ⟨worker, atWork⟩ := order.atWork
          obtain ⟨began, isRequest⟩ := logged_of_request? atWork.only logged
          obtain ⟨among, numbered⟩ := mem_of_running? atWork.only runs
          obtain ⟨asked, _, isRequestToo, outcome, -⟩ := atWork.running fetch among
          rw [numbered, isRequest] at isRequestToo
          cases isRequestToo
          rw [numbered] at outcome
          refine ⟨Nat.le_refl _, request, atWork.getElem?_asked isRequest, ?_⟩
          rw [List.take_length, ← outcome]
          simpa [mayRead] using may
        · exact order.reads other revision read
      · cases stepped
    · cases stepped
  | happening happening =>
    rw [step?] at stepped
    split at stepped
    · obtain ⟨⟨service, more⟩, made, same⟩ := Option.map_eq_some_iff.mp stepped
      cases same
      exact ⟨more, order.of_happen made rfl rfl⟩
    · cases stepped

end ReadsInOrder

/-- **After every run what was read is in order.** -/
theorem ReadsInOrder.of_run {queue : RefreshQueue} {fetcher : Fetcher} {run more : List Happening}
    {events : List Event} {cluster final : Cluster} {steps : List ClusterStep}
    (order : ReadsInOrder queue fetcher run events cluster)
    (reached : cluster.run? steps = some (final, more)) :
    ∃ others, ReadsInOrder queue fetcher (run ++ more) (events ++ others) final := by
  induction steps generalizing cluster run events more with
  | nil =>
    cases reached
    refine ⟨[], ?_⟩
    rw [List.append_nil, List.append_nil]
    exact order
  | cons step steps ih =>
    obtain ⟨next, first, rest, stepped, went, rfl⟩ := run?_cons_eq_some.mp reached
    obtain ⟨here, stillInOrder⟩ := order.step stepped
    obtain ⟨later, inOrder⟩ := ih stillInOrder went
    refine ⟨here ++ later, ?_⟩
    rw [← List.append_assoc, ← List.append_assoc]
    exact inOrder

end Cluster

/-! ## What a report leaves -/

/-- The entry of an account, if there is one. -/
def Settings.entryOf (settings : Settings) (account? : Option ServiceAccount) : Option Entry :=
  account?.map fun account => .ofAnnotations settings account.annotations

namespace Cache

/-- A change that the watch delivers decides what is observed of its account. -/
theorem get?_accounts_report (cache : Cache) {change : AccountChange} {key : CacheKey}
    (identified : change.key? = some key) :
    (cache.perform change.report).1.accounts.get? key =
      cache.settings.entryOf change.account? := by
  cases change with
  | put account =>
    have decides : (AccountStep.apply account).decides key = true := decide_eq_true identified
    exact (cache.get?_accounts_accountStep (.apply account) key).trans (if_pos decides)
  | remove ns name =>
    have decides : (AccountStep.delete (.tombstone (some ns) name)).decides key = true :=
      decide_eq_true identified
    exact (cache.get?_accounts_accountStep (.delete (.tombstone (some ns) name)) key).trans
      (if_pos decides)

/-- A fetch that finds what the API server holds records its entry, whatever was there. -/
theorem get?_accounts_complete_ofStored (cache : Cache) {stored : Option ServiceAccount}
    {key : CacheKey} (identified : (FetchOutcome.ofStored stored).key? = some key) :
    ((FetchOutcome.ofStored stored).complete cache).1.accounts.get? key =
      cache.settings.entryOf stored := by
  cases stored with
  | none => cases identified
  | some found =>
    have decides : (AccountStep.apply found).decides key = true := decide_eq_true identified
    rw [FetchOutcome.ofStored, complete_account_fst]
    exact (cache.get?_accounts_accountStep (.apply found) key).trans (if_pos decides)

end Cache

/-- What a fetch has read under names is recorded under their key. -/
theorem key?_ofStored {changes : List AccountChange} {ns name : String}
    (named : (FetchOutcome.ofStored (AccountChange.stored? changes ns name)).key? ≠ none) :
    (FetchOutcome.ofStored (AccountChange.stored? changes ns name)).key? =
      some (.ofNames ns name) := by
  cases stored : AccountChange.stored? changes ns name with
  | none =>
    rw [stored] at named
    exact absurd rfl named
  | some found =>
    obtain ⟨ofNs, ofName⟩ := AccountChange.names_of_stored? stored
    have own : (FetchOutcome.ofStored (some found)).key? =
        CacheKey.ofNames? (some ns) (some name) := by
      rw [← ofNs, ← ofName]
      rfl
    rw [stored, own, CacheKey.ofNames?] at named
    rw [own, CacheKey.ofNames?]
    by_cases empty : ns = "" ∨ name = ""
    · rw [if_pos empty] at named
      exact absurd rfl named
    · exact if_neg empty

namespace Cluster

variable {queue : RefreshQueue} {fetcher : Fetcher} {run : List Happening} {events : List Event}
  {cluster next : Cluster} {happened : List Happening}

theorem cache_deliver {change : AccountChange}
    (following : cluster.changes[cluster.delivered]? = some change)
    (stepped : cluster.step? .deliver = some (next, happened)) :
    next.service.cache = (cluster.service.cache.perform change.report).1 := by
  rw [step?, following, Option.bind_some] at stepped
  obtain ⟨⟨service, more⟩, delivered, same⟩ := Option.map_eq_some_iff.mp stepped
  cases same
  rw [Service.happen?] at delivered
  split at delivered
  · cases delivered
  · cases delivered
    rfl

/-- A fetch that is completed is that of the request with its number. -/
theorem cache_complete (order : ReadsInOrder queue fetcher run events cluster) {number : Nat}
    {request : Request}
    (asked : (queue.waiting ++ events.filterMap Event.queued?)[number]? = some request)
    (stepped : cluster.step? (.happening (.complete number)) = some (next, happened)) :
    next.service.cache = ((fetcher number request).outcome.complete cluster.service.cache).1 ∧
      ∃ worker, next.service.workers = [worker] := by
  obtain ⟨worker, atWork⟩ := order.atWork
  rw [step?] at stepped
  split at stepped
  · obtain ⟨⟨service, more⟩, completed, same⟩ := Option.map_eq_some_iff.mp stepped
    cases same
    obtain ⟨askedToo, began, logged, -, result⟩ := (atWork.complete completed).1
    cases asked.symm.trans (atWork.getElem?_asked logged)
    exact ⟨congrArg Prod.fst result, Service.staffed_happen atWork.only completed⟩
  · cases stepped

end Cluster

/-- What a completed fetch leaves of its account: what was there before if it has found nothing to
record, and else what it has read. -/
theorem Cache.get?_accounts_complete_read (cache : Cache) {outcome : FetchOutcome}
    {changes : List AccountChange} {request : Request}
    (read : outcome = .failed ∨
      outcome = .ofStored (AccountChange.stored? changes request.ns request.name)) :
    (outcome.complete cache).1.accounts.get? request.key =
      if outcome.key? = none then cache.accounts.get? request.key
      else cache.settings.entryOf (AccountChange.stored? changes request.ns request.name) := by
  split
  · rename_i nothing
    rw [FetchOutcome.complete_of_key?_eq_none nothing]
  · rename_i named
    rcases read with rfl | rfl
    · exact absurd rfl named
    · exact cache.get?_accounts_complete_ofStored (key?_ofStored named)

/-! ## The main statement -/

/-- **The last report to arrive counts, whether or not it is the newest.**  Let anything happen to
the service and the accounts at the API server, and let the watch deliver the changes in order.  A
change that it delivers leaves the entry of its account, or nothing if the account is gone.

Let a fetch have read its account after so many changes; then it finds what these left, or fails.
If the watch delivers a change after that, and nothing else concerns the account until the fetch is
completed, the entry is then the one of the object that was read, however old it is; if the fetch
has nothing to record, it is still what the watch has left.  So it stays until something concerns
the account again.

If none of the changes delivered before the fetch is completed is a change of the account made after
it was read, the entry is as new as both: the one of what the API server held after all the changes
read or delivered. -/
theorem last_report_counts (base : Service) (queue : RefreshQueue) (fetcher : Fetcher)
    (changes : List AccountChange) (delivered : Nat) :
    let start : Cluster := { service := base.withWorker queue fetcher, changes, delivered }
    let settings := base.cache.settings
    ∀ steps before past, start.run? steps = some (before, past) →
    (∀ change next these key, before.changes[before.delivered]? = some change →
      before.step? .deliver = some (next, these) → change.key? = some key →
      next.service.cache.accounts.get? key = settings.entryOf change.account?) ∧
    ∀ number request revision, before.request? number = some request →
      before.reads.lookup number = some revision →
      let key := request.key
      let old := AccountChange.stored? (before.changes.take revision) request.ns request.name
      let finds := (fetcher number request).outcome
      (finds = .failed ∨ finds = .ofStored old) ∧
      (∀ after these between middle happened next last later final more,
        before.step? .deliver = some (after, these) →
        after.run? between = some (middle, happened) →
        after.service.Throughout (Happening.Spares key) happened →
        middle.step? (.happening (.complete number)) = some (next, last) →
        next.run? later = some (final, more) →
        next.service.Throughout (Happening.Spares key) more →
        middle.service.cache.accounts.get? key = after.service.cache.accounts.get? key ∧
        final.service.cache.accounts.get? key =
          if finds.key? = none then after.service.cache.accounts.get? key
          else settings.entryOf old) ∧
      (∀ next last, before.step? (.happening (.complete number)) = some (next, last) →
        (∀ place change, revision ≤ place → place < before.delivered →
          before.changes[place]? = some change →
          change.isOf request.ns request.name = false) →
        finds.key? ≠ none →
        next.service.cache.accounts.get? key = settings.entryOf
          (AccountChange.stored? (before.changes.take (max revision before.delivered))
            request.ns request.name)) := by
  intro start settings steps before past reached
  obtain ⟨events, order⟩ := (Cluster.ReadsInOrder.start base queue fetcher changes delivered).of_run
    reached
  have only : start.service.workers = [{ fetcher, source := .queue }] := rfl
  have sameSettings : before.service.cache.settings = settings :=
    Cluster.settings_run only reached
  obtain ⟨worker, atWork⟩ := order.atWork
  refine ⟨fun change next these key following stepped identified => ?_, ?_⟩
  · rw [Cluster.cache_deliver following stepped, Cache.get?_accounts_report _ identified,
      sameSettings]
  intro number request revision logged read key old finds
  obtain ⟨began, isRequest⟩ := Cluster.logged_of_request? atWork.only logged
  have asked := atWork.getElem?_asked isRequest
  obtain ⟨early, requestToo, askedToo, found⟩ := order.reads number revision read
  cases asked.symm.trans askedToo
  refine ⟨found, ?_, ?_⟩
  · intro after these between middle happened next last later final more stepped went spared
      completed onward sparedToo
    have further : before.run? (.deliver :: between) = some (middle, these ++ happened) :=
      Cluster.run?_cons_eq_some.mpr ⟨after, these, happened, stepped, went, rfl⟩
    obtain ⟨others, stillInOrder⟩ := order.of_run further
    obtain ⟨taken, finalWorker, staffed⟩ := Cluster.cache_complete stillInOrder
      (getElem?_queued_append asked others) completed
    obtain ⟨_, afterInOrder⟩ := order.step stepped
    obtain ⟨afterWorker, afterAtWork⟩ := afterInOrder.atWork
    obtain ⟨_, sparedRun⟩ := Cluster.run?_service went
    obtain ⟨_, sparedEnd⟩ := Cluster.run?_service onward
    have left : middle.service.cache.accounts.get? key = after.service.cache.accounts.get? key :=
      Service.get?_accounts_of_spared_run afterAtWork.only spared sparedRun
    have recorded := middle.service.cache.get?_accounts_complete_read found
    rw [← taken, Cluster.settings_run atWork.only further, sameSettings] at recorded
    exact ⟨left, (Service.get?_accounts_of_spared_run staffed sparedToo sparedEnd).trans
      (left ▸ recorded)⟩
  · intro next last completed others named
    have recorded := before.service.cache.get?_accounts_complete_read found
    rw [if_neg named, ← (Cluster.cache_complete order asked completed).1, sameSettings] at recorded
    rw [AccountChange.stored?_take_max others]
    exact recorded

/-- A fetch that has read an account before a change replaces the newer entry. -/
theorem stale_fetch_replaces_a_newer_entry :
    let account (role : String) : ServiceAccount :=
      { ns := some "ns", name := some "sa", annotations := [("eks.amazonaws.com/role-arn", role)] }
    let fetcher : Fetcher := fun _ _ =>
      { outcome := .account (account "old"), duration := .milliseconds 10 }
    let base : Service := { cache := .new {} none none }
    let start : Cluster := { service := base.withWorker { capacity := 4 } fetcher }
    let steps : List ClusterStep :=
      [.happening (.offer ⟨"ns", "sa", false⟩), .happening .begin, .change (.put (account "old")),
        .read 0, .change (.put (account "new")), .deliver]
    ∃ before past after these middle happened next last,
      start.run? steps = some (before, past) ∧ before.step? .deliver = some (after, these) ∧
      after.run? [.happening (.pass 10)] = some (middle, happened) ∧
      middle.step? (.happening (.complete 0)) = some (next, last) ∧
      after.service.cache.accounts.get? (.ofNames "ns" "sa") =
        Settings.entryOf {} (some (account "new")) ∧
      next.service.cache.accounts.get? (.ofNames "ns" "sa") =
        Settings.entryOf {} (some (account "old")) := by
  intro account fetcher base start steps
  have counts := last_report_counts base { capacity := 4 } fetcher [] 0 steps _ _ rfl
  have newer := counts.1 (.put (account "new")) _ _ (.ofNames "ns" "sa") rfl rfl rfl
  have stale := (counts.2 0 ⟨"ns", "sa", false⟩ 1 rfl rfl).2.1 _ _ [.happening (.pass 10)] _ _ _ _
    [] _ _ rfl rfl ⟨List.forall_mem_nil _, trivial⟩ rfl rfl trivial
  exact ⟨_, _, _, _, _, _, _, _, rfl, rfl, rfl, rfl, newer, stale.2⟩

/-- A fetch undoes a deletion that the watch has delivered since it read the account: the entry of
an account that is gone is back. -/
theorem stale_fetch_brings_back_a_deleted_account :
    let account : ServiceAccount :=
      { ns := some "ns", name := some "sa"
        annotations := [("eks.amazonaws.com/role-arn", "arn:aws:iam::123456789012:role/r")] }
    let fetcher : Fetcher := fun _ _ =>
      { outcome := .account account, duration := .milliseconds 10 }
    let base : Service := { cache := .new {} none none }
    let start : Cluster := { service := base.withWorker { capacity := 4 } fetcher }
    let key := CacheKey.ofNames "ns" "sa"
    let steps : List ClusterStep :=
      [.happening (.offer ⟨"ns", "sa", false⟩), .happening .begin, .change (.put account), .read 0,
        .change (.remove "ns" "sa"), .deliver]
    ∃ before past after these middle happened next last,
      start.run? steps = some (before, past) ∧
      before.request? 0 = some ⟨"ns", "sa", false⟩ ∧ before.reads.lookup 0 = some 1 ∧
      1 ≤ before.delivered ∧ before.changes[before.delivered]? = some (.remove "ns" "sa") ∧
      before.step? .deliver = some (after, these) ∧
      after.run? [.happening (.pass 10)] = some (middle, happened) ∧
      middle.step? (.happening (.complete 0)) = some (next, last) ∧
      AccountChange.stored? next.changes "ns" "sa" = none ∧
      after.service.cache.accounts.get? key = none ∧
      next.service.cache.accounts.get? key ≠ none := by
  intro account fetcher base start key steps
  exact ⟨_, _, _, _, _, _, _, _, rfl, rfl, rfl, by decide +kernel, rfl, rfl, rfl, rfl, rfl, rfl,
    by decide +kernel⟩

end IdentityCache
