import IdentityCache.Proofs.RefreshWork
import IdentityCache.Proofs.WaitingCalls

/-!
# Active refresh answers those who wait

A lookup that finds nothing opens the window of its account and asks for the account to be
fetched; whoever looks for the account before it is fetched joins the window.  When the fetch is
completed with an account of that namespace and name, the entry is recorded and all who still
wait in the window are woken, so each of them is answered in that instant.

The account must have a namespace and a name that are not empty.  An empty one can be asked for
but never recorded (`nobody_is_answered_without_a_namespace`).  The main statement is
`fetched_account_answers_who_waits`.
-/

namespace IdentityCache

set_option autoImplicit false

/-- An account that has been observed answers if it names a role; else the snapshot does. -/
theorem Cache.answer_of_observed {cache : Cache} {key : CacheKey} {entry : Entry}
    (observed : cache.accounts.get? key = some entry) :
    cache.answer key =
      if entry.roleArn ≠ "" then ⟨entry, true⟩ else cache.mappedAnswer key := by
  unfold answer observed? Observed.ofEntry
  rw [observed, Option.map_some]
  by_cases named : entry.roleArn ≠ ""
  · rw [if_pos ((hasIdentity_iff entry).mpr named), if_pos named]
    rfl
  · rw [if_neg (mt (hasIdentity_iff entry).mp named), if_neg named]

theorem Cache.beginPresented_of_waiting {cache : Cache} {now : Nat} {ns name : String} {grace : Nat}
    {lookup : WaitingLookup} (begun : (cache.beginLookup now ns name grace).2.1 = .waiting lookup)
    (presentation : Presentation) :
    (cache.beginPresented now presentation ns name grace).2.1 = .waiting presentation lookup := by
  unfold beginPresented
  split
  · rename_i answered
    rw [answered] at begun
    cases begun
  · rename_i waits
    rw [waits] at begun
    cases begun
    rfl

namespace Service

variable {service next : Service} {worker : RefreshWorker} {happening : Happening}
  {run : List Happening} {events : List Event} {key : CacheKey}

/-! ## Opening the window -/

/-- A lookup for an account that nobody knows and nobody waits for opens the window of the
account and waits in it. -/
theorem window_of_call {ns name : String} {grace : Nat} (order : service.CallsInOrder)
    (positive : 0 < grace) (unobserved : service.cache.accounts.get? (.ofNames ns name) = none)
    (unmapped : service.cache.mapped.get? (.ofNames ns name) = none)
    (happened : service.happen? (.call (.lookup ns name grace)) = some (next, events)) :
    ∃ lookup, Window (.ofNames ns name) lookup.signal service.calls.length next ∧
      next.calls[service.calls.length]? = some (.waiting .plain lookup) ∧
      lookup.key = .ofNames ns name ∧ lookup.deadline = service.now + grace := by
  have orderly := order.happen happened
  have look := service.cache.beginLookup_of_pos service.now ns name positive rfl
  obtain ⟨lookup, begun⟩ : ∃ lookup,
      (service.cache.beginLookup service.now ns name grace).2.1 = .waiting lookup := by
    rw [look]
    exact ⟨_, if_pos ⟨unobserved, unmapped⟩⟩
  obtain ⟨-, own, -, deadline, handed⟩ := Cache.of_beginLookup_eq_waiting positive begun
  have progress : (service.beginCall (.lookup ns name grace)).2.1 = .waiting .plain lookup :=
    Cache.beginPresented_of_waiting begun .plain
  rw [happen?_call] at happened
  cases happened
  have waits : (service.calls ++ [(service.beginCall (.lookup ns name grace)).2.1])[
      service.calls.length]? = some (.waiting .plain lookup) := by
    rw [List.getElem?_concat_length, progress]
  refine ⟨lookup, ⟨orderly, ?_, ?_⟩, waits, own, deadline⟩
  · have asks : service.query? (.lookup ns name grace) = some ⟨ns, name, true⟩ := by
      rw [query?, decide_eq_true (Nat.ne_of_gt positive)]
    rw [asks]
    exact handed.pending
  · intro place presentation other later found same
    rcases Nat.lt_or_eq_of_le later with beyond | rfl
    · rw [List.getElem?_eq_none (by rw [List.length_append]; exact beyond)] at found
      cases found
    · cases waits.symm.trans found
      rfl

/-! ## Waiting until the fetch is completed -/

theorem Window.of_run {signal : SignalId} {first : Nat} (window : Window key signal first service)
    (spared : service.Throughout (Happening.Spares key) run)
    (reached : service.run? run = some (next, events)) : Window key signal first next :=
  throughout_induction (P := fun _ _ middle => Window key signal first middle)
    (fun window spares happened => window.happen happened spares) window spared reached

/-- **Who waits in a window that stays open goes on waiting until the deadline.** -/
theorem Window.keeps_run {signal : SignalId} {first : Nat}
    (window : Window key signal first service)
    (spared : service.Throughout (Happening.Spares key) run)
    (reached : service.run? run = some (next, events)) {place : Nat} {presentation : Presentation}
    {lookup : WaitingLookup} (later : first ≤ place)
    (waits : service.calls[place]? = some (.waiting presentation lookup)) (own : lookup.key = key)
    (early : next.now < lookup.deadline) :
    next.calls[place]? = some (.waiting presentation lookup) := by
  have kept := throughout_induction
    (P := fun _ _ middle => Window key signal first middle ∧ (middle.now < lookup.deadline →
      middle.calls[place]? = some (.waiting presentation lookup)))
    (fun {_ _ _ _ _ _} holds spares happened =>
      ⟨holds.1.happen happened spares, fun early => holds.1.keeps happened later
        (holds.2 (Nat.lt_of_le_of_lt (now_le_happen happened) early)) own early⟩)
    ⟨window, fun _ => waits⟩ spared reached
  exact kept.2 early

/-- What is left of an account that has been fetched: its entry is recorded, and nobody who waits
for it has yet to be woken. -/
structure Fetched (key : CacheKey) (entry : Entry) (service : Service) : Prop where
  order : service.CallsInOrder
  entry : service.cache.accounts.get? key = some entry
  closed : service.cache.pending.get? key = none

namespace Fetched

variable {entry : Entry}

theorem woken (fetched : Fetched key entry service) {place : Nat} {presentation : Presentation}
    {lookup : WaitingLookup}
    (waits : service.calls[place]? = some (.waiting presentation lookup))
    (own : lookup.key = key) : service.cache.signals.wakeup lookup.signal = .fired := by
  rcases fetched.order.waiting place presentation lookup waits with inWindow | fired
  · rw [own, fetched.closed] at inWindow
    cases inWindow
  · exact fired

/-- As long as the account is spared it stays fetched. -/
theorem happen (fetched : Fetched key entry service)
    (happened : service.happen? happening = some (next, events))
    (spares : happening.Spares key service) : Fetched key entry next := by
  obtain ⟨worker, only⟩ := fetched.order.staffed
  have observed : next.cache.accounts.get? key = some entry := by
    rw [get?_accounts_of_spares only happened spares, fetched.entry]
  have order := fetched.order.happen happened
  refine ⟨order, observed, ?_⟩
  cases inWindow : next.cache.pending.get? key with
  | none => rfl
  | some signal =>
    have unobserved := order.windows.unobserved key signal inWindow
    rw [observed] at unobserved
    cases unobserved

/-- Completing a fetch that has found the account records its entry and closes the window. -/
theorem of_complete {found : ServiceAccount} (order : service.CallsInOrder)
    (identified : found.key? = some key) {number : Nat}
    (happened : service.happen? (.complete number) = some (next, events))
    (taken : next.cache = ((FetchOutcome.account found).complete service.cache).1) :
    Fetched key (.ofAnnotations service.cache.settings found.annotations) next := by
  have written : next.cache = service.cache.writeAccount key
      (.ofAnnotations service.cache.settings found.annotations) := by
    rw [taken, Cache.complete_account_fst, Cache.applyAccount_fst, identified]
  rw [Cache.writeAccount_eq] at written
  refine ⟨order.happen happened, ?_, ?_⟩
  · rw [written, Table.get?_insert, if_pos rfl]
  · rw [written, Table.get?_erase, if_pos rfl]

/-- **Who was waiting when the account was fetched is answered before time passes.** -/
theorem waits_run (fetched : Fetched key entry service) {place : Nat}
    {presentation : Presentation} {lookup : WaitingLookup}
    (spared : service.Throughout
      (fun service happening => happening.Spares key service ∧ happening ≠ .answer place) run)
    (reached : service.run? run = some (next, events))
    (waits : service.calls[place]? = some (.waiting presentation lookup)) (own : lookup.key = key) :
    Fetched key entry next ∧ next.now = service.now ∧
      next.calls[place]? = some (.waiting presentation lookup) := by
  refine throughout_induction
    (P := fun _ _ middle => Fetched key entry middle ∧ middle.now = service.now ∧
      middle.calls[place]? = some (.waiting presentation lookup))
    ?_ ⟨fetched, rfl, waits⟩ spared reached
  rintro run events middle happening next more ⟨fetched, sameTime, waits⟩ ⟨spares, unanswered⟩
    happened
  refine ⟨fetched.happen happened spares, ?_, getElem?_calls_happen happened waits unanswered⟩
  rw [← sameTime]
  cases moves_happen happened with
  | answered _ _ _ now | begun _ now | kept _ _ now => exact now
  | passed rest _ _ =>
    have possible := step?_isSome_of_woken waits (fetched.woken waits own)
    rw [rest] at possible
    cases possible

end Fetched

end Service

/-! ## The main statement -/

/-- **A fetched account answers all who still wait for it.**  Let a worker serve the queue of a new
cache, and let anything happen.  A lookup for an account that nobody knows and nobody waits for
waits, and its request is put in the queue.  Let the fetch of that request be completed before the
grace period of the lookup is over, with an object that has the namespace and the name of the
account, and let nothing else write the account, delete it or empty the cache.

Then the account is no longer waited for.  The lookup, and every call that began to wait for the
account after it and has not reached its deadline, still waits when the fetch is completed.  As long
as such a call is not answered, time does not pass; and whenever it is answered it is answered at
the time of the fetch, with the entry of the object if that names a role, and else with what the
snapshot says at that moment. -/
theorem fetched_account_answers_who_waits (settings : Settings) (source : Option WatchedMap)
    (now pageGrace : Nat) (queue : RefreshQueue) (fetcher : Fetcher) :
    let base : Service := { now, cache := .new settings source none, pageGrace }
    let start := base.withWorker queue fetcher
    ∀ earlier past before, start.run? earlier = some (before, past) →
    ∀ ns name grace opened,
      let key := CacheKey.ofNames ns name
      let request : Request := { ns, name }
      let number := (queue.waiting ++ past.filterMap Event.queued?).length
      0 < grace →
      before.cache.accounts.get? key = none → before.cache.mapped.get? key = none →
      before.happen? (.call (.lookup ns name grace)) =
        some (opened, [.refreshRequested request .queued]) →
      ∀ between more middle, opened.run? between = some (middle, more) →
        opened.Throughout (Happening.Spares key) between →
      ∀ found next last, (fetcher number request).outcome = .account found →
        found.key? = some key →
        middle.happen? (.complete number) = some (next, last) →
        next.now < before.now + grace →
        let entry := Entry.ofAnnotations settings found.annotations
        next.cache.pending.get? key = none ∧
        (∃ lookup, lookup.key = key ∧
          next.calls[before.calls.length]? = some (.waiting .plain lookup)) ∧
        (∀ first rest mid these place presentation lookup, between = first ++ rest →
          opened.run? first = some (mid, these) → before.calls.length ≤ place →
          mid.calls[place]? = some (.waiting presentation lookup) → lookup.key = key →
          next.now < lookup.deadline →
          next.calls[place]? = some (.waiting presentation lookup)) ∧
        ∀ place presentation lookup later rest final,
          next.calls[place]? = some (.waiting presentation lookup) → lookup.key = key →
          next.run? later = some (final, rest) →
          next.Throughout (fun service happening =>
            happening.Spares key service ∧ happening ≠ .answer place) later →
          (∀ duration, final.happen? (.pass duration) = none) ∧
          final.happen? (.answer place) =
            some ({ final with
              calls := final.calls.set place (.answered (presentation.present {
                answer :=
                  if entry.roleArn ≠ "" then ⟨entry, true⟩ else final.cache.mappedAnswer key })
                next.now) }, []) := by
  intro base start earlier past before reached ns name grace opened key request number positive
    unobserved unmapped called between more middle went spared found next last outcome
    identified completed early entry
  have startOrder : start.CallsInOrder :=
    Service.callsInOrder_withWorker (Cache.windowsInOrder_new settings source none) rfl queue
      fetcher
  have beforeOrder := startOrder.of_run reached
  have middleReached : start.run? (earlier ++ (.call (.lookup ns name grace) :: between)) =
      some (middle, past ++ ([.refreshRequested request .queued] ++ more)) :=
    Service.run?_append_eq_some.mpr ⟨before, past, _, reached,
      Service.run?_cons_eq_some.mpr ⟨opened, _, _, called, went, rfl⟩, rfl⟩
  have middleOrder := startOrder.of_run middleReached
  have middleSettings : middle.cache.settings = settings :=
    Service.settings_of_run rfl middleReached
  obtain ⟨worker, atWork⟩ := AtWork.of_run middleReached
  -- The fetch of that number is the one of the request.
  have taken : next.cache = ((FetchOutcome.account found).complete middle.cache).1 := by
    obtain ⟨asked, began, logged, -, result⟩ := (atWork.complete completed).1
    have isRequest := atWork.getElem?_asked logged
    rw [List.filterMap_append, ← List.append_assoc, List.getElem?_append_right (Nat.le_refl _),
      Nat.sub_self] at isRequest
    cases isRequest
    rw [outcome] at result
    exact congrArg Prod.fst result
  have fetched : Service.Fetched key entry next := by
    have recorded := Service.Fetched.of_complete middleOrder identified completed taken
    rw [middleSettings] at recorded
    exact recorded
  have sameTime : next.now = middle.now := by
    cases Service.moves_happen completed with
    | kept _ _ now => exact now
  obtain ⟨lookup, window, waits, own, deadline⟩ :=
    Service.window_of_call beforeOrder positive unobserved unmapped called
  have stays : ∀ {place : Nat} {presentation : Presentation} {other : WaitingLookup},
      middle.calls[place]? = some (.waiting presentation other) →
      next.calls[place]? = some (.waiting presentation other) :=
    fun waits => Service.getElem?_calls_happen completed waits (by simp)
  refine ⟨fetched.closed, ⟨lookup, own, stays ?_⟩, ?_, ?_⟩
  · exact window.keeps_run spared went (Nat.le_refl _) waits own (by omega)
  · rintro first rest mid these place presentation other rfl begun joined waits own early
    obtain ⟨there, _, _, begunToo, ended, -⟩ := Service.run?_append_eq_some.mp went
    cases begun.symm.trans begunToo
    obtain ⟨sparedFirst, sparedRest⟩ := spared.of_append begun
    exact stays ((window.of_run sparedFirst begun).keeps_run sparedRest ended joined waits own
      (sameTime ▸ early))
  · intro place presentation other later rest final waits own went spared
    obtain ⟨fetchedThere, time, waitsThere⟩ := fetched.waits_run spared went waits own
    have woken := fetchedThere.woken waitsThere own
    refine ⟨Service.happen?_pass_of_woken waitsThere woken, ?_⟩
    rw [Service.happen?_answer_of_woken waitsThere woken, own, time,
      Cache.answer_of_observed fetchedThere.entry]

/-- Two lookups that wait for the same account are answered when it has been fetched, while another
fetch goes on. -/
theorem lookups_answered_by_fetch :
    let found : ServiceAccount :=
      { ns := some "ns", name := some "sa"
        annotations := [("eks.amazonaws.com/role-arn", "arn:aws:iam::123456789012:role/r")] }
    let fetcher : Fetcher := fun number _ =>
      if number = 0 then { outcome := .missing, duration := .milliseconds 9 }
      else { outcome := .account found, duration := .milliseconds 5 }
    let base : Service := { cache := .new {} none none }
    let run : List Happening :=
      [.offer ⟨"ns", "other", false⟩, .begin, .call (.lookup "ns" "sa" 10), .begin, .pass 2,
        .call (.lookup "ns" "sa" 20), .pass 3, .complete 1]
    ∃ next events, (base.withWorker { capacity := 2 } fetcher).run? run = some (next, events) ∧
      (next.happen? (.answer 0)).bind (fun result => result.1.answer? 0) =
        some (.response { answer := ⟨.ofAnnotations {} found.annotations, true⟩ }, 5) ∧
      (next.happen? (.answer 1)).bind (fun result => result.1.answer? 1) =
        some (.response { answer := ⟨.ofAnnotations {} found.annotations, true⟩ }, 5) := by
  intro found fetcher base run
  let between : List Happening := [.begin, .pass 2, .call (.lookup "ns" "sa" 20), .pass 3]
  have spared (service : Service) :
      service.Throughout (Happening.Spares (.ofNames "ns" "sa")) between := by
    refine Service.throughout_of_forall (fun happening among service => ?_) service
    simp only [between, List.mem_cons, List.not_mem_nil, or_false] at among
    rcases among with rfl | rfl | rfl | rfl
    · exact List.forall_mem_nil _
    · exact List.forall_mem_nil _
    · exact List.forall_mem_singleton.mpr rfl
    · exact List.forall_mem_nil _
  have answered := (fetched_account_answers_who_waits {} none 0 0 { capacity := 2 } fetcher
    [.offer ⟨"ns", "other", false⟩, .begin] _ _ rfl "ns" "sa" 10 _ (by decide) (by decide +kernel)
    (by decide +kernel) rfl between _ _ rfl (spared _) found _ _ rfl rfl rfl
    (by decide +kernel)).2.2.2
  have first := (answered 0 _ _ [] _ _ rfl rfl rfl trivial).2
  have second := (answered 1 _ _ [] _ _ rfl rfl rfl trivial).2
  refine ⟨_, _, rfl, ?_, ?_⟩
  · exact (congrArg (Option.bind · fun result => result.1.answer? 0) first).trans rfl
  · exact (congrArg (Option.bind · fun result => result.1.answer? 1) second).trans rfl

/-- An object with an empty namespace answers nobody, although the account with that namespace was
asked for: it is refused, and the account goes on being waited for. -/
theorem nobody_is_answered_without_a_namespace :
    let found : ServiceAccount :=
      { ns := some "", name := some "sa"
        annotations := [("eks.amazonaws.com/role-arn", "arn:aws:iam::123456789012:role/r")] }
    let fetcher : Fetcher := fun _ _ => { outcome := .account found, duration := .milliseconds 5 }
    let base : Service := { cache := .new {} none none }
    let before := base.withWorker { capacity := 2 } fetcher
    let key := CacheKey.ofNames "" "sa"
    ∃ opened middle more next last,
      before.cache.accounts.get? key = none ∧ before.cache.mapped.get? key = none ∧
      before.cache.pending.get? key = none ∧
      before.happen? (.call (.lookup "" "sa" 10)) =
        some (opened, [.refreshRequested { ns := "", name := "sa" } .queued]) ∧
      opened.run? [.begin, .pass 5] = some (middle, more) ∧
      opened.Throughout (Happening.Spares key) [.begin, .pass 5] ∧
      middle.happen? (.complete 0) = some (next, last) ∧ next.now < before.now + 10 ∧
      next.cache.pending.get? key ≠ none ∧ next.happen? (.answer 0) = none ∧
      (next.happen? (.pass 5)).isSome = true := by
  intro found fetcher base before key
  have spared (service : Service) :
      service.Throughout (Happening.Spares key) [.begin, .pass 5] := by
    refine Service.throughout_of_forall (fun happening among service => ?_) service
    simp only [List.mem_cons, List.not_mem_nil, or_false] at among
    rcases among with rfl | rfl
    · exact List.forall_mem_nil _
    · exact List.forall_mem_nil _
  exact ⟨_, _, _, _, _, rfl, rfl, rfl, rfl, rfl, spared _, rfl, by decide +kernel,
    by decide +kernel, rfl, by decide +kernel⟩

end IdentityCache
