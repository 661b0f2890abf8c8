import IdentityCache.Proofs.AnswerPage
import IdentityCache.Proofs.BoundedWait
import IdentityCache.Proofs.LatestEvents
import IdentityCache.Proofs.Readiness
import IdentityCache.Proofs.ServiceRun

/-!
# Requests to the debug endpoint only look

A request to the debug endpoint asks the cache at most one question, the query of its lookup
(`Cache.beginHttp_fst`), and a query changes a cache only by opening a pending window.  What is
in the tables, which ConfigMap is kept and what the gate shows is decided by the other operations
of a run, so a query leaves no trace in any of it for ever after (`queries_leave_no_trace`).

A lookup that waits is resumed with another query at most, which asks for no notifier and changes
nothing.  Its page is that of the answer which the lookup itself comes to, and the page is read
back as this answer (`Http.Page.Shows`).  The main statement is `debug_requests_only_look`.
-/

namespace IdentityCache

set_option autoImplicit false

/-! ## Queries leave no trace -/

section Traces

variable (settings : Settings) (source : Option WatchedMap) (queue : Option RefreshQueue)
  (earlier later : List Operation) (requests : List Request)

theorem latestAccountStep?_of_queries (key : CacheKey) :
    latestAccountStep? key (earlier ++ requests.map .get ++ later) =
      latestAccountStep? key (earlier ++ later) := by
  have undecided : ((requests.map Operation.get).flatMap Operation.accountSteps).reverse.find?
      (AccountStep.decides key) = none := by
    refine List.find?_eq_none.mpr fun step among => ?_
    rw [List.mem_reverse, List.flatMap_map] at among
    obtain ⟨request, -, isQuery⟩ := List.mem_flatMap.mp among
    rw [List.mem_singleton.mp isQuery]
    exact Bool.false_ne_true
  unfold latestAccountStep?
  rw [List.flatMap_append, List.flatMap_append, List.flatMap_append, List.reverse_append,
    List.reverse_append, List.reverse_append, List.find?_append, List.find?_append,
    List.find?_append, undecided, Option.none_or]

theorem latestMap?_of_queries :
    latestMap? source (earlier ++ requests.map .get ++ later) =
      latestMap? source (earlier ++ later) := by
  have silent : (requests.map Operation.get).flatMap Operation.mapSteps = [] := by
    rw [List.flatMap_map]
    exact List.flatMap_eq_nil_iff.mpr fun _ _ => rfl
  unfold latestMap?
  rw [List.flatMap_append, List.flatMap_append, List.flatMap_append, silent, List.append_nil]

/-- **Queries leave no trace in what a cache holds**, whatever is done before and after them. -/
theorem queries_leave_no_trace :
    let start := Cache.new settings source queue
    let cache := start.after (earlier ++ requests.map .get ++ later)
    let without := start.after (earlier ++ later)
    cache.accounts = without.accounts ∧ cache.mapped = without.mapped ∧
      cache.lastMap = without.lastMap ∧ cache.gate = without.gate := by
  intro start cache without
  obtain ⟨snapshot, kept⟩ := (Cache.snapshotInOrder_new settings source queue).after
    (earlier ++ requests.map .get ++ later)
  obtain ⟨snapshotToo, keptToo⟩ :=
    (Cache.snapshotInOrder_new settings source queue).after (earlier ++ later)
  have sameMap : cache.lastMap = without.lastMap :=
    kept.trans ((latestMap?_of_queries source earlier later requests).trans keptToo.symm)
  have closed := Cache.gateInOrder_new settings source queue
  have unlisted (lists : Operation → Bool) (silent : ∀ request, lists (.get request) = false) :
      (earlier ++ requests.map Operation.get ++ later).any lists =
        (earlier ++ later).any lists := by
    have none : (requests.map Operation.get).any lists = false := by
      rw [List.any_map, List.any_eq_false]
      exact fun request _ => Bool.eq_false_iff.mp (silent request)
    rw [List.any_append, List.any_append, List.any_append, none, Bool.or_false]
  have shows : cache.hasSynced = without.hasSynced := by
    rw [closed.hasSynced_after, closed.hasSynced_after,
      unlisted Operation.listsAccounts fun _ => rfl, unlisted Operation.listsMaps fun _ => rfl]
  refine ⟨Table.ext_get? fun key => ?_, Cache.mapped_eq_of_lastMap_eq snapshot snapshotToo sameMap,
    sameMap, (closed.after _).gate_eq (closed.after _) shows⟩
  rw [start.get?_accounts_after _ key rfl, start.get?_accounts_after _ key rfl,
    latestAccountStep?_of_queries]

end Traces

/-! ## What a request comes to -/

/-- The response of a lookup that is resumed in the given cache at the given time, if it has come
to one. -/
def LookupStart.responseAt? (begun : LookupStart) (cache : Cache) (time : Nat) :
    Option Response :=
  match begun with
  | .answered response => some response
  | .waiting lookup => lookup.poll cache time

/-- The answer of a call that is resumed in the given cache at the given time, if it has come to
one. -/
def CallProgress.answerAt? (call : CallProgress) (cache : Cache) (time : Nat) :
    Option CallAnswer :=
  match (call.poll? cache time).getD call with
  | .answered answer _ => some answer
  | .waiting _ _ => none

namespace Cache

variable (cache : Cache) (now : Nat) (isReady : Bool) (grace : Nat)

/-- A presented lookup comes to the presentation of what the lookup comes to. -/
theorem answerAt?_beginPresented (presentation : Presentation) (ns name : String)
    (state : Cache) (time : Nat) :
    (cache.beginPresented now presentation ns name grace).2.1.answerAt? state time =
      ((cache.beginLookup now ns name grace).2.1.responseAt? state time).map
        presentation.present := by
  unfold beginPresented
  split
  · rename_i begun
    rw [begun]
    rfl
  · rename_i lookup events begun
    rw [begun]
    simp only [CallProgress.answerAt?, CallProgress.poll?, LookupStart.responseAt?]
    cases lookup.poll state time <;> rfl

theorem isWaiting_beginPresented_iff (presentation : Presentation) (ns name : String) :
    (cache.beginPresented now presentation ns name grace).2.1.isWaiting = true ↔
      0 < grace ∧ cache.accounts.get? (.ofNames ns name) = none ∧
        cache.mapped.get? (.ofNames ns name) = none := by
  rcases Nat.eq_zero_or_pos grace with rfl | positive
  · simp [beginPresented, beginLookup_zero, CallProgress.isWaiting]
  · unfold beginPresented
    rw [cache.beginLookup_of_pos now ns name positive rfl]
    by_cases unknown : cache.accounts.get? (Request.key ⟨ns, name, true⟩) = none ∧
        cache.mapped.get? (Request.key ⟨ns, name, true⟩) = none
    · rw [if_pos unknown]
      exact iff_of_true rfl ⟨positive, unknown⟩
    · rw [if_neg unknown]
      exact iff_of_false Bool.false_ne_true fun waits => unknown waits.2

/-- A lookup answers what it sees at first or what it sees when it is woken. -/
theorem responseAt?_beginLookup (ns name : String) {state : Cache} {time : Nat}
    {response : Response}
    (answered : (cache.beginLookup now ns name grace).2.1.responseAt? state time =
      some response) :
    response = (cache.get ⟨ns, name, grace ≠ 0⟩).2.1 ∨
      response = (state.get ⟨ns, name, false⟩).2.1 := by
  unfold beginLookup at answered
  dsimp only at answered
  split at answered
  · split at answered
    · exact .inl (Option.some.inj answered).symm
    · simp only [LookupStart.responseAt?, WaitingLookup.poll] at answered
      split at answered
      · exact .inr (Option.some.inj answered).symm
      · exact .inl (Option.some.inj answered).symm
      · split at answered
        · exact .inl (Option.some.inj answered).symm
        · cases answered
  · exact .inl (Option.some.inj answered).symm

variable {method path : String}

/-- A request for an account is a lookup of it that is presented as a page. -/
theorem beginHttp_of_lookup {ns name : String}
    (routed : Http.route method path = .lookup ns name) :
    cache.beginHttp now isReady grace method path =
      cache.beginPresented now .page ns name grace := by
  rw [beginHttp, routed]

/-- It leads to the cache that the lookup leads to, and comes to the page of the response that the
lookup comes to. -/
theorem beginHttp_page {ns name : String} (routed : Http.route method path = .lookup ns name) :
    let begun := cache.beginHttp now isReady grace method path
    let lookup := cache.beginLookup now ns name grace
    begun.1 = lookup.1 ∧
      ∀ state time, begun.2.1.answerAt? state time =
        (lookup.2.1.responseAt? state time).map
          fun response => .page (.ofAnswer response.answer) := by
  intro begun lookup
  have page : begun = cache.beginPresented now .page ns name grace :=
    cache.beginHttp_of_lookup now isReady grace routed
  constructor
  · calc begun.1 = (cache.get ⟨ns, name, grace ≠ 0⟩).1 := by
          rw [page]
          exact (cache.beginPresented_effect now .page ns name grace).1
      _ = lookup.1 := (cache.beginLookup_effect now ns name grace).1.symm
  · intro state time
    rw [page]
    exact cache.answerAt?_beginPresented now grace .page ns name state time

/-- A request is a lookup, or it is answered at once and changes nothing. -/
theorem beginHttp_cases (method path : String) :
    (∃ ns name, Http.route method path = .lookup ns name ∧
      cache.beginHttp now isReady grace method path =
        cache.beginPresented now .page ns name grace) ∨
    (∀ ns name, Http.route method path ≠ .lookup ns name) ∧
      ∃ page, cache.beginHttp now isReady grace method path =
        (cache, .answered (.page page) now, []) := by
  unfold beginHttp
  cases Http.route method path with
  | lookup ns name => exact .inl ⟨ns, name, rfl, rfl⟩
  | _ => exact .inr ⟨nofun, _, rfl⟩

/-- Whether a request opens a pending window for an account: it looks the account up with a grace
period, and the account has neither been observed nor does anyone wait for it. -/
def OpensWindow (cache : Cache) (grace : Nat) (method path ns name : String) : Prop :=
  Http.route method path = .lookup ns name ∧ 0 < grace ∧
    cache.accounts.get? (.ofNames ns name) = none ∧ cache.pending.get? (.ofNames ns name) = none

/-- A request whose lookup opens a window does what the query does, and reports the same. -/
theorem beginHttp_of_opensWindow {ns name : String}
    (opens : cache.OpensWindow grace method path ns name) :
    let begun := cache.beginHttp now isReady grace method path
    let request : Request := ⟨ns, name, false⟩
    begun.1 = { cache with
        pending := cache.pending.insert request.key cache.signals.create.2
        signals := cache.signals.create.1
        queue := cache.queue.map fun queue => (queue.offer request).1 } ∧
      begun.2.2 = (cache.queue.map fun queue =>
        Event.refreshRequested request (queue.offer request).2).toList := by
  obtain ⟨routed, positive, unobserved, alone⟩ := opens
  have asks : decide (grace ≠ 0) = true := decide_eq_true (Nat.ne_of_gt positive)
  obtain ⟨next, reported⟩ := cache.beginPresented_effect now .page ns name grace
  have window : cache.subscribes ⟨ns, name, true⟩ ∧
      cache.pending.get? (Request.key ⟨ns, name, true⟩) = none := ⟨⟨rfl, unobserved⟩, alone⟩
  rw [asks, get_fst, if_pos window] at next
  rw [asks, events_get, if_pos window] at reported
  intro begun request
  exact ⟨by simp only [begun, cache.beginHttp_of_lookup now isReady grace routed, next]; rfl,
    by simp only [begun, cache.beginHttp_of_lookup now isReady grace routed, reported]; rfl⟩

/-- A request that opens no window does nothing and reports nothing. -/
theorem beginHttp_of_not_opensWindow
    (shut : ∀ ns name, ¬ cache.OpensWindow grace method path ns name) :
    (cache.beginHttp now isReady grace method path).1 = cache ∧
      (cache.beginHttp now isReady grace method path).2.2 = [] := by
  rcases cache.beginHttp_cases now isReady grace method path with
    ⟨ns, name, routed, presented⟩ | ⟨-, page, answered⟩
  · have content : ¬ (cache.subscribes ⟨ns, name, grace ≠ 0⟩ ∧
        cache.pending.get? (Request.key ⟨ns, name, grace ≠ 0⟩) = none) := by
      rintro ⟨⟨asks, unobserved⟩, alone⟩
      exact shut ns name
        ⟨routed, Nat.pos_of_ne_zero (of_decide_eq_true asks), unobserved, alone⟩
    obtain ⟨next, reported⟩ := cache.beginPresented_effect now .page ns name grace
    rw [get_fst, if_neg content] at next
    rw [events_get, if_neg content] at reported
    rw [presented]
    exact ⟨next, reported⟩
  · rw [answered]
    exact ⟨rfl, rfl⟩

/-- To the cache a request is a query or nothing. -/
theorem beginHttp_fst (method path : String) :
    (cache.beginHttp now isReady grace method path).1 = cache ∨
      ∃ request, (cache.beginHttp now isReady grace method path).1 = (cache.get request).1 := by
  rcases cache.beginHttp_cases now isReady grace method path with
    ⟨ns, name, -, presented⟩ | ⟨-, page, answered⟩
  · rw [presented]
    exact .inr ⟨_, (cache.beginPresented_effect now .page ns name grace).1⟩
  · rw [answered]
    exact .inl rfl

/-- A request waits only for an account that neither source knows. -/
theorem isWaiting_beginHttp_iff (method path : String) :
    (cache.beginHttp now isReady grace method path).2.1.isWaiting = true ↔
      ∃ ns name, Http.route method path = .lookup ns name ∧ 0 < grace ∧
        cache.accounts.get? (.ofNames ns name) = none ∧
        cache.mapped.get? (.ofNames ns name) = none := by
  rcases cache.beginHttp_cases now isReady grace method path with
    ⟨ns, name, routed, presented⟩ | ⟨other, page, answered⟩
  · rw [presented, isWaiting_beginPresented_iff]
    constructor
    · intro unknown
      exact ⟨ns, name, routed, unknown⟩
    · rintro ⟨ns, name, routedToo, unknown⟩
      cases routed.symm.trans routedToo
      exact unknown
  · rw [answered]
    exact iff_of_false Bool.false_ne_true fun ⟨ns, name, routed, _⟩ => other ns name routed

/-- A query fires no signal, and the one that it creates has yet to be fired. -/
theorem isFired_get (request : Request) (signal : SignalId) :
    (cache.get request).1.signals.isFired signal = cache.signals.isFired signal := by
  rw [get_fst]
  split
  · exact cache.signals.isFired_create signal
  · rfl

end Cache

/-- Only lookups by the method for reading are for an account. -/
theorem Http.method_of_route {method path ns name : String}
    (routed : route method path = .lookup ns name) : method = "GET" := by
  unfold route at routed
  split at routed
  · split at routed <;> cases routed
  · split at routed
    · cases routed
    · rename_i isGet
      exact Decidable.not_not.mp isGet

/-! ## The main statement -/

/-- **Requests to the debug endpoint only look.**  Let a request begin in a cache that a run of a
new one leads to, with any method and path and any grace period.  If it looks up an account that has
neither been observed nor is waited for, and there is a grace period, it opens one pending window
for the account and attempts, if there is a queue, to have the account fetched; otherwise it changes
nothing.  Whatever is done afterwards, the tables, the ConfigMap that is kept and the gate are as
they would be without the request, and it fires no signal.  It waits only if it is a lookup with a
grace period of an account that neither source knows.

A lookup is answered with the page of the response that the same lookup comes to without the
endpoint, be it that of the first look or that of a second one, which changes nothing.  The page of
an answer is read back as this answer by whoever reads its body as an object, and as its entry by
the decoder of entries.  The page of the cache is the dump of the cache as it is asked for. -/
theorem debug_requests_only_look (settings : Settings) (source : Option WatchedMap)
    (queue : Option RefreshQueue) :
    (∀ answer, (Http.Page.ofAnswer answer).Shows answer) ∧
    ∀ run now isReady grace method path,
      let start := Cache.new settings source queue
      let cache := start.after run
      let begun := cache.beginHttp now isReady grace method path
      (∀ ns name, cache.OpensWindow grace method path ns name →
        let request : Request := ⟨ns, name, false⟩
        method = "GET" ∧
        begun.1 = { cache with
          pending := cache.pending.insert request.key cache.signals.create.2
          signals := cache.signals.create.1
          queue := cache.queue.map fun queue => (queue.offer request).1 } ∧
        begun.2.2 = (cache.queue.map fun queue =>
          Event.refreshRequested request (queue.offer request).2).toList) ∧
      ((∀ ns name, ¬ cache.OpensWindow grace method path ns name) →
        begun.1 = cache ∧ begun.2.2 = []) ∧
      (∀ later,
        let final := begun.1.after later
        let without := cache.after later
        final.accounts = without.accounts ∧ final.mapped = without.mapped ∧
          final.lastMap = without.lastMap ∧ final.gate = without.gate) ∧
      (∀ signal, begun.1.signals.isFired signal = cache.signals.isFired signal) ∧
      (begun.2.1.isWaiting = true ↔
        ∃ ns name, Http.route method path = .lookup ns name ∧ 0 < grace ∧
          cache.accounts.get? (.ofNames ns name) = none ∧
          cache.mapped.get? (.ofNames ns name) = none) ∧
      (∀ ns name, Http.route method path = .lookup ns name →
        let lookup := cache.beginLookup now ns name grace
        lookup.1 = begun.1 ∧
        ∀ later time,
          let state := begun.1.after later
          let second := state.get ⟨ns, name, false⟩
          begun.2.1.answerAt? state time =
            (lookup.2.1.responseAt? state time).map
              (fun response => .page (.ofAnswer response.answer)) ∧
          second.1 = state ∧ second.2.2 = [] ∧
          ∀ response, lookup.2.1.responseAt? state time = some response →
            response = (cache.get ⟨ns, name, grace ≠ 0⟩).2.1 ∨ response = second.2.1) ∧
      (Http.route method path = .cache →
        begun.2.1 =
          .answered (.page ⟨200, some "application/json", cache.toJson⟩) now) := by
  refine ⟨Http.Page.shows_ofAnswer, fun run now isReady grace method path => ?_⟩
  intro start cache begun
  refine ⟨fun ns name opens => ?_, cache.beginHttp_of_not_opensWindow now isReady grace,
    fun later => ?_, fun signal => ?_, cache.isWaiting_beginHttp_iff now isReady grace method path,
    fun ns name routed => ?_, fun routed => ?_⟩
  · exact ⟨Http.method_of_route opens.1, cache.beginHttp_of_opensWindow now isReady grace opens⟩
  · have traceless (requests : List Request) :=
      queries_leave_no_trace settings source queue run later requests
    simp only [Cache.after_append] at traceless
    rcases cache.beginHttp_fst now isReady grace method path with same | ⟨request, asked⟩
    · simp only [begun, same, and_self]
    · simp only [begun, asked]
      exact traceless [request]
  · rcases cache.beginHttp_fst now isReady grace method path with same | ⟨request, asked⟩
    · simp only [begun, same]
    · simp only [begun, asked]
      exact cache.isFired_get request signal
  · obtain ⟨sameCache, page⟩ := cache.beginHttp_page now isReady grace routed
    exact ⟨sameCache.symm, fun later time => ⟨page _ time, rfl, rfl, fun response answered =>
      cache.responseAt?_beginLookup now grace ns name answered⟩⟩
  · simp only [begun, Cache.beginHttp, routed]
    rfl

/-- A request for an account that nobody knows opens a window and asks for the account.  It is
answered when the account is written, with a role that needs escaping. -/
theorem debug_lookup_shows_the_written_role :
    let start := Cache.new {} none (some { capacity := 1 })
    let begun := start.beginHttp 0 false 5 "GET" "/debug/alpha/cache/ns/sa"
    let account : ServiceAccount :=
      { ns := some "ns", name := some "sa"
        annotations := [("eks.amazonaws.com/role-arn", "a\"b\\c\u0001\u00e9")] }
    let entry : Entry :=
      { roleArn := "a\"b\\c\u0001\u00e9", audience := "sts.amazonaws.com"
        tokenExpiration := .oneDay }
    let page := Http.Page.ofAnswer (.ofEntry entry)
    begun.1.pending.size = 1 ∧
      begun.2.2 = [.refreshRequested ⟨"ns", "sa", false⟩ .queued] ∧
      (begun.1.after [.applyAccount account]).accounts =
        (start.after [.applyAccount account]).accounts ∧
      begun.2.1.answerAt? (begun.1.after [.applyAccount account]) 3 = some (.page page) ∧
      Json.readEntry page.body = .ok entry := by
  intro start begun account entry page
  obtain ⟨shows, request⟩ := debug_requests_only_look {} none (some { capacity := 1 })
  obtain ⟨effect, -, contents, -, -, answers, -⟩ :=
    request [] 0 false 5 "GET" "/debug/alpha/cache/ns/sa"
  have routed : Http.route "GET" "/debug/alpha/cache/ns/sa" = .lookup "ns" "sa" := by decide
  obtain ⟨-, opened, reported⟩ := effect "ns" "sa" ⟨routed, by decide, rfl, rfl⟩
  obtain ⟨-, resumed⟩ := answers "ns" "sa" routed
  have response : (start.beginLookup 0 "ns" "sa" 5).2.1.responseAt?
      (begun.1.after [.applyAccount account]) 3 = some { answer := .ofEntry entry } := by
    rw [show begun.1 = _ from opened]
    decide +kernel
  refine ⟨?_, reported, (contents [.applyAccount account]).1, ?_, (shows (.ofEntry entry)).entry⟩
  · rw [show begun.1 = _ from opened]
    rfl
  · refine (resumed [.applyAccount account] 3).1.trans ?_
    exact congrArg _ response

end IdentityCache
