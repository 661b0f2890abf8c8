import IdentityCache.Service.Operation
import IdentityCache.Proofs.AccountStep

/-!
# The readiness of the cache

Two flags say what has been listed, and the gate publishes whether both do.  The gate is kept
in step with the flags by the lists alone: every other operation leaves the flags and the gate
as they are, and a list sets its flag and publishes (`listing_perform`).  After any run the gate
therefore shows that both flags are set, and it has changed at most once (`GateInOrder`).

Someone who watches the gate remembers only which version they have seen last, so when they
began to watch makes no difference to what they see.  A list is made of parts, the last of
which is its publication: whoever sees the gate open that was closed before it sees everything
else that the list has done.  The main statement is `gate_opens_when_everything_is_listed`.
-/

namespace IdentityCache

set_option autoImplicit false

/-! ## Watching the gate -/

/-- Someone who watches a gate. -/
structure GateWatcher where
  /-- The version that was seen last. -/
  seen : Nat
  deriving DecidableEq, Repr

/-- Begins to watch a gate. -/
def Gate.watch (gate : Gate) : GateWatcher := ⟨gate.version⟩

namespace GateWatcher

/-- What a watcher sees. -/
def sees (_ : GateWatcher) (gate : Gate) : Bool := gate.isOpen

/-- Whether the gate has changed since the watcher has looked last. -/
def hasNews (watcher : GateWatcher) (gate : Gate) : Bool := watcher.seen != gate.version

end GateWatcher

/-- A gate that opens once and never closes has changed exactly if it is open. -/
theorem Gate.version_publish {gate : Gate} {isOpen : Bool}
    (changes : gate.version = gate.isOpen.toNat) (staysOpen : gate.isOpen = true → isOpen = true) :
    (gate.publish isOpen).version = (gate.publish isOpen).isOpen.toNat := by
  unfold publish
  split
  · exact changes
  · rename_i different
    cases before : gate.isOpen with
    | true => exact absurd (before.trans (staysOpen before).symm) different
    | false =>
      have opens : isOpen = true := by simpa [before] using different
      rw [changes, before, opens]
      rfl

/-- The debug endpoint, which watches the gate from its creation on. -/
structure DebugServer where
  watcher : GateWatcher
  /-- The grace period of its lookups. -/
  grace : Nat
  deriving DecidableEq, Repr

namespace DebugServer

/-- Creates a debug endpoint for a cache. -/
def new (cache : Cache) (grace : Nat) : DebugServer := ⟨cache.gate.watch, grace⟩

/-- Begins to answer a request. -/
def handle (server : DebugServer) (cache : Cache) (now : Nat) (method path : String) :
    Cache × CallProgress × List Event :=
  cache.beginHttp now (server.watcher.sees cache.gate) server.grace method path

/-- The service answers requests as a debug endpoint does that was created at any time, as long
as the cache is the one that it was created for. -/
theorem handle_eq_beginCall (server : DebugServer) (service : Service) {method target path : String}
    (sameGrace : service.pageGrace = server.grace) (original : service.formerGate = none)
    (valid : Http.isMethod method = true) (at_path : Http.targetPath? target = some path) :
    service.beginCall (.http method target) =
      server.handle service.cache service.now method path := by
  simp only [Service.beginCall, valid, at_path, sameGrace, Service.isReady, original,
    Option.getD_none, handle, GateWatcher.sees]

end DebugServer

/-! ## Flags and gate -/

/-- Whether an operation delivers all ServiceAccounts. -/
def Operation.listsAccounts : Operation → Bool
  | .resetAccounts _ _ => true
  | _ => false

/-- Whether an operation delivers all ConfigMaps. -/
def Operation.listsMaps : Operation → Bool
  | .resetMaps _ => true
  | _ => false

namespace Cache

/-- What has been listed, and what is published of it. -/
def listing (cache : Cache) : Bool × Bool × Gate :=
  (cache.accountsListed, cache.mapListed, cache.gate)

theorem listing_accountStep (cache : Cache) (step : AccountStep) :
    (cache.accountStep step).listing = cache.listing := by
  cases step with
  | query request =>
    simp only [accountStep, get_fst]
    split <;> rfl
  | apply account =>
    simp only [accountStep, applyAccount_fst]
    split
    · rw [writeAccount_eq]
      rfl
    · rfl
  | delete deletion =>
    simp only [accountStep, deleteAccount_fst]
    split <;> rfl
  | clear => rfl

theorem listing_afterSteps (cache : Cache) (steps : List AccountStep) :
    (cache.afterSteps steps).listing = cache.listing := by
  induction steps generalizing cache with
  | nil => rfl
  | cons step steps ih => rw [afterSteps_cons, ih, listing_accountStep]

theorem listing_applyMap (cache : Cache) (map : ConfigMap) :
    (cache.applyMap map).1.listing = cache.listing := by
  obtain ⟨mapped, lastMap, changed⟩ := cache.applyMap_frame map
  rw [changed]
  rfl

theorem listing_applyMaps (cache : Cache) (maps : List ConfigMap) :
    (forEach applyMap cache maps).1.listing = cache.listing :=
  (forEach_induction (P := (·.listing = cache.listing)) (Q := fun _ => True) maps
    (fun next map same => ⟨(listing_applyMap next map).trans same, fun _ _ => trivial⟩) rfl).1

/-- **Only lists set the flags, and they publish.** -/
theorem listing_perform (cache : Cache) (operation : Operation) :
    let accountsListed := cache.accountsListed || operation.listsAccounts
    let mapListed := cache.mapListed || operation.listsMaps
    (cache.perform operation).1.listing =
      (accountsListed, mapListed,
        if operation.listsAccounts || operation.listsMaps then
          cache.gate.publish (accountsListed && mapListed)
        else cache.gate) := by
  have kept {other : Cache} (same : other.listing = cache.listing)
      (noAccounts : operation.listsAccounts = false) (noMaps : operation.listsMaps = false) :
      other.listing = (cache.accountsListed || operation.listsAccounts,
        cache.mapListed || operation.listsMaps,
        if operation.listsAccounts || operation.listsMaps then
          cache.gate.publish ((cache.accountsListed || operation.listsAccounts) &&
            (cache.mapListed || operation.listsMaps))
        else cache.gate) := by
    rw [same, noAccounts, noMaps, Bool.or_false, Bool.or_false]
    rfl
  cases operation with
  | get request => exact kept (cache.listing_accountStep (.query request)) rfl rfl
  | applyAccount account => exact kept (cache.listing_accountStep (.apply account)) rfl rfl
  | deleteAccount deletion => exact kept (cache.listing_accountStep (.delete deletion)) rfl rfl
  | completeFetch outcome =>
    refine kept ?_ rfl rfl
    cases outcome with
    | account found =>
      rw [perform, complete_account_fst]
      exact cache.listing_accountStep (.apply found)
    | missing | failed => rfl
  | applyMap map => exact kept (cache.listing_applyMap map) rfl rfl
  | deleteMap | clear | takeRequest | closeQueue => exact kept rfl rfl rfl
  | resetAccounts accounts removed =>
    have same := cache.listing_afterSteps (Operation.resetAccounts accounts removed).accountSteps
    simp only [listing, Prod.mk.injEq] at same
    obtain ⟨-, maps, gate⟩ := same
    rw [perform, resetAccounts_fst]
    simp [listing, publish, Operation.listsAccounts, Operation.listsMaps, maps, gate]
  | resetMaps maps =>
    have same := cache.listing_applyMaps maps
    simp only [listing, Prod.mk.injEq] at same
    obtain ⟨listed, -, gate⟩ := same
    simp [perform, resetMaps, listing, publish, Operation.listsAccounts, Operation.listsMaps,
      listed, gate]

/-! ## The invariant -/

/-- The gate shows that both flags are set, and it has changed exactly if it is open. -/
structure GateInOrder (cache : Cache) : Prop where
  isOpen : cache.gate.isOpen = (cache.accountsListed && cache.mapListed)
  version : cache.gate.version = cache.gate.isOpen.toNat

theorem gateInOrder_new (settings : Settings) (source : Option WatchedMap)
    (queue : Option RefreshQueue) : GateInOrder (new settings source queue) :=
  ⟨rfl, rfl⟩

variable {cache : Cache}

/-- Gates in order that show the same are the same. -/
theorem GateInOrder.gate_eq {other : Cache} (order : GateInOrder cache)
    (orderToo : GateInOrder other) (same : cache.hasSynced = other.hasSynced) :
    cache.gate = other.gate := by
  have versions : cache.gate.version = other.gate.version := by
    rw [order.version, orderToo.version]
    exact congrArg Bool.toNat same
  exact (Gate.mk.injEq ..).mpr ⟨same, versions⟩

/-- **An operation leaves the gate in order.**  A flag that is set stays set, so what is
published never closes an open gate. -/
theorem GateInOrder.perform (order : GateInOrder cache) (operation : Operation) :
    GateInOrder (cache.perform operation).1 := by
  have effect := cache.listing_perform operation
  simp only [listing, Prod.mk.injEq] at effect
  obtain ⟨accounts, maps, gate⟩ := effect
  have shows := order.isOpen
  have changes := order.version
  constructor
  · rw [accounts, maps, gate]
    split
    · exact Gate.isOpen_publish _ _
    · rename_i noList
      simp only [Bool.not_eq_true, Bool.or_eq_false_iff] at noList
      rw [noList.1, noList.2, Bool.or_false, Bool.or_false, shows]
  · rw [gate]
    split
    · have staysOpen (isOpen : cache.gate.isOpen = true) :
          ((cache.accountsListed || operation.listsAccounts) &&
            (cache.mapListed || operation.listsMaps)) = true := by
        rw [shows, Bool.and_eq_true] at isOpen
        rw [isOpen.1, isOpen.2]
        rfl
      exact Gate.version_publish changes staysOpen
    · exact changes

/-- A run leaves the gate in order. -/
theorem GateInOrder.after (order : GateInOrder cache) (run : List Operation) :
    GateInOrder (cache.after run) := by
  induction run generalizing cache with
  | nil => exact order
  | cons operation run ih => exact ih (order.perform operation)

/-- A run sets the flags of the lists that are in it. -/
theorem flags_after (cache : Cache) (run : List Operation) :
    (cache.after run).accountsListed =
        (cache.accountsListed || run.any Operation.listsAccounts) ∧
      (cache.after run).mapListed = (cache.mapListed || run.any Operation.listsMaps) := by
  induction run generalizing cache with
  | nil => exact ⟨(Bool.or_false _).symm, (Bool.or_false _).symm⟩
  | cons operation run ih =>
    have effect := cache.listing_perform operation
    simp only [listing, Prod.mk.injEq] at effect
    obtain ⟨accounts, maps⟩ := ih (cache.perform operation).1
    rw [after_cons, accounts, maps, effect.1, effect.2.1]
    simp only [List.any_cons, Bool.or_assoc, and_self]

/-- **The gate is open exactly if both flags are set, now or by a list in the run.** -/
theorem GateInOrder.hasSynced_after (order : GateInOrder cache) (run : List Operation) :
    (cache.after run).hasSynced =
      ((cache.accountsListed || run.any Operation.listsAccounts) &&
        (cache.mapListed || run.any Operation.listsMaps)) := by
  rw [hasSynced, (order.after run).isOpen, (cache.flags_after run).1, (cache.flags_after run).2]

/-- A gate that is open stays open. -/
theorem GateInOrder.hasSynced_stays (order : GateInOrder cache) (isOpen : cache.hasSynced = true)
    (run : List Operation) : (cache.after run).hasSynced = true := by
  rw [hasSynced, order.isOpen, Bool.and_eq_true] at isOpen
  rw [order.hasSynced_after, isOpen.1, isOpen.2]
  rfl

/-- **A watcher has news exactly if the gate has opened since.** -/
theorem GateInOrder.hasNews_after (order : GateInOrder cache) (run : List Operation) :
    cache.gate.watch.hasNews (cache.after run).gate = true ↔
      cache.hasSynced = false ∧ (cache.after run).hasSynced = true := by
  have stays : cache.hasSynced = true → (cache.after run).hasSynced = true :=
    fun isOpen => order.hasSynced_stays isOpen run
  have before := order.version
  have later := (order.after run).version
  unfold hasSynced at stays ⊢
  simp only [GateWatcher.hasNews, Gate.watch, bne_iff_ne, before, later]
  cases earlier : cache.gate.isOpen with
  | false => cases (cache.after run).gate.isOpen <;> simp
  | true => simp [stays earlier]

end Cache

/-! ## The parts of a list -/

/-- A part of an operation: what is done for one object of a list, what is done after them all,
or an operation that is no list. -/
inductive OperationPart
  | account (account : ServiceAccount)
  | removal (names : String × String)
  | map (map : ConfigMap)
  | noteAccounts
  | noteMaps
  | publish
  | whole (operation : Operation)

/-- The parts of an operation, in order. -/
def Operation.parts : Operation → List OperationPart
  | .resetAccounts accounts removed =>
    accounts.map .account ++ removed.eraseDups.map .removal ++ [.noteAccounts, .publish]
  | .resetMaps maps => maps.map .map ++ [.noteMaps, .publish]
  | operation => [.whole operation]

namespace Cache

/-- The cache after a part of an operation. -/
def afterPart (cache : Cache) : OperationPart → Cache
  | .account account => (cache.applyAccount account).1
  | .removal names => (cache.deleteAccount (.tombstone (some names.1) names.2)).1
  | .map map => (cache.applyMap map).1
  | .noteAccounts => { cache with accountsListed := true }
  | .noteMaps => { cache with mapListed := true }
  | .publish => cache.publish
  | .whole operation => (cache.perform operation).1

/-- The cache after several parts. -/
def afterParts (cache : Cache) (parts : List OperationPart) : Cache := parts.foldl afterPart cache

/-- The parts of an operation make up the operation. -/
theorem afterParts_parts (cache : Cache) (operation : Operation) :
    cache.afterParts operation.parts = (cache.perform operation).1 := by
  cases operation with
  | resetAccounts accounts removed =>
    simp only [afterParts, Operation.parts, List.foldl_append, List.foldl_map, perform,
      resetAccounts, forEach_fst]
    rfl
  | resetMaps maps =>
    simp only [afterParts, Operation.parts, List.foldl_append, List.foldl_map, perform,
      resetMaps, forEach_fst]
    rfl
  | _ => rfl

/-- All parts of an operation but the last leave the gate as it is. -/
theorem gate_afterPart (cache : Cache) {operation : Operation} {part : OperationPart}
    (notLast : part ∈ operation.parts.dropLast) : (cache.afterPart part).gate = cache.gate := by
  have kept {other : Cache} (same : other.listing = cache.listing) : other.gate = cache.gate :=
    congrArg (·.2.2) same
  cases operation with
  | resetAccounts accounts removed =>
    rw [Operation.parts, List.dropLast_append_of_ne_nil (List.cons_ne_nil _ _)] at notLast
    simp only [List.dropLast_cons_cons, List.dropLast_singleton, List.mem_append, List.mem_map,
      List.mem_singleton] at notLast
    rcases notLast with (⟨account, -, rfl⟩ | ⟨names, -, rfl⟩) | rfl
    · exact kept (cache.listing_accountStep (.apply account))
    · exact kept (cache.listing_accountStep (.delete (.tombstone (some names.1) names.2)))
    · rfl
  | resetMaps maps =>
    rw [Operation.parts, List.dropLast_append_of_ne_nil (List.cons_ne_nil _ _)] at notLast
    simp only [List.dropLast_cons_cons, List.dropLast_singleton, List.mem_append, List.mem_map,
      List.mem_singleton] at notLast
    rcases notLast with ⟨map, -, rfl⟩ | rfl
    · exact kept (cache.listing_applyMap map)
    · rfl
  | _ => cases notLast

/-- **Whoever sees a change of the gate sees all that the operation does.** -/
theorem eq_perform_of_gate_ne (cache : Cache) {operation : Operation}
    {done left : List OperationPart} (parts : operation.parts = done ++ left)
    (changed : (cache.afterParts done).gate ≠ cache.gate) :
    cache.afterParts done = (cache.perform operation).1 := by
  rcases List.eq_nil_or_concat left with rfl | ⟨before, last, rfl⟩
  · rw [← cache.afterParts_parts, parts, List.append_nil]
  · -- Something is left to do, so none of the parts that are done is the last.
    refine absurd ?_ changed
    have among : ∀ part ∈ done, part ∈ operation.parts.dropLast := by
      intro part member
      rw [parts, List.concat_eq_append, ← List.append_assoc, List.dropLast_concat]
      exact List.mem_append_left _ member
    clear parts changed
    induction done generalizing cache with
    | nil => rfl
    | cons part done ih =>
      exact (ih _ fun other member => among other (List.mem_cons_of_mem _ member)).trans
        (cache.gate_afterPart (among part List.mem_cons_self))

end Cache

/-! ## The main statement -/

/-- The page says in its status and in its body whether the cache is ready. -/
theorem Http.Page.ready_eq (isReady : Bool) :
    Page.ready isReady =
      if isReady then ⟨200, some "text/plain", "ready\n"⟩
      else ⟨500, some "text/plain", "not ready\n"⟩ := by
  cases isReady <;> rfl

theorem any_listsAccounts_iff (run : List Operation) :
    run.any Operation.listsAccounts = true ↔
      ∃ accounts removed, .resetAccounts accounts removed ∈ run := by
  rw [List.any_eq_true]
  constructor
  · rintro ⟨operation, member, lists⟩
    cases operation with
    | resetAccounts accounts removed => exact ⟨accounts, removed, member⟩
    | _ => cases lists
  · rintro ⟨accounts, removed, member⟩
    exact ⟨_, member, rfl⟩

theorem any_listsMaps_iff (run : List Operation) :
    run.any Operation.listsMaps = true ↔ ∃ maps, .resetMaps maps ∈ run := by
  rw [List.any_eq_true]
  constructor
  · rintro ⟨operation, member, lists⟩
    cases operation with
    | resetMaps maps => exact ⟨maps, member⟩
    | _ => cases lists
  · rintro ⟨maps, member⟩
    exact ⟨_, member, rfl⟩

/-- **The gate opens when everything is listed.**  After every run of a new cache the gate is open
exactly if all ServiceAccounts have been delivered and, where a ConfigMap is watched, all
ConfigMaps have been; whatever the lists held.  It stays open.  Whoever has watched it from any
moment on sees it as it is, and has news exactly if it was closed then and is open now; so the
debug endpoint, whenever it was created, shows it as it is.  An operation is made of its parts,
and when those that are done have opened the gate, all that the operation does is done. -/
theorem gate_opens_when_everything_is_listed (settings : Settings) (source : Option WatchedMap)
    (queue : Option RefreshQueue) :
    let start := Cache.new settings source queue
    (∀ run, (start.after run).hasSynced = true ↔
      (∃ accounts removed, .resetAccounts accounts removed ∈ run) ∧
        (source = none ∨ ∃ maps, .resetMaps maps ∈ run)) ∧
    (∀ earlier later, (start.after earlier).hasSynced = true →
      (start.after (earlier ++ later)).hasSynced = true) ∧
    (∀ earlier later,
      let watcher := (start.after earlier).gate.watch
      let cache := start.after (earlier ++ later)
      watcher.sees cache.gate = cache.hasSynced ∧
      (watcher.hasNews cache.gate = true ↔
        (start.after earlier).hasSynced = false ∧ cache.hasSynced = true)) ∧
    (∀ earlier later grace now method, method = "GET" ∨ method = "HEAD" →
      let server := DebugServer.new (start.after earlier) grace
      let cache := start.after (earlier ++ later)
      server.handle cache now method "/ready" =
        (cache, .answered (.page
          (if cache.hasSynced then ⟨200, some "text/plain", "ready\n"⟩
          else ⟨500, some "text/plain", "not ready\n"⟩)) now, [])) ∧
    (∀ run operation,
      let cache := start.after run
      cache.afterParts operation.parts = (cache.perform operation).1 ∧
      ∀ done left, operation.parts = done ++ left →
        cache.hasSynced = false → (cache.afterParts done).hasSynced = true →
        cache.afterParts done = (cache.perform operation).1) := by
  intro start
  have order (run : List Operation) : (start.after run).GateInOrder :=
    (Cache.gateInOrder_new settings source queue).after run
  refine ⟨fun run => ?_, fun earlier later isOpen => ?_, fun earlier later => ⟨rfl, ?_⟩,
    fun earlier later grace now method isRead => ?_, fun run operation =>
      ⟨Cache.afterParts_parts _ operation, fun done left parts closed opened => ?_⟩⟩
  · rw [(Cache.gateInOrder_new settings source queue).hasSynced_after, Bool.and_eq_true,
      ← any_listsAccounts_iff, ← any_listsMaps_iff]
    simp [Cache.new]
  · rw [Cache.after_append]
    exact (order earlier).hasSynced_stays isOpen later
  · rw [Cache.after_append]
    exact (order earlier).hasNews_after later
  · have routed : Http.route method "/ready" = .ready := by simp [Http.route, isRead]
    intro server cache
    unfold DebugServer.handle Cache.beginHttp
    rw [routed, ← Http.Page.ready_eq]
    rfl
  · refine Cache.eq_perform_of_gate_ne _ parts fun same => ?_
    unfold Cache.hasSynced at closed opened
    rw [same, closed] at opened
    cases opened

/-- A watched ConfigMap whose list holds no snapshot still counts as listed: the gate opens with
the list of accounts, which names one that has no name, and an endpoint that was created before
either list shows it. -/
theorem endpoint_ready_after_both_lists :
    let start := Cache.new {} (some ⟨"ns", "map"⟩) none
    let maps : Operation := .resetMaps [{ ns := some "ns", name := some "map" }]
    let accounts : Operation := .resetAccounts [{ ns := some "ns" }] []
    let server := DebugServer.new start 0
    let cache := start.after [maps, accounts]
    (start.after [maps]).hasSynced = false ∧
      cache.hasSynced = true ∧
      server.watcher.hasNews cache.gate = true ∧
      server.handle cache 7 "GET" "/ready" =
        (cache, .answered (.page ⟨200, some "text/plain", "ready\n"⟩) 7, []) ∧
      (start.after [maps]).afterParts accounts.parts = cache := by
  intro start maps accounts server cache
  obtain ⟨opens, -, watched, shown, visible⟩ :=
    gate_opens_when_everything_is_listed {} (some ⟨"ns", "map"⟩) none
  have closed : (start.after [maps]).hasSynced = false := by decide
  have isOpen : cache.hasSynced = true :=
    (opens [maps, accounts]).mpr ⟨⟨_, _, List.mem_cons_of_mem _ List.mem_cons_self⟩,
      .inr ⟨_, List.mem_cons_self⟩⟩
  have page : server.handle cache 7 "GET" "/ready" =
      (cache, .answered (.page (if cache.hasSynced then ⟨200, some "text/plain", "ready\n"⟩
        else ⟨500, some "text/plain", "not ready\n"⟩)) 7, []) :=
    shown [] [maps, accounts] 0 7 "GET" (.inl rfl)
  rw [if_pos isOpen] at page
  refine ⟨closed, isOpen, (watched [] [maps, accounts]).2.mpr ⟨rfl, isOpen⟩, page,
    (visible [maps] accounts).1⟩

end IdentityCache
