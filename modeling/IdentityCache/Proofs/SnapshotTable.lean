import IdentityCache.Proofs.AccountStep

/-!
# The table of the latest snapshot

The entries of a ConfigMap are never recorded as one table: a new snapshot overwrites what is
there, and the keys that only the ConfigMap kept from before had are removed.  What comes of
this is the table of the latest snapshot, because in every cache that a run reaches the table
holds the snapshot of the ConfigMap that is kept and nothing else (`MirrorsLastMap`).  Under
this invariant taking in a ConfigMap has one equation (`applyMap_fst`).

The ConfigMap that is kept is the latest one that was taken in since the cache was last
emptied, `latestMap?`.  The main statement is `table_is_latest_snapshot`.
-/

namespace IdentityCache

set_option autoImplicit false

/-! ## Which ConfigMaps are taken in -/

/-- Whether a ConfigMap carries the names of the watched one.  Its stem counts if it has no name,
and an object with neither counts as named by the empty text. -/
def WatchedMap.Names (watched : WatchedMap) (map : ConfigMap) : Prop :=
  map.ns = some watched.ns ∧
    (map.name = some watched.name ∨
      map.name = none ∧ map.generateName = some watched.name ∨
      map.name = none ∧ map.generateName = none ∧ watched.name = "")

instance (watched : WatchedMap) (map : ConfigMap) : Decidable (watched.Names map) :=
  inferInstanceAs (Decidable (_ ∧ _))

theorem WatchedMap.names_iff (watched : WatchedMap) (map : ConfigMap) :
    watched.Names map ↔ map.ns = some watched.ns ∧ map.anyName = watched.name := by
  unfold Names ConfigMap.anyName
  cases map.name <;> cases map.generateName <;> simp

/-- The snapshot that is taken from a delivered ConfigMap, if it is the watched one and holds a
snapshot. -/
def takenSnapshot? (source : Option WatchedMap) (map : ConfigMap) : Option (Table Entry) :=
  match source with
  | some watched => if watched.Names map then map.snapshot.toOption else none
  | none => none

/-- A snapshot that is taken from a ConfigMap is the one that it holds. -/
theorem readable_of_takenSnapshot? {source : Option WatchedMap} {map : ConfigMap}
    {snapshot : Table Entry} (taken : takenSnapshot? source map = some snapshot) :
    map.snapshot = .ok snapshot := by
  unfold takenSnapshot? at taken
  split at taken
  · split at taken
    · cases readable : map.snapshot with
      | error cause => rw [readable] at taken; cases taken
      | ok own =>
        rw [readable] at taken
        exact congrArg Except.ok (Option.some.inj taken)
    · cases taken
  · cases taken

/-- What a ConfigMap says of an account, if it holds a snapshot that has the account. -/
def ConfigMap.entryOf? (map : ConfigMap) (key : CacheKey) : Option Entry :=
  map.snapshot.toOption.bind fun snapshot => snapshot.get? key

/-- A stored entry is the written one, but for its lifetime: none means the default one, and a
short one is raised to ten minutes. -/
structure Entry.StoredAs (settings : Settings) (written stored : Entry) : Prop where
  roleArn : stored.roleArn = written.roleArn
  audience : stored.audience = written.audience
  useRegionalSts : stored.useRegionalSts = written.useRegionalSts
  tokenExpiration : stored.tokenExpiration.toInt = max 600
    (if written.tokenExpiration.toInt = 0 then settings.defaultExpiration.toInt
      else written.tokenExpiration.toInt)

theorem Entry.storedAs_normalize (settings : Settings) (written : Entry) :
    written.StoredAs settings (written.normalize settings) := by
  refine ⟨rfl, rfl, rfl, ?_⟩
  have unset : written.tokenExpiration = .zero ↔ written.tokenExpiration.toInt = 0 := by
    cases written.tokenExpiration
    simp [Seconds.zero]
  simp only [normalize, Seconds.toInt_raise, unset]
  by_cases zero : written.tokenExpiration.toInt = 0
  · rw [if_pos zero, if_pos zero]
  · rw [if_neg zero, if_neg zero]

namespace Cache

theorem watchesMap_iff (cache : Cache) (map : ConfigMap) :
    cache.watchesMap map = true ↔ ∃ watched, cache.source = some watched ∧ watched.Names map := by
  unfold watchesMap watches
  simp only [WatchedMap.names_iff]
  cases map.ns with
  | none => simp
  | some ns =>
    rw [beq_iff_eq]
    constructor
    · intro source
      exact ⟨_, source, rfl, rfl⟩
    · rintro ⟨watched, source, inNamespace, named⟩
      rw [source, Option.some.inj inNamespace, named]

/-! ## The invariant -/

/-- The table holds the snapshot of the ConfigMap that is kept, and nothing else. -/
def MirrorsLastMap (cache : Cache) : Prop :=
  match cache.lastMap with
  | none => cache.mapped = ∅
  | some map => ∃ snapshot, map.snapshot = .ok snapshot ∧
      cache.mapped = snapshot.map (.normalize cache.settings)

variable {cache : Cache}

/-- **Overwriting and removing stale keys comes to taking the new snapshot.**  In particular the
ConfigMap that is kept never turns out to be unreadable. -/
theorem ingestMap_lastMap (mirrors : cache.MirrorsLastMap) (map : ConfigMap) :
    cache.ingestMap cache.lastMap map =
      match map.snapshot with
      | .error cause => (cache, .error (.snapshot cause))
      | .ok snapshot =>
        ({ cache with mapped := snapshot.map (.normalize cache.settings) }, .ok ()) := by
  unfold ingestMap
  cases map.snapshot with
  | error cause => rfl
  | ok snapshot =>
    unfold MirrorsLastMap at mirrors
    cases kept : cache.lastMap with
    | none =>
      rw [kept] at mirrors
      simp only [mirrors, Table.empty_override]
    | some old =>
      rw [kept] at mirrors
      obtain ⟨previous, readable, same⟩ := mirrors
      simp only [readable, same, Table.eraseAll_override]

/-- A delivered ConfigMap is taken in as a whole or not at all. -/
theorem applyMap_fst (mirrors : cache.MirrorsLastMap) (map : ConfigMap) :
    (cache.applyMap map).1 =
      match takenSnapshot? cache.source map with
      | some snapshot =>
        { cache with
          mapped := snapshot.map (.normalize cache.settings)
          lastMap := some map }
      | none => cache := by
  unfold applyMap
  rw [ingestMap_lastMap mirrors]
  by_cases watched : cache.watchesMap map = true
  · obtain ⟨own, source, names⟩ := (cache.watchesMap_iff map).mp watched
    simp only [watched, if_true, takenSnapshot?, source, names]
    cases map.snapshot <;> rfl
  · have ignored : takenSnapshot? cache.source map = none := by
      unfold takenSnapshot?
      cases source : cache.source with
      | none => rfl
      | some own =>
        exact if_neg fun names => watched ((cache.watchesMap_iff map).mpr ⟨own, source, names⟩)
    rw [if_neg watched, ignored]

theorem applyMap_mirrors (mirrors : cache.MirrorsLastMap) (map : ConfigMap) :
    (cache.applyMap map).1.MirrorsLastMap := by
  rw [applyMap_fst mirrors]
  cases taken : takenSnapshot? cache.source map with
  | none => exact mirrors
  | some snapshot => exact ⟨snapshot, readable_of_takenSnapshot? taken, rfl⟩

end Cache

/-! ## The latest ConfigMap that was taken in -/

/-- A step that concerns the snapshot. -/
inductive MapStep
  | apply (map : ConfigMap)
  | clear

/-- The ConfigMap that is kept after a step. -/
def MapStep.map? : MapStep → Option ConfigMap
  | .apply map => some map
  | .clear => none

/-- Whether a step decides which ConfigMap is kept. -/
def MapStep.decides (source : Option WatchedMap) : MapStep → Bool
  | .apply map => (takenSnapshot? source map).isSome
  | .clear => true

/-- The steps of an operation that concern the snapshot, in order. -/
def Operation.mapSteps : Operation → List MapStep
  | .applyMap map => [.apply map]
  | .resetMaps maps => maps.map .apply
  | .clear => [.clear]
  | .get _ | .applyAccount _ | .deleteAccount _ | .resetAccounts _ _ | .completeFetch _
  | .deleteMap _ _ | .takeRequest | .closeQueue => []

/-- The latest ConfigMap of a run that was taken in since the cache was last emptied. -/
def latestMap? (source : Option WatchedMap) (run : List Operation) : Option ConfigMap :=
  latestOr (MapStep.decides source) MapStep.map? none (run.flatMap Operation.mapSteps)

/-- An operation without its ConfigMaps that are not taken in, and nothing of it if it reports a
ConfigMap gone. -/
def Operation.essential? (source : Option WatchedMap) : Operation → Option Operation
  | .applyMap map => if (takenSnapshot? source map).isSome then some (.applyMap map) else none
  | .deleteMap _ _ => none
  | .resetMaps maps =>
    some (.resetMaps (maps.filter fun map => (takenSnapshot? source map).isSome))
  | operation => some operation

/-- Two caches that take in the same ConfigMaps and hold the same snapshot. -/
structure AgreesOnSnapshot (cache other : Cache) : Prop where
  settings : cache.settings = other.settings
  source : cache.source = other.source
  mapped : cache.mapped = other.mapped
  lastMap : cache.lastMap = other.lastMap

theorem AgreesOnSnapshot.refl (cache : Cache) : AgreesOnSnapshot cache cache :=
  ⟨rfl, rfl, rfl, rfl⟩

theorem AgreesOnSnapshot.trans {cache other third : Cache} (first : AgreesOnSnapshot cache other)
    (second : AgreesOnSnapshot other third) : AgreesOnSnapshot cache third :=
  ⟨first.settings.trans second.settings, first.source.trans second.source,
    first.mapped.trans second.mapped, first.lastMap.trans second.lastMap⟩

namespace Cache

/-- Events of the ServiceAccount watch and queries leave the snapshot alone. -/
theorem agreesOnSnapshot_accountStep (cache : Cache) (step : AccountStep)
    (kept : step ≠ .clear) : AgreesOnSnapshot (cache.accountStep step) cache := by
  cases step with
  | query request =>
    rw [accountStep, get_fst]
    split
    · exact ⟨rfl, rfl, rfl, rfl⟩
    · exact .refl cache
  | apply account =>
    rw [accountStep, applyAccount_fst]
    cases account.key? with
    | none => exact .refl cache
    | some key =>
      simp only [writeAccount_eq]
      exact ⟨rfl, rfl, rfl, rfl⟩
  | delete deletion =>
    rw [accountStep, deleteAccount_fst]
    cases deletion.key? with
    | none => exact .refl cache
    | some key => exact ⟨rfl, rfl, rfl, rfl⟩
  | clear => exact absurd rfl kept

theorem agreesOnSnapshot_afterSteps (cache : Cache) {steps : List AccountStep}
    (kept : ∀ step ∈ steps, step ≠ .clear) : AgreesOnSnapshot (cache.afterSteps steps) cache := by
  induction steps generalizing cache with
  | nil => exact .refl cache
  | cons step steps ih =>
    obtain ⟨here, later⟩ := List.forall_mem_cons.mp kept
    exact (ih _ later).trans (cache.agreesOnSnapshot_accountStep step here)

/-- A cache with the given settings and watched ConfigMap whose table mirrors the ConfigMap that
it keeps. -/
structure SnapshotInOrder (settings : Settings) (source : Option WatchedMap) (cache : Cache) :
    Prop where
  settings : cache.settings = settings
  source : cache.source = source
  mirrors : cache.MirrorsLastMap

theorem snapshotInOrder_new (settings : Settings) (source : Option WatchedMap)
    (queue : Option RefreshQueue) : SnapshotInOrder settings source (new settings source queue) :=
  ⟨rfl, rfl, rfl⟩

namespace SnapshotInOrder

variable {settings : Settings} {source : Option WatchedMap} {cache : Cache}

theorem of_agrees {other : Cache} (agree : AgreesOnSnapshot other cache)
    (order : SnapshotInOrder settings source cache) : SnapshotInOrder settings source other := by
  refine ⟨agree.settings.trans order.settings, agree.source.trans order.source, ?_⟩
  have mirrors := order.mirrors
  unfold MirrorsLastMap at mirrors ⊢
  rw [agree.lastMap, agree.mapped, agree.settings]
  exact mirrors

/-- A delivered ConfigMap leaves the snapshot in order and is kept if it is taken in. -/
theorem applyMap (order : SnapshotInOrder settings source cache) (map : ConfigMap) :
    SnapshotInOrder settings source (cache.applyMap map).1 ∧
      (cache.applyMap map).1.lastMap =
        if (MapStep.apply map).decides source then some map else cache.lastMap := by
  have mirrors := applyMap_mirrors order.mirrors map
  have result := applyMap_fst order.mirrors map
  cases taken : takenSnapshot? source map with
  | none =>
    simp only [order.source, taken] at result
    rw [result]
    exact ⟨order, by simp [MapStep.decides, taken]⟩
  | some snapshot =>
    simp only [order.source, taken] at result
    rw [result] at mirrors ⊢
    exact ⟨⟨order.settings, rfl, mirrors⟩, by simp [MapStep.decides, taken]⟩

/-- **An operation leaves the snapshot in order and keeps what the latest of its steps decides.** -/
theorem perform (order : SnapshotInOrder settings source cache) (operation : Operation) :
    SnapshotInOrder settings source (cache.perform operation).1 ∧
      (cache.perform operation).1.lastMap =
        latestOr (MapStep.decides source) MapStep.map? cache.lastMap operation.mapSteps := by
  have untouched {other : Cache} (agree : AgreesOnSnapshot other cache) :
      SnapshotInOrder settings source other ∧ other.lastMap = cache.lastMap :=
    ⟨order.of_agrees agree, agree.lastMap⟩
  cases operation with
  | get request => exact untouched (cache.agreesOnSnapshot_accountStep (.query request) nofun)
  | applyAccount account =>
    exact untouched (cache.agreesOnSnapshot_accountStep (.apply account) nofun)
  | deleteAccount deletion =>
    exact untouched (cache.agreesOnSnapshot_accountStep (.delete deletion) nofun)
  | resetAccounts accounts removed =>
    have listed : ∀ step ∈ (Operation.resetAccounts accounts removed).accountSteps,
        step ≠ .clear := by
      intro step member isClear
      simp [Operation.accountSteps, isClear] at member
    have agree := cache.agreesOnSnapshot_afterSteps listed
    rw [Cache.perform, resetAccounts_fst]
    exact untouched ⟨agree.settings, agree.source, agree.mapped, agree.lastMap⟩
  | completeFetch outcome =>
    cases outcome with
    | account found =>
      rw [Cache.perform, complete_account_fst]
      exact untouched (cache.agreesOnSnapshot_accountStep (.apply found) nofun)
    | missing | failed => exact untouched (.refl cache)
  | applyMap map =>
    rw [Operation.mapSteps, latestOr_cons, latestOr_nil]
    exact order.applyMap map
  | deleteMap ns name => exact untouched (.refl cache)
  | resetMaps maps =>
    obtain ⟨final, kept⟩ := foldl_eq_latestOr lastMap
      (fun next map (inOrder : SnapshotInOrder settings source next) => inOrder.applyMap map)
      maps order
    rw [← forEach_fst] at final kept
    refine ⟨⟨final.settings, final.source, final.mirrors⟩, ?_⟩
    rw [Operation.mapSteps, latestOr_map]
    exact kept
  | clear =>
    refine ⟨⟨order.settings, order.source, rfl⟩, ?_⟩
    rw [Operation.mapSteps, latestOr_cons, latestOr_nil]
    rfl
  | takeRequest | closeQueue => exact untouched ⟨rfl, rfl, rfl, rfl⟩

/-- **A run leaves the snapshot in order and keeps what the latest of its steps decides.** -/
theorem after (order : SnapshotInOrder settings source cache) (run : List Operation) :
    SnapshotInOrder settings source (cache.after run) ∧
      (cache.after run).lastMap =
        latestOr (MapStep.decides source) MapStep.map? cache.lastMap
          (run.flatMap Operation.mapSteps) := by
  induction run generalizing cache with
  | nil => exact ⟨order, rfl⟩
  | cons operation run ih =>
    obtain ⟨next, here⟩ := order.perform operation
    obtain ⟨final, kept⟩ := ih next
    refine ⟨final, ?_⟩
    rw [after_cons, kept, here, List.flatMap_cons, latestOr_append]

/-! ## What is reported and what may be left out -/

/-- A delivered ConfigMap is refused for what it holds, and nothing else is amiss with it. -/
theorem applyMap_events (order : SnapshotInOrder settings source cache) (map : ConfigMap)
    {event : Event} (reported : event ∈ (cache.applyMap map).2) :
    ∃ cause, event = .mapRejected (.snapshot cause) := by
  unfold Cache.applyMap at reported
  rw [ingestMap_lastMap order.mirrors] at reported
  split at reported
  · cases readable : map.snapshot with
    | error cause =>
      rw [readable] at reported
      exact ⟨cause, List.mem_singleton.mp reported⟩
    | ok snapshot =>
      rw [readable] at reported
      cases reported
  · cases reported

/-- No operation leaves stale entries behind. -/
theorem staleEntriesKept_notMem (order : SnapshotInOrder settings source cache)
    (operation : Operation) (cause : IngestError) :
    .staleEntriesKept cause ∉ (cache.perform operation).2 := by
  intro reported
  cases operation with
  | applyMap map =>
    obtain ⟨other, isRejection⟩ := order.applyMap_events map reported
    cases isRejection
  | resetMaps maps =>
    have refused := (forEach_induction (P := SnapshotInOrder settings source)
      (Q := fun event => ∃ cause, event = .mapRejected (.snapshot cause)) maps
      (fun next map inOrder =>
        ⟨(inOrder.applyMap map).1, fun event => inOrder.applyMap_events map⟩) order).2
    obtain ⟨other, isRejection⟩ := refused _ reported
    cases isRejection
  | get request =>
    obtain ⟨asked, fate, isRequest⟩ := cache.get_events request reported
    cases isRequest
  | applyAccount account =>
    rcases cache.applyAccount_events account reported with ⟨arn, isRemark⟩ | isRefusal
    · cases isRemark
    · cases isRefusal
  | deleteAccount deletion => cases cache.deleteAccount_events deletion reported
  | resetAccounts accounts removed =>
    rcases List.mem_append.mp reported with applied | gone
    · have remarks := forEach_events cache accounts
        (fun next account event => next.applyAccount_events account)
      rcases remarks _ applied with ⟨arn, isRemark⟩ | isRefusal
      · cases isRemark
      · cases isRefusal
    · have refusals := forEach_events (forEach Cache.applyAccount cache accounts).1
        removed.eraseDups
        (fun next names event => next.deleteAccount_events (.tombstone (some names.1) names.2))
      cases refusals _ gone
  | completeFetch outcome =>
    rcases cache.complete_events outcome reported with
      ⟨arn, isRemark⟩ | isRefusal | isMissing | isFailure
    · cases isRemark
    · cases isRefusal
    · cases isMissing
    · cases isFailure
  | deleteMap ns name =>
    unfold Cache.perform deleteMap at reported
    dsimp only at reported
    split at reported
    · cases List.mem_singleton.mp reported
    · cases reported
  | clear | takeRequest | closeQueue => cases reported

/-- A ConfigMap that is not taken in leaves no trace. -/
theorem applyMap_of_not_taken (order : SnapshotInOrder settings source cache) {map : ConfigMap}
    (ignored : takenSnapshot? source map = none) : (cache.applyMap map).1 = cache := by
  rw [applyMap_fst order.mirrors, order.source, ignored]

theorem forEach_filter_taken (order : SnapshotInOrder settings source cache)
    (maps : List ConfigMap) :
    (forEach Cache.applyMap cache
        (maps.filter fun map => (takenSnapshot? source map).isSome)).1 =
      (forEach Cache.applyMap cache maps).1 := by
  induction maps generalizing cache with
  | nil => rfl
  | cons map maps ih =>
    cases taken : takenSnapshot? source map with
    | some snapshot =>
      rw [List.filter_cons_of_pos (by rw [taken]; rfl)]
      exact ih (order.applyMap map).1
    | none =>
      rw [List.filter_cons_of_neg (by rw [taken]; exact nofun), ih order]
      exact congrArg (fun next => (forEach Cache.applyMap next maps).1)
        (order.applyMap_of_not_taken taken).symm

theorem after_essential_perform (order : SnapshotInOrder settings source cache)
    (operation : Operation) :
    cache.after (operation.essential? source).toList = (cache.perform operation).1 := by
  cases operation with
  | applyMap map =>
    cases taken : takenSnapshot? source map with
    | some snapshot =>
      rw [Operation.essential?, taken]
      rfl
    | none =>
      rw [Operation.essential?, taken]
      exact (order.applyMap_of_not_taken taken).symm
  | resetMaps maps =>
    exact congrArg (fun next : Cache => { next with mapListed := true }.publish)
      (order.forEach_filter_taken maps)
  | _ => rfl

/-- What is not taken in can be left out of a run. -/
theorem after_essential (order : SnapshotInOrder settings source cache) (run : List Operation) :
    cache.after (run.filterMap (Operation.essential? source)) = cache.after run :=
  after_filterMap (P := SnapshotInOrder settings source)
    (fun _ operation inOrder =>
      ⟨(inOrder.perform operation).1, inOrder.after_essential_perform operation⟩) run order

end SnapshotInOrder

/-- The table has an account's entry as the ConfigMap that is kept has it, but for its lifetime. -/
theorem SnapshotInOrder.get?_mapped {settings : Settings} {source : Option WatchedMap}
    {cache : Cache} (order : SnapshotInOrder settings source cache) (key : CacheKey) :
    cache.mapped.get? key = (cache.lastMap.bind (·.entryOf? key)).map (.normalize settings) := by
  have mirrors := order.mirrors
  unfold MirrorsLastMap at mirrors
  rw [order.settings] at mirrors
  cases kept : cache.lastMap with
  | none =>
    rw [kept] at mirrors
    rw [mirrors]
    rfl
  | some map =>
    rw [kept] at mirrors
    obtain ⟨snapshot, readable, holds⟩ := mirrors
    rw [holds, Table.get?_map, Option.bind_some, ConfigMap.entryOf?, readable]
    rfl

/-- What the table holds is decided by the settings and the ConfigMap that is kept. -/
theorem mapped_eq_of_lastMap_eq {settings : Settings} {source : Option WatchedMap}
    {cache other : Cache} (order : SnapshotInOrder settings source cache)
    (orderToo : SnapshotInOrder settings source other) (same : cache.lastMap = other.lastMap) :
    cache.mapped = other.mapped := by
  have mirrors := order.mirrors
  have mirrorsToo := orderToo.mirrors
  unfold MirrorsLastMap at mirrors mirrorsToo
  rw [same, order.settings] at mirrors
  rw [orderToo.settings] at mirrorsToo
  cases kept : other.lastMap with
  | none =>
    rw [kept] at mirrors mirrorsToo
    rw [mirrors, mirrorsToo]
  | some map =>
    rw [kept] at mirrors mirrorsToo
    obtain ⟨snapshot, readable, holds⟩ := mirrors
    obtain ⟨snapshotToo, readableToo, holdsToo⟩ := mirrorsToo
    obtain rfl := Except.ok.inj (readable.symm.trans readableToo)
    rw [holds, holdsToo]

end Cache

/-! ## The main statement -/

/-- **The table is that of the latest snapshot.**  After every run of a new cache the ConfigMap
that is kept is the latest one that was the watched one and held a snapshot, since the start or
since the cache was last emptied; the table has the keys of that snapshot and no others, each
entry stored as written but for its lifetime, and is empty if no ConfigMap is kept.  The
ConfigMap that is kept can always be read again, so stale entries are never left behind.  What is
not taken in, and reports of ConfigMaps that have gone, can be left out of a run, and runs with
the same latest ConfigMap have the same table. -/
theorem table_is_latest_snapshot (settings : Settings) (source : Option WatchedMap)
    (queue : Option RefreshQueue) :
    let start := Cache.new settings source queue
    (∀ run, (start.after run).lastMap = latestMap? source run) ∧
    (∀ run,
      match latestMap? source run with
      | none => (start.after run).mapped = ∅
      | some map => ∃ snapshot, map.snapshot = .ok snapshot ∧
          ∀ key, Option.Rel (Entry.StoredAs settings) (snapshot.get? key)
            ((start.after run).mapped.get? key)) ∧
    (∀ run map cause,
      ((start.after run).ingestMap (start.after run).lastMap map).2 ≠
        .error (.previousSnapshot cause)) ∧
    (∀ run operation cause,
      .staleEntriesKept cause ∉ ((start.after run).perform operation).2) ∧
    (∀ run, start.after (run.filterMap (Operation.essential? source)) = start.after run) ∧
    (∀ run other, latestMap? source run = latestMap? source other →
      (start.after run).mapped = (start.after other).mapped) := by
  intro start
  have inOrder : Cache.SnapshotInOrder settings source start :=
    Cache.snapshotInOrder_new settings source queue
  have order : ∀ run, Cache.SnapshotInOrder settings source (start.after run) :=
    fun run => (inOrder.after run).1
  have kept : ∀ run, (start.after run).lastMap = latestMap? source run :=
    fun run => (inOrder.after run).2
  refine ⟨kept, fun run => ?_, fun run map cause => ?_,
    fun run => (order run).staleEntriesKept_notMem, inOrder.after_essential,
    fun run other same => ?_⟩
  · have mirrors := (order run).mirrors
    unfold Cache.MirrorsLastMap at mirrors
    rw [kept run, (order run).settings] at mirrors
    cases latest : latestMap? source run with
    | none =>
      rw [latest] at mirrors
      exact mirrors
    | some map =>
      rw [latest] at mirrors
      obtain ⟨snapshot, readable, holds⟩ := mirrors
      refine ⟨snapshot, readable, fun key => ?_⟩
      rw [holds, Table.get?_map]
      cases snapshot.get? key with
      | none => exact .none
      | some written => exact .some (written.storedAs_normalize settings)
  · rw [Cache.ingestMap_lastMap (order run).mirrors]
    cases map.snapshot <;> exact nofun
  · exact Cache.mapped_eq_of_lastMap_eq (order run) (order other)
      ((kept run).trans (same.trans (kept other).symm))

/-- The table after two ConfigMaps, a malformed one and a deletion is that of the second alone. -/
theorem snapshot_replaced_by_relist :
    let watched : WatchedMap := ⟨"ns", "map"⟩
    let map (text : String) : ConfigMap :=
      { ns := some "ns", name := some "map", data := [("config", text)] }
    let start := Cache.new {} (some watched) none
    let second := map "\x7b\"ns/b\":\x7b\x7d\x7d"
    let run : List Operation :=
      [.applyMap (map "\x7b\"ns/a\":\x7b\x7d\x7d"), .applyMap (map "["), .deleteMap "ns" "map",
        .resetMaps [second]]
    latestMap? (some watched) run = latestMap? (some watched) [.applyMap second] ∧
      (start.after run).mapped = (start.after [.applyMap second]).mapped := by
  intro watched map start second run
  have same : latestMap? (some watched) run = latestMap? (some watched) [.applyMap second] := by
    decide
  exact ⟨same, (table_is_latest_snapshot {} (some watched) none).2.2.2.2.2 run
    [.applyMap second] same⟩

/-- If the watched name is empty, a ConfigMap that has neither a name nor a stem is taken in. -/
theorem nameless_map_is_taken_in :
    let watched : WatchedMap := ⟨"kube-system", ""⟩
    let map : ConfigMap :=
      { ns := some "kube-system", data := [("config", "\x7b\"ns/sa\":\x7b\x7d\x7d")] }
    let cache := (Cache.new {} (some watched) none).after [.applyMap map]
    ¬ (map.ns = some watched.ns ∧
        (map.name = some watched.name ∨
          map.name = none ∧ map.generateName = some watched.name)) ∧
      cache.lastMap = some map ∧ cache.mapped.size = 1 := by
  decide

end IdentityCache
