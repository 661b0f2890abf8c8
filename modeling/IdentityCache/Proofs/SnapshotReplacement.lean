import IdentityCache.Proofs.SnapshotTable

/-!
# How one snapshot replaces another

Taking in a ConfigMap meets three tables: the one that the cache holds, which may have come from
anywhere, the snapshot of the new ConfigMap, and that of an older one.  Nothing is changed unless
the new snapshot can be read.  Then its rows are recorded, and only after that is the older one
looked at: an older ConfigMap that cannot be read is reported, and what was recorded stays.

A snapshot has no order of its own, so its rows and the keys of the older one may be visited in
any order (`Table.replaceRows`); `mapped_ingestMap_eq_replaceRows` says that no order makes a
difference.  The main statement is `snapshot_replaces_its_predecessor`.
-/

namespace IdentityCache

set_option autoImplicit false

/-! ## Visiting rows in any order -/

/-- Records the rows of a snapshot one after the other as they are stored, and then visits keys
one after the other and removes those that no row has. -/
def Table.replaceRows (settings : Settings) (rows : List (CacheKey × Entry))
    (keys : List CacheKey) (table : Table Entry) : Table Entry :=
  let recorded :=
    rows.foldl (fun table row => table.insert row.1 (row.2.normalize settings)) table
  keys.foldl
    (fun table key => if rows.any (·.1 == key) then table else table.erase key) recorded

/-- The keys that an older ConfigMap gives to visit: none if there is none or it holds no
snapshot. -/
def previousKeys (old : Option ConfigMap) : List CacheKey :=
  match old with
  | none => []
  | some old =>
    match old.snapshot with
    | .ok previous => previous.keys
    | .error _ => []

/-- Rows of a table with the same key are the same row. -/
theorem Table.row_eq_of_key_eq {α : Type} (table : Table α) {row other : CacheKey × α}
    (member : row ∈ table.rows) (memberToo : other ∈ table.rows) (same : row.1 = other.1) :
    row = other := by
  have found := (Rows.mem_iff_find? table.ordered row.1 row.2).mp member
  have foundToo := (Rows.mem_iff_find? table.ordered other.1 other.2).mp memberToo
  rw [← same, found] at foundToo
  exact Prod.ext same (Option.some.inj foundToo)

/-- Recording the rows of a snapshot in any order is overwriting with what they are stored as. -/
theorem Table.foldl_insert_perm (settings : Settings) (table snapshot : Table Entry)
    {rows : List (CacheKey × Entry)} (visited : rows.Perm snapshot.rows) :
    rows.foldl (fun table row => table.insert row.1 (row.2.normalize settings)) table =
      table.override (snapshot.map (.normalize settings)) := by
  unfold override map
  rw [List.foldl_map]
  refine visited.foldl_eq' (fun row member other memberToo table => ?_) table
  by_cases same : row.1 = other.1
  · rw [snapshot.row_eq_of_key_eq (visited.mem_iff.mp member) (visited.mem_iff.mp memberToo) same]
  · exact insert_comm same table _ _

/-- Visiting rows and keys in any order is overwriting and then removing the stale keys. -/
theorem Table.replaceRows_perm (settings : Settings) (table snapshot : Table Entry)
    {rows : List (CacheKey × Entry)} {keys previous : List CacheKey}
    (visited : rows.Perm snapshot.rows) (visitedToo : keys.Perm previous) :
    table.replaceRows settings rows keys =
      (table.override (snapshot.map (.normalize settings))).eraseAll
        (previous.filter fun key => !snapshot.contains key) := by
  have present : ∀ key, rows.any (·.1 == key) = snapshot.contains key := by
    intro key
    rw [visited.any_eq, Bool.eq_iff_iff, contains, ← mem_keys]
    simp only [List.any_eq_true, beq_iff_eq, Table.keys, List.mem_map]
  have skips : ∀ (table : Table Entry) key,
      (if snapshot.contains key then table else table.erase key) =
        if (!snapshot.contains key) = true then table.erase key else table := by
    intro table key
    cases snapshot.contains key <;> rfl
  unfold replaceRows
  simp only [present, foldl_insert_perm settings table snapshot visited, skips]
  rw [← List.foldl_filter]
  exact eraseAll_congr _ fun key => (visitedToo.filter _).mem_iff

/-! ## The result of taking in a ConfigMap -/

/-- What is reported of the older ConfigMap. -/
def previousReport (old : Option ConfigMap) : Except IngestError Unit :=
  match old with
  | none => .ok ()
  | some old =>
    match old.snapshot with
    | .ok _ => .ok ()
    | .error cause => .error (.previousSnapshot cause)

namespace Cache

variable (cache : Cache) (old : Option ConfigMap) {new : ConfigMap} {snapshot : Table Entry}

/-- A ConfigMap with a snapshot is taken in whatever there was before: only the table of the
snapshot changes, and only the older ConfigMap can be at fault. -/
theorem ingestMap_of_readable (readable : new.snapshot = .ok snapshot) :
    cache.ingestMap old new =
      ({ cache with
          mapped := (cache.mapped.override (snapshot.map (.normalize cache.settings))).eraseAll
            ((previousKeys old).filter fun key => !snapshot.contains key) },
        previousReport old) := by
  unfold ingestMap previousKeys previousReport
  simp only [readable]
  cases old with
  | none => rfl
  | some old =>
    cases previous : old.snapshot <;> simp only [previous]
    all_goals rfl

/-- **A key finds its new entry; without one it finds nothing if only the older snapshot had it,
and otherwise what it found.** -/
theorem get?_mapped_ingestMap (readable : new.snapshot = .ok snapshot) (key : CacheKey) :
    (cache.ingestMap old new).1.mapped.get? key =
      ((snapshot.get? key).map (.normalize cache.settings)).or
        (if key ∈ previousKeys old then none else cache.mapped.get? key) := by
  rw [ingestMap_of_readable cache old readable]
  simp only [Table.get?_eraseAll, Table.get?_override, Table.get?_map, List.mem_filter,
    Table.contains]
  cases snapshot.get? key <;> simp

/-- No order of visiting the snapshots makes a difference. -/
theorem mapped_ingestMap_eq_replaceRows (readable : new.snapshot = .ok snapshot)
    {rows : List (CacheKey × Entry)} {keys : List CacheKey}
    (visited : rows.Perm snapshot.rows) (visitedToo : keys.Perm (previousKeys old)) :
    (cache.ingestMap old new).1.mapped = cache.mapped.replaceRows cache.settings rows keys := by
  rw [Table.replaceRows_perm cache.settings cache.mapped snapshot visited visitedToo,
    ingestMap_of_readable cache old readable]

/-- Taking in the same ConfigMap again changes nothing and reports the same. -/
theorem ingestMap_again (new : ConfigMap) :
    (cache.ingestMap old new).1.ingestMap old new = cache.ingestMap old new := by
  cases read : new.snapshot with
  | error cause => simp only [ingestMap, read]
  | ok snapshot =>
    rw [ingestMap_of_readable cache old read, ingestMap_of_readable _ old read]
    simp only [Table.eraseAll_override_again]

end Cache

/-! ## The main statement -/

/-- **A snapshot takes the place of its predecessor, whatever the table held.**  A ConfigMap
without a snapshot is refused and changes nothing.  Otherwise the entries of its snapshot are
recorded, each as written but for its lifetime.  Without an older ConfigMap the table is
overwritten with them.  An older one that cannot be read is reported with what it would itself
be refused with, and nothing is removed.  If it can be read, a key that only it has finds
nothing any more, and a key that neither has finds what it found.  The snapshots may be visited
in any order, the same ConfigMap taken in again changes nothing, and nothing but the table is
touched. -/
theorem snapshot_replaces_its_predecessor (cache : Cache) (old : Option ConfigMap)
    (new : ConfigMap) :
    let result := cache.ingestMap old new
    (new.data.lookup "config" = none → result = (cache, .error (.snapshot .missingData))) ∧
    (∀ text fault, new.data.lookup "config" = some text →
      Json.readSnapshot text = .error fault →
      result = (cache, .error (.snapshot (.unreadable fault)))) ∧
    (∀ text snapshot, new.data.lookup "config" = some text →
      Json.readSnapshot text = .ok snapshot →
      (∃ stored : Table Entry,
        (∀ key, Option.Rel (Entry.StoredAs cache.settings) (snapshot.get? key)
          (stored.get? key)) ∧
        match old with
        | none =>
          result.2 = .ok () ∧
          ∀ key, result.1.mapped.get? key = (stored.get? key).or (cache.mapped.get? key)
        | some older =>
          match older.snapshot with
          | .error cause =>
            result.2 = .error (.previousSnapshot cause) ∧
            (cache.ingestMap none older).2 = .error (.snapshot cause) ∧
            ∀ key, result.1.mapped.get? key = (stored.get? key).or (cache.mapped.get? key)
          | .ok previous =>
            result.2 = .ok () ∧
            ∀ key, result.1.mapped.get? key =
              if stored.contains key then stored.get? key
              else if previous.contains key then none
              else cache.mapped.get? key) ∧
      ∀ rows keys, rows.Perm snapshot.rows → keys.Perm (previousKeys old) →
        result.1.mapped = cache.mapped.replaceRows cache.settings rows keys) ∧
    result.1.ingestMap old new = result ∧
    result.1 = { cache with mapped := result.1.mapped } := by
  intro result
  refine ⟨fun missing => ?_, fun text fault written unreadable => ?_,
    fun text snapshot written readable => ?_, cache.ingestMap_again old new, ?_⟩
  · have read : new.snapshot = .error .missingData := by
      simp only [ConfigMap.snapshot, snapshotLabel, missing]
    simp only [result, Cache.ingestMap, read]
  · have read : new.snapshot = .error (.unreadable fault) := by
      simp only [ConfigMap.snapshot, snapshotLabel, written, unreadable]
    simp only [result, Cache.ingestMap, read]
  · have read : new.snapshot = .ok snapshot := by
      simp only [ConfigMap.snapshot, snapshotLabel, written, readable]
    have report : result.2 = previousReport old := by
      simp only [result, cache.ingestMap_of_readable old read]
    have found := cache.get?_mapped_ingestMap old read
    refine ⟨⟨snapshot.map (.normalize cache.settings), fun key => ?_, ?_⟩, fun rows keys visited
      visitedToo => cache.mapped_ingestMap_eq_replaceRows old read visited visitedToo⟩
    · rw [Table.get?_map]
      cases snapshot.get? key with
      | none => exact .none
      | some entry => exact .some (entry.storedAs_normalize cache.settings)
    · cases old with
      | none => exact ⟨report, fun key => by simpa [Table.get?_map, previousKeys] using found key⟩
      | some older =>
        cases previous : older.snapshot with
        | error cause =>
          simp only [previousReport, previous] at report ⊢
          refine ⟨report, ?_, fun key => ?_⟩
          · simp only [Cache.ingestMap, previous]
          · simpa [Table.get?_map, previousKeys, previous] using found key
        | ok before =>
          simp only [previousReport, previous] at report ⊢
          refine ⟨report, fun key => ?_⟩
          rw [found key, Table.contains, Table.get?_map]
          simp only [previousKeys, previous]
          cases snapshot.get? key with
          | some entry => rfl
          | none =>
            change (if key ∈ before.keys then none else cache.mapped.get? key) =
              if before.contains key then none else cache.mapped.get? key
            exact ite_congr (propext (before.mem_keys key)) (fun _ => rfl) fun _ => rfl
  · cases read : new.snapshot with
    | error cause => simp only [result, Cache.ingestMap, read]
    | ok snapshot => simp only [result, cache.ingestMap_of_readable old read]

/-- In a table that no snapshot left behind, a new snapshot raises a short lifetime, removes the
key that only its predecessor has, and keeps a key that neither has; also if its rows and those
keys are visited from the last to the first. -/
theorem foreign_key_outlives_replacement :
    let holding (text : String) : ConfigMap := { data := [("config", text)] }
    let old := holding "\x7b\"ns/a\":\x7b\x7d,\"ns/b\":\x7b\x7d\x7d"
    let new := holding "\x7b\"ns/b\":\x7b\"TokenExpiration\":1\x7d,\"ns/c\":\x7b\x7d\x7d"
    let cache : Cache :=
      { settings := {}, source := none, mapped := (∅ : Table Entry).insert ⟨"ns/x"⟩ {} }
    let result := cache.ingestMap (some old) new
    result.2 = .ok () ∧
      result.1.mapped.get? ⟨"ns/a"⟩ = none ∧
      result.1.mapped.get? ⟨"ns/b"⟩ = some { tokenExpiration := .floor } ∧
      result.1.mapped.get? ⟨"ns/x"⟩ = some {} ∧
      result.1.mapped = cache.mapped.replaceRows {}
        [(⟨"ns/c"⟩, {}), (⟨"ns/b"⟩, { tokenExpiration := ⟨1, by decide⟩ })]
        [⟨"ns/b"⟩, ⟨"ns/a"⟩] := by
  intro holding old new cache result
  let snapshot : Table Entry :=
    ((∅ : Table Entry).insert ⟨"ns/b"⟩ { tokenExpiration := ⟨1, by decide⟩ }).insert ⟨"ns/c"⟩ {}
  obtain ⟨⟨stored, -, report, -⟩, anyOrder⟩ :=
    (snapshot_replaces_its_predecessor cache (some old) new).2.2.1 _ snapshot rfl (by rfl)
  have backwards := anyOrder [(⟨"ns/c"⟩, {}), (⟨"ns/b"⟩, { tokenExpiration := ⟨1, by decide⟩ })]
    [⟨"ns/b"⟩, ⟨"ns/a"⟩] (by decide) (by decide)
  refine ⟨report, ?_, ?_, ?_, backwards⟩ <;> rw [backwards] <;> rfl

end IdentityCache
