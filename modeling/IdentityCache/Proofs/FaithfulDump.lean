import IdentityCache.Cache.Report
import IdentityCache.Proofs.LatestEvents
import IdentityCache.Proofs.SnapshotReading

/-!
# The dump of a cache is a faithful snapshot

A cache writes its observed accounts as a JSON object (`Cache.toJson`).  The object has the keys
of the accounts as its members, each once and in the order of their bytes, and the decoder of
snapshots reads the very same table from it (`readSnapshot_toJson`).

A cache that takes the dump of another one as the snapshot of its watched ConfigMap raises short
lifetimes and gives entries without one the default.  Neither happens to an entry of the dump,
because every lifetime that is recorded for an account is at least ten minutes
(`floor_of_observed`).  So a cache without snapshot entries gets exactly the table that was
dumped, which is the second part of the main statement `dump_is_a_faithful_snapshot`.
-/

namespace IdentityCache

set_option autoImplicit false

/-! ## The text -/

/-- The members of a dump: the keys of the observed accounts with their entries. -/
def Cache.dumpMembers (cache : Cache) : List (String × Entry) :=
  cache.accounts.rows.map fun row => (row.1.text, row.2)

namespace Cache

theorem readSnapshot_toJson (cache : Cache) : Json.readSnapshot cache.toJson = .ok cache.accounts :=
  Json.readSnapshot_snapshotText cache.accounts

theorem toJson_isObject (cache : Cache) :
    Json.ObjectText Json.EntryText cache.dumpMembers cache.toJson.toList := by
  rw [toJson, String.toList_ofList]
  exact Json.objectText_snapshotText cache.accounts

theorem dumpMembers_ordered (cache : Cache) :
    cache.dumpMembers.Pairwise fun a b => (⟨a.1⟩ : CacheKey) < ⟨b.1⟩ :=
  List.pairwise_map.mpr cache.accounts.ordered

theorem mem_dumpMembers (cache : Cache) (key : CacheKey) (entry : Entry) :
    (key.text, entry) ∈ cache.dumpMembers ↔ cache.accounts.get? key = some entry := by
  rw [Table.get?, ← Rows.mem_iff_find? cache.accounts.ordered, dumpMembers, List.mem_map]
  constructor
  · rintro ⟨⟨⟨text⟩, value⟩, member, same⟩
    obtain ⟨texts, values⟩ := Prod.mk.inj same
    subst texts values
    exact member
  · intro member
    exact ⟨(key, entry), member, rfl⟩

end Cache

/-! ## The floor -/

/-- A lifetime that is long enough is neither the default's place nor raised. -/
theorem Entry.normalize_eq_self {settings : Settings} {entry : Entry}
    (long : 600 ≤ entry.tokenExpiration.toInt) : entry.normalize settings = entry := by
  have given : entry.tokenExpiration ≠ .zero := by
    intro zero
    rw [zero] at long
    exact absurd long (by decide)
  have notRaised : entry.tokenExpiration.raise = entry.tokenExpiration :=
    if_neg (Int.not_lt.mpr long)
  simp only [normalize, given, if_false, notRaised]

namespace Cache

/-- No account is recorded with a lifetime of less than ten minutes. -/
theorem floor_of_observed (settings : Settings) (source : Option WatchedMap)
    (queue : Option RefreshQueue) (run : List Operation) {key : CacheKey} {entry : Entry}
    (observed : ((new settings source queue).after run).accounts.get? key = some entry) :
    600 ≤ entry.tokenExpiration.toInt := by
  rw [get?_accounts_after _ run key rfl] at observed
  obtain ⟨step, -, states⟩ := Option.bind_eq_some_iff.mp observed
  cases step with
  | apply account =>
    cases Option.some.inj states
    simp only [Entry.ofAnnotations, Seconds.toInt_raise]
    exact Int.le_max_left _ _
  | query | delete | clear => cases states

/-! ## Taking a dump in -/

/-- Without entries of a snapshot before it, a new snapshot is all that there is, whichever
ConfigMap is kept. -/
theorem mapped_applyMap_of_empty {cache : Cache} {map : ConfigMap} {snapshot : Table Entry}
    (empty : cache.mapped = ∅) (watched : cache.watchesMap map = true)
    (readable : map.snapshot = .ok snapshot) :
    (cache.applyMap map).1.mapped = snapshot.map (.normalize cache.settings) := by
  have overwritten : cache.mapped.override (snapshot.map (.normalize cache.settings)) =
      snapshot.map (.normalize cache.settings) := by
    rw [empty, Table.empty_override]
  unfold applyMap ingestMap
  rw [if_pos watched, readable]
  cases cache.lastMap with
  | none => exact overwritten
  | some old =>
    dsimp only
    cases old.snapshot with
    | error cause => exact overwritten
    | ok previous =>
      refine Eq.trans ?_ overwritten
      -- Stale keys are not in the new snapshot, and nothing else is in the table.
      refine Table.eraseAll_eq_self fun key stale => ?_
      have missing : snapshot.get? key = none := by
        simpa [Table.contains] using (List.mem_filter.mp stale).2
      rw [overwritten, Table.get?_map, missing, Option.map_none]

end Cache

/-! ## The main statement -/

/-- **A dump is a faithful snapshot.**  The dump of any cache is the text of a JSON object whose
members are the keys of the observed accounts, in strictly increasing order of their bytes, each
with the four members of its entry; and the decoder of snapshots reads the table of these accounts
back from it, whatever characters the keys, the roles and the audiences have and whatever the
lifetimes are.  So after every run of a new cache, a cache that has no entry of a snapshot and
takes in the watched ConfigMap with this dump has the same entries under the same keys. -/
theorem dump_is_a_faithful_snapshot :
    (∀ cache : Cache,
      (∃ members : List (String × Entry),
        Json.ObjectText Json.EntryText members cache.toJson.toList ∧
        (members.Pairwise fun a b => (⟨a.1⟩ : CacheKey) < ⟨b.1⟩) ∧
        ∀ key entry, (key.text, entry) ∈ members ↔ cache.accounts.get? key = some entry) ∧
      Json.readSnapshot cache.toJson = .ok cache.accounts) ∧
    (∀ settings source queue run (target : Cache) (map : ConfigMap),
      let cache := (Cache.new settings source queue).after run
      target.mapped = ∅ → target.watchesMap map = true →
      map.data.lookup "config" = some cache.toJson →
      (target.applyMap map).1.mapped = cache.accounts) := by
  refine ⟨fun cache => ⟨⟨cache.dumpMembers, cache.toJson_isObject, cache.dumpMembers_ordered,
    cache.mem_dumpMembers⟩, cache.readSnapshot_toJson⟩, ?_⟩
  intro settings source queue run target map cache empty watched holds
  have readable : map.snapshot = .ok cache.accounts := by
    rw [ConfigMap.snapshot, snapshotLabel, holds]
    simp only [cache.readSnapshot_toJson]
  rw [Cache.mapped_applyMap_of_empty empty watched readable]
  exact Table.map_eq_self fun key entry observed =>
    Entry.normalize_eq_self (Cache.floor_of_observed settings source queue run observed)

/-- Quotes, backslashes and control characters in a role survive. -/
theorem dump_with_escapes_is_taken_in :
    let account : ServiceAccount :=
      { ns := some "ns", name := some "sa"
        annotations := [("eks.amazonaws.com/role-arn", "a\"b\\c\u0001\u00e9")] }
    let cache := (Cache.new {} none none).after [.applyAccount account]
    let target := Cache.new {} (some ⟨"ns", "map"⟩) none
    let map : ConfigMap :=
      { ns := some "ns", name := some "map", data := [("config", cache.toJson)] }
    (target.applyMap map).1.mapped = cache.accounts ∧
      (cache.accounts.get? ⟨"ns/sa"⟩).map Entry.roleArn = some "a\"b\\c\u0001\u00e9" := by
  intro account cache target map
  have watched : target.watchesMap map = true := by decide
  exact ⟨dump_is_a_faithful_snapshot.2 {} none none [.applyAccount account] target map rfl watched
    rfl, by decide +kernel⟩

end IdentityCache
