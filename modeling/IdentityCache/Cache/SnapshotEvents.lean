import IdentityCache.Cache.AccountEvents
import IdentityCache.Json.Snapshot

/-!
# Events of the ConfigMap watch

The entries of a new snapshot overwrite those under the same keys, and the keys that
only the snapshot before it had are removed.  A ConfigMap without a readable
snapshot changes nothing.  Deleting the ConfigMap keeps its entries.
-/

namespace IdentityCache

set_option autoImplicit false

/-- The name under which a ConfigMap holds its snapshot. -/
def snapshotLabel : String := "config"

/-- The snapshot that a ConfigMap holds. -/
def ConfigMap.snapshot (map : ConfigMap) : Except SnapshotError (Table Entry) :=
  match map.data.lookup snapshotLabel with
  | none => .error .missingData
  | some text =>
    match Json.readSnapshot text with
    | .ok table => .ok table
    | .error fault => .error (.unreadable fault)

/-- An entry of a snapshot as it is stored: no lifetime means the default one, and a short one
is raised to the floor. -/
def Entry.normalize (settings : Settings) (entry : Entry) : Entry :=
  { entry with
    tokenExpiration :=
      (if entry.tokenExpiration = .zero then settings.defaultExpiration
      else entry.tokenExpiration).raise }

namespace Cache

/-- Takes in the snapshot of a ConfigMap in the place of that of an older one. -/
def ingestMap (cache : Cache) (old : Option ConfigMap) (new : ConfigMap) :
    Cache × Except IngestError Unit :=
  match new.snapshot with
  | .error cause => (cache, .error (.snapshot cause))
  | .ok snapshot =>
    let mapped := cache.mapped.override (snapshot.map (Entry.normalize cache.settings))
    match old with
    | none => ({ cache with mapped }, .ok ())
    | some old =>
      match old.snapshot with
      | .error cause => ({ cache with mapped }, .error (.previousSnapshot cause))
      | .ok previous =>
        let stale := previous.keys.filter fun key => !snapshot.contains key
        ({ cache with mapped := mapped.eraseAll stale }, .ok ())

/-- Whether the ConfigMap with the given names is the watched one. -/
def watches (cache : Cache) (ns name : String) : Bool :=
  cache.source == some ⟨ns, name⟩

/-- Whether a delivered ConfigMap is the watched one. -/
def watchesMap (cache : Cache) (map : ConfigMap) : Bool :=
  match map.ns with
  | some ns => cache.watches ns map.anyName
  | none => false

/-- The watch delivers a ConfigMap that is new or has changed. -/
def applyMap (cache : Cache) (map : ConfigMap) : Cache × List Event :=
  if cache.watchesMap map then
    match cache.ingestMap cache.lastMap map with
    | (cache, .ok ()) => ({ cache with lastMap := some map }, [])
    | (cache, .error (.previousSnapshot cause)) =>
      ({ cache with lastMap := some map }, [.staleEntriesKept (.previousSnapshot cause)])
    | (cache, .error cause) => (cache, [.mapRejected cause])
  else (cache, [])

/-- A ConfigMap is gone. -/
def deleteMap (cache : Cache) (ns name : String) : Cache × List Event :=
  (cache, if cache.watches ns name then [.watchedMapDeleted] else [])

/-- The watch delivers all ConfigMaps. -/
def resetMaps (cache : Cache) (maps : List ConfigMap) : Cache × List Event :=
  let (cache, events) := forEach applyMap cache maps
  ({ cache with mapListed := true }.publish, events)

end Cache

end IdentityCache
