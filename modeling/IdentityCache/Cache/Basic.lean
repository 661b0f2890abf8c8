import IdentityCache.Gate
import IdentityCache.RefreshQueue
import IdentityCache.Resource
import IdentityCache.Settings
import IdentityCache.Signal
import IdentityCache.Table.Basic

/-!
# The identity cache

The cache joins two sources of identities: the annotations of ServiceAccounts and
the snapshot of one watched ConfigMap.  It remembers who waits for a ServiceAccount
that has not been observed yet, asks for such accounts to be fetched, and publishes
whether both sources have delivered their first list.

Every operation of the cache is a function from the cache to the cache, the result
of the operation and the events that it reports, in order.
-/

namespace IdentityCache

set_option autoImplicit false

/-- The ConfigMap that snapshots are taken from. -/
structure WatchedMap where
  ns : String
  name : String
  deriving DecidableEq, Repr

/-- What the cache knows of a ServiceAccount that it has observed. -/
inductive Observed
  /-- The account exists and names no role. -/
  | noIdentity (entry : Entry)
  /-- The account names a role. -/
  | identity (entry : Entry)
  deriving DecidableEq, Repr

/-- Sorts an entry by whether it names a role. -/
def Observed.ofEntry (entry : Entry) : Observed :=
  if entry.hasIdentity then .identity entry else .noIdentity entry

/-- The identities of ServiceAccounts and what is needed to keep them up to date. -/
structure Cache where
  settings : Settings
  /-- The ConfigMap that snapshots are taken from, if any is. -/
  source : Option WatchedMap
  /-- The entries of the observed ServiceAccounts. -/
  accounts : Table Entry := ∅
  /-- The entries of the snapshot. -/
  mapped : Table Entry := ∅
  /-- The ConfigMap that the snapshot was taken from. -/
  lastMap : Option ConfigMap := none
  /-- The signals of the accounts that someone waits for. -/
  pending : Table SignalId := ∅
  signals : SignalLedger := {}
  /-- Where requests to fetch an account go, if anywhere. -/
  queue : Option RefreshQueue := none
  /-- Whether the ServiceAccounts have been listed. -/
  accountsListed : Bool := false
  /-- Whether the ConfigMap has been listed, or need not be. -/
  mapListed : Bool := false
  /-- Whether everything has been listed, as published. -/
  gate : Gate := {}
  deriving Repr

namespace Cache

/-- An empty cache.  Without a ConfigMap to watch there is none to wait for. -/
def new (settings : Settings) (source : Option WatchedMap) (queue : Option RefreshQueue) :
    Cache where
  settings := settings
  source := source
  queue := queue
  mapListed := source.isNone

/-- What has been observed of an account. -/
def observed? (cache : Cache) (key : CacheKey) : Option Observed :=
  (cache.accounts.get? key).map Observed.ofEntry

/-- Whether everything that is watched has been listed. -/
def hasSynced (cache : Cache) : Bool := cache.gate.isOpen

/-- Publishes whether everything has been listed. -/
def publish (cache : Cache) : Cache :=
  { cache with gate := cache.gate.publish (cache.accountsListed && cache.mapListed) }

/-- Runs an operation for each item in turn and collects the events. -/
def forEach {α : Type} (operation : Cache → α → Cache × List Event) (cache : Cache) :
    List α → Cache × List Event
  | [] => (cache, [])
  | item :: items =>
    let (cache, events) := operation cache item
    let (cache, later) := forEach operation cache items
    (cache, events ++ later)

/-- Empties both tables.  Who waits goes on waiting. -/
def clear (cache : Cache) : Cache :=
  { cache with accounts := ∅, mapped := ∅, lastMap := none }

/-- A new cache in the place of this one.  The signals that were pending are dropped with the
old cache; signals are numbered on. -/
def replace (cache : Cache) (settings : Settings) (source : Option WatchedMap)
    (queue : Option RefreshQueue) : Cache :=
  { new settings source queue with
    signals := cache.pending.rows.foldl (fun signals row => signals.drop row.2) cache.signals }

end Cache

end IdentityCache
