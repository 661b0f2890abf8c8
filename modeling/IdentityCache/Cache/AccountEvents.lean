import IdentityCache.Annotation
import IdentityCache.Cache.Basic

/-!
# Events of the ServiceAccount watch

Writing the entry of an account and releasing those who wait for it is one step, so
whoever is woken finds the entry.  A deletion releases nobody.  An object without a
namespace or a name is reported and otherwise ignored.
-/

namespace IdentityCache.Cache

set_option autoImplicit false

/-- Ends the pending window of an account, if one is open, and wakes who waits in it. -/
def release (cache : Cache) (key : CacheKey) : Cache :=
  match cache.pending.get? key with
  | some signal =>
    { cache with
      pending := cache.pending.erase key
      signals := (cache.signals.fire signal).drop signal }
  | none => cache

/-- Records the entry of an account and wakes who waits for it. -/
def writeAccount (cache : Cache) (key : CacheKey) (entry : Entry) : Cache :=
  { cache with accounts := cache.accounts.insert key entry }.release key

/-- Waking those who wait leaves the queue alone. -/
theorem queue_release (cache : Cache) (key : CacheKey) :
    (cache.release key).queue = cache.queue := by
  unfold release
  split <;> rfl

/-- Recording an entry leaves the queue alone. -/
theorem queue_writeAccount (cache : Cache) (key : CacheKey) (entry : Entry) :
    (cache.writeAccount key entry).queue = cache.queue :=
  queue_release _ key

/-- The events that the annotations of an account give rise to. -/
def annotationEvents (cache : Cache) (annotations : Labels) : List Event :=
  match roleOfAnnotations? cache.settings annotations with
  | some arn => if RoleArn.isValid arn then [] else [.invalidRole arn]
  | none => []

/-- Takes in a ServiceAccount. -/
def ingestAccount (cache : Cache) (account : ServiceAccount) :
    Except IngestError (Cache × List Event) :=
  match account.key? with
  | some key =>
    .ok (cache.writeAccount key (.ofAnnotations cache.settings account.annotations),
      cache.annotationEvents account.annotations)
  | none => .error .missingIdentity

/-- The watch delivers a ServiceAccount that is new or has changed. -/
def applyAccount (cache : Cache) (account : ServiceAccount) : Cache × List Event :=
  match cache.ingestAccount account with
  | .ok result => result
  | .error cause => (cache, [.accountIgnored cause])

/-- A ServiceAccount is gone. -/
def deleteAccount (cache : Cache) (deletion : Deletion) : Cache × List Event :=
  match deletion.key? with
  | some key => ({ cache with accounts := cache.accounts.erase key }, [])
  | none => (cache, [.deletionDropped .missingIdentity])

/-- The watch delivers all ServiceAccounts and the names of those that have gone. -/
def resetAccounts (cache : Cache) (accounts : List ServiceAccount)
    (removed : List (String × String)) : Cache × List Event :=
  let (cache, events) := forEach applyAccount cache accounts
  let (cache, later) :=
    forEach (fun cache names => cache.deleteAccount (.tombstone (some names.1) names.2)) cache
      removed.eraseDups
  ({ cache with accountsListed := true }.publish, events ++ later)

end IdentityCache.Cache
