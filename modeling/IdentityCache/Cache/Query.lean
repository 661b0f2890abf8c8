import IdentityCache.Cache.Basic

/-!
# Queries

An account that was observed with a role is answered from its annotations.
Otherwise the snapshot answers, and failing that the answer is that nothing was
found.  A caller who asks to be notified of an account that was never observed gets
a notifier: the first such caller opens a pending window for the account and has it
fetched, later ones join the window.
-/

namespace IdentityCache

set_option autoImplicit false

/-- An answer, with a notifier if the account is unobserved and the caller wants one. -/
structure Response where
  answer : Answer
  /-- The signal of the account's arrival. -/
  notifier : Option SignalId := none
  deriving DecidableEq, Repr

namespace Cache

/-- What the snapshot says of an account. -/
def mappedAnswer (cache : Cache) (key : CacheKey) : Answer :=
  match cache.mapped.get? key with
  | some entry => .ofEntry entry
  | none => .notFound cache.settings.defaultExpiration

/-- What the cache says of an account. -/
def answer (cache : Cache) (key : CacheKey) : Answer :=
  match cache.observed? key with
  | some (.identity entry) => .ofEntry entry
  | some (.noIdentity _) | none => cache.mappedAnswer key

/-- Asks for an account to be fetched. -/
def requestRefresh (cache : Cache) (request : Request) : Cache × List Event :=
  match cache.queue with
  | none => (cache, [])
  | some queue =>
    let request := { request with notify := false }
    let (queue, fate) := queue.offer request
    ({ cache with queue := some queue }, [.refreshRequested request fate])

/-- The signal of an account's arrival, which opens a pending window if there is none. -/
def subscribe (cache : Cache) (request : Request) : Cache × SignalId × List Event :=
  match cache.pending.get? request.key with
  | some signal => (cache, signal, [])
  | none =>
    let (signals, signal) := cache.signals.create
    let opened :=
      { cache with signals, pending := cache.pending.insert request.key signal }
    let (cache, events) := opened.requestRefresh request
    (cache, signal, events)

/-- Looks up the identity of an account. -/
def get (cache : Cache) (request : Request) : Cache × Response × List Event :=
  let answer := cache.answer request.key
  if request.notify && !cache.accounts.contains request.key then
    let (cache, signal, events) := cache.subscribe request
    (cache, { answer, notifier := some signal }, events)
  else (cache, { answer }, [])

/-- The choice of endpoint and the lifetime of an account's tokens.  An observed account decides
them even if it names no role. -/
def common (cache : Cache) (key : CacheKey) : Bool × Seconds :=
  match (cache.accounts.get? key).or (cache.mapped.get? key) with
  | some entry => (entry.useRegionalSts, entry.tokenExpiration)
  | none => (cache.settings.regionalByDefault, cache.settings.defaultExpiration)

end Cache

end IdentityCache
