import IdentityCache.Cache.Query

/-!
# Lookups that wait for a while

A lookup with a grace period asks to be notified.  If the account is unknown to both
sources it waits until the account is observed, and then looks again without asking
to be notified; or until the grace period is over, or it can no longer be woken, and
then keeps its first answer.  Without a grace period it never waits.

Time is counted in milliseconds.  When the grace period ends in the same instant as
the account is observed, whichever of the two is seen first decides.
-/

namespace IdentityCache

set_option autoImplicit false

/-- A lookup that waits for an account to be observed. -/
structure WaitingLookup where
  key : CacheKey
  /-- The response of the first look, which found nothing. -/
  first : Response
  signal : SignalId
  /-- When the grace period ends. -/
  deadline : Nat
  deriving DecidableEq, Repr

/-- What the first look of a lookup comes to. -/
inductive LookupStart
  | answered (response : Response)
  | waiting (lookup : WaitingLookup)
  deriving DecidableEq, Repr

/-- Begins a lookup. -/
def Cache.beginLookup (cache : Cache) (now : Nat) (ns name : String) (grace : Nat) :
    Cache × LookupStart × List Event :=
  let request : Request := { ns, name, notify := grace ≠ 0 }
  let (cache, response, events) := cache.get request
  match response.notifier with
  | some signal =>
    if response.answer.found then (cache, .answered response, events)
    else
      (cache, .waiting { key := request.key, first := response, signal, deadline := now + grace },
        events)
  | none => (cache, .answered response, events)

/-- The response of a waiting lookup, if it has come to one. -/
def WaitingLookup.poll (lookup : WaitingLookup) (cache : Cache) (now : Nat) : Option Response :=
  match cache.signals.wakeup lookup.signal with
  | .fired => some { answer := cache.answer lookup.key }
  | .dropped => some lookup.first
  | .pending => if lookup.deadline ≤ now then some lookup.first else none

/-- A lookup whose grace period is over is answered. -/
theorem WaitingLookup.poll_isSome_of_deadline_le (lookup : WaitingLookup) (cache : Cache)
    {now : Nat} (expired : lookup.deadline ≤ now) : (lookup.poll cache now).isSome := by
  unfold poll
  split <;> simp [expired]

end IdentityCache
