import IdentityCache.BoundedLookup
import IdentityCache.Http.Endpoint

/-!
# Calls

A call is a question put to the running service: a lookup with a grace period of its
own, or a request to the debug endpoint, whose lookups share one grace period.  All
calls but lookups are answered as soon as they begin.
-/

namespace IdentityCache

set_option autoImplicit false

/-- A question put to the service. -/
inductive Call
  /-- A lookup with a grace period. -/
  | lookup (ns name : String) (grace : Nat)
  /-- A request to the debug endpoint. -/
  | http (method target : String)
  deriving DecidableEq, Repr

/-- The answer of a call. -/
inductive CallAnswer
  | response (value : Response)
  | page (value : Http.Page)
  /-- The method and the target make no request. -/
  | invalidRequest
  deriving DecidableEq, Repr

/-- How the response of a lookup is presented to the caller. -/
inductive Presentation
  | plain
  | page
  deriving DecidableEq, Repr

/-- Presents the response of a lookup. -/
def Presentation.present (presentation : Presentation) (response : Response) : CallAnswer :=
  match presentation with
  | .plain => .response response
  | .page => .page (.ofAnswer response.answer)

/-- How far a call has come. -/
inductive CallProgress
  | waiting (presentation : Presentation) (lookup : WaitingLookup)
  /-- It was answered at the given time. -/
  | answered (answer : CallAnswer) (time : Nat)
  deriving DecidableEq, Repr

namespace CallProgress

/-- Whether a call still waits. -/
def isWaiting : CallProgress → Bool
  | .waiting _ _ => true
  | .answered _ _ => false

/-- When the grace period of a waiting call ends. -/
def deadline? : CallProgress → Option Nat
  | .waiting _ lookup => some lookup.deadline
  | .answered _ _ => none

/-- Answers a waiting call, if it has come to an answer. -/
def poll? (call : CallProgress) (cache : Cache) (now : Nat) : Option CallProgress :=
  match call with
  | .waiting presentation lookup =>
    (lookup.poll cache now).map fun response => .answered (presentation.present response) now
  | .answered _ _ => none

/-- Answers a waiting call whose grace period is over. -/
def expire? (call : CallProgress) (cache : Cache) (now : Nat) : Option CallProgress :=
  if call.deadline?.any (· ≤ now) then call.poll? cache now else none

/-- A call that is answered waited before and no longer waits. -/
theorem isWaiting_of_poll? {call after : CallProgress} {cache : Cache} {now : Nat}
    (polled : call.poll? cache now = some after) :
    call.isWaiting = true ∧ after.isWaiting = false := by
  cases call with
  | waiting presentation lookup =>
    obtain ⟨response, -, rfl⟩ := Option.map_eq_some_iff.mp polled
    exact ⟨rfl, rfl⟩
  | answered answer time => simp [poll?] at polled

/-- A call whose grace period is over is answered. -/
theorem expire?_isSome {call : CallProgress} {deadline now : Nat} (cache : Cache)
    (ends : call.deadline? = some deadline) (expired : deadline ≤ now) :
    (call.expire? cache now).isSome := by
  cases call with
  | waiting presentation lookup =>
    simp only [deadline?, Option.some.injEq] at ends
    subst ends
    simpa [expire?, deadline?, expired, poll?] using lookup.poll_isSome_of_deadline_le cache expired
  | answered answer time => simp [deadline?] at ends

end CallProgress

/-- Begins a lookup whose response will be presented in the given way. -/
def Cache.beginPresented (cache : Cache) (now : Nat) (presentation : Presentation)
    (ns name : String) (grace : Nat) : Cache × CallProgress × List Event :=
  match cache.beginLookup now ns name grace with
  | (cache, .answered response, events) =>
    (cache, .answered (presentation.present response) now, events)
  | (cache, .waiting lookup, events) => (cache, .waiting presentation lookup, events)

/-- Begins a request to the debug endpoint.  The readiness that it shows is given, as is the
grace period of its lookups. -/
def Cache.beginHttp (cache : Cache) (now : Nat) (isReady : Bool) (grace : Nat)
    (method path : String) : Cache × CallProgress × List Event :=
  match Http.route method path with
  | .ready => (cache, .answered (.page (.ready isReady)) now, [])
  | .cache => (cache, .answered (.page (.ofJson cache.toJson)) now, [])
  | .lookup ns name => cache.beginPresented now .page ns name grace
  | .methodNotAllowed => (cache, .answered (.page (.ofStatus 405)) now, [])
  | .notFound => (cache, .answered (.page (.ofStatus 404)) now, [])

end IdentityCache
