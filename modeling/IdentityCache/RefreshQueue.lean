import IdentityCache.Event

/-!
# The queue of refresh requests

Requests to fetch a ServiceAccount wait in a bounded queue.  Offering a request
never waits: it is refused if the queue is full or its receiver is gone.
-/

namespace IdentityCache

set_option autoImplicit false

/-- A bounded first-in first-out queue of requests. -/
structure RefreshQueue where
  capacity : Nat
  /-- The waiting requests, the oldest first. -/
  waiting : List Request := []
  /-- Whether anyone receives requests. -/
  isOpen : Bool := true
  deriving DecidableEq, Repr

namespace RefreshQueue

/-- The largest capacity that a queue can have. -/
def maxCapacity : Nat := 2305843009213693951

/-- An empty queue of the given capacity, which must be positive and not too large. -/
def create? (capacity : Nat) : Option RefreshQueue :=
  if 0 < capacity ∧ capacity ≤ maxCapacity then some { capacity } else none

/-- Offers a request to the queue. -/
def offer (queue : RefreshQueue) (request : Request) : RefreshQueue × RequestFate :=
  if !queue.isOpen then (queue, .closed)
  else if queue.capacity ≤ queue.waiting.length then (queue, .full)
  else ({ queue with waiting := queue.waiting ++ [request] }, .queued)

/-- Takes the oldest request. -/
def take? (queue : RefreshQueue) : Option (Request × RefreshQueue) :=
  match queue.waiting with
  | [] => none
  | request :: waiting => some (request, { queue with waiting })

/-- Takes every request. -/
def drain (queue : RefreshQueue) : List Request × RefreshQueue :=
  (queue.waiting, { queue with waiting := [] })

/-- Gives up receiving; what waits is lost. -/
def close (queue : RefreshQueue) : RefreshQueue :=
  { queue with waiting := [], isOpen := false }

end RefreshQueue

end IdentityCache
