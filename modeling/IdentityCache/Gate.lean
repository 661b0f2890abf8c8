/-!
# The readiness gate

A gate shows whether the cache is ready.  Publishing the value that it already shows
is no change; each change gets a new version, by which an observer tells whether it
has seen the latest one.
-/

namespace IdentityCache

set_option autoImplicit false

/-- A published truth value. -/
structure Gate where
  /-- The value that observers see. -/
  isOpen : Bool := false
  /-- The number of changes so far. -/
  version : Nat := 0
  deriving DecidableEq, Repr

/-- Shows a value, which counts as a change only if it is a new one. -/
def Gate.publish (gate : Gate) (isOpen : Bool) : Gate :=
  if gate.isOpen = isOpen then gate else ⟨isOpen, gate.version + 1⟩

/-- After publishing, a gate shows the published value. -/
@[simp] theorem Gate.isOpen_publish (gate : Gate) (isOpen : Bool) :
    (gate.publish isOpen).isOpen = isOpen := by
  unfold Gate.publish
  split
  · assumption
  · rfl

end IdentityCache
