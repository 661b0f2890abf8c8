/-!
# One-shot signals

A signal is fired at most once and seen by any number of notifiers.  A notifier
sees a signal as fired for ever after it was fired; a signal that is dropped
without having been fired tells its notifiers that they wait in vain.

Signals are kept in a ledger that only grows, so a notifier needs nothing but the
identity of its signal and two notifiers belong together exactly when these agree.
-/

namespace IdentityCache

set_option autoImplicit false

/-- The identity of a signal; the cache knows a notifier by the signal it listens to. -/
structure SignalId where
  index : Nat
  deriving DecidableEq, Repr

/-- What has become of a signal. -/
structure SignalStatus where
  fired : Bool := false
  /-- Whether someone still holds it and may fire it. -/
  held : Bool := true
  deriving DecidableEq, Repr

/-- All signals ever created. -/
structure SignalLedger where
  /-- The status of each signal, in order of creation. -/
  statuses : List SignalStatus := []
  deriving DecidableEq, Repr

/-- What waiting for a signal has come to. -/
inductive Wakeup
  | pending
  | fired
  /-- The signal was dropped without having been fired. -/
  | dropped
  deriving DecidableEq, Repr

namespace SignalLedger

/-- Creates a signal. -/
def create (ledger : SignalLedger) : SignalLedger × SignalId :=
  (⟨ledger.statuses ++ [{ fired := false, held := true }]⟩, ⟨ledger.statuses.length⟩)

/-- Fires a signal; firing it again changes nothing. -/
def fire (ledger : SignalLedger) (id : SignalId) : SignalLedger :=
  ⟨ledger.statuses.modify id.index fun status => { status with fired := true }⟩

/-- Gives a signal up. -/
def drop (ledger : SignalLedger) (id : SignalId) : SignalLedger :=
  ⟨ledger.statuses.modify id.index fun status => { status with held := false }⟩

/-- The status of a signal; of one that was never created, that nobody holds it. -/
def status (ledger : SignalLedger) (id : SignalId) : SignalStatus :=
  (ledger.statuses[id.index]?).getD { held := false }

/-- Whether a signal has been fired. -/
def isFired (ledger : SignalLedger) (id : SignalId) : Bool := (ledger.status id).fired

/-- What a notifier that waits for a signal sees. -/
def wakeup (ledger : SignalLedger) (id : SignalId) : Wakeup :=
  if (ledger.status id).fired then .fired
  else if (ledger.status id).held then .pending
  else .dropped

end SignalLedger

end IdentityCache
