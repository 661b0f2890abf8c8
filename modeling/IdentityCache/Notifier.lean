import IdentityCache.Signal

/-!
# Notifiers

A signal is created together with a first notifier.  Whoever holds the signal can have
further notifiers of it, before and after it is fired, and whoever holds a notifier can copy
it.  A notifier listens to the same signal for as long as it is held: it tells whether the
signal has been fired, what a wait for it has come to, and whether another notifier listens
to the same signal.

Behind a signal is a channel that keeps the latest value it was given, which is whether the
signal has been fired.  The value stays when nobody listens and when the signal is dropped,
and a wait looks at the value before it looks for a holder of the signal.  So all that a
notifier tells depends on what has become of its signal, and asking changes nothing: a wait
that has been asked before is told the same as one that has just begun.

Signals and notifiers are numbered in the order in which they are created, and an operation
that creates some names them.  Only what is held can be used: an operation on something that
was never created, or that has been dropped, is not possible.
-/

namespace IdentityCache

set_option autoImplicit false

/-- The identity of a notifier. -/
structure NotifierId where
  index : Nat
  deriving DecidableEq, Repr

/-- What has become of a notifier. -/
structure NotifierStatus where
  /-- The signal that it listens to. -/
  signal : SignalId
  /-- Whether someone still holds it. -/
  held : Bool := true
  deriving DecidableEq, Repr

/-- What is done with signals and notifiers. -/
inductive SignalOperation
  /-- A signal and its first notifier are created. -/
  | create (signal : SignalId) (notifier : NotifierId)
  /-- A further notifier is had from a signal. -/
  | subscribe (signal : SignalId) (notifier : NotifierId)
  /-- A notifier is copied. -/
  | copy (notifier second : NotifierId)
  | fire (signal : SignalId)
  | dropSignal (signal : SignalId)
  | dropNotifier (notifier : NotifierId)
  deriving DecidableEq, Repr

/-- All signals and all notifiers ever created. -/
structure Broadcasts where
  signals : SignalLedger := {}
  /-- The status of each notifier, in order of creation. -/
  notifiers : List NotifierStatus := []
  deriving DecidableEq, Repr

namespace Broadcasts

/-- Whether someone holds a signal and may fire it. -/
def holds (broadcasts : Broadcasts) (signal : SignalId) : Bool :=
  (broadcasts.signals.status signal).held

/-- The signal that a notifier listens to, if someone holds the notifier. -/
def signalOf? (broadcasts : Broadcasts) (notifier : NotifierId) : Option SignalId :=
  (broadcasts.notifiers[notifier.index]?).bind fun status =>
    if status.held then some status.signal else none

/-- The notifier that is handed out next. -/
def nextNotifier (broadcasts : Broadcasts) : NotifierId := ⟨broadcasts.notifiers.length⟩

/-- Hands out a notifier that listens to a signal. -/
def handOut? (broadcasts : Broadcasts) (notifier : NotifierId) (signal : SignalId) :
    Option Broadcasts :=
  if notifier = broadcasts.nextNotifier then
    some { broadcasts with notifiers := broadcasts.notifiers ++ [{ signal, held := true }] }
  else none

/-- What an operation makes of the signals and notifiers, if it is possible. -/
def perform? (broadcasts : Broadcasts) : SignalOperation → Option Broadcasts
  | .create signal notifier =>
    let (signals, created) := broadcasts.signals.create
    if signal = created then { broadcasts with signals }.handOut? notifier signal else none
  | .subscribe signal notifier =>
    if broadcasts.holds signal then broadcasts.handOut? notifier signal else none
  | .copy notifier second => (broadcasts.signalOf? notifier).bind (broadcasts.handOut? second)
  | .fire signal =>
    if broadcasts.holds signal then
      some { broadcasts with signals := broadcasts.signals.fire signal }
    else none
  | .dropSignal signal =>
    if broadcasts.holds signal then
      some { broadcasts with signals := broadcasts.signals.drop signal }
    else none
  | .dropNotifier notifier =>
    (broadcasts.signalOf? notifier).map fun _ =>
      { broadcasts with
        notifiers := broadcasts.notifiers.modify notifier.index fun status =>
          { status with held := false } }

/-- What a run of operations makes of the signals and notifiers, if each is possible. -/
def after? (broadcasts : Broadcasts) (run : List SignalOperation) : Option Broadcasts :=
  run.foldlM perform? broadcasts

/-- Whether the signal of a notifier has been fired. -/
def isFired? (broadcasts : Broadcasts) (notifier : NotifierId) : Option Bool :=
  (broadcasts.signalOf? notifier).map broadcasts.signals.isFired

/-- What a wait on a notifier has come to. -/
def poll? (broadcasts : Broadcasts) (notifier : NotifierId) : Option Wakeup :=
  (broadcasts.signalOf? notifier).map broadcasts.signals.wakeup

/-- Whether two notifiers listen to the same signal. -/
def sameSignal? (broadcasts : Broadcasts) (notifier second : NotifierId) : Option Bool :=
  (broadcasts.signalOf? notifier).bind fun signal =>
    (broadcasts.signalOf? second).map fun other => decide (signal = other)

end Broadcasts

end IdentityCache
