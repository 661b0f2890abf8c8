import IdentityCache.Signal

/-!
# What notifiers see

The operations on the ledger of signals, described by `SignalLedger.wakeup`: the signal
that is created has yet to be fired, a signal that is fired and then given up is fired for
ever, and nothing else becomes of the other signals.  Only a signal that has been created
can still be fired, so a new signal is none of those that someone waits for.  Firing a signal
again changes nothing at all (`SignalLedger.fire_eq_self`).
-/

namespace IdentityCache

set_option autoImplicit false

theorem SignalId.index_ne {id other : SignalId} (different : other ≠ id) :
    id.index ≠ other.index := by
  intro equal
  cases id
  cases other
  exact different (congrArg SignalId.mk equal.symm)

namespace SignalLedger

/-- A signal counts as fired exactly if its notifiers see it as fired. -/
theorem isFired_iff (ledger : SignalLedger) (id : SignalId) :
    ledger.isFired id = true ↔ ledger.wakeup id = .fired := by
  unfold isFired wakeup
  cases (ledger.status id).fired <;> cases (ledger.status id).held <;> simp

theorem isFired_eq_false_of_pending {ledger : SignalLedger} {id : SignalId}
    (waiting : ledger.wakeup id = .pending) : ledger.isFired id = false := by
  rw [Bool.eq_false_iff]
  intro fired
  rw [isFired_iff, waiting] at fired
  cases fired

/-- Only a signal that has been created can still be fired. -/
theorem index_lt_of_pending {ledger : SignalLedger} {id : SignalId}
    (waiting : ledger.wakeup id = .pending) : id.index < ledger.statuses.length := by
  rw [← Nat.not_le]
  intro outside
  have unknown : ledger.statuses[id.index]? = none := List.getElem?_eq_none outside
  simp [wakeup, status, unknown] at waiting

/-- Nobody can be waiting for the signal that is created next. -/
theorem wakeup_next (ledger : SignalLedger) : ledger.wakeup ledger.create.2 = .dropped := by
  simp [wakeup, status, create]

/-- The signal that is created has yet to be fired, and the others are what they were. -/
theorem wakeup_create (ledger : SignalLedger) (id : SignalId) :
    ledger.create.1.wakeup id =
      if id = ledger.create.2 then .pending else ledger.wakeup id := by
  by_cases new : id = ledger.create.2
  · subst new
    simp [wakeup, status, create]
  · have different : id.index ≠ ledger.statuses.length := (SignalId.index_ne new).symm
    rw [if_neg new]
    unfold wakeup status create
    rcases Nat.lt_or_gt_of_ne different with known | unknown
    · simp only [List.getElem?_append_left known]
    · rw [List.getElem?_eq_none (Nat.le_of_lt unknown), List.getElem?_eq_none]
      rw [List.length_append, List.length_singleton]
      exact unknown

/-- Creating a signal fires none. -/
theorem isFired_create (ledger : SignalLedger) (id : SignalId) :
    ledger.create.1.isFired id = ledger.isFired id := by
  rw [Bool.eq_iff_iff, isFired_iff, isFired_iff, wakeup_create]
  split
  · rename_i isNew
    rw [isNew, wakeup_next]
    exact iff_of_false nofun nofun
  · exact Iff.rfl

/-- Firing a signal changes nothing for the others. -/
theorem status_fire_of_ne {id other : SignalId} (ledger : SignalLedger) (different : other ≠ id) :
    (ledger.fire id).status other = ledger.status other := by
  simp [status, fire, SignalId.index_ne different]

/-- Giving a signal up changes nothing for the others. -/
theorem status_drop_of_ne {id other : SignalId} (ledger : SignalLedger) (different : other ≠ id) :
    (ledger.drop id).status other = ledger.status other := by
  simp [status, drop, SignalId.index_ne different]

/-- A signal that has been fired can be fired again, and nothing changes. -/
theorem fire_eq_self {ledger : SignalLedger} {id : SignalId} (fired : ledger.isFired id = true) :
    ledger.fire id = ledger := by
  have unchanged : ledger.statuses.modify id.index
      (fun status => { status with fired := true }) = ledger.statuses := by
    refine List.ext_getElem? fun index => ?_
    rw [List.getElem?_modify]
    by_cases here : id.index = index
    · subst here
      unfold isFired status at fired
      cases found : ledger.statuses[id.index]? with
      | none => rfl
      | some status =>
        rw [found] at fired
        have marked : status.fired = true := fired
        simp [← marked]
    · simp [here]
  rw [fire, unchanged]

/-- **A signal that is fired and then given up is fired, and the others are what they were.** -/
theorem wakeup_drop_fire {ledger : SignalLedger} {id : SignalId}
    (waiting : ledger.wakeup id = .pending) (other : SignalId) :
    ((ledger.fire id).drop id).wakeup other =
      if other = id then .fired else ledger.wakeup other := by
  have known := index_lt_of_pending waiting
  by_cases same : other = id
  · subst same
    simp [wakeup, status, fire, drop, known]
  · have kept : ((ledger.fire id).drop id).status other = ledger.status other := by
      rw [status_drop_of_ne _ same, status_fire_of_ne _ same]
    simp only [wakeup, kept, if_neg same]

end SignalLedger

end IdentityCache
