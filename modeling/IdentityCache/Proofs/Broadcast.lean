import IdentityCache.Notifier
import IdentityCache.Proofs.Ledger
import IdentityCache.Proofs.Signal

/-!
# What notifiers tell

A run of operations on signals and notifiers leaves two ledgers behind, and what stands there
is told by the run: a signal is marked as fired exactly if the run fires it and as given up
exactly if the run drops it; a notifier listens to the signal that it stems from, through
whatever copies were made, until the run drops it (`Records`).

The two directions are of different kinds.  What an operation has marked stays marked, as
entries are only added and marks are only set (`GrowsTo`, `Bears`); and every mark was set
by an operation of the run (`IsToldBy`).  Together they give every entry of the two ledgers
as a function of the run (`Records.signal_status`, `Records.notifier_status`), in which the
order of the operations leaves no trace.  The main statement,
`notifiers_tell_what_became_of_their_signals`, says what this means to those who hold a
notifier.
-/

namespace IdentityCache

set_option autoImplicit false

/-! ## The history of a notifier -/

namespace SignalOperation

/-- The signal that an operation creates. -/
@[simp] def created? : SignalOperation → Option SignalId
  | .create signal _ => some signal
  | _ => none

/-- The notifier that an operation hands out. -/
@[simp] def handedOut? : SignalOperation → Option NotifierId
  | .create _ notifier | .subscribe _ notifier | .copy _ notifier => some notifier
  | _ => none

end SignalOperation

/-- A notifier stems from a signal: it was created with it, had from it, or copied from a
notifier that stems from it. -/
inductive StemsFrom (run : List SignalOperation) : NotifierId → SignalId → Prop
  | created {signal : SignalId} {notifier : NotifierId}
      (operation : .create signal notifier ∈ run) : StemsFrom run notifier signal
  | subscribed {signal : SignalId} {notifier : NotifierId}
      (operation : .subscribe signal notifier ∈ run) : StemsFrom run notifier signal
  | copied {signal : SignalId} {notifier second : NotifierId}
      (operation : .copy notifier second ∈ run) (stems : StemsFrom run notifier signal) :
      StemsFrom run second signal

theorem StemsFrom.mono {run later : List SignalOperation} (kept : run ⊆ later)
    {notifier : NotifierId} {signal : SignalId} (stems : StemsFrom run notifier signal) :
    StemsFrom later notifier signal := by
  induction stems with
  | created operation => exact .created (kept operation)
  | subscribed operation => exact .subscribed (kept operation)
  | copied operation _ ih => exact .copied (kept operation) ih

/-- What an operation uses is held after a run: it was created in the run and not dropped. -/
def SignalOperation.UsesHeld (run : List SignalOperation) : SignalOperation → Prop
  | .create _ _ => True
  | .subscribe signal _ | .fire signal | .dropSignal signal =>
    (∃ first, .create signal first ∈ run) ∧ .dropSignal signal ∉ run
  | .copy notifier _ | .dropNotifier notifier =>
    (∃ signal, StemsFrom run notifier signal) ∧ .dropNotifier notifier ∉ run

/-! ## What may become of signals and notifiers -/

/-- What may become of a signal: it may be fired, and it may be dropped. -/
def SignalStatus.Becomes (status next : SignalStatus) : Prop :=
  (status.fired = true → next.fired = true) ∧ (status.held = false → next.held = false)

/-- What may become of a notifier: it may be dropped. -/
def NotifierStatus.Becomes (status next : NotifierStatus) : Prop :=
  next.signal = status.signal ∧ (status.held = false → next.held = false)

theorem SignalStatus.Becomes.refl (status : SignalStatus) : status.Becomes status := ⟨id, id⟩

theorem NotifierStatus.Becomes.refl (status : NotifierStatus) : status.Becomes status :=
  ⟨rfl, id⟩

/-! ## Operations -/

namespace Broadcasts

variable {broadcasts next : Broadcasts}

theorem holds_iff {signal : SignalId} :
    broadcasts.holds signal = true ↔
      ∃ fired, broadcasts.signals.statuses[signal.index]? = some ⟨fired, true⟩ := by
  unfold holds SignalLedger.status
  cases broadcasts.signals.statuses[signal.index]? with
  | none => simp
  | some status =>
    obtain ⟨fired, held⟩ := status
    simp

theorem signalOf?_eq_some_iff {notifier : NotifierId} {signal : SignalId} :
    broadcasts.signalOf? notifier = some signal ↔
      broadcasts.notifiers[notifier.index]? = some ⟨signal, true⟩ := by
  unfold signalOf?
  cases broadcasts.notifiers[notifier.index]? with
  | none => simp
  | some status =>
    obtain ⟨own, held⟩ := status
    cases held <;> simp

/-- The ledgers before and after an operation that is possible. -/
inductive Performs (broadcasts : Broadcasts) : SignalOperation → Broadcasts → Prop
  | create :
      Performs broadcasts (.create broadcasts.signals.create.2 broadcasts.nextNotifier)
        { signals := broadcasts.signals.create.1
          notifiers := broadcasts.notifiers ++ [⟨broadcasts.signals.create.2, true⟩] }
  | subscribe {signal : SignalId} (held : broadcasts.holds signal = true) :
      Performs broadcasts (.subscribe signal broadcasts.nextNotifier)
        { broadcasts with notifiers := broadcasts.notifiers ++ [⟨signal, true⟩] }
  | copy {notifier : NotifierId} {signal : SignalId}
      (held : broadcasts.signalOf? notifier = some signal) :
      Performs broadcasts (.copy notifier broadcasts.nextNotifier)
        { broadcasts with notifiers := broadcasts.notifiers ++ [⟨signal, true⟩] }
  | fire {signal : SignalId} (held : broadcasts.holds signal = true) :
      Performs broadcasts (.fire signal)
        { broadcasts with signals := broadcasts.signals.fire signal }
  | dropSignal {signal : SignalId} (held : broadcasts.holds signal = true) :
      Performs broadcasts (.dropSignal signal)
        { broadcasts with signals := broadcasts.signals.drop signal }
  | dropNotifier {notifier : NotifierId} {signal : SignalId}
      (held : broadcasts.signalOf? notifier = some signal) :
      Performs broadcasts (.dropNotifier notifier)
        { broadcasts with
          notifiers := broadcasts.notifiers.modify notifier.index fun status =>
            { status with held := false } }

theorem performs_of_perform? {operation : SignalOperation}
    (performed : broadcasts.perform? operation = some next) :
    broadcasts.Performs operation next := by
  cases operation with
  | create signal notifier =>
    simp only [perform?, handOut?, Option.ite_none_right_eq_some, Option.some.injEq] at performed
    obtain ⟨rfl, rfl, rfl⟩ := performed
    exact .create
  | subscribe signal notifier =>
    simp only [perform?, handOut?, Option.ite_none_right_eq_some, Option.some.injEq] at performed
    obtain ⟨held, rfl, rfl⟩ := performed
    exact .subscribe held
  | copy notifier second =>
    simp only [perform?, handOut?, Option.bind_eq_some_iff, Option.ite_none_right_eq_some,
      Option.some.injEq] at performed
    obtain ⟨signal, held, rfl, rfl⟩ := performed
    exact .copy held
  | fire signal =>
    simp only [perform?, Option.ite_none_right_eq_some, Option.some.injEq] at performed
    obtain ⟨held, rfl⟩ := performed
    exact .fire held
  | dropSignal signal =>
    simp only [perform?, Option.ite_none_right_eq_some, Option.some.injEq] at performed
    obtain ⟨held, rfl⟩ := performed
    exact .dropSignal held
  | dropNotifier notifier =>
    simp only [perform?, Option.map_eq_some_iff] at performed
    obtain ⟨signal, held, rfl⟩ := performed
    exact .dropNotifier held

/-! ## What is marked stays marked -/

/-- Both ledgers have grown. -/
structure GrowsTo (broadcasts next : Broadcasts) : Prop where
  signals : LedgerGrows SignalStatus.Becomes broadcasts.signals.statuses next.signals.statuses
  notifiers : LedgerGrows NotifierStatus.Becomes broadcasts.notifiers next.notifiers

/-- Every operation lets the ledgers grow. -/
theorem Performs.growsTo {operation : SignalOperation}
    (performs : broadcasts.Performs operation next) : broadcasts.GrowsTo next := by
  cases performs with
  | create => exact ⟨ledgerGrows_append .refl _, ledgerGrows_append .refl _⟩
  | subscribe => exact ⟨ledgerGrows_refl .refl, ledgerGrows_append .refl _⟩
  | copy => exact ⟨ledgerGrows_refl .refl, ledgerGrows_append .refl _⟩
  | fire => exact ⟨ledgerGrows_modify .refl (fun _ => ⟨fun _ => rfl, id⟩) _,
      ledgerGrows_refl .refl⟩
  | dropSignal => exact ⟨ledgerGrows_modify .refl (fun _ => ⟨id, fun _ => rfl⟩) _,
      ledgerGrows_refl .refl⟩
  | dropNotifier => exact ⟨ledgerGrows_refl .refl,
      ledgerGrows_modify .refl (fun _ => ⟨rfl, fun _ => rfl⟩) _⟩

/-- A notifier was handed out for a signal. -/
def ListensTo (broadcasts : Broadcasts) (notifier : NotifierId) (signal : SignalId) : Prop :=
  HasMarked (fun status => status.signal = signal) broadcasts.notifiers notifier.index

/-- The ledgers bear the mark of an operation. -/
def Bears (broadcasts : Broadcasts) : SignalOperation → Prop
  | .create signal notifier =>
    HasMarked (fun _ => True) broadcasts.signals.statuses signal.index ∧
      broadcasts.ListensTo notifier signal
  | .subscribe signal notifier => broadcasts.ListensTo notifier signal
  | .copy notifier second =>
    ∃ signal, broadcasts.ListensTo notifier signal ∧ broadcasts.ListensTo second signal
  | .fire signal =>
    HasMarked (fun status => status.fired = true) broadcasts.signals.statuses signal.index
  | .dropSignal signal =>
    HasMarked (fun status => status.held = false) broadcasts.signals.statuses signal.index
  | .dropNotifier notifier =>
    HasMarked (fun status => status.held = false) broadcasts.notifiers notifier.index

theorem ListensTo.mono (grows : broadcasts.GrowsTo next) {notifier : NotifierId}
    {signal : SignalId} (listens : broadcasts.ListensTo notifier signal) :
    next.ListensTo notifier signal :=
  HasMarked.mono grows.notifiers (fun becomes own => becomes.1.trans own) listens

theorem ListensTo.unique {notifier : NotifierId} {signal other : SignalId}
    (listens : broadcasts.ListensTo notifier signal)
    (listensToo : broadcasts.ListensTo notifier other) : signal = other := by
  obtain ⟨status, found, rfl⟩ := listens
  exact listensToo.marked_of_found found

/-- Ledgers that grow keep every mark. -/
theorem Bears.mono (grows : broadcasts.GrowsTo next) {operation : SignalOperation}
    (bears : broadcasts.Bears operation) : next.Bears operation := by
  cases operation with
  | create signal notifier =>
    exact ⟨bears.1.mono grows.signals fun _ known => known, bears.2.mono grows⟩
  | subscribe signal notifier => exact ListensTo.mono grows bears
  | copy notifier second =>
    obtain ⟨signal, listens, listensToo⟩ := bears
    exact ⟨signal, listens.mono grows, listensToo.mono grows⟩
  | fire signal => exact HasMarked.mono grows.signals (fun becomes => becomes.1) bears
  | dropSignal signal => exact HasMarked.mono grows.signals (fun becomes => becomes.2) bears
  | dropNotifier notifier =>
    exact HasMarked.mono grows.notifiers (fun becomes => becomes.2) bears

/-- The notifier that is handed out next listens to the signal it is handed out for. -/
theorem listensTo_next (signals : SignalLedger) (notifiers : List NotifierStatus)
    (signal : SignalId) :
    ListensTo ⟨signals, notifiers ++ [⟨signal, true⟩]⟩ ⟨notifiers.length⟩ signal :=
  ⟨⟨signal, true⟩, List.getElem?_concat_length, rfl⟩

/-- Every operation leaves its mark. -/
theorem Performs.bears {operation : SignalOperation}
    (performs : broadcasts.Performs operation next) : next.Bears operation := by
  have grows := performs.growsTo
  cases performs with
  | create => exact ⟨⟨_, List.getElem?_concat_length, trivial⟩, listensTo_next _ _ _⟩
  | subscribe => exact listensTo_next _ _ _
  | copy held =>
    have listens : broadcasts.ListensTo _ _ := ⟨_, signalOf?_eq_some_iff.mp held, rfl⟩
    exact ⟨_, listens.mono grows, listensTo_next _ _ _⟩
  | fire held =>
    obtain ⟨fired, found⟩ := holds_iff.mp held
    exact ⟨⟨true, true⟩, by simp [SignalLedger.fire, found], rfl⟩
  | dropSignal held =>
    obtain ⟨fired, found⟩ := holds_iff.mp held
    exact ⟨⟨fired, false⟩, by simp [SignalLedger.drop, found], rfl⟩
  | @dropNotifier notifier signal held =>
    exact ⟨⟨signal, false⟩, by simp [signalOf?_eq_some_iff.mp held], rfl⟩

theorem Bears.index_lt_of_created {operation : SignalOperation}
    (bears : broadcasts.Bears operation) {signal : SignalId}
    (creates : operation.created? = some signal) :
    signal.index < broadcasts.signals.statuses.length := by
  cases operation with
  | create own notifier =>
    cases creates
    exact bears.1.index_lt
  | _ => cases creates

theorem Bears.listensTo_of_handedOut {operation : SignalOperation}
    (bears : broadcasts.Bears operation) {notifier : NotifierId}
    (hands : operation.handedOut? = some notifier) :
    ∃ signal, broadcasts.ListensTo notifier signal := by
  cases operation with
  | create signal own =>
    cases hands
    exact ⟨signal, bears.2⟩
  | subscribe signal own =>
    cases hands
    exact ⟨signal, bears⟩
  | copy original own =>
    cases hands
    obtain ⟨signal, -, listens⟩ := bears
    exact ⟨signal, listens⟩
  | _ => cases hands

end Broadcasts

/-! ## Every mark was set by an operation -/

/-- The status of a signal is told by a run. -/
structure SignalStatus.IsToldBy (run : List SignalOperation) (signal : SignalId)
    (status : SignalStatus) : Prop where
  created : ∃ first, .create signal first ∈ run
  fired : status.fired = true → .fire signal ∈ run
  dropped : status.held = false → .dropSignal signal ∈ run

/-- The status of a notifier is told by a run. -/
structure NotifierStatus.IsToldBy (run : List SignalOperation) (notifier : NotifierId)
    (status : NotifierStatus) : Prop where
  stems : StemsFrom run notifier status.signal
  created : ∃ first, .create status.signal first ∈ run
  dropped : status.held = false → .dropNotifier notifier ∈ run

theorem SignalStatus.IsToldBy.mono {run later : List SignalOperation} (kept : run ⊆ later)
    {signal : SignalId} {status : SignalStatus} (told : status.IsToldBy run signal) :
    status.IsToldBy later signal where
  created := told.created.imp fun _ operation => kept operation
  fired fired := kept (told.fired fired)
  dropped dropped := kept (told.dropped dropped)

theorem NotifierStatus.IsToldBy.mono {run later : List SignalOperation} (kept : run ⊆ later)
    {notifier : NotifierId} {status : NotifierStatus} (told : status.IsToldBy run notifier) :
    status.IsToldBy later notifier where
  stems := told.stems.mono kept
  created := told.created.imp fun _ operation => kept operation
  dropped dropped := kept (told.dropped dropped)

namespace Broadcasts

variable {broadcasts next : Broadcasts} {run : List SignalOperation}

/-- The ledgers record a run: they bear the marks of its operations and no others, and each
operation created something new. -/
structure Records (run : List SignalOperation) (broadcasts : Broadcasts) : Prop where
  bears : ∀ operation ∈ run, broadcasts.Bears operation
  signals : LedgerHolds (fun index => SignalStatus.IsToldBy run ⟨index⟩)
    broadcasts.signals.statuses
  notifiers : LedgerHolds (fun index => NotifierStatus.IsToldBy run ⟨index⟩)
    broadcasts.notifiers
  signalsDiffer : (run.filterMap SignalOperation.created?).Nodup
  notifiersDiffer : (run.filterMap SignalOperation.handedOut?).Nodup

theorem records_nil : Records [] {} where
  bears _ member := nomatch member
  signals _ _ found := nomatch found
  notifiers _ _ found := nomatch found
  signalsDiffer := List.nodup_nil
  notifiersDiffer := List.nodup_nil

namespace Records

/-- The signal that is created next was not created by the run. -/
theorem next_not_created (records : Records run broadcasts) :
    broadcasts.signals.create.2 ∉ run.filterMap SignalOperation.created? := by
  intro member
  obtain ⟨operation, inRun, creates⟩ := List.mem_filterMap.mp member
  exact Nat.lt_irrefl _ ((records.bears operation inRun).index_lt_of_created creates)

/-- The notifier that is handed out next was not handed out by the run. -/
theorem next_not_handedOut (records : Records run broadcasts) :
    broadcasts.nextNotifier ∉ run.filterMap SignalOperation.handedOut? := by
  intro member
  obtain ⟨operation, inRun, hands⟩ := List.mem_filterMap.mp member
  obtain ⟨signal, listens⟩ := (records.bears operation inRun).listensTo_of_handedOut hands
  exact Nat.lt_irrefl _ listens.index_lt

theorem signalsDiffer_concat (records : Records run broadcasts) {operation : SignalOperation}
    (performs : broadcasts.Performs operation next) :
    ((run ++ [operation]).filterMap SignalOperation.created?).Nodup := by
  refine nodup_filterMap_concat records.signalsDiffer fun signal creates => ?_
  cases performs with
  | create =>
    cases creates
    exact records.next_not_created
  | _ => cases creates

theorem notifiersDiffer_concat (records : Records run broadcasts) {operation : SignalOperation}
    (performs : broadcasts.Performs operation next) :
    ((run ++ [operation]).filterMap SignalOperation.handedOut?).Nodup := by
  refine nodup_filterMap_concat records.notifiersDiffer fun notifier hands => ?_
  cases performs with
  | create | subscribe | copy =>
    cases hands
    exact records.next_not_handedOut
  | _ => cases hands

/-- Marks that an operation sets are told by the run with the operation. -/
theorem told_concat (records : Records run broadcasts) {operation : SignalOperation}
    (performs : broadcasts.Performs operation next) :
    LedgerHolds (fun index => SignalStatus.IsToldBy (run ++ [operation]) ⟨index⟩)
        next.signals.statuses ∧
      LedgerHolds (fun index => NotifierStatus.IsToldBy (run ++ [operation]) ⟨index⟩)
        next.notifiers := by
  have kept : run ⊆ run ++ [operation] := List.subset_append_left _ _
  have last : operation ∈ run ++ [operation] := List.mem_concat_self
  have signals := records.signals.mono fun _ _ told => told.mono kept
  have notifiers := records.notifiers.mono fun _ _ told => told.mono kept
  -- What holds of the entries so far goes on to hold; what is new or changed is told last.
  cases performs with
  | create =>
    refine ⟨signals.append ?_, notifiers.append ?_⟩
    · exact ⟨⟨_, last⟩, nofun, nofun⟩
    · exact ⟨.created last, ⟨_, last⟩, nofun⟩
  | @subscribe signal held =>
    obtain ⟨fired, found⟩ := holds_iff.mp held
    exact ⟨signals, notifiers.append ⟨.subscribed last, (signals _ _ found).created, nofun⟩⟩
  | copy held =>
    have original := notifiers _ _ (signalOf?_eq_some_iff.mp held)
    exact ⟨signals, notifiers.append ⟨.copied last original.stems, original.created, nofun⟩⟩
  | fire =>
    exact ⟨signals.modify fun _ told => ⟨told.created, fun _ => last, told.dropped⟩, notifiers⟩
  | dropSignal =>
    exact ⟨signals.modify fun _ told => ⟨told.created, told.fired, fun _ => last⟩, notifiers⟩
  | dropNotifier =>
    exact ⟨signals, notifiers.modify fun _ told => ⟨told.stems, told.created, fun _ => last⟩⟩

/-- The ledgers after an operation record the run with the operation. -/
theorem concat (records : Records run broadcasts) {operation : SignalOperation}
    (performs : broadcasts.Performs operation next) : Records (run ++ [operation]) next where
  bears earlier member := by
    rcases List.mem_append.mp member with before | isLast
    · exact (records.bears earlier before).mono performs.growsTo
    · rw [List.mem_singleton] at isLast
      exact isLast ▸ performs.bears
  signals := (records.told_concat performs).1
  notifiers := (records.told_concat performs).2
  signalsDiffer := records.signalsDiffer_concat performs
  notifiersDiffer := records.notifiersDiffer_concat performs

end Records

/-! ## Runs -/

theorem after?_cons_eq_some {operation : SignalOperation} {later : List SignalOperation}
    {final : Broadcasts} (reached : broadcasts.after? (operation :: later) = some final) :
    ∃ next, broadcasts.Performs operation next ∧ next.after? later = some final := by
  rw [after?, List.foldlM_cons] at reached
  obtain ⟨next, performed, rest⟩ := Option.bind_eq_some_iff.mp reached
  exact ⟨next, performs_of_perform? performed, rest⟩

/-- **The ledgers after a run record the run.** -/
theorem Records.after {later : List SignalOperation} {final : Broadcasts}
    (records : Records run broadcasts) (reached : broadcasts.after? later = some final) :
    Records (run ++ later) final := by
  induction later generalizing run broadcasts with
  | nil =>
    cases reached
    rwa [List.append_nil]
  | cons operation later ih =>
    obtain ⟨next, performs, rest⟩ := after?_cons_eq_some reached
    rw [List.append_cons]
    exact ih (records.concat performs) rest

/-! ## The ledgers as the run tells them -/

theorem eq_decide_not {mark : Bool} {p : Prop} [Decidable p] (unset : mark = false ↔ p) :
    mark = decide (¬ p) := by
  rw [Bool.eq_iff_iff, decide_eq_true_iff, ← unset, Bool.not_eq_false]

namespace Records

variable (records : Records run broadcasts) {notifier : NotifierId} {signal : SignalId}

include records

/-- A notifier listens to the signal that it stems from. -/
theorem listensTo (stems : StemsFrom run notifier signal) :
    broadcasts.ListensTo notifier signal := by
  induction stems with
  | created operation => exact (records.bears _ operation).2
  | subscribed operation => exact records.bears _ operation
  | copied operation _ ih =>
    -- The copy listens to the signal of its original, and a notifier has only one.
    obtain ⟨own, original, second⟩ := records.bears _ operation
    exact original.unique ih ▸ second

theorem stemsFrom_unique {other : SignalId} (stems : StemsFrom run notifier signal)
    (stemsToo : StemsFrom run notifier other) : signal = other :=
  (records.listensTo stems).unique (records.listensTo stemsToo)

/-- The signal that a notifier stems from was created by the run. -/
theorem created_of_stemsFrom (stems : StemsFrom run notifier signal) :
    ∃ first, .create signal first ∈ run := by
  obtain ⟨status, found, rfl⟩ := records.listensTo stems
  exact (records.notifiers _ _ found).created

/-- Every notifier that was handed out stems from a signal. -/
theorem exists_stemsFrom
    (handedOut : notifier ∈ run.filterMap SignalOperation.handedOut?) :
    ∃ signal, StemsFrom run notifier signal := by
  obtain ⟨operation, member, hands⟩ := List.mem_filterMap.mp handedOut
  obtain ⟨signal, status, found, -⟩ :=
    (records.bears operation member).listensTo_of_handedOut hands
  exact ⟨status.signal, (records.notifiers _ _ found).stems⟩

/-- **What has become of a signal is told by the run.** -/
theorem signal_status {first : NotifierId} (created : .create signal first ∈ run) :
    broadcasts.signals.statuses[signal.index]? =
      some ⟨decide (.fire signal ∈ run), decide (.dropSignal signal ∉ run)⟩ := by
  obtain ⟨⟨⟨fired, held⟩, found, -⟩, -⟩ := records.bears _ created
  have told := records.signals _ _ found
  have isFired : fired = decide (.fire signal ∈ run) := by
    rw [Bool.eq_iff_iff, decide_eq_true_iff]
    exact ⟨told.fired, fun member => (records.bears _ member).marked_of_found found⟩
  have isHeld : held = decide (.dropSignal signal ∉ run) :=
    eq_decide_not ⟨told.dropped, fun member => (records.bears _ member).marked_of_found found⟩
  rw [found, isFired, isHeld]

/-- **What has become of a notifier is told by the run.** -/
theorem notifier_status (stems : StemsFrom run notifier signal) :
    broadcasts.notifiers[notifier.index]? =
      some ⟨signal, decide (.dropNotifier notifier ∉ run)⟩ := by
  obtain ⟨⟨own, held⟩, found, rfl⟩ := records.listensTo stems
  have told := records.notifiers _ _ found
  have isHeld : held = decide (.dropNotifier notifier ∉ run) :=
    eq_decide_not ⟨told.dropped, fun member => (records.bears _ member).marked_of_found found⟩
  rw [found, isHeld]

/-! ## What is possible and what is told -/

theorem holds_iff :
    broadcasts.holds signal = true ↔
      (∃ first, .create signal first ∈ run) ∧ .dropSignal signal ∉ run := by
  rw [Broadcasts.holds_iff]
  constructor
  · rintro ⟨fired, found⟩
    obtain ⟨first, created⟩ := (records.signals _ _ found).created
    refine ⟨⟨first, created⟩, fun dropped => ?_⟩
    rw [records.signal_status created] at found
    simp [dropped] at found
  · rintro ⟨⟨first, created⟩, kept⟩
    exact ⟨decide (.fire signal ∈ run), by rw [records.signal_status created]; simp [kept]⟩

theorem signalOf?_eq_some_iff :
    broadcasts.signalOf? notifier = some signal ↔
      StemsFrom run notifier signal ∧ .dropNotifier notifier ∉ run := by
  rw [Broadcasts.signalOf?_eq_some_iff]
  constructor
  · intro found
    have stems := (records.notifiers _ _ found).stems
    refine ⟨stems, fun dropped => ?_⟩
    rw [records.notifier_status stems] at found
    simp [dropped] at found
  · rintro ⟨stems, kept⟩
    rw [records.notifier_status stems]
    simp [kept]

theorem signalOf?_isSome_iff :
    (broadcasts.signalOf? notifier).isSome ↔
      (∃ signal, StemsFrom run notifier signal) ∧ .dropNotifier notifier ∉ run := by
  simp only [Option.isSome_iff_exists, records.signalOf?_eq_some_iff, exists_and_right]

/-- **An operation is possible exactly if what it uses is held and what it creates is new.** -/
theorem perform?_isSome_iff (operation : SignalOperation) :
    (broadcasts.perform? operation).isSome ↔
      operation.UsesHeld run ∧
      (∀ signal ∈ operation.created?, signal = broadcasts.signals.create.2) ∧
      (∀ notifier ∈ operation.handedOut?, notifier = broadcasts.nextNotifier) := by
  cases operation with
  | create signal notifier =>
    simp only [perform?, handOut?, ← ite_and, Option.isSome_ite]
    simp [SignalOperation.UsesHeld, nextNotifier]
  | subscribe signal notifier =>
    simp only [perform?, handOut?, ← ite_and, Option.isSome_ite, records.holds_iff]
    simp [SignalOperation.UsesHeld]
  | copy notifier second =>
    rw [SignalOperation.UsesHeld, ← records.signalOf?_isSome_iff, perform?]
    cases broadcasts.signalOf? notifier with
    | none => simp
    | some signal => simp [handOut?]
  | fire signal | dropSignal signal =>
    simp only [perform?, Option.isSome_ite, records.holds_iff]
    simp [SignalOperation.UsesHeld]
  | dropNotifier notifier =>
    rw [SignalOperation.UsesHeld, ← records.signalOf?_isSome_iff, perform?, Option.isSome_map]
    simp

theorem isFired_eq {first : NotifierId} (created : .create signal first ∈ run) :
    broadcasts.signals.isFired signal = decide (.fire signal ∈ run) := by
  rw [SignalLedger.isFired, SignalLedger.status, records.signal_status created]
  rfl

theorem wakeup_eq {first : NotifierId} (created : .create signal first ∈ run) :
    broadcasts.signals.wakeup signal =
      if .fire signal ∈ run then .fired
      else if .dropSignal signal ∈ run then .dropped
      else .pending := by
  rw [SignalLedger.wakeup, SignalLedger.status, records.signal_status created]
  by_cases fired : .fire signal ∈ run <;> by_cases dropped : .dropSignal signal ∈ run <;>
    simp [fired, dropped]

theorem isFired?_eq (stems : StemsFrom run notifier signal)
    (kept : .dropNotifier notifier ∉ run) :
    broadcasts.isFired? notifier = some (decide (.fire signal ∈ run)) := by
  obtain ⟨first, created⟩ := records.created_of_stemsFrom stems
  rw [isFired?, records.signalOf?_eq_some_iff.mpr ⟨stems, kept⟩, Option.map_some,
    records.isFired_eq created]

theorem poll?_eq (stems : StemsFrom run notifier signal)
    (kept : .dropNotifier notifier ∉ run) :
    broadcasts.poll? notifier = some
      (if .fire signal ∈ run then .fired
      else if .dropSignal signal ∈ run then .dropped
      else .pending) := by
  obtain ⟨first, created⟩ := records.created_of_stemsFrom stems
  rw [poll?, records.signalOf?_eq_some_iff.mpr ⟨stems, kept⟩, Option.map_some,
    records.wakeup_eq created]

theorem sameSignal?_eq {second : NotifierId} {other : SignalId}
    (stems : StemsFrom run notifier signal) (kept : .dropNotifier notifier ∉ run)
    (stemsToo : StemsFrom run second other) (keptToo : .dropNotifier second ∉ run) :
    broadcasts.sameSignal? notifier second = some (decide (signal = other)) := by
  rw [sameSignal?, records.signalOf?_eq_some_iff.mpr ⟨stems, kept⟩,
    records.signalOf?_eq_some_iff.mpr ⟨stemsToo, keptToo⟩]
  rfl

/-- Who is told that a signal is fired is told so for as long as the notifier is kept. -/
theorem isFired?_after {later : List SignalOperation} {final : Broadcasts}
    (fired : broadcasts.isFired? notifier = some true)
    (reached : broadcasts.after? later = some final)
    (kept : .dropNotifier notifier ∉ later) :
    final.isFired? notifier = some true ∧ final.poll? notifier = some .fired := by
  obtain ⟨signal, listens, -⟩ := Option.map_eq_some_iff.mp fired
  obtain ⟨stems, keptBefore⟩ := records.signalOf?_eq_some_iff.mp listens
  rw [records.isFired?_eq stems keptBefore, Option.some.injEq, decide_eq_true_iff] at fired
  -- The longer run is recorded too, and tells the same of the notifier.
  have recorded := records.after reached
  have stemsOn : StemsFrom (run ++ later) notifier signal :=
    stems.mono (List.subset_append_left _ _)
  have firedOn : .fire signal ∈ run ++ later := List.mem_append_left _ fired
  have keptOn : .dropNotifier notifier ∉ run ++ later := fun member =>
    (List.mem_append.mp member).elim keptBefore kept
  rw [recorded.isFired?_eq stemsOn keptOn, recorded.poll?_eq stemsOn keptOn, if_pos firedOn]
  exact ⟨congrArg some (decide_eq_true firedOn), rfl⟩

/-- A signal that has been fired can be fired again, and nothing changes. -/
theorem fire_again (fired : .fire signal ∈ run)
    (performed : broadcasts.perform? (.fire signal) = some next) : next = broadcasts := by
  cases performs_of_perform? performed with
  | fire held =>
    obtain ⟨⟨first, created⟩, -⟩ := records.holds_iff.mp held
    have isFired : broadcasts.signals.isFired signal = true := by
      rw [records.isFired_eq created, decide_eq_true fired]
    rw [SignalLedger.fire_eq_self isFired]

/-- What becomes of one signal changes nothing for the notifiers of others. -/
theorem unchanged_of_ne {other : SignalId} (stems : StemsFrom run notifier other)
    (different : other ≠ signal)
    (performed : broadcasts.perform? (.fire signal) = some next ∨
      broadcasts.perform? (.dropSignal signal) = some next) :
    next.isFired? notifier = broadcasts.isFired? notifier ∧
    next.poll? notifier = broadcasts.poll? notifier ∧
    ∀ second, next.sameSignal? notifier second = broadcasts.sameSignal? notifier second := by
  have unchanged : next.signals.status other = broadcasts.signals.status other ∧
      next.notifiers = broadcasts.notifiers := by
    rcases performed with fired | dropped
    · cases performs_of_perform? fired
      exact ⟨SignalLedger.status_fire_of_ne _ different, rfl⟩
    · cases performs_of_perform? dropped
      exact ⟨SignalLedger.status_drop_of_ne _ different, rfl⟩
  obtain ⟨sameStatus, sameNotifiers⟩ := unchanged
  -- The notifier may have been dropped; if it is held, it listens to the other signal.
  have listens : next.signalOf? = broadcasts.signalOf? := by
    funext notifier
    rw [signalOf?, sameNotifiers, signalOf?]
  have ofNotifier : ∀ own ∈ broadcasts.signalOf? notifier, own = other := fun own isOwn =>
    records.stemsFrom_unique (records.signalOf?_eq_some_iff.mp isOwn).1 stems
  refine ⟨?_, ?_, fun second => by rw [sameSignal?, sameSignal?, listens]⟩
  · rw [isFired?, isFired?, listens]
    refine Option.map_congr fun own isOwn => ?_
    rw [ofNotifier own isOwn, SignalLedger.isFired, sameStatus, SignalLedger.isFired]
  · rw [poll?, poll?, listens]
    refine Option.map_congr fun own isOwn => ?_
    rw [ofNotifier own isOwn, SignalLedger.wakeup, sameStatus, SignalLedger.wakeup]

end Records

end Broadcasts

/-! ## The main statement -/

/-- **A notifier tells what became of its signal.**  Let a run of operations on signals and
notifiers be possible.  Every creation creates a signal of its own, and every notifier that was
handed out stems from exactly one of these.  Whoever has kept a notifier is told that the signal
is fired exactly if the run fires it, no matter what was created, copied or dropped before or
after that.  A wait on the notifier has then come to its end, with success; if the signal was
dropped without having been fired, it has come to its end in vain, and otherwise it goes on.
Two notifiers have the same signal exactly if they stem from the same.  What is fired stays
fired, firing it again changes nothing, and firing or dropping a signal changes nothing for the
notifiers of others.  And an operation is possible exactly if what it uses was created and has
not been dropped, and what it creates is named as the next. -/
theorem notifiers_tell_what_became_of_their_signals {run : List SignalOperation}
    {broadcasts : Broadcasts} (reached : Broadcasts.after? {} run = some broadcasts) :
    (run.filterMap SignalOperation.created?).Nodup ∧
    (run.filterMap SignalOperation.handedOut?).Nodup ∧
    (∀ notifier ∈ run.filterMap SignalOperation.handedOut?, ∃ signal first,
      .create signal first ∈ run ∧ ∀ other, StemsFrom run notifier other ↔ other = signal) ∧
    (∀ notifier signal, StemsFrom run notifier signal → .dropNotifier notifier ∉ run →
      broadcasts.isFired? notifier = some (decide (.fire signal ∈ run)) ∧
      broadcasts.poll? notifier = some
        (if .fire signal ∈ run then .fired
        else if .dropSignal signal ∈ run then .dropped
        else .pending) ∧
      ∀ second other, StemsFrom run second other → .dropNotifier second ∉ run →
        broadcasts.sameSignal? notifier second = some (decide (signal = other))) ∧
    (∀ later final notifier, broadcasts.isFired? notifier = some true →
      broadcasts.after? later = some final → .dropNotifier notifier ∉ later →
      final.isFired? notifier = some true ∧ final.poll? notifier = some .fired) ∧
    (∀ signal next, .fire signal ∈ run → broadcasts.perform? (.fire signal) = some next →
      next = broadcasts) ∧
    (∀ signal next, (broadcasts.perform? (.fire signal) = some next ∨
        broadcasts.perform? (.dropSignal signal) = some next) →
      ∀ notifier other, StemsFrom run notifier other → other ≠ signal →
        next.isFired? notifier = broadcasts.isFired? notifier ∧
        next.poll? notifier = broadcasts.poll? notifier ∧
        ∀ second, next.sameSignal? notifier second = broadcasts.sameSignal? notifier second) ∧
    (∀ operation, (broadcasts.perform? operation).isSome ↔
      operation.UsesHeld run ∧
      (∀ signal ∈ operation.created?, signal = broadcasts.signals.create.2) ∧
      (∀ notifier ∈ operation.handedOut?, notifier = broadcasts.nextNotifier)) := by
  have records : broadcasts.Records run := Broadcasts.records_nil.after reached
  refine ⟨records.signalsDiffer, records.notifiersDiffer, fun notifier handedOut => ?_,
    fun notifier signal stems kept => ?_, fun later final notifier fired reachedOn kept => ?_,
    fun signal next fired performed => ?_,
    fun signal next performed notifier other stems apart => ?_, records.perform?_isSome_iff⟩
  · obtain ⟨signal, stems⟩ := records.exists_stemsFrom handedOut
    obtain ⟨first, created⟩ := records.created_of_stemsFrom stems
    refine ⟨signal, first, created, fun other => ⟨fun stemsToo => ?_, fun same => same ▸ stems⟩⟩
    exact records.stemsFrom_unique stemsToo stems
  · exact ⟨records.isFired?_eq stems kept, records.poll?_eq stems kept,
      fun second other => records.sameSignal?_eq stems kept⟩
  · exact records.isFired?_after fired reachedOn kept
  · exact records.fire_again fired performed
  · exact records.unchanged_of_ne stems apart performed

/-- A signal is fired while nobody listens to it; a notifier that is had from it afterwards, and
a copy of that one, tell so after everything else has been dropped. -/
theorem fired_signal_is_told_to_late_notifiers :
    let run : List SignalOperation :=
      [.create ⟨0⟩ ⟨0⟩, .create ⟨1⟩ ⟨1⟩, .dropNotifier ⟨0⟩, .fire ⟨0⟩, .subscribe ⟨0⟩ ⟨2⟩,
        .dropSignal ⟨0⟩, .copy ⟨2⟩ ⟨3⟩, .dropNotifier ⟨2⟩, .dropSignal ⟨1⟩]
    ∃ broadcasts, Broadcasts.after? {} run = some broadcasts ∧ StemsFrom run ⟨3⟩ ⟨0⟩ ∧
      broadcasts.isFired? ⟨3⟩ = some true ∧ broadcasts.poll? ⟨3⟩ = some .fired ∧
      broadcasts.poll? ⟨1⟩ = some .dropped ∧ broadcasts.sameSignal? ⟨3⟩ ⟨1⟩ = some false := by
  intro run
  obtain ⟨broadcasts, reached⟩ : ∃ broadcasts, Broadcasts.after? {} run = some broadcasts :=
    ⟨_, rfl⟩
  obtain ⟨-, -, -, tells, -⟩ := notifiers_tell_what_became_of_their_signals reached
  have had : StemsFrom run ⟨2⟩ ⟨0⟩ := .subscribed (by decide)
  have copied : StemsFrom run ⟨3⟩ ⟨0⟩ := .copied (by decide) had
  have apart : StemsFrom run ⟨1⟩ ⟨1⟩ := .created (by decide)
  obtain ⟨fired, ended, same⟩ := tells ⟨3⟩ ⟨0⟩ copied (by decide)
  obtain ⟨-, inVain, -⟩ := tells ⟨1⟩ ⟨1⟩ apart (by decide)
  exact ⟨broadcasts, reached, copied, fired, ended, inVain, same ⟨1⟩ ⟨1⟩ apart (by decide)⟩

end IdentityCache
