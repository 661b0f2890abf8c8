import IdentityCache.Proofs.SnapshotTable

/-!
# Answers follow the latest events

What has been observed of an account is what the latest elementary step that concerns the
account says of it: a delivery gives the entry of its annotations, a deletion and emptying the
cache give nothing (`get?_accounts_after`).  An object without names concerns no account and
can be left out of a run (`after_identified`).

A query joins this entry with that of the snapshot.  `Cache.answer` passes over an observed
account that names no role and `Cache.common` does not; this is the only difference between
the two (`answer_eq`).  The main statement is `answers_follow_latest_events`.
-/

namespace IdentityCache

set_option autoImplicit false

/-! ## The latest step that concerns an account -/

/-- Whether a step decides what has been observed of an account. -/
def AccountStep.decides (key : CacheKey) : AccountStep → Bool
  | .query _ => false
  | .apply account => account.key? = some key
  | .delete deletion => deletion.key? = some key
  | .clear => true

/-- The entry that a step leaves of the accounts that it concerns. -/
def AccountStep.entry? (settings : Settings) : AccountStep → Option Entry
  | .apply account => some (.ofAnnotations settings account.annotations)
  | .query _ | .delete _ | .clear => none

/-- The latest step of a run that concerns an account. -/
def latestAccountStep? (key : CacheKey) (run : List Operation) : Option AccountStep :=
  (run.flatMap Operation.accountSteps).reverse.find? (AccountStep.decides key)

namespace Cache

theorem settings_accountStep (cache : Cache) (step : AccountStep) :
    (cache.accountStep step).settings = cache.settings := by
  cases step with
  | clear => rfl
  | query request => exact (cache.agreesOnSnapshot_accountStep (.query request) nofun).settings
  | apply account => exact (cache.agreesOnSnapshot_accountStep (.apply account) nofun).settings
  | delete deletion => exact (cache.agreesOnSnapshot_accountStep (.delete deletion) nofun).settings

theorem settings_afterSteps (cache : Cache) (steps : List AccountStep) :
    (cache.afterSteps steps).settings = cache.settings := by
  induction steps generalizing cache with
  | nil => rfl
  | cons step steps ih => exact (ih _).trans (cache.settings_accountStep step)

theorem settings_perform (cache : Cache) (operation : Operation) :
    (cache.perform operation).1.settings = cache.settings :=
  (cache.agreesOnAccounts_perform operation).settings.trans (cache.settings_afterSteps _)

theorem settings_after (cache : Cache) (run : List Operation) :
    (cache.after run).settings = cache.settings :=
  (cache.agreesOnAccounts_after run).settings.trans (cache.settings_afterSteps _)

/-- **A step that concerns an account replaces what was observed of it, and any other step keeps
it.** -/
theorem get?_accounts_accountStep (cache : Cache) (step : AccountStep) (key : CacheKey) :
    (cache.accountStep step).accounts.get? key =
      if step.decides key then step.entry? cache.settings else cache.accounts.get? key := by
  cases step with
  | query request =>
    rw [accountStep, get_fst]
    split <;> rfl
  | apply account =>
    simp only [accountStep, applyAccount_fst, AccountStep.decides, AccountStep.entry?,
      decide_eq_true_eq]
    cases identified : account.key? with
    | none => rfl
    | some other =>
      simp only [writeAccount_eq, Table.get?_insert, Option.some.injEq, eq_comm]
  | delete deletion =>
    simp only [accountStep, deleteAccount_fst, AccountStep.decides, AccountStep.entry?,
      decide_eq_true_eq]
    cases identified : deletion.key? with
    | none => rfl
    | some other =>
      simp only [Table.get?_erase, Option.some.injEq, eq_comm]
  | clear => rfl

/-- What elementary steps leave of an account is what the latest of them that concerns it says. -/
theorem get?_accounts_afterSteps (cache : Cache) (steps : List AccountStep) (key : CacheKey) :
    (cache.afterSteps steps).accounts.get? key =
      latestOr (AccountStep.decides key) (AccountStep.entry? cache.settings)
        (cache.accounts.get? key) steps :=
  (foldl_eq_latestOr (fun next : Cache => next.accounts.get? key)
    (fun next step (same : next.settings = cache.settings) =>
      ⟨(next.settings_accountStep step).trans same,
        same ▸ next.get?_accounts_accountStep step key⟩) steps rfl).2

/-- What an operation leaves of an account is what the latest of its steps that concern the account
says. -/
theorem get?_accounts_perform (cache : Cache) (operation : Operation) (key : CacheKey) :
    (cache.perform operation).1.accounts.get? key =
      latestOr (AccountStep.decides key) (AccountStep.entry? cache.settings)
        (cache.accounts.get? key) operation.accountSteps := by
  rw [(cache.agreesOnAccounts_perform operation).accounts]
  exact cache.get?_accounts_afterSteps operation.accountSteps key

/-- **What has been observed of an account is what the latest step that concerns it says.** -/
theorem get?_accounts_after (cache : Cache) (run : List Operation) (key : CacheKey)
    (empty : cache.accounts.get? key = none) :
    (cache.after run).accounts.get? key =
      (latestAccountStep? key run).bind (AccountStep.entry? cache.settings) := by
  rw [(cache.agreesOnAccounts_after run).accounts]
  refine (cache.get?_accounts_afterSteps _ key).trans ?_
  rw [empty, latestOr, latestAccountStep?]
  cases (run.flatMap Operation.accountSteps).reverse.find? (AccountStep.decides key) <;> rfl

end Cache

/-! ## Objects without names -/

/-- Whether a step is about an account that can be told. -/
def AccountStep.isIdentified : AccountStep → Bool
  | .apply account => account.key?.isSome
  | .delete deletion => deletion.key?.isSome
  | .query _ | .clear => true

/-- An operation without the objects and reports that lack a namespace or a name. -/
def Operation.identified? : Operation → Option Operation
  | .applyAccount account =>
    if account.key?.isSome then some (.applyAccount account) else none
  | .deleteAccount deletion =>
    if deletion.key?.isSome then some (.deleteAccount deletion) else none
  | .completeFetch (.account found) =>
    if found.key?.isSome then some (.completeFetch (.account found)) else none
  | .resetAccounts accounts removed =>
    some (.resetAccounts (accounts.filter fun account => account.key?.isSome)
      (removed.filter fun names => (Deletion.tombstone (some names.1) names.2).key?.isSome))
  | operation => some operation

namespace Cache

theorem accountStep_of_not_identified (cache : Cache) (step : AccountStep)
    (nameless : step.isIdentified = false) : cache.accountStep step = cache := by
  cases step with
  | apply account =>
    have noKey : account.key? = none := by simpa [AccountStep.isIdentified] using nameless
    rw [accountStep, applyAccount_fst, noKey]
  | delete deletion =>
    have noKey : deletion.key? = none := by simpa [AccountStep.isIdentified] using nameless
    rw [accountStep, deleteAccount_fst, noKey]
  | query request => cases nameless
  | clear => cases nameless

theorem afterSteps_filter_identified (cache : Cache) (steps : List AccountStep) :
    cache.afterSteps (steps.filter AccountStep.isIdentified) = cache.afterSteps steps := by
  induction steps generalizing cache with
  | nil => rfl
  | cons step steps ih =>
    cases identified : step.isIdentified with
    | true =>
      rw [List.filter_cons_of_pos identified]
      exact ih _
    | false =>
      rw [List.filter_cons_of_neg (by rw [identified]; exact nofun), afterSteps_cons,
        cache.accountStep_of_not_identified step identified]
      exact ih cache

theorem after_identified_perform (cache : Cache) (operation : Operation) :
    cache.after operation.identified?.toList = (cache.perform operation).1 := by
  have ignored (step : AccountStep) (nameless : ¬ step.isIdentified) :
      cache = cache.accountStep step :=
    (cache.accountStep_of_not_identified step (Bool.eq_false_iff.mpr nameless)).symm
  cases operation with
  | applyAccount account =>
    rw [Operation.identified?]
    split
    · rfl
    · rename_i nameless
      exact ignored (.apply account) nameless
  | deleteAccount deletion =>
    rw [Operation.identified?]
    split
    · rfl
    · rename_i nameless
      exact ignored (.delete deletion) nameless
  | completeFetch outcome =>
    cases outcome with
    | account found =>
      rw [Operation.identified?, perform, complete_account_fst]
      split
      · exact complete_account_fst cache found
      · rename_i nameless
        exact ignored (.apply found) nameless
    | missing | failed => rfl
  | resetAccounts accounts removed =>
    have steps :
        (Operation.resetAccounts (accounts.filter fun account => account.key?.isSome)
          (removed.filter fun names =>
            (Deletion.tombstone (some names.1) names.2).key?.isSome)).accountSteps =
        (Operation.resetAccounts accounts removed).accountSteps.filter
          AccountStep.isIdentified := by
      simp only [Operation.accountSteps, List.filter_append, List.filter_map, List.map_map]
      rfl
    refine (cache.resetAccounts_fst _ _).trans ?_
    rw [perform, resetAccounts_fst, steps, afterSteps_filter_identified]
  | _ => rfl

/-- What lacks a namespace or a name can be left out of a run. -/
theorem after_identified (cache : Cache) (run : List Operation) :
    cache.after (run.filterMap Operation.identified?) = cache.after run :=
  after_filterMap (P := fun _ => True)
    (fun next operation _ => ⟨trivial, next.after_identified_perform operation⟩) run trivial

/-! ## Joining the two sources -/

theorem hasIdentity_iff (entry : Entry) : entry.hasIdentity = true ↔ entry.roleArn ≠ "" := by
  simp [Entry.hasIdentity]

/-- An observed account answers if it names a role; else the snapshot does. -/
theorem answer_eq (cache : Cache) (key : CacheKey) :
    cache.answer key =
      match ((cache.accounts.get? key).filter fun entry => entry.roleArn ≠ "").or
        (cache.mapped.get? key) with
      | some entry => ⟨entry, true⟩
      | none => .notFound cache.settings.defaultExpiration := by
  unfold answer observed?
  cases cache.accounts.get? key with
  | none => rfl
  | some entry =>
    rw [Option.filter_some]
    by_cases named : entry.roleArn ≠ ""
    · have observed : Observed.ofEntry entry = .identity entry :=
        if_pos ((hasIdentity_iff entry).mpr named)
      rw [if_pos (decide_eq_true named), Option.map_some, observed]
      rfl
    · have observed : Observed.ofEntry entry = .noIdentity entry :=
        if_neg (mt (hasIdentity_iff entry).mp named)
      rw [if_neg (mt of_decide_eq_true named), Option.map_some, observed]
      rfl

/-- An observed account decides the choice of endpoint and the lifetime in any case. -/
theorem common_eq (cache : Cache) (key : CacheKey) :
    cache.common key =
      match (cache.accounts.get? key).or (cache.mapped.get? key) with
      | some entry => (entry.useRegionalSts, entry.tokenExpiration)
      | none => (cache.settings.regionalByDefault, cache.settings.defaultExpiration) := rfl

end Cache

/-! ## The main statement -/

/-- **Every answer is determined by the latest events.**  After every run of a new cache, what has
been observed of an account is the entry of the latest object delivered for it, or nothing if a
deletion or emptying the cache came later.  A query answers this entry if it names a role, else
the entry of the snapshot, else that nothing was found, and asking to be notified makes no
difference to that; the choice of endpoint and the lifetime come from the observed entry even if
it names no role.  The latest step for the account and the latest ConfigMap decide all of it.
Objects and reports without names change nothing, and it makes no difference how a deletion is
reported. -/
theorem answers_follow_latest_events (settings : Settings) (source : Option WatchedMap)
    (queue : Option RefreshQueue) :
    let start := Cache.new settings source queue
    (∀ run ns name,
      let cache := start.after run
      let key := CacheKey.ofNames ns name
      let observed := (latestAccountStep? key run).bind (AccountStep.entry? settings)
      cache.accounts.get? key = observed ∧
      cache.observed? key = observed.map Observed.ofEntry ∧
      (∀ notify, (cache.get ⟨ns, name, notify⟩).2.1.answer =
        match (observed.filter fun entry => entry.roleArn ≠ "").or (cache.mapped.get? key) with
        | some entry => ⟨entry, true⟩
        | none => ⟨⟨"", "", false, settings.defaultExpiration⟩, false⟩) ∧
      cache.common key =
        match observed.or (cache.mapped.get? key) with
        | some entry => (entry.useRegionalSts, entry.tokenExpiration)
        | none => (settings.regionalByDefault, settings.defaultExpiration)) ∧
    (∀ run other ns name,
      let key := CacheKey.ofNames ns name
      latestAccountStep? key run = latestAccountStep? key other →
      latestMap? source run = latestMap? source other →
      (∀ notify notifyToo, ((start.after run).get ⟨ns, name, notify⟩).2.1.answer =
        ((start.after other).get ⟨ns, name, notifyToo⟩).2.1.answer) ∧
      (start.after run).common key = (start.after other).common key) ∧
    (∀ run, start.after (run.filterMap Operation.identified?) = start.after run) ∧
    (∀ run ns name annotations,
      (start.after run).deleteAccount (.live ⟨ns, some name, annotations⟩) =
        (start.after run).deleteAccount (.tombstone ns name)) := by
  intro start
  have inOrder : Cache.SnapshotInOrder settings source start :=
    Cache.snapshotInOrder_new settings source queue
  have same : ∀ run, (start.after run).settings = settings :=
    fun run => (inOrder.after run).1.settings
  have latest : ∀ run key, (start.after run).accounts.get? key =
      (latestAccountStep? key run).bind (AccountStep.entry? settings) :=
    fun run key => start.get?_accounts_after run key rfl
  refine ⟨fun run ns name => ⟨latest run _, ?_, fun notify => ?_, ?_⟩,
    fun run other ns name sameStep sameMap => ?_, start.after_identified,
    fun run ns name annotations => rfl⟩
  · rw [Cache.observed?, latest]
  · rw [Cache.get_answer, Request.key, Cache.answer_eq, latest, same]
    rfl
  · rw [Cache.common_eq, latest, same]
  · have accounts : (start.after run).accounts.get? (.ofNames ns name) =
        (start.after other).accounts.get? (.ofNames ns name) := by
      rw [latest, latest, sameStep]
    have mapped : (start.after run).mapped = (start.after other).mapped :=
      Cache.mapped_eq_of_lastMap_eq (inOrder.after run).1 (inOrder.after other).1
        ((inOrder.after run).2.trans (sameMap.trans (inOrder.after other).2.symm))
    refine ⟨fun notify notifyToo => ?_, ?_⟩
    · rw [Cache.get_answer, Cache.get_answer, Request.key, Request.key, Cache.answer_eq,
        Cache.answer_eq, accounts, mapped, same, same]
    · rw [Cache.common_eq, Cache.common_eq, accounts, mapped, same, same]

/-- A relist that drops other accounts answers like the deliveries that it sums up. -/
theorem relist_answers_like_deliveries :
    let watched : WatchedMap := ⟨"ns", "map"⟩
    let map : ConfigMap :=
      { ns := some "ns", name := some "map",
        data := [("config", "\x7b\"ns/sa\":\x7b\"RoleARN\":\"role\"\x7d\x7d")] }
    let account : ServiceAccount := { ns := some "ns", name := some "sa" }
    let start := Cache.new {} (some watched) none
    let run : List Operation :=
      [.applyAccount account, .deleteAccount (.live account), .get ⟨"ns", "sa", true⟩,
        .applyMap map, .completeFetch (.account account)]
    let other : List Operation :=
      [.applyMap map, .resetAccounts [account, { ns := some "ns" }] [("ns", "gone"), ("ns", "")]]
    ((start.after run).get ⟨"ns", "sa", true⟩).2.1.answer =
      ((start.after other).get ⟨"ns", "sa", false⟩).2.1.answer := by
  intro watched map account start run other
  have sameStep : latestAccountStep? (.ofNames "ns" "sa") run =
      latestAccountStep? (.ofNames "ns" "sa") other := by decide
  have sameMap : latestMap? (some watched) run = latestMap? (some watched) other := by decide
  exact ((answers_follow_latest_events {} (some watched) none).2.1 run other "ns" "sa" sameStep
    sameMap).1 true false

end IdentityCache
