import IdentityCache.Proofs.Run
import IdentityCache.Proofs.Signal

/-!
# Elementary steps on the observed accounts

An operation may look up an account, deliver one, report one gone, empty the cache, or do
several of these in order.  `Operation.accountSteps` lists what it does, with the accounts
of a relist before the names that have gone.

What has been observed of the accounts, who waits for them and what has become of the
signals is decided by these steps alone: after a run the cache agrees on all of it with the
cache after the elementary steps of the run (`agreesOnAccounts_after`).  Every induction
over the operations of a run is thereby one over a flat list of elementary steps.
-/

namespace IdentityCache

set_option autoImplicit false

/-- A step that concerns one account, or all of them. -/
inductive AccountStep
  | query (request : Request)
  | apply (account : ServiceAccount)
  | delete (deletion : Deletion)
  | clear
  deriving DecidableEq

/-- The account whose entry a step writes: the delivered one, if it has a namespace and a name. -/
def AccountStep.written? : AccountStep → Option CacheKey
  | .apply account => account.key?
  | .query _ | .delete _ | .clear => none

namespace Operation

/-- The elementary steps of an operation, in order. -/
def accountSteps : Operation → List AccountStep
  | .get request => [.query request]
  | .applyAccount account => [.apply account]
  | .deleteAccount deletion => [.delete deletion]
  | .resetAccounts accounts removed =>
    accounts.map .apply ++
      (removed.map fun names => Deletion.tombstone (some names.1) names.2).map .delete
  | .completeFetch (.account found) => [.apply found]
  | .completeFetch .missing | .completeFetch .failed => []
  | .clear => [.clear]
  | .applyMap _ | .deleteMap _ _ | .resetMaps _ | .takeRequest | .closeQueue => []

/-- An operation writes an account if it delivers an object that carries the account's names. -/
def Writes (operation : Operation) (key : CacheKey) : Prop :=
  ∃ step ∈ operation.accountSteps, step.written? = some key

instance (operation : Operation) (key : CacheKey) : Decidable (operation.Writes key) :=
  inferInstanceAs (Decidable (∃ step ∈ operation.accountSteps, step.written? = some key))

/-- Only a query looks up an account. -/
theorem eq_get_of_query_mem {operation : Operation} {request : Request}
    (member : .query request ∈ operation.accountSteps) : operation = .get request := by
  cases operation with
  | get own =>
    obtain rfl : request = own := by simpa [accountSteps] using member
    rfl
  | completeFetch outcome => cases outcome <;> simp [accountSteps] at member
  | _ => simp [accountSteps] at member

/-- A run writes an account exactly if one of its elementary steps does. -/
theorem writes_run_iff (run : List Operation) (key : CacheKey) :
    (∃ operation ∈ run, operation.Writes key) ↔
      ∃ step ∈ run.flatMap accountSteps, step.written? = some key := by
  constructor
  · rintro ⟨operation, member, step, among, writes⟩
    exact ⟨step, List.mem_flatMap.mpr ⟨operation, member, among⟩, writes⟩
  · rintro ⟨step, among, writes⟩
    obtain ⟨operation, member, here⟩ := List.mem_flatMap.mp among
    exact ⟨operation, member, step, here, writes⟩

end Operation

namespace Cache

/-- The cache after an elementary step. -/
def accountStep (cache : Cache) : AccountStep → Cache
  | .query request => (cache.get request).1
  | .apply account => (cache.applyAccount account).1
  | .delete deletion => (cache.deleteAccount deletion).1
  | .clear => cache.clear

/-- The cache after several elementary steps. -/
def afterSteps (cache : Cache) (steps : List AccountStep) : Cache := steps.foldl accountStep cache

@[simp] theorem afterSteps_nil (cache : Cache) : cache.afterSteps [] = cache := rfl

@[simp] theorem afterSteps_cons (cache : Cache) (step : AccountStep) (steps : List AccountStep) :
    cache.afterSteps (step :: steps) = (cache.accountStep step).afterSteps steps := rfl

theorem afterSteps_append (cache : Cache) (earlier later : List AccountStep) :
    cache.afterSteps (earlier ++ later) = (cache.afterSteps earlier).afterSteps later :=
  List.foldl_append

/-- Reporting several accounts gone removes their entries and changes nothing else. -/
theorem afterSteps_delete (cache : Cache) (deletions : List Deletion) :
    cache.afterSteps (deletions.map .delete) =
      { cache with accounts := cache.accounts.eraseAll (deletions.filterMap Deletion.key?) } := by
  induction deletions generalizing cache with
  | nil => rfl
  | cons deletion deletions ih =>
    rw [List.map_cons, afterSteps_cons, ih]
    simp only [accountStep, deleteAccount_fst]
    cases identified : deletion.key? with
    | none => rw [List.filterMap_cons_none identified]
    | some key =>
      rw [List.filterMap_cons_some identified]
      rfl

/-- **A relist makes its elementary steps and then counts as the first list.** -/
theorem resetAccounts_fst (cache : Cache) (accounts : List ServiceAccount)
    (removed : List (String × String)) :
    (cache.resetAccounts accounts removed).1 =
      { cache.afterSteps (Operation.resetAccounts accounts removed).accountSteps with
        accountsListed := true }.publish := by
  have applied : (forEach applyAccount cache accounts).1 =
      cache.afterSteps (accounts.map .apply) := by
    rw [forEach_fst, afterSteps, List.foldl_map]
    rfl
  have gone (start : Cache) (names : List (String × String)) :
      (forEach (fun cache names => cache.deleteAccount (.tombstone (some names.1) names.2)) start
        names).1 =
        start.afterSteps
          ((names.map fun names => Deletion.tombstone (some names.1) names.2).map .delete) := by
    rw [forEach_fst, afterSteps, List.foldl_map, List.foldl_map]
    rfl
  unfold resetAccounts
  dsimp only
  rw [gone, applied, Operation.accountSteps, afterSteps_append, afterSteps_delete,
    afterSteps_delete]
  -- The names are taken as a set, so repeating one makes no difference.
  have same : ∀ key,
      key ∈ ((removed.eraseDups.map fun names => Deletion.tombstone (some names.1) names.2)
        |>.filterMap Deletion.key?) ↔
      key ∈ ((removed.map fun names => Deletion.tombstone (some names.1) names.2)
        |>.filterMap Deletion.key?) := by
    intro key
    simp only [List.mem_filterMap, List.mem_map, List.mem_eraseDups]
  rw [Table.eraseAll_congr _ same]

end Cache

/-! ## A run is its elementary steps -/

/-- Two caches that have observed the same accounts, and of whose signals the same has become. -/
structure AgreesOnAccounts (cache other : Cache) : Prop where
  settings : cache.settings = other.settings
  accounts : cache.accounts = other.accounts
  pending : cache.pending = other.pending
  signals : cache.signals = other.signals

namespace AgreesOnAccounts

theorem refl (cache : Cache) : AgreesOnAccounts cache cache := ⟨rfl, rfl, rfl, rfl⟩

theorem trans {cache other third : Cache} (first : AgreesOnAccounts cache other)
    (second : AgreesOnAccounts other third) : AgreesOnAccounts cache third :=
  ⟨first.settings.trans second.settings, first.accounts.trans second.accounts,
    first.pending.trans second.pending, first.signals.trans second.signals⟩

/-- Caches that agree still agree after the same elementary step. -/
theorem accountStep {cache other : Cache} (agree : AgreesOnAccounts cache other)
    (step : AccountStep) : AgreesOnAccounts (cache.accountStep step) (other.accountStep step) := by
  cases step with
  | query request =>
    have same : cache.subscribes request ∧ cache.pending.get? request.key = none ↔
        other.subscribes request ∧ other.pending.get? request.key = none := by
      simp only [Cache.subscribes, agree.accounts, agree.pending]
    simp only [Cache.accountStep, Cache.get_fst, same]
    by_cases opens : other.subscribes request ∧ other.pending.get? request.key = none
    · rw [if_pos opens, if_pos opens]
      exact ⟨agree.settings, agree.accounts, by rw [agree.pending, agree.signals],
        by rw [agree.signals]⟩
    · rw [if_neg opens, if_neg opens]
      exact agree
  | apply account =>
    simp only [Cache.accountStep, Cache.applyAccount_fst, agree.settings]
    cases account.key? with
    | none => exact agree
    | some key =>
      simp only [Cache.writeAccount_eq, agree.accounts, agree.pending, agree.signals]
      exact ⟨agree.settings, rfl, rfl, rfl⟩
  | delete deletion =>
    simp only [Cache.accountStep, Cache.deleteAccount_fst]
    cases deletion.key? with
    | none => exact agree
    | some key => exact ⟨agree.settings, by rw [agree.accounts], agree.pending, agree.signals⟩
  | clear => exact ⟨agree.settings, rfl, agree.pending, agree.signals⟩

theorem afterSteps {cache other : Cache} (agree : AgreesOnAccounts cache other)
    (steps : List AccountStep) :
    AgreesOnAccounts (cache.afterSteps steps) (other.afterSteps steps) := by
  induction steps generalizing cache other with
  | nil => exact agree
  | cons step steps ih => exact ih (agree.accountStep step)

end AgreesOnAccounts

namespace Cache

theorem agreesOnAccounts_applyMap (cache : Cache) (map : ConfigMap) :
    AgreesOnAccounts (cache.applyMap map).1 cache := by
  obtain ⟨mapped, lastMap, changed⟩ := cache.applyMap_frame map
  rw [changed]
  exact ⟨rfl, rfl, rfl, rfl⟩

/-- An operation does to the accounts what its elementary steps do. -/
theorem agreesOnAccounts_perform (cache : Cache) (operation : Operation) :
    AgreesOnAccounts (cache.perform operation).1 (cache.afterSteps operation.accountSteps) := by
  cases operation with
  | get | applyAccount | deleteAccount | deleteMap | clear => exact .refl _
  | takeRequest | closeQueue => exact ⟨rfl, rfl, rfl, rfl⟩
  | resetAccounts accounts removed =>
    rw [perform, resetAccounts_fst]
    exact ⟨rfl, rfl, rfl, rfl⟩
  | completeFetch outcome =>
    cases outcome with
    | account found =>
      rw [perform, complete_account_fst]
      exact .refl _
    | missing | failed => exact .refl _
  | applyMap map => exact agreesOnAccounts_applyMap cache map
  | resetMaps maps =>
    have kept : AgreesOnAccounts (forEach applyMap cache maps).1 cache :=
      (forEach_induction (P := (AgreesOnAccounts · cache)) (Q := fun _ => True) maps
        (fun next map agree => ⟨(agreesOnAccounts_applyMap next map).trans agree,
          fun _ _ => trivial⟩) (.refl cache)).1
    exact ⟨kept.settings, kept.accounts, kept.pending, kept.signals⟩

/-- **A run does to the accounts what its elementary steps do.** -/
theorem agreesOnAccounts_after (cache : Cache) (run : List Operation) :
    AgreesOnAccounts (cache.after run)
      (cache.afterSteps (run.flatMap Operation.accountSteps)) := by
  suffices follows : ∀ other, AgreesOnAccounts cache other →
      AgreesOnAccounts (cache.after run)
        (other.afterSteps (run.flatMap Operation.accountSteps)) from follows cache (.refl cache)
  induction run generalizing cache with
  | nil => exact fun other agree => agree
  | cons operation run ih =>
    intro other agree
    rw [after_cons, List.flatMap_cons, afterSteps_append]
    exact ih _ _ ((cache.agreesOnAccounts_perform operation).trans (agree.afterSteps _))

end Cache

end IdentityCache
