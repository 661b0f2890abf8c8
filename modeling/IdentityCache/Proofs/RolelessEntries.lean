import IdentityCache.Proofs.BoundedWait
import IdentityCache.Proofs.LatestEvents

/-!
# Entries that name no role

An account that was observed without a role is passed over by a query: what the snapshot has of
it answers, or else nothing was found.  The snapshot's own entries are not looked at in the same
way.  An entry without a role that the latest snapshot has is answered as a found identity, and a
lookup of an account that was never observed takes it for an answer and does not wait.

So an answer that was found names a role unless the latest snapshot has the account without one
and no role was observed for it; the main statement, `found_answers_name_a_role_iff`, says that
this is the only exception.
-/

namespace IdentityCache

set_option autoImplicit false

/-- The entry of an account as the latest snapshot of a run has it. -/
def writtenEntryOf? (source : Option WatchedMap) (run : List Operation) (key : CacheKey) :
    Option Entry :=
  (latestMap? source run).bind (·.entryOf? key)

namespace Cache

/-- After a run the table has what the latest snapshot says of an account, but for its lifetime. -/
theorem get?_mapped_after (settings : Settings) (source : Option WatchedMap)
    (queue : Option RefreshQueue) (run : List Operation) (key : CacheKey) :
    ((new settings source queue).after run).mapped.get? key =
      (writtenEntryOf? source run key).map (.normalize settings) := by
  obtain ⟨order, kept⟩ := (snapshotInOrder_new settings source queue).after run
  rw [order.get?_mapped, kept]
  rfl

/-- **What is found has no role exactly if the snapshot's entry has none and it is that entry which
answers**: no role was observed for the account. -/
theorem found_without_role_iff (cache : Cache) (key : CacheKey) :
    (cache.answer key).found = true ∧ (cache.answer key).entry.roleArn = "" ↔
      (∃ entry, cache.mapped.get? key = some entry ∧ entry.roleArn = "") ∧
        ∀ entry, cache.accounts.get? key = some entry → entry.roleArn = "" := by
  rw [answer_eq]
  cases observed : cache.accounts.get? key with
  | none => cases cache.mapped.get? key <;> simp [Answer.notFound]
  | some own =>
    rw [Option.filter_some]
    by_cases named : own.roleArn = ""
    · rw [if_neg (by simp [named])]
      cases cache.mapped.get? key <;> simp [named, Answer.notFound]
    · rw [if_pos (by simp [named])]
      simp [named]

end Cache

/-! ## The main statement -/

/-- **Found answers name a role, but for the entries of the snapshot that name none.**  After every
run of a new cache and for every account, the two halves of the following hold together or not at
all.  Whatever a query finds names a role, and a lookup with a grace period waits for an account
that has not been observed and of which the snapshot has no entry or one without a role.  If the
latest snapshot has the account without a role, then a role was observed for the account. -/
theorem found_answers_name_a_role_iff (settings : Settings) (source : Option WatchedMap)
    (queue : Option RefreshQueue) (run : List Operation) (ns name : String) :
    let cache := (Cache.new settings source queue).after run
    let key := CacheKey.ofNames ns name
    let observed := (latestAccountStep? key run).bind (AccountStep.entry? settings)
    let written := writtenEntryOf? source run key
    ((∀ notify, (cache.get ⟨ns, name, notify⟩).2.1.answer.found = true →
          (cache.get ⟨ns, name, notify⟩).2.1.answer.entry.roleArn ≠ "") ∧
        ∀ now grace, 0 < grace → observed = none →
          (∀ entry, written = some entry → entry.roleArn = "") →
          ∃ lookup, (cache.beginLookup now ns name grace).2.1 = .waiting lookup) ↔
      ((∃ entry, written = some entry ∧ entry.roleArn = "") →
        ∃ entry, observed = some entry ∧ entry.roleArn ≠ "") := by
  intro cache key observed written
  have accounts : cache.accounts.get? key = observed :=
    (Cache.new settings source queue).get?_accounts_after run key rfl
  have mapped : cache.mapped.get? key = written.map (.normalize settings) :=
    Cache.get?_mapped_after settings source queue run key
  have answer : ∀ notify, (cache.get ⟨ns, name, notify⟩).2.1.answer = cache.answer key :=
    fun notify => cache.get_answer ⟨ns, name, notify⟩
  have roleless := cache.found_without_role_iff key
  rw [accounts, mapped] at roleless
  simp only [answer]
  -- Either a role was observed, or whatever was observed names none.
  have decided : (∃ own, observed = some own ∧ own.roleArn ≠ "") ∨
      ∀ own, observed = some own → own.roleArn = "" := by
    cases observed with
    | none => exact .inr fun own isObserved => by cases isObserved
    | some own => simpa using (Decidable.em (own.roleArn = "")).symm
  constructor
  · rintro ⟨named, -⟩ ⟨entry, isWritten, empty⟩
    rcases decided with role | unobserved
    · exact role
    · have isStored : written.map (.normalize settings) = some (entry.normalize settings) := by
        rw [isWritten, Option.map_some]
      obtain ⟨found, unnamed⟩ := roleless.mpr ⟨⟨_, isStored, empty⟩, unobserved⟩
      exact absurd unnamed (named false found)
  · intro hidden
    have contradiction : ∀ entry, written = some entry → entry.roleArn = "" →
        (∀ own, observed = some own → own.roleArn = "") → False := by
      intro entry isWritten empty unobserved
      obtain ⟨own, isObserved, role⟩ := hidden ⟨entry, isWritten, empty⟩
      exact role (unobserved own isObserved)
    refine ⟨fun _ found empty => ?_, fun now grace positive unobserved rolelessOnly => ?_⟩
    · obtain ⟨⟨stored, isStored, unnamed⟩, unobserved⟩ := roleless.mp ⟨found, empty⟩
      obtain ⟨entry, isWritten, rfl⟩ := Option.map_eq_some_iff.mp isStored
      exact contradiction entry isWritten unnamed unobserved
    · have absent : written = none := by
        cases isWritten : written with
        | none => rfl
        | some entry =>
          refine (contradiction entry isWritten (rolelessOnly entry isWritten) ?_).elim
          intro own isObserved
          rw [unobserved] at isObserved
          cases isObserved
      have unknown : cache.accounts.get? key = none ∧ cache.mapped.get? key = none := by
        rw [accounts, mapped, unobserved, absent]
        exact ⟨rfl, rfl⟩
      rw [cache.beginLookup_of_pos now ns name positive rfl]
      exact ⟨_, if_pos unknown⟩

/-- An account whose role was observed is answered with it, whatever the snapshot has. -/
theorem observed_role_hides_a_roleless_entry :
    let watched : WatchedMap := ⟨"ns", "map"⟩
    let map : ConfigMap :=
      { ns := some "ns", name := some "map", data := [("config", "\x7b\"ns/sa\":\x7b\x7d\x7d")] }
    let account : ServiceAccount :=
      { ns := some "ns", name := some "sa",
        annotations := [("eks.amazonaws.com/role-arn", "role")] }
    let run : List Operation := [.applyMap map, .applyAccount account, .get ⟨"ns", "sa", true⟩]
    let cache := (Cache.new {} (some watched) none).after run
    writtenEntryOf? (some watched) run (.ofNames "ns" "sa") = some {} ∧
      (cache.get ⟨"ns", "sa", true⟩).2.1.answer.found = true ∧
      (cache.get ⟨"ns", "sa", true⟩).2.1.answer.entry.roleArn ≠ "" := by
  intro watched map account run cache
  have observed : (latestAccountStep? (.ofNames "ns" "sa") run).bind (AccountStep.entry? {}) =
      some (.ofAnnotations {} account.annotations) := by decide +kernel
  have role : (Entry.ofAnnotations {} account.annotations).roleArn ≠ "" := by decide +kernel
  have meets := (found_answers_name_a_role_iff {} (some watched) none run "ns" "sa").mpr
    fun _ => ⟨_, observed, role⟩
  have found : (cache.get ⟨"ns", "sa", true⟩).2.1.answer.found = true := by decide +kernel
  exact ⟨by decide +kernel, found, meets.1 true found⟩

/-- An entry of the snapshot without a role is found, and it keeps a lookup from waiting for an
account that has not been observed. -/
theorem roleless_entry_is_found :
    let watched : WatchedMap := ⟨"ns", "map"⟩
    let map : ConfigMap :=
      { ns := some "ns", name := some "map", data := [("config", "\x7b\"ns/sa\":\x7b\x7d\x7d")] }
    let cache := (Cache.new {} (some watched) none).after [.applyMap map]
    let answer := (cache.get ⟨"ns", "sa", false⟩).2.1.answer
    cache.accounts.get? (.ofNames "ns" "sa") = none ∧ answer.found = true ∧
      answer.entry.roleArn = "" ∧
      (cache.beginLookup 0 "ns" "sa" 100).2.1 =
        .answered { answer := ⟨{ tokenExpiration := .oneDay }, true⟩, notifier := some ⟨0⟩ } := by
  decide +kernel

end IdentityCache
