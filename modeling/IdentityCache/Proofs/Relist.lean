import Mathlib.Data.List.Find
import IdentityCache.Proofs.AccountNames
import IdentityCache.Proofs.LatestEvents

/-!
# What a relist leaves

Two writers fill the table of the observed accounts: the watch, and the worker that fetches
accounts on demand.  A relist comes with the names that have gone, and the watch tells these from
what it has delivered itself and not deleted since, its holding (`Operation.heldAfter`).  Of the
fetched accounts it knows nothing.

So an account that a fetch brought in, and that the watch never delivered, is left alone by a relist
that does not list it (`unlisted_fetch_outlives_relist`).  This is the only thing that a relist
leaves besides what it lists, because in every cache that a run reaches the accounts outside of the
watch's holding are exactly those whose latest event was a fetch (`FetchedOutside`).  The main
statement is `relist_leaves_listed_and_fetched`.
-/

namespace IdentityCache

set_option autoImplicit false

/-! ## The holding of the watch -/

/-- The names of the accounts that a list has. -/
def listedNames (accounts : List ServiceAccount) : List AccountNames :=
  accounts.filterMap ServiceAccount.names?

/-- The names that are reported gone with a list; a report without names is none. -/
def removedNames (removed : List (String × String)) : List AccountNames :=
  removed.filterMap fun names => AccountNames.ofParts? (some names.1) (some names.2)

/-- The names that the watch holds and a list lacks. -/
def goneNames (held : List AccountNames) (accounts : List ServiceAccount) : List AccountNames :=
  held.filter fun names => names ∉ listedNames accounts

namespace Operation

/-- The accounts that the watch holds after an operation: what it has delivered and not deleted
since. -/
def heldAfter (held : List AccountNames) : Operation → List AccountNames
  | .applyAccount account => account.names?.toList ++ held
  | .deleteAccount deletion => held.filter fun names => deletion.names? ≠ some names
  | .resetAccounts accounts _ => listedNames accounts
  | .get _ | .completeFetch _ | .applyMap _ | .deleteMap _ _ | .resetMaps _ | .clear
  | .takeRequest | .closeQueue => held

/-- A relist reports gone what the watch holds and the list lacks. -/
def ReportsGone (held : List AccountNames) : Operation → Prop
  | .resetAccounts accounts removed =>
    (∀ names ∈ removedNames removed, names ∈ goneNames held accounts) ∧
      ∀ names ∈ goneNames held accounts, names ∈ removedNames removed
  | .get _ | .applyAccount _ | .deleteAccount _ | .completeFetch _ | .applyMap _ | .deleteMap _ _
  | .resetMaps _ | .clear | .takeRequest | .closeQueue => True

instance (held : List AccountNames) :
    (operation : Operation) → Decidable (operation.ReportsGone held)
  | .resetAccounts _ _ => inferInstanceAs (Decidable (_ ∧ _))
  | .get _ | .applyAccount _ | .deleteAccount _ | .completeFetch _ | .applyMap _ | .deleteMap _ _
  | .resetMaps _ | .clear | .takeRequest | .closeQueue => inferInstanceAs (Decidable True)

/-- Whether an operation decides what has been observed of an account. -/
def concerns (key : CacheKey) (operation : Operation) : Bool :=
  operation.accountSteps.any (AccountStep.decides key)

/-- The account that a fetch brings in. -/
def fetched? : Operation → Option ServiceAccount
  | .completeFetch (.account found) => some found
  | .completeFetch .missing | .completeFetch .failed | .get _ | .applyAccount _ | .deleteAccount _
  | .resetAccounts _ _ | .applyMap _ | .deleteMap _ _ | .resetMaps _ | .clear | .takeRequest
  | .closeQueue => none

end Operation

/-- The accounts that the watch holds after a run. -/
def heldAfter (held : List AccountNames) (run : List Operation) : List AccountNames :=
  run.foldl Operation.heldAfter held

/-- Every relist of a run reports gone what the watch holds by then and the list lacks. -/
def ReportsGone (held : List AccountNames) : List Operation → Prop
  | [] => True
  | operation :: run => operation.ReportsGone held ∧ ReportsGone (operation.heldAfter held) run

instance decidableReportsGone (held : List AccountNames) :
    (run : List Operation) → Decidable (ReportsGone held run)
  | [] => inferInstanceAs (Decidable True)
  | operation :: run =>
    have := decidableReportsGone (operation.heldAfter held) run
    inferInstanceAs (Decidable (_ ∧ _))

theorem reportsGone_concat_iff (held : List AccountNames) (run : List Operation)
    (operation : Operation) :
    ReportsGone held (run ++ [operation]) ↔
      ReportsGone held run ∧ operation.ReportsGone (heldAfter held run) := by
  induction run generalizing held with
  | nil => exact ⟨fun reports => ⟨trivial, reports.1⟩, fun reports => ⟨reports.2, trivial⟩⟩
  | cons first run ih =>
    rw [List.cons_append, ReportsGone, ReportsGone, ih, and_assoc]
    rfl

/-- The account that a fetch brought in, if that was the latest event that concerns a key. -/
def latestFetch? (key : CacheKey) (run : List Operation) : Option ServiceAccount :=
  latestOr (Operation.concerns key) Operation.fetched? none run

/-- The last account in a list that has a key. -/
def lastUnder? (key : CacheKey) (accounts : List ServiceAccount) : Option ServiceAccount :=
  accounts.reverse.find? fun account => account.key? = some key

/-- The last account in a list that has the given names. -/
def lastNamed? (names : AccountNames) (accounts : List ServiceAccount) : Option ServiceAccount :=
  accounts.reverse.find? fun account => account.names? = some names

theorem lastUnder?_eq_none_iff (key : CacheKey) (accounts : List ServiceAccount) :
    lastUnder? key accounts = none ↔ ∀ names ∈ listedNames accounts, names.key ≠ key := by
  simp only [lastUnder?, listedNames, List.find?_eq_none, List.mem_reverse, List.mem_filterMap,
    ServiceAccount.key?_eq_names?, decide_eq_true_eq, Option.map_eq_some_iff]
  constructor
  · rintro unlisted names ⟨account, member, isNames⟩ isKey
    exact unlisted account member ⟨names, isNames, isKey⟩
  · rintro unlisted account member ⟨names, isNames, isKey⟩
    exact unlisted names ⟨account, member, isNames⟩ isKey

/-- Where namespaces hold no slash, an account is the last one under its key if it is the last one
of its names. -/
theorem lastUnder?_key {names : AccountNames} {accounts : List ServiceAccount}
    (plain : HoldsNoSlash names.ns)
    (plainToo : ∀ other ∈ listedNames accounts, HoldsNoSlash other.ns) :
    lastUnder? names.key accounts = lastNamed? names accounts := by
  refine List.find?_congr fun account member => decide_eq_decide.mpr ?_
  rw [account.key?_eq_names?, Option.map_eq_some_iff]
  constructor
  · rintro ⟨other, isNames, sameKey⟩
    have listed : other ∈ listedNames accounts :=
      List.mem_filterMap.mpr ⟨account, List.mem_reverse.mp member, isNames⟩
    rw [isNames, AccountNames.key_inj (plainToo other listed) plain sameKey]
  · intro isNames
    exact ⟨names, isNames, rfl⟩

/-- A relist removes the keys of the names that the watch holds and the list lacks. -/
theorem Operation.ReportsGone.mem_keys {held : List AccountNames} {accounts : List ServiceAccount}
    {removed : List (String × String)}
    (reports : (Operation.resetAccounts accounts removed).ReportsGone held) (key : CacheKey) :
    key ∈ (removed.map fun names => Deletion.tombstone (some names.1) names.2).filterMap
        Deletion.key? ↔ key ∈ (goneNames held accounts).map AccountNames.key := by
  have keys : (removed.map fun names => Deletion.tombstone (some names.1) names.2).filterMap
      Deletion.key? = (removedNames removed).map AccountNames.key := by
    rw [List.filterMap_map, removedNames, List.map_filterMap]
    exact congrArg removed.filterMap
      (funext fun names => AccountNames.key?_ofParts? (some names.1) (some names.2))
  rw [keys, List.mem_map, List.mem_map]
  constructor
  · rintro ⟨names, member, same⟩
    exact ⟨names, reports.1 names member, same⟩
  · rintro ⟨names, member, same⟩
    exact ⟨names, reports.2 names member, same⟩

/-- A relist concerns the keys that it removes and those that it lists. -/
theorem Operation.ReportsGone.concerns_iff {held : List AccountNames}
    {accounts : List ServiceAccount} {removed : List (String × String)}
    (reports : (Operation.resetAccounts accounts removed).ReportsGone held) (key : CacheKey) :
    (Operation.resetAccounts accounts removed).concerns key = true ↔
      lastUnder? key accounts ≠ none ∨ key ∈ (goneNames held accounts).map AccountNames.key := by
  rw [← reports.mem_keys]
  simp [Operation.concerns, Operation.accountSteps, AccountStep.decides, lastUnder?]

namespace Cache

/-! ## One relist -/

/-- **A relist records the last account that it lists under a key, unless the key is that of one
reported gone, and keeps what it does not list.** -/
theorem get?_accounts_relist {held : List AccountNames} {accounts : List ServiceAccount}
    {removed : List (String × String)}
    (reports : (Operation.resetAccounts accounts removed).ReportsGone held) (cache : Cache)
    (key : CacheKey) :
    (cache.perform (.resetAccounts accounts removed)).1.accounts.get? key =
      if key ∈ (goneNames held accounts).map AccountNames.key then none
      else ((lastUnder? key accounts).map fun account =>
        .ofAnnotations cache.settings account.annotations).or (cache.accounts.get? key) := by
  have listed := cache.get?_accounts_afterSteps (accounts.map .apply) key
  rw [latestOr_map] at listed
  rw [(cache.agreesOnAccounts_perform _).accounts, Operation.accountSteps, afterSteps_append,
    afterSteps_delete]
  simp only [Table.get?_eraseAll, reports.mem_keys, listed]
  congr 1
  unfold latestOr lastUnder? AccountStep.decides AccountStep.entry?
  dsimp only
  cases accounts.reverse.find? fun account => account.key? = some key <;> rfl

/-! ## What lies outside of the holding -/

/-- Outside of the watch's holding there are exactly the accounts whose latest event was a fetch. -/
def FetchedOutside (settings : Settings) (held : List AccountNames)
    (fetched? : CacheKey → Option ServiceAccount) (cache : Cache) : Prop :=
  ∀ key, (∀ names ∈ held, names.key ≠ key) →
    cache.accounts.get? key =
      (fetched? key).map fun account => .ofAnnotations settings account.annotations

/-- An operation keeps what has been observed of the accounts that it does not concern. -/
theorem get?_accounts_perform_of_not_concerns {operation : Operation} {key : CacheKey}
    (aside : operation.concerns key = false) (cache : Cache) :
    (cache.perform operation).1.accounts.get? key = cache.accounts.get? key := by
  have undecided : operation.accountSteps.reverse.find? (AccountStep.decides key) = none := by
    simpa [Operation.concerns] using aside
  rw [get?_accounts_perform, latestOr, undecided]
  rfl

/-- **An operation keeps outside of the holding exactly the accounts whose latest event was a
fetch.** -/
theorem FetchedOutside.perform {held : List AccountNames}
    {fetched? : CacheKey → Option ServiceAccount} {cache : Cache}
    (outside : FetchedOutside cache.settings held fetched? cache) {operation : Operation}
    (reports : operation.ReportsGone held) :
    FetchedOutside cache.settings (operation.heldAfter held)
      (fun key => if operation.concerns key then operation.fetched? else fetched? key)
      (cache.perform operation).1 := by
  intro key unheld
  dsimp only
  have spared (aside : operation.concerns key = false)
      (unheldBefore : ∀ names ∈ held, names.key ≠ key) :
      (cache.perform operation).1.accounts.get? key =
        (if operation.concerns key then operation.fetched? else fetched? key).map fun account =>
          .ofAnnotations cache.settings account.annotations := by
    rw [aside, get?_accounts_perform_of_not_concerns aside, outside key unheldBefore]
    rfl
  -- Apart from a relist an operation makes one step at most.
  have decided (step : AccountStep) (only : operation.accountSteps = [step])
      (decides : step.decides key = true)
      (entry : step.entry? cache.settings =
        operation.fetched?.map fun account => .ofAnnotations cache.settings account.annotations) :
      (cache.perform operation).1.accounts.get? key =
        (if operation.concerns key then operation.fetched? else fetched? key).map fun account =>
          .ofAnnotations cache.settings account.annotations := by
    have concerns : operation.concerns key = true := by simp [Operation.concerns, only, decides]
    rw [get?_accounts_perform, only, latestOr_cons, latestOr_nil, if_pos decides, if_pos concerns,
      entry]
  cases operation with
  | get | applyMap | deleteMap | resetMaps | takeRequest | closeQueue => exact spared rfl unheld
  | clear => exact decided .clear rfl rfl rfl
  | applyAccount account =>
    have other : account.key? ≠ some key := by
      rw [account.key?_eq_names?]
      intro isKey
      obtain ⟨names, isNames, same⟩ := Option.map_eq_some_iff.mp isKey
      refine unheld names (List.mem_append_left held ?_) same
      rw [isNames]
      exact List.mem_singleton_self names
    exact spared (by simp [Operation.concerns, Operation.accountSteps, AccountStep.decides, other])
      fun names member => unheld names (List.mem_append_right _ member)
  | deleteAccount deletion =>
    by_cases gone : deletion.key? = some key
    · exact decided (.delete deletion) rfl (decide_eq_true gone) rfl
    · have aside : (Operation.deleteAccount deletion).concerns key = false := by
        simp [Operation.concerns, Operation.accountSteps, AccountStep.decides, gone]
      refine spared aside fun names member same =>
        unheld names (List.mem_filter.mpr ⟨member, ?_⟩) same
      refine decide_eq_true fun isNames => gone ?_
      rw [deletion.key?_eq_names?, isNames, Option.map_some, same]
  | resetAccounts accounts removed =>
    have unlisted := (lastUnder?_eq_none_iff key accounts).mpr unheld
    by_cases gone : key ∈ (goneNames held accounts).map AccountNames.key
    · have concerns := (reports.concerns_iff key).mpr (.inr gone)
      rw [get?_accounts_relist reports, if_pos gone, if_pos concerns]
      rfl
    · have aside := mt (reports.concerns_iff key).mp (by simp [unlisted, gone])
      refine spared (Bool.eq_false_iff.mpr aside) fun names member same => ?_
      have unlistedNames : names ∉ listedNames accounts := fun listed => unheld names listed same
      exact gone (List.mem_map.mpr
        ⟨names, List.mem_filter.mpr ⟨member, decide_eq_true unlistedNames⟩, same⟩)
  | completeFetch outcome =>
    cases outcome with
    | missing | failed => exact spared rfl unheld
    | account found =>
      by_cases brought : found.key? = some key
      · exact decided (.apply found) rfl (decide_eq_true brought) rfl
      · have aside : (Operation.completeFetch (.account found)).concerns key = false := by
          simp [Operation.concerns, Operation.accountSteps, AccountStep.decides, brought]
        exact spared aside unheld

/-- **A run keeps outside of the holding exactly the accounts whose latest event was a fetch.** -/
theorem FetchedOutside.after {held : List AccountNames}
    {fetched? : CacheKey → Option ServiceAccount} {cache : Cache}
    (outside : FetchedOutside cache.settings held fetched? cache) {run : List Operation}
    (reports : IdentityCache.ReportsGone held run) :
    FetchedOutside cache.settings (heldAfter held run)
      (fun key => latestOr (Operation.concerns key) Operation.fetched? (fetched? key) run)
      (cache.after run) := by
  induction run generalizing held fetched? cache with
  | nil => exact outside
  | cons operation run ih =>
    obtain ⟨here, later⟩ := reports
    have next := outside.perform here
    rw [← cache.settings_perform operation] at next
    have final := ih next later
    rw [cache.settings_perform operation] at final
    simp only [latestOr_cons]
    exact final

end Cache

/-! ## The main statement -/

/-- **A relist leaves what it lists and what was fetched and is not held by the watch.**  After
every run of a new cache whose relists report gone what the watch holds and the list lacks, and
after one more relist, there is nothing under the keys of the names that are reported gone, the
entry of the last listed account under every other key that the list has, and under the remaining
keys the fetched account if a fetch was the latest event.  So nothing that the watch held and the
list lacks is left, and if no namespace holds a slash then every listed account is there with the
entry of its last occurrence. -/
theorem relist_leaves_listed_and_fetched (settings : Settings) (source : Option WatchedMap)
    (queue : Option RefreshQueue) (run : List Operation) (accounts : List ServiceAccount)
    (removed : List (String × String))
    (reports : ReportsGone [] (run ++ [.resetAccounts accounts removed])) :
    let cache := (Cache.new settings source queue).after (run ++ [.resetAccounts accounts removed])
    let held := heldAfter [] run
    (∀ key, cache.accounts.get? key =
      if key ∈ (goneNames held accounts).map AccountNames.key then none
      else ((lastUnder? key accounts).or (latestFetch? key run)).map fun account =>
        .ofAnnotations settings account.annotations) ∧
    (∀ names ∈ held, names ∉ listedNames accounts → cache.accounts.get? names.key = none) ∧
    ((∀ names ∈ held ++ listedNames accounts, HoldsNoSlash names.ns) →
      ∀ names ∈ listedNames accounts, ∃ account, lastNamed? names accounts = some account ∧
        cache.accounts.get? names.key = some (.ofAnnotations settings account.annotations)) := by
  intro cache held
  obtain ⟨before, last⟩ := (reportsGone_concat_iff [] run _).mp reports
  have start : Cache.FetchedOutside settings [] (fun _ => none) (.new settings source queue) :=
    fun _ _ => rfl
  have outside := start.after before
  have same : ((Cache.new settings source queue).after run).settings = settings :=
    (Cache.new settings source queue).settings_after run
  have equation : ∀ key, cache.accounts.get? key =
      if key ∈ (goneNames held accounts).map AccountNames.key then none
      else ((lastUnder? key accounts).or (latestFetch? key run)).map fun account =>
        .ofAnnotations settings account.annotations := by
    intro key
    rw [show cache = _ from Cache.after_append _ run _]
    refine (Cache.get?_accounts_relist last _ key).trans ?_
    rw [same, Option.map_or]
    by_cases gone : key ∈ (goneNames held accounts).map AccountNames.key
    · rw [if_pos gone, if_pos gone]
    · rw [if_neg gone, if_neg gone]
      cases listed : lastUnder? key accounts with
      | some account => rfl
      | none =>
        refine outside key fun names member isKey => gone (List.mem_map.mpr ⟨names, ?_, isKey⟩)
        have unlisted := (lastUnder?_eq_none_iff key accounts).mp listed
        exact List.mem_filter.mpr
          ⟨member, decide_eq_true fun listed => unlisted names listed isKey⟩
  refine ⟨equation, fun names member unlisted => ?_, fun plain names listed => ?_⟩
  · rw [equation, if_pos]
    exact List.mem_map_of_mem (List.mem_filter.mpr ⟨member, decide_eq_true unlisted⟩)
  · have plainListed : ∀ other ∈ listedNames accounts, HoldsNoSlash other.ns :=
      fun other member => plain other (List.mem_append_right held member)
    have kept : names.key ∉ (goneNames held accounts).map AccountNames.key := by
      intro gone
      obtain ⟨other, member, sameKey⟩ := List.mem_map.mp gone
      obtain ⟨wasHeld, unlisted⟩ := List.mem_filter.mp member
      have same := AccountNames.key_inj (plain other (List.mem_append_left _ wasHeld))
        (plainListed names listed) sameKey
      exact of_decide_eq_true unlisted (same ▸ listed)
    have some : lastUnder? names.key accounts ≠ none := fun none =>
      (lastUnder?_eq_none_iff names.key accounts).mp none names listed rfl
    obtain ⟨account, last⟩ := Option.ne_none_iff_exists'.mp some
    refine ⟨account, (lastUnder?_key (plainListed names listed) plainListed).symm.trans last, ?_⟩
    rw [equation, if_neg kept, last]
    rfl

/-- An account that the watch held is gone after a relist without it, and the listed one and the
fetched one are there. -/
theorem relist_after_a_fetch :
    let account (name : String) : ServiceAccount := { ns := some "ns", name := some name }
    let run : List Operation :=
      [.applyAccount (account "old"), .get ⟨"ns", "fetched", true⟩, .takeRequest,
        .completeFetch (.account (account "fetched"))]
    let relist : Operation := .resetAccounts [account "new", {}] [("ns", "old")]
    let cache := (Cache.new {} none (some { capacity := 1 })).after (run ++ [relist])
    ReportsGone [] (run ++ [relist]) ∧
      cache.accounts.get? (.ofNames "ns" "old") = none ∧
      cache.accounts.get? (.ofNames "ns" "new") = some (.ofAnnotations {} []) ∧
      cache.accounts.get? (.ofNames "ns" "fetched") = some (.ofAnnotations {} []) := by
  intro account run relist cache
  have reports : ReportsGone [] (run ++ [relist]) := by decide
  have leaves := (relist_leaves_listed_and_fetched {} none (some { capacity := 1 }) run
    [account "new", {}] [("ns", "old")] reports).1
  refine ⟨reports, ?_, ?_, ?_⟩
  · exact (leaves _).trans (by decide)
  · exact (leaves _).trans (by decide)
  · exact (leaves _).trans (by decide)

/-- An account that was fetched and that the watch never delivered is still served after a relist of
nothing at all, and a listed account is gone if one with the same key is reported gone. -/
theorem unlisted_fetch_outlives_relist :
    let fetched : ServiceAccount :=
      { ns := some "ns", name := some "sa",
        annotations := [("eks.amazonaws.com/role-arn", "role")] }
    let run : List Operation :=
      [.get ⟨"ns", "sa", true⟩, .takeRequest, .completeFetch (.account fetched),
        .resetAccounts [] []]
    let cache := (Cache.new {} none (some { capacity := 1 })).after run
    let answer := (cache.get ⟨"ns", "sa", false⟩).2.1.answer
    let listed : ServiceAccount := { ns := some "a", name := some "b/c" }
    let other : List Operation :=
      [.applyAccount { ns := some "a/b", name := some "c" },
        .resetAccounts [listed] [("a/b", "c")]]
    (ReportsGone [] run ∧ cache.accounts.get? (.ofNames "ns" "sa") ≠ none ∧
      answer.found = true ∧ answer.entry.roleArn = "role") ∧
    ReportsGone [] other ∧ listed.key? = some (.ofNames "a" "b/c") ∧
      ((Cache.new {} none none).after other).accounts.get? (.ofNames "a" "b/c") = none := by
  decide +kernel

end IdentityCache
