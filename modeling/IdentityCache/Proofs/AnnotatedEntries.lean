import IdentityCache.Cache.AccountEvents
import IdentityCache.Proofs.Numerals
import IdentityCache.Proofs.Run

/-!
# The entry that annotations state

An account states its identity in four annotations under the configured domain, each of which may be
missing or unreadable (`Entry.StatedBy`).  A truth value has six spellings; a lifetime is spelled by
a numeral with any number of zeros in front, and counts if it fits a signed 64-bit word.

Taking in an account records the entry that its annotations state and remarks on a role that is not
well formed, but records it all the same.  No other annotation plays a part.  The main statement is
`recorded_entry_is_stated`.
-/

namespace IdentityCache

set_option autoImplicit false

/-! ## What annotations state -/

/-- The spellings of a truth value. -/
def truthSpellings : Bool → List String
  | true => ["1", "t", "T", "true", "TRUE", "True"]
  | false => ["0", "f", "F", "false", "FALSE", "False"]

/-- A text states a number of seconds: a numeral of an integer that fits the word. -/
def StatesSeconds (text : String) (n : Int) : Prop :=
  Decimal.SignedText n text.toList ∧ -9223372036854775808 ≤ n ∧ n ≤ 9223372036854775807

/-- An entry holds what the annotations under the configured domain state, and otherwise the
defaults. -/
structure Entry.StatedBy (settings : Settings) (annotations : Labels) (entry : Entry) : Prop where
  roleArn : ∀ value,
    annotations.lookup (settings.annotationDomain ++ "/role-arn") = some value →
      entry.roleArn = settings.composition.resolve value
  noRole : annotations.lookup (settings.annotationDomain ++ "/role-arn") = none →
    entry.roleArn = ""
  audience : ∀ value,
    annotations.lookup (settings.annotationDomain ++ "/audience") = some value →
      entry.audience = value
  noAudience : annotations.lookup (settings.annotationDomain ++ "/audience") = none →
    entry.audience = settings.defaultAudience
  regional : ∀ text value,
    annotations.lookup (settings.annotationDomain ++ "/sts-regional-endpoints") = some text →
      text ∈ truthSpellings value → entry.useRegionalSts = value
  noRegional :
    (∀ text value,
      annotations.lookup (settings.annotationDomain ++ "/sts-regional-endpoints") = some text →
        text ∉ truthSpellings value) →
      entry.useRegionalSts = settings.regionalByDefault
  lifetime : ∀ text n,
    annotations.lookup (settings.annotationDomain ++ "/token-expiration") = some text →
      StatesSeconds text n → entry.tokenExpiration.toInt = max 600 n
  noLifetime :
    (∀ text n,
      annotations.lookup (settings.annotationDomain ++ "/token-expiration") = some text →
        ¬ StatesSeconds text n) →
      entry.tokenExpiration.toInt = max 600 settings.defaultExpiration.toInt

theorem truthOfText?_eq_some_iff (text : String) (value : Bool) :
    truthOfText? text = some value ↔ text ∈ truthSpellings value := by
  have apart : ∀ other ∈ truthSpellings false, other ∉ truthSpellings true := by decide
  unfold truthOfText?
  simp only [List.contains_eq_mem, decide_eq_true_eq]
  cases value with
  | true =>
    constructor
    · intro read
      split at read
      · assumption
      · split at read <;> cases read
    · exact fun spelled => if_pos spelled
  | false =>
    constructor
    · intro read
      split at read
      · cases read
      · split at read
        · assumption
        · cases read
    · exact fun spelled => (if_neg (apart text spelled)).trans (if_pos spelled)

/-- Seconds are read exactly where a text states them. -/
theorem statesSeconds_iff (text : String) (n : Int) :
    StatesSeconds text n ↔ ∃ seconds, Seconds.ofText? text = some seconds ∧ seconds.toInt = n := by
  simp only [Seconds.ofText?_eq_some_iff, StatesSeconds]
  constructor
  · rintro ⟨spelled, inRange⟩
    exact ⟨⟨n, inRange⟩, spelled, rfl⟩
  · rintro ⟨seconds, spelled, rfl⟩
    exact ⟨spelled, seconds.inRange⟩

/-- **The entry of annotations holds what they state.** -/
theorem Entry.statedBy_ofAnnotations (settings : Settings) (annotations : Labels) :
    (ofAnnotations settings annotations).StatedBy settings annotations where
  roleArn value given := by
    simp [ofAnnotations, roleOfAnnotations?, AnnotationNames.under, given]
  noRole missing := by
    simp [ofAnnotations, roleOfAnnotations?, AnnotationNames.under, missing]
  audience value given := by
    simp [ofAnnotations, AnnotationNames.under, given]
  noAudience missing := by
    simp [ofAnnotations, AnnotationNames.under, missing]
  regional text value given spelled := by
    simp [ofAnnotations, AnnotationNames.under, given,
      (truthOfText?_eq_some_iff text value).mpr spelled]
  noRegional unreadable := by
    simp only [ofAnnotations, AnnotationNames.under]
    cases given : annotations.lookup (settings.annotationDomain ++ "/sts-regional-endpoints") with
    | none => rfl
    | some text =>
      cases read : truthOfText? text with
      | none => simp [read]
      | some value =>
        exact absurd ((truthOfText?_eq_some_iff text value).mp read) (unreadable text value given)
  lifetime text n given states := by
    obtain ⟨seconds, read, rfl⟩ := (statesSeconds_iff text n).mp states
    simp [ofAnnotations, AnnotationNames.under, given, read, Seconds.toInt_raise]
  noLifetime unreadable := by
    simp only [ofAnnotations, AnnotationNames.under, Seconds.toInt_raise]
    cases given : annotations.lookup (settings.annotationDomain ++ "/token-expiration") with
    | none => rfl
    | some text =>
      cases read : Seconds.ofText? text with
      | none => simp [read]
      | some seconds =>
        exact absurd ((statesSeconds_iff text _).mpr ⟨seconds, read, rfl⟩)
          (unreadable text _ given)

/-! ## What is recorded and remarked on -/

/-- The annotations that state an identity, by what follows the domain in their names. -/
def identityLabels : List String :=
  ["/role-arn", "/audience", "/sts-regional-endpoints", "/token-expiration"]

/-- Two sets of annotations under one domain that state the same identity. -/
def SameIdentity (domain : String) (annotations others : Labels) : Prop :=
  ∀ label ∈ identityLabels, annotations.lookup (domain ++ label) = others.lookup (domain ++ label)

instance (domain : String) (annotations others : Labels) :
    Decidable (SameIdentity domain annotations others) :=
  inferInstanceAs (Decidable (∀ label ∈ identityLabels, _))

namespace Cache

/-- A role that is not well formed is remarked on, once, and nothing else is. -/
theorem mem_annotationEvents_iff (cache : Cache) (annotations : Labels) (event : Event) :
    event ∈ cache.annotationEvents annotations ↔
      ∃ value, annotations.lookup (cache.settings.annotationDomain ++ "/role-arn") = some value ∧
        RoleArn.isValid (cache.settings.composition.resolve value) = false ∧
          event = .invalidRole (cache.settings.composition.resolve value) := by
  unfold annotationEvents roleOfAnnotations? AnnotationNames.under
  cases annotations.lookup (cache.settings.annotationDomain ++ "/role-arn") with
  | none => simp
  | some value =>
    cases RoleArn.isValid (cache.settings.composition.resolve value) <;> simp

theorem length_annotationEvents_le (cache : Cache) (annotations : Labels) :
    (cache.annotationEvents annotations).length ≤ 1 := by
  unfold annotationEvents
  split
  · split <;> simp
  · simp

/-- Annotations that state the same identity are taken in alike. -/
theorem ingestAccount_congr (cache : Cache) {account other : ServiceAccount}
    (names : other.ns = account.ns ∧ other.name = account.name)
    (same : SameIdentity cache.settings.annotationDomain other.annotations account.annotations) :
    cache.ingestAccount other = cache.ingestAccount account := by
  have key : other.key? = account.key? := by
    rw [ServiceAccount.key?, ServiceAccount.key?, names.1, names.2]
  have entry : Entry.ofAnnotations cache.settings other.annotations =
      .ofAnnotations cache.settings account.annotations := by
    simp only [Entry.ofAnnotations, roleOfAnnotations?, AnnotationNames.under,
      same "/role-arn" (by decide), same "/audience" (by decide),
      same "/sts-regional-endpoints" (by decide), same "/token-expiration" (by decide)]
  have remarks : cache.annotationEvents other.annotations =
      cache.annotationEvents account.annotations := by
    simp only [annotationEvents, roleOfAnnotations?, AnnotationNames.under,
      same "/role-arn" (by decide)]
  rw [ingestAccount, ingestAccount, key, entry, remarks]

end Cache

/-! ## The main statement -/

/-- **The entry that is recorded for an account holds what its annotations state.**  Taking in an
account that has a key succeeds in every cache.  The entry under the key holds the role, the
audience, the choice of endpoint and the lifetime that the annotations state, each of them the
default where nothing readable is stated, and the lifetime raised to ten minutes.  One remark is
made if a role is stated that is not well formed, and the role is recorded all the same.  The
numeral of any lifetime gives this lifetime, raised; reading a numeral digit by digit without
leaving a signed 64-bit word succeeds exactly if it states a lifetime.  Accounts of the same names
whose annotations agree on the four are taken in alike. -/
theorem recorded_entry_is_stated :
    (∀ (cache : Cache) (account : ServiceAccount) (key : CacheKey), account.key? = some key →
      ∃ next events entry, cache.ingestAccount account = .ok (next, events) ∧
        next.accounts.get? key = some entry ∧
        entry.StatedBy cache.settings account.annotations ∧
        (∀ event, event ∈ events ↔ ∃ value,
          account.annotations.lookup (cache.settings.annotationDomain ++ "/role-arn") =
              some value ∧
            RoleArn.isValid (cache.settings.composition.resolve value) = false ∧
            event = .invalidRole (cache.settings.composition.resolve value)) ∧
        events.length ≤ 1) ∧
    (∀ (settings : Settings) (annotations : Labels) (entry : Entry) (seconds : Seconds),
      entry.StatedBy settings annotations →
      annotations.lookup (settings.annotationDomain ++ "/token-expiration") =
        some (String.ofList (Decimal.numeral seconds.toInt)) →
      entry.tokenExpiration.toInt = max 600 seconds.toInt) ∧
    (∀ (text : String) (seconds : Seconds),
      Seconds.readDigitwise? text.toList = some seconds ↔ StatesSeconds text seconds.toInt) ∧
    (∀ (cache : Cache) (account other : ServiceAccount),
      other.ns = account.ns ∧ other.name = account.name →
      SameIdentity cache.settings.annotationDomain other.annotations account.annotations →
      cache.ingestAccount other = cache.ingestAccount account) := by
  refine ⟨fun cache account key identified => ?_,
    fun settings annotations entry seconds stated given => ?_, fun text seconds => ?_,
    fun cache account other => cache.ingestAccount_congr⟩
  · have taken : cache.ingestAccount account =
        .ok (cache.writeAccount key (.ofAnnotations cache.settings account.annotations),
          cache.annotationEvents account.annotations) := by
      rw [Cache.ingestAccount, identified]
    have recorded : (cache.writeAccount key
        (.ofAnnotations cache.settings account.annotations)).accounts.get? key =
          some (.ofAnnotations cache.settings account.annotations) := by
      rw [Cache.writeAccount_eq]
      exact (Table.get?_insert _ _ _ _).trans (if_pos rfl)
    exact ⟨_, _, _, taken, recorded, Entry.statedBy_ofAnnotations _ _,
      cache.mem_annotationEvents_iff _, cache.length_annotationEvents_le _⟩
  · exact stated.lifetime _ _ given
      ((statesSeconds_iff _ _).mpr ⟨seconds, seconds.ofText?_numeral, rfl⟩)
  · rw [Seconds.readDigitwise?_eq, ← Seconds.ofText?, Seconds.ofText?_eq_some_iff]
    exact ⟨fun spelled => ⟨spelled, seconds.inRange⟩, And.left⟩

/-- A numeral with more zeros than a word has digits is read, and a role that is no resource name is
recorded and remarked on.  An annotation under another domain makes no difference. -/
theorem long_numeral_is_recorded :
    let account : ServiceAccount :=
      { ns := some "ns", name := some "sa"
        annotations := [("eks.amazonaws.com/role-arn", "reader"),
          ("eks.amazonaws.com/token-expiration", "+000000000000000000000007200")] }
    let other :=
      { account with annotations := ("example.com/role-arn", "x") :: account.annotations }
    let cache := Cache.new {} none none
    account.key? = some ⟨"ns/sa"⟩ ∧
      SameIdentity cache.settings.annotationDomain other.annotations account.annotations ∧
      ∃ next events entry, cache.ingestAccount account = .ok (next, events) ∧
        cache.ingestAccount other = .ok (next, events) ∧
        next.accounts.get? ⟨"ns/sa"⟩ = some entry ∧
        entry.roleArn = "reader" ∧ entry.tokenExpiration.toInt = 7200 ∧
        .invalidRole "reader" ∈ events := by
  intro account other cache
  have identified : account.key? = some ⟨"ns/sa"⟩ := by decide
  have same : SameIdentity cache.settings.annotationDomain other.annotations
      account.annotations := by decide
  have states : StatesSeconds "+000000000000000000000007200" 7200 :=
    ⟨(Decimal.signed?_eq_some_iff _ _).mp (by decide), by decide, by decide⟩
  obtain ⟨next, events, entry, taken, recorded, stated, remarks, -⟩ :=
    recorded_entry_is_stated.1 cache account _ identified
  exact ⟨identified, same, next, events, entry, taken,
    (recorded_entry_is_stated.2.2.2 cache account other ⟨rfl, rfl⟩ same).trans taken, recorded,
    stated.roleArn "reader" (by decide), stated.lifetime _ _ (by decide) states,
    (remarks _).mpr ⟨"reader", by decide, by decide, rfl⟩⟩

end IdentityCache
