import IdentityCache.Proofs.DebugRequests
import IdentityCache.Proofs.FaithfulDump
import IdentityCache.Proofs.GivenParameters
import IdentityCache.Proofs.Numerals
import IdentityCache.Proofs.RolelessEntries

/-!
# No lifetime falls below the floor

A lifetime is raised to ten minutes in three places: the default one when the options become the
settings of a cache, that of an account when its annotations are taken in, and that of a
snapshot's entry when it is recorded.  Nothing is raised on the way out.  So the floor is an
invariant of the settings and of both tables (`KeepsFloor`), and whatever is answered comes from
one of the three: directly, after waiting, as a page or as a dump.  The main statement is
`lifetimes_keep_the_floor`.
-/

namespace IdentityCache

set_option autoImplicit false

/-! ## Every lifetime can be given -/

namespace CommandLine

/-- Every lifetime is accepted on the command line. -/
theorem ofArguments_lifetime (lifetime : Seconds) :
    Options.ofArguments {}
        ["--token-expiration=" ++ String.ofList (Decimal.numeral lifetime.toInt)] =
      .ok { tokenExpiration := lifetime } := by
  generalize numeral : String.ofList (Decimal.numeral lifetime.toInt) = text
  have read : Seconds.ofText? text = some lifetime := numeral ▸ lifetime.ofText?_numeral
  have assigned : Options.assign? {} .tokenExpiration text =
      some { tokenExpiration := lifetime } := by
    rw [Options.assign?, read]
    rfl
  have name : "--" ++ ValueOption.name .tokenExpiration ++ "=" = "--token-expiration=" := by decide
  rw [← name]
  exact Options.ofArguments_attached assigned

end CommandLine

/-! ## The invariant -/

/-- A cache in which every lifetime that can be answered is at least ten minutes. -/
structure Cache.KeepsFloor (cache : Cache) : Prop where
  default : 600 ≤ cache.settings.defaultExpiration.toInt
  accounts : ∀ key entry, cache.accounts.get? key = some entry → 600 ≤ entry.tokenExpiration.toInt
  mapped : ∀ key entry, cache.mapped.get? key = some entry → 600 ≤ entry.tokenExpiration.toInt

/-- The options raise the default lifetime. -/
theorem CommandLine.Options.floor_of_settings {options : Options} {settings : Settings}
    (configured : options.settings = .ok settings) :
    600 ≤ settings.defaultExpiration.toInt := by
  unfold Options.settings at configured
  cases composed : options.composition with
  | error cause =>
    rw [composed] at configured
    cases configured
  | ok composition =>
    rw [composed] at configured
    cases configured
    rw [Seconds.toInt_raise]
    exact Int.le_max_left _ _

/-- A recorded entry of a snapshot is raised. -/
theorem Entry.floor_of_normalize (settings : Settings) (entry : Entry) :
    600 ≤ (entry.normalize settings).tokenExpiration.toInt := by
  rw [(entry.storedAs_normalize settings).tokenExpiration]
  exact Int.le_max_left _ _

namespace Cache

/-- **Every run of a new cache keeps to the floor** if the default lifetime does. -/
theorem keepsFloor_after {settings : Settings} (long : 600 ≤ settings.defaultExpiration.toInt)
    (source : Option WatchedMap) (queue : Option RefreshQueue) (run : List Operation) :
    ((new settings source queue).after run).KeepsFloor where
  default := by
    rw [settings_after]
    exact long
  accounts _ _ := floor_of_observed settings source queue run
  mapped key entry recorded := by
    rw [get?_mapped_after] at recorded
    obtain ⟨written, -, rfl⟩ := Option.map_eq_some_iff.mp recorded
    exact written.floor_of_normalize settings

namespace KeepsFloor

variable {cache : Cache}

/-- Whatever a cache says of an account, found or not, keeps to the floor. -/
theorem answer (floor : cache.KeepsFloor) (key : CacheKey) :
    600 ≤ (cache.answer key).entry.tokenExpiration.toInt := by
  rw [answer_eq]
  split
  · rename_i entry known
    rcases Option.or_eq_some_iff.mp known with observed | ⟨-, recorded⟩
    · exact floor.accounts key entry (Option.filter_eq_some_iff.mp observed).1
    · exact floor.mapped key entry recorded
  · exact floor.default

theorem common (floor : cache.KeepsFloor) (key : CacheKey) :
    600 ≤ (cache.common key).2.toInt := by
  rw [common_eq]
  split
  · rename_i entry known
    rcases Option.or_eq_some_iff.mp known with observed | ⟨-, recorded⟩
    · exact floor.accounts key entry observed
    · exact floor.mapped key entry recorded
  · exact floor.default

/-- A lookup keeps to the floor if the cache does in which it begins, and the one in which it is
resumed. -/
theorem response (floor : cache.KeepsFloor) {state : Cache} (floorLater : state.KeepsFloor)
    {now grace time : Nat} {ns name : String} {response : Response}
    (answered : (cache.beginLookup now ns name grace).2.1.responseAt? state time =
      some response) : 600 ≤ response.answer.entry.tokenExpiration.toInt := by
  rcases cache.responseAt?_beginLookup now grace ns name answered with rfl | rfl
  · rw [get_answer]
    exact floor.answer _
  · rw [get_answer]
    exact floorLater.answer _

end KeepsFloor

/-- What a lookup leads to is what a run leads to. -/
theorem after_beginLookup (cache : Cache) (now : Nat) (ns name : String) (grace : Nat)
    (later : List Operation) :
    (cache.beginLookup now ns name grace).1.after later =
      cache.after (.get ⟨ns, name, grace ≠ 0⟩ :: later) := by
  rw [(cache.beginLookup_effect now ns name grace).1]
  rfl

end Cache

/-! ## The main statement -/

/-- **No lifetime falls below the floor, from the command line to every answer.**  Any lifetime that
there is can be given on a command line.  Let a command line be accepted and its options become the
settings of a cache, whatever default lifetime it gives.  After every run of this cache the lifetime
of every entry in either table is at least ten minutes, and so is every one that is answered, found
or not: by a query, as the common configuration of an account, by a lookup that answers at once or
after anything that is done while it waits, in the body of the page of a lookup, and in the dump. -/
theorem lifetimes_keep_the_floor :
    (∀ lifetime : Seconds, CommandLine.Options.ofArguments {}
      ["--token-expiration=" ++ String.ofList (Decimal.numeral lifetime.toInt)] =
        .ok { tokenExpiration := lifetime }) ∧
    ∀ environment arguments options settings,
      CommandLine.Options.ofArguments environment arguments = .ok options →
      options.settings = .ok settings →
      ∀ source queue run,
        let cache := (Cache.new settings source queue).after run
        (∀ key entry, cache.accounts.get? key = some entry ∨ cache.mapped.get? key = some entry →
          600 ≤ entry.tokenExpiration.toInt) ∧
        (∀ request, 600 ≤ (cache.get request).2.1.answer.entry.tokenExpiration.toInt) ∧
        (∀ key, 600 ≤ (cache.common key).2.toInt) ∧
        (∀ now ns name grace later time response,
          let begun := cache.beginLookup now ns name grace
          begun.2.1.responseAt? (begun.1.after later) time = some response →
          600 ≤ response.answer.entry.tokenExpiration.toInt) ∧
        (∀ now isReady grace method path ns name later time answer,
          Http.route method path = .lookup ns name →
          let begun := cache.beginHttp now isReady grace method path
          begun.2.1.answerAt? (begun.1.after later) time = some answer →
          ∃ page entry, answer = .page page ∧ Json.readEntry page.body = .ok entry ∧
            600 ≤ entry.tokenExpiration.toInt) ∧
        ∃ table, Json.readSnapshot cache.toJson = .ok table ∧
          ∀ key entry, table.get? key = some entry → 600 ≤ entry.tokenExpiration.toInt := by
  refine ⟨CommandLine.ofArguments_lifetime, ?_⟩
  intro _ _ _ settings _ configured source queue run cache
  have floors (run : List Operation) : ((Cache.new settings source queue).after run).KeepsFloor :=
    Cache.keepsFloor_after (CommandLine.Options.floor_of_settings configured) source queue run
  have floor : cache.KeepsFloor := floors run
  have resumed (now : Nat) (ns name : String) (grace : Nat) (later : List Operation) :
      ((cache.beginLookup now ns name grace).1.after later).KeepsFloor := by
    rw [cache.after_beginLookup, ← Cache.after_append]
    exact floors _
  refine ⟨fun key entry recorded => recorded.elim (floor.accounts key entry)
      (floor.mapped key entry), fun request => ?_, floor.common,
    fun now ns name grace later time response => ?_,
    fun now isReady grace method path ns name later time answer routed => ?_,
    cache.accounts, cache.readSnapshot_toJson, floor.accounts⟩
  · rw [Cache.get_answer]
    exact floor.answer request.key
  · exact floor.response (resumed now ns name grace later)
  · intro begun answered
    obtain ⟨sameCache, page⟩ := cache.beginHttp_page now isReady grace routed
    rw [page, sameCache] at answered
    obtain ⟨response, responded, rfl⟩ := Option.map_eq_some_iff.mp answered
    exact ⟨_, response.answer.entry, rfl, (Http.Page.shows_ofAnswer response.answer).entry,
      floor.response (resumed now ns name grace later) responded⟩

/-- The least default lifetime that there is becomes ten minutes in what is said of an account that
nobody knows, with a negative lifetime in the snapshot beside it. -/
theorem least_default_is_raised :
    let arguments := ["--token-expiration=-9223372036854775808"]
    let least : Seconds := ⟨-9223372036854775808, by decide⟩
    let options : CommandLine.Options := { tokenExpiration := least }
    let settings : Settings := { defaultExpiration := .floor }
    let map : ConfigMap :=
      { ns := some "ns", name := some "map"
        data := [("config", "\x7b\"ns/a\":\x7b\"TokenExpiration\":-1\x7d\x7d")] }
    let cache := (Cache.new settings (some ⟨"ns", "map"⟩) none).after [.applyMap map]
    CommandLine.Options.ofArguments {} arguments = .ok options ∧
      options.settings = .ok settings ∧
      cache.mapped.size = 1 ∧
      600 ≤ (cache.get ⟨"ns", "b", true⟩).2.1.answer.entry.tokenExpiration.toInt ∧
      600 ≤ (cache.common ⟨"ns/a"⟩).2.toInt := by
  intro arguments least options settings map cache
  have accepted : CommandLine.Options.ofArguments {} arguments = .ok options := by rfl
  have configured : options.settings = .ok settings := by rfl
  obtain ⟨-, queries, common, -⟩ := lifetimes_keep_the_floor.2 {} arguments options settings
    accepted configured (some ⟨"ns", "map"⟩) none [.applyMap map]
  exact ⟨accepted, configured, by decide +kernel, queries _, common _⟩

end IdentityCache
