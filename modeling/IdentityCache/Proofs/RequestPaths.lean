import IdentityCache.Proofs.AccountNames
import IdentityCache.Proofs.DebugRequests
import IdentityCache.Proofs.MarkedText

/-!
# The paths of requests

The path of a request decides the page that it asks for.  An account is looked up under one form of
path only (`Http.LooksUp`): the path of the cache, the namespace and the name, each after a slash.
Neither of the names holds a slash, so the path tells both, and what follows the path of the cache
is the key of the account.  The main statement is `requests_are_told_by_their_paths`.
-/

namespace IdentityCache

set_option autoImplicit false

namespace Http

/-! ## Lookups -/

/-- Whether an account is looked up under a path. -/
structure LooksUp (path ns name : String) : Prop where
  spelled : path = "/debug/alpha/cache/" ++ ns ++ "/" ++ name
  ns_ne_empty : ns ≠ ""
  name_ne_empty : name ≠ ""
  ns_plain : HoldsNoSlash ns
  name_plain : HoldsNoSlash name

/-- The path of a lookup ends with the key that is looked up. -/
theorem LooksUp.ends_with_key {path ns name : String} (looksUp : LooksUp path ns name) :
    path = "/debug/alpha/cache/" ++ (CacheKey.ofNames ns name).text := by
  rw [looksUp.spelled, CacheKey.ofNames]
  simp only [String.append_assoc]

/-- The characters of a path of the form of lookups. -/
theorem toList_lookupPath (ns name : String) :
    ("/debug/alpha/cache/" ++ ns ++ "/" ++ name).toList =
      cachePath ++ ['/'] ++ (ns.toList ++ '/' :: name.toList) := by
  have front : "/debug/alpha/cache/".toList = cachePath ++ ['/'] := by decide
  have slash : "/".toList = ['/'] := by decide
  rw [String.toList_append, String.toList_append, String.toList_append, front, slash,
    List.append_assoc, List.append_assoc, List.singleton_append]

theorem LooksUp.toList {path ns name : String} (looksUp : LooksUp path ns name) :
    path.toList = cachePath ++ ['/'] ++ (ns.toList ++ '/' :: name.toList) :=
  (congrArg String.toList looksUp.spelled).trans (toList_lookupPath ns name)

/-- A path is that of one lookup only. -/
theorem LooksUp.unique {path ns name other otherName : String} (looksUp : LooksUp path ns name)
    (looksUpToo : LooksUp path other otherName) : ns = other ∧ name = otherName := by
  have names := List.append_cancel_left (looksUp.toList.symm.trans looksUpToo.toList)
  obtain ⟨sameNs, sameName⟩ := eq_of_append_mark looksUp.ns_plain looksUpToo.ns_plain names
  exact ⟨String.toList_inj.mp sameNs, String.toList_inj.mp sameName⟩

/-- **The names at the end of a path are found exactly if they are looked up under it.** -/
theorem lookupNames?_eq_some_iff (path ns name : String) :
    lookupNames? path.toList = some (ns, name) ↔ LooksUp path ns name := by
  unfold lookupNames?
  simp only [Option.bind_eq_bind, Option.bind_eq_some_iff, List.isPrefixOf?_eq_some_iff_append_eq]
  constructor
  · rintro ⟨rest, whole, taken⟩
    split at taken
    · cases taken
    · rename_i named
      cases taken
      simp only [Bool.or_eq_true, not_or, List.isEmpty_iff, List.contains_iff_mem] at named
      obtain ⟨⟨ns_ne_nil, name_ne_nil⟩, name_plain⟩ := named
      have goesOn : rest.drop (rest.takeWhile fun c => decide (c ≠ '/')).length ≠ [] := by
        intro atEnd
        rw [atEnd] at name_ne_nil
        exact name_ne_nil rfl
      have cut := eq_append_mark '/' rest goesOn
      refine ⟨String.toList_inj.mp ?_, ?_, ?_, ?_, ?_⟩
      · rw [toList_lookupPath, String.toList_ofList, String.toList_ofList, cut, whole]
      · simpa using ns_ne_nil
      · simpa using name_ne_nil
      · rw [HoldsNoSlash, String.toList_ofList]
        exact mark_notMem_takeWhile '/' rest
      · rw [HoldsNoSlash, String.toList_ofList]
        exact name_plain
  · intro looksUp
    refine ⟨ns.toList ++ '/' :: name.toList, looksUp.toList.symm, ?_⟩
    rw [takeWhile_append_mark looksUp.ns_plain, List.drop_left, List.drop_one, List.tail_cons,
      if_neg, String.ofList_toList, String.ofList_toList]
    have plain : '/' ∉ name.toList := looksUp.name_plain
    simp [looksUp.ns_ne_empty, looksUp.name_ne_empty, plain]

/-! ## Routes -/

theorem route_ready (method : String) :
    route method "/ready" =
      if method = "GET" ∨ method = "HEAD" then .ready else .methodNotAllowed :=
  if_pos rfl

theorem route_of_other_method {method path : String} (notReady : path ≠ "/ready")
    (other : method ≠ "GET") : route method path = .methodNotAllowed := by
  rw [route, if_neg notReady, if_pos other]

theorem route_cache : route "GET" "/debug/alpha/cache" = .cache := by decide

/-- The other paths are looked at for names. -/
theorem route_get {path : String} (notReady : path ≠ "/ready")
    (notCache : path ≠ "/debug/alpha/cache") :
    route "GET" path =
      ((lookupNames? path.toList).map fun names => Route.lookup names.1 names.2).getD
        .notFound := by
  have otherPath : path.toList ≠ cachePath := fun same => notCache (String.toList_inj.mp same)
  rw [route, if_neg notReady, if_neg (not_not_intro rfl), if_neg otherPath]
  cases lookupNames? path.toList <;> rfl

/-- **A path is routed to a lookup exactly if the account is looked up under it.** -/
theorem route_get_eq_lookup_iff (path ns name : String) :
    route "GET" path = .lookup ns name ↔ LooksUp path ns name := by
  rw [← lookupNames?_eq_some_iff]
  by_cases ready : path = "/ready"
  · subst ready
    have nameless : lookupNames? "/ready".toList = none := by decide
    rw [route_ready, if_pos (.inl rfl), nameless]
    exact iff_of_false nofun nofun
  by_cases whole : path = "/debug/alpha/cache"
  · subst whole
    have nameless : lookupNames? "/debug/alpha/cache".toList = none := by decide
    rw [route_cache, nameless]
    exact iff_of_false nofun nofun
  rw [route_get ready whole]
  cases found : lookupNames? path.toList with
  | none => simp
  | some names => simp [Prod.ext_iff]

/-- A path under which nothing is looked up leads nowhere. -/
theorem route_get_eq_notFound {path : String} (notReady : path ≠ "/ready")
    (notCache : path ≠ "/debug/alpha/cache") (nothing : ∀ ns name, ¬ LooksUp path ns name) :
    route "GET" path = .notFound := by
  rw [route_get notReady notCache]
  cases found : lookupNames? path.toList with
  | none => rfl
  | some names => exact absurd ((lookupNames?_eq_some_iff path _ _).mp found) (nothing _ _)

end Http

/-! ## The main statement -/

/-- The page of a lookup is that of what the cache says under the looked-up key, when the lookup
begins or when it is resumed. -/
theorem Cache.page_of_beginPresented (cache : Cache) (now grace : Nat) (ns name : String)
    {state : Cache} {time : Nat} {shown : CallAnswer}
    (answered : (cache.beginPresented now .page ns name grace).2.1.answerAt? state time =
      some shown) :
    shown = .page (.ofAnswer (cache.answer (.ofNames ns name))) ∨
      shown = .page (.ofAnswer (state.answer (.ofNames ns name))) := by
  rw [cache.answerAt?_beginPresented now grace] at answered
  obtain ⟨response, responded, rfl⟩ := Option.map_eq_some_iff.mp answered
  rcases cache.responseAt?_beginLookup now grace ns name responded with rfl | rfl
  · exact .inl (congrArg (fun answer => CallAnswer.page (.ofAnswer answer)) (cache.get_answer _))
  · exact .inr (congrArg (fun answer => CallAnswer.page (.ofAnswer answer)) (state.get_answer _))

open Http in
/-- **Requests are told by their method and their path.**  Let a debug endpoint be given a request
with any method and any path, as it stands.  Under `/ready` the two methods for reading are shown
the gate, and under any other path only the first of them is not refused.  It is shown the dump
under the path of the cache.  It looks up an account exactly under the path that goes on with a
slash, a namespace, a slash and a name, neither of which is empty or holds a slash, and the page is
that of what the cache says under the key that the path ends with, when the lookup begins or when it
is resumed.  There is nothing under all other paths, and the cache is left alone.

So a path tells the account that is looked up, every account with such names is looked up under one
path, and no two of them are answered under the same key. -/
theorem requests_are_told_by_their_paths :
    (∀ (server : DebugServer) (cache : Cache) now method path,
      let begun := server.handle cache now method path
      let shows (page : Page) := begun = (cache, .answered (.page page) now, [])
      (path = "/ready" → (method = "GET" ∨ method = "HEAD" →
        shows (.ready (server.watcher.sees cache.gate))) ∧
        (method ≠ "GET" → method ≠ "HEAD" → shows (.ofStatus 405))) ∧
      (path ≠ "/ready" → method ≠ "GET" → shows (.ofStatus 405)) ∧
      (path = "/debug/alpha/cache" → method = "GET" → shows (.ofJson cache.toJson)) ∧
      (∀ ns name, LooksUp path ns name → method = "GET" →
        begun = cache.beginPresented now .page ns name server.grace ∧
        ∃ key, path = "/debug/alpha/cache/" ++ CacheKey.text key ∧
          ∀ state time shown, begun.2.1.answerAt? state time = some shown →
            shown = .page (.ofAnswer (cache.answer key)) ∨
              shown = .page (.ofAnswer (state.answer key))) ∧
      (path ≠ "/ready" → path ≠ "/debug/alpha/cache" → (∀ ns name, ¬ LooksUp path ns name) →
        method = "GET" → shows (.ofStatus 404))) ∧
    (∀ path ns name, route "GET" path = .lookup ns name ↔ LooksUp path ns name) ∧
    (∀ path ns name other otherName, LooksUp path ns name → LooksUp path other otherName →
      ns = other ∧ name = otherName) ∧
    (∀ names : AccountNames, HoldsNoSlash names.ns → HoldsNoSlash names.name →
      ∃! path, route "GET" path = .lookup names.ns names.name) ∧
    (∀ path ns name otherPath other otherName, LooksUp path ns name →
      LooksUp otherPath other otherName → CacheKey.ofNames ns name = .ofNames other otherName →
        path = otherPath ∧ ns = other ∧ name = otherName) := by
  refine ⟨?_, route_get_eq_lookup_iff, ?_, ?_, ?_⟩
  · intro server cache now method path begun shows
    -- The endpoint answers as the route says, with what it sees of the gate.
    have answers : begun =
        cache.beginHttp now (server.watcher.sees cache.gate) server.grace method path := rfl
    rw [Cache.beginHttp] at answers
    refine ⟨fun ready => ?_, fun notReady other => ?_, fun whole isGet => ?_,
      fun ns name looksUp isGet => ?_, fun notReady notCache nothing isGet => ?_⟩
    · subst ready
      rw [route_ready] at answers
      refine ⟨fun reads => ?_, fun notGet notHead => ?_⟩
      · rwa [if_pos reads] at answers
      · rwa [if_neg (not_or.mpr ⟨notGet, notHead⟩)] at answers
    · rwa [route_of_other_method notReady other] at answers
    · rwa [whole, isGet, route_cache] at answers
    · rw [isGet, (route_get_eq_lookup_iff path ns name).mpr looksUp] at answers
      refine ⟨answers, .ofNames ns name, looksUp.ends_with_key, ?_⟩
      intro state time shown answered
      rw [answers] at answered
      exact cache.page_of_beginPresented now server.grace ns name answered
    · rwa [isGet, route_get_eq_notFound notReady notCache nothing] at answers
  · intro path ns name other otherName looksUp looksUpToo
    exact looksUp.unique looksUpToo
  · intro names plainNs plainName
    refine ⟨_, (route_get_eq_lookup_iff _ _ _).mpr
      ⟨rfl, names.ns_ne_empty, names.name_ne_empty, plainNs, plainName⟩, ?_⟩
    intro path routed
    exact ((route_get_eq_lookup_iff _ _ _).mp routed).spelled
  · intro path ns name otherPath other otherName looksUp looksUpToo sameKey
    have samePath : path = otherPath := by
      rw [looksUp.ends_with_key, sameKey, looksUpToo.ends_with_key]
    subst samePath
    exact ⟨rfl, looksUp.unique looksUpToo⟩

/-- A lookup shows the entry under the key at the end of its path.  The gate is shown to whoever
asks for the head of its page only, nobody may write to a path, and a doubled slash leads nowhere. -/
theorem lookup_by_path_shows_the_entry :
    let entry : Entry := { roleArn := "r", audience := "", tokenExpiration := .oneDay }
    let cache := { Cache.new {} none none with mapped := (∅ : Table Entry).insert ⟨"a/b"⟩ entry }
    let server := DebugServer.new cache 0
    let shown (method path : String) := (server.handle cache 3 method path).2.1.answerAt? cache 3
    shown "GET" "/debug/alpha/cache/a/b" = some (.page (.ofAnswer (.ofEntry entry))) ∧
      shown "HEAD" "/ready" = some (.page (.ready false)) ∧
      shown "POST" "/debug/alpha/cache/a/b" = some (.page (.ofStatus 405)) ∧
      shown "GET" "/debug/alpha/cache/a//b" = some (.page (.ofStatus 404)) ∧
      (Http.LooksUp "/debug/alpha/cache/a/b" "a" "b" ∧
        ∃! path, Http.route "GET" path = .lookup "a" "b") := by
  intro entry cache server shown
  obtain ⟨handled, -, -, singly, -⟩ := requests_are_told_by_their_paths
  have looksUp : Http.LooksUp "/debug/alpha/cache/a/b" "a" "b" :=
    ⟨by decide, by decide, by decide, by decide, by decide⟩
  have nothing (ns name : String) : ¬ Http.LooksUp "/debug/alpha/cache/a//b" ns name := by
    have nameless : Http.lookupNames? "/debug/alpha/cache/a//b".toList = none := by decide
    rw [← Http.lookupNames?_eq_some_iff, nameless]
    exact nofun
  obtain ⟨-, refused, -, presented, -⟩ := handled server cache 3 "POST" "/debug/alpha/cache/a/b"
  obtain ⟨-, -, -, lookup, -⟩ := handled server cache 3 "GET" "/debug/alpha/cache/a/b"
  obtain ⟨-, -, -, -, missing⟩ := handled server cache 3 "GET" "/debug/alpha/cache/a//b"
  obtain ⟨ready, -⟩ := handled server cache 3 "HEAD" "/ready"
  have answered {begun : Cache × CallProgress × List Event} {page : Http.Page}
      (shows : begun = (cache, .answered (.page page) 3, [])) :
      begun.2.1.answerAt? cache 3 = some (.page page) := by
    rw [shows]
    rfl
  refine ⟨?_, answered ((ready rfl).1 (.inr rfl)),
    answered (refused (by decide) (by decide)),
    answered (missing (by decide) (by decide) nothing rfl), looksUp,
    singly ⟨"a", "b", by decide, by decide⟩ (by decide) (by decide)⟩
  have page : (cache.beginPresented 3 .page "a" "b" 0).2.1.answerAt? cache 3 =
      some (.page (.ofAnswer (.ofEntry entry))) := rfl
  exact (congrArg (fun begun => begun.2.1.answerAt? cache 3) (lookup "a" "b" looksUp rfl).1).trans
    page

end IdentityCache
