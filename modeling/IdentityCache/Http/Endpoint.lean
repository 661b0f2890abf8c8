import IdentityCache.Cache.Report
import IdentityCache.Http.Target
import IdentityCache.Request

/-!
# The debug endpoint

Three pages can be asked for: whether the cache is ready, all observed accounts, and
the identity of one account.  The path decides the page, character by character;
nothing in it is decoded.
-/

namespace IdentityCache.Http

set_option autoImplicit false

/-- The path of the page that shows all observed accounts. -/
def cachePath : List Char := "/debug/alpha/cache".toList

/-- What a request is for. -/
inductive Route
  | ready
  /-- All observed accounts. -/
  | cache
  /-- The identity of one account. -/
  | lookup (ns name : String)
  /-- The page exists for other methods, or no page does. -/
  | methodNotAllowed
  | notFound
  deriving DecidableEq, Repr

/-- The namespace and the name at the end of the path of a lookup: two non-empty parts without
slashes. -/
def lookupNames? (path : List Char) : Option (String × String) := do
  let rest ← (cachePath ++ ['/']).isPrefixOf? path
  let ns := rest.takeWhile (· ≠ '/')
  let name := (rest.drop ns.length).drop 1
  if ns.isEmpty || name.isEmpty || name.contains '/' then none
  else some (String.ofList ns, String.ofList name)

/-- What a request with the given method and path is for. -/
def route (method path : String) : Route :=
  if path = "/ready" then
    if method = "GET" ∨ method = "HEAD" then .ready else .methodNotAllowed
  else if method ≠ "GET" then .methodNotAllowed
  else if path.toList = cachePath then .cache
  else
    match lookupNames? path.toList with
    | some (ns, name) => .lookup ns name
    | none => .notFound

/-! ## Pages -/

/-- A page that answers a request. -/
structure Page where
  status : Nat
  /-- The type of the body, if there is one. -/
  contentType : Option String := none
  body : String := ""
  deriving DecidableEq, Repr

/-- A page that has only a status. -/
def Page.ofStatus (status : Nat) : Page where
  status := status

/-- A page that holds JSON. -/
def Page.ofJson (body : String) : Page where
  status := 200
  contentType := some "application/json"
  body := body

/-- The page that says whether the cache is ready. -/
def Page.ready (isReady : Bool) : Page where
  status := if isReady then 200 else 500
  contentType := some "text/plain"
  body := if isReady then "ready\n" else "not ready\n"

/-- An answer as a JSON object, the names of its members in alphabetical order. -/
def answerText (answer : Answer) : List Char :=
  Json.object [
    Json.member "Audience" (Json.quote answer.entry.audience),
    Json.member "FoundInCache" (Json.truth answer.found),
    Json.member "RoleARN" (Json.quote answer.entry.roleArn),
    Json.member "TokenExpiration" (Decimal.numeral answer.entry.tokenExpiration.toInt),
    Json.member "UseRegionalSTS" (Json.truth answer.entry.useRegionalSts)]

/-- The page that shows the identity of one account. -/
def Page.ofAnswer (answer : Answer) : Page := .ofJson (String.ofList (answerText answer))

end IdentityCache.Http
