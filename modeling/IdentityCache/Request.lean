import IdentityCache.Entry

/-!
# Requests and answers

A caller asks for the identity of the ServiceAccount with a given namespace and
name, and may ask to be notified when an unknown account appears.  An answer holds
the fields of an entry and says whether any source knew the account.
-/

namespace IdentityCache

set_option autoImplicit false

/-- A question for the identity of a ServiceAccount. -/
structure Request where
  ns : String
  name : String
  /-- Whether the caller wants to be notified when an unobserved account appears. -/
  notify : Bool := false
  deriving DecidableEq, Repr

/-- The key of the account asked for. -/
def Request.key (request : Request) : CacheKey := .ofNames request.ns request.name

/-- What is known about the identity of an account. -/
structure Answer where
  entry : Entry
  found : Bool
  deriving DecidableEq, Repr

/-- The answer with an entry of the cache. -/
def Answer.ofEntry (entry : Entry) : Answer := ⟨entry, true⟩

/-- The answer for an account that no source knows: no identity, and the default lifetime. -/
def Answer.notFound (defaultExpiration : Seconds) : Answer :=
  ⟨{ tokenExpiration := defaultExpiration }, false⟩

end IdentityCache
