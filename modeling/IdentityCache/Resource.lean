import IdentityCache.Entry

/-!
# Watched objects

The parts of ServiceAccounts and ConfigMaps that the cache looks at.  Names may be
missing from an object that is delivered by a watch; a missing name is not the same
as an empty one.
-/

namespace IdentityCache

set_option autoImplicit false

/-- Texts under names; of several texts under one name the first counts. -/
abbrev Labels := List (String × String)

/-- A ServiceAccount. -/
structure ServiceAccount where
  ns : Option String := none
  name : Option String := none
  annotations : Labels := []
  deriving DecidableEq, Repr

/-- A ConfigMap. -/
structure ConfigMap where
  ns : Option String := none
  name : Option String := none
  /-- The stem from which a name is generated. -/
  generateName : Option String := none
  data : Labels := []
  deriving DecidableEq, Repr

/-- The best name a ConfigMap has: its own, else the stem of a generated one, else none. -/
def ConfigMap.anyName (map : ConfigMap) : String :=
  (map.name.or map.generateName).getD ""

/-- The report that a ServiceAccount is gone. -/
inductive Deletion
  /-- The object as it last was. -/
  | live (account : ServiceAccount)
  /-- Only the object's names. -/
  | tombstone (ns : Option String) (name : String)
  deriving DecidableEq, Repr

/-- The key of an object, if it has a namespace and a name and neither is empty. -/
def CacheKey.ofNames? : Option String → Option String → Option CacheKey
  | some ns, some name => if ns = "" ∨ name = "" then none else some (.ofNames ns name)
  | _, _ => none

/-- The key of a ServiceAccount. -/
def ServiceAccount.key? (account : ServiceAccount) : Option CacheKey :=
  CacheKey.ofNames? account.ns account.name

/-- The key of the account that is gone, whichever way it was reported. -/
def Deletion.key? : Deletion → Option CacheKey
  | .live account => account.key?
  | .tombstone ns name => CacheKey.ofNames? ns (some name)

end IdentityCache
