import IdentityCache.Seconds

/-!
# Identities

An `Entry` is what is known about the identity of one ServiceAccount: the role it
may assume, the audience of its tokens, whether the regional token endpoint is used
and how long a token lives.  An entry whose role is empty says that the account
exists and has no identity.

A `CacheKey` names a ServiceAccount as `<namespace>/<name>`.  Keys are ordered by
the bytes of their UTF-8 form.
-/

namespace IdentityCache

set_option autoImplicit false

/-- The identity recorded for one ServiceAccount. -/
structure Entry where
  /-- The role to assume; empty if the account has none. -/
  roleArn : String := ""
  audience : String := ""
  useRegionalSts : Bool := false
  tokenExpiration : Seconds := .zero
  deriving DecidableEq, Repr

/-- Whether an entry names a role. -/
def Entry.hasIdentity (entry : Entry) : Bool := !entry.roleArn.isEmpty

/-! ## Keys -/

/-- The name of a ServiceAccount across namespaces. -/
structure CacheKey where
  text : String
  deriving DecidableEq, Repr

namespace CacheKey

/-- The key of the account with the given namespace and name. -/
def ofNames (ns name : String) : CacheKey := ⟨ns ++ "/" ++ name⟩

/-- The bytes by which keys are ordered. -/
def bytes (key : CacheKey) : List UInt8 := key.text.toByteArray.data.toList

instance : LT CacheKey := ⟨fun a b => a.bytes < b.bytes⟩

instance (a b : CacheKey) : Decidable (a < b) := inferInstanceAs (Decidable (a.bytes < b.bytes))

/-- Keys with the same bytes are the same key. -/
theorem eq_of_bytes_eq {a b : CacheKey} (same : a.bytes = b.bytes) : a = b := by
  obtain ⟨a⟩ := a
  obtain ⟨b⟩ := b
  have arrays : a.toByteArray.data = b.toByteArray.data := Array.toList_inj.mp same
  have texts : a.toByteArray = b.toByteArray := ByteArray.ext arrays
  rw [String.toByteArray_inj.mp texts]

/-- No key precedes itself. -/
theorem lt_irrefl (a : CacheKey) : ¬ a < a := List.lt_irrefl a.bytes

/-- The order of keys is transitive. -/
theorem lt_trans {a b c : CacheKey} (first : a < b) (second : b < c) : a < c :=
  @List.lt_trans _ _ _ a.bytes b.bytes c.bytes first second

/-- Of two different keys one precedes the other. -/
theorem lt_of_not_lt {a b : CacheKey} (notLess : ¬ a < b) (different : a ≠ b) : b < a := by
  rcases Decidable.em (b < a) with less | notGreater
  · exact less
  · exact absurd (eq_of_bytes_eq (List.le_antisymm (List.not_lt.mp notGreater)
      (List.not_lt.mp notLess))) different

end CacheKey

end IdentityCache
