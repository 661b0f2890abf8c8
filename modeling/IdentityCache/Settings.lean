import IdentityCache.Seconds
import IdentityCache.RoleArn.Composition

/-!
# Settings

The defaults that complete what an annotation or a snapshot leaves open, and the
domain under which the annotations are found.
-/

namespace IdentityCache

set_option autoImplicit false

/-- The settings of a cache. -/
structure Settings where
  /-- The audience of accounts that name none. -/
  defaultAudience : String := "sts.amazonaws.com"
  /-- The lifetime of tokens of accounts that name none. -/
  defaultExpiration : Seconds := .oneDay
  /-- Whether accounts that do not say use the regional endpoint. -/
  regionalByDefault : Bool := false
  annotationDomain : String := "eks.amazonaws.com"
  composition : RoleArn.Composition := {}
  deriving DecidableEq, Repr

end IdentityCache
