import IdentityCache.Entry
import IdentityCache.Resource
import IdentityCache.Settings
import IdentityCache.RoleArn.Basic

/-!
# Identity annotations

A ServiceAccount states its identity in four annotations under a configured domain.
`Entry.ofAnnotations` turns them into an entry: what is missing, and a truth value
or a lifetime that cannot be read, falls back to the settings, and the lifetime is
raised to the floor.  A role that is not well formed is used all the same.
-/

namespace IdentityCache

set_option autoImplicit false

/-- The names of the four annotations. -/
structure AnnotationNames where
  roleArn : String
  audience : String
  regionalSts : String
  tokenExpiration : String
  deriving DecidableEq, Repr

/-- The names of the annotations under a domain. -/
def AnnotationNames.under (domain : String) : AnnotationNames where
  roleArn := domain ++ "/role-arn"
  audience := domain ++ "/audience"
  regionalSts := domain ++ "/sts-regional-endpoints"
  tokenExpiration := domain ++ "/token-expiration"

/-- The truth value that an annotation spells. -/
def truthOfText? (text : String) : Option Bool :=
  if ["1", "t", "T", "true", "TRUE", "True"].contains text then some true
  else if ["0", "f", "F", "false", "FALSE", "False"].contains text then some false
  else none

/-- The role that the annotations name, in its full form. -/
def roleOfAnnotations? (settings : Settings) (annotations : Labels) : Option String :=
  (annotations.lookup (AnnotationNames.under settings.annotationDomain).roleArn).map
    settings.composition.resolve

/-- The identity that annotations state. -/
def Entry.ofAnnotations (settings : Settings) (annotations : Labels) : Entry :=
  let names := AnnotationNames.under settings.annotationDomain
  { roleArn := (roleOfAnnotations? settings annotations).getD ""
    audience := (annotations.lookup names.audience).getD settings.defaultAudience
    useRegionalSts :=
      ((annotations.lookup names.regionalSts).bind truthOfText?).getD settings.regionalByDefault
    tokenExpiration :=
      (((annotations.lookup names.tokenExpiration).bind Seconds.ofText?).getD
        settings.defaultExpiration).raise }

end IdentityCache
