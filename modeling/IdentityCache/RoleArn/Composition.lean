/-!
# Composing the name of a role

An annotation may hold the bare name of a role.  When composition is enabled, such
a value is completed with a configured partition and account; a value that already
begins with `arn:` is taken as it is.
-/

namespace IdentityCache.RoleArn

set_option autoImplicit false

/-- How a bare role name is completed to a full resource name. -/
structure Composition where
  enabled : Bool := false
  partition : String := ""
  account : String := ""
  deriving DecidableEq, Repr

/-- Whether a value is already written as a resource name. -/
def isQualified (value : String) : Bool :=
  ['a', 'r', 'n', ':'].isPrefixOf value.toList

/-- The name that an annotation's value stands for. -/
def Composition.resolve (composition : Composition) (value : String) : String :=
  if !composition.enabled || isQualified value then value
  else
    "arn:" ++ composition.partition ++ ":iam::" ++ composition.account ++ ":role/" ++ value

/-- A value that is already a resource name is left alone. -/
theorem Composition.resolve_of_isQualified (composition : Composition) {value : String}
    (qualified : isQualified value = true) : composition.resolve value = value := by
  simp [resolve, qualified]

end IdentityCache.RoleArn
