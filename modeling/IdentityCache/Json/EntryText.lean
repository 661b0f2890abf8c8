import IdentityCache.Entry
import IdentityCache.Json.Compact

/-!
# Entries written as JSON

An entry is written as an object with the members `RoleARN`, `Audience`,
`UseRegionalSTS` and `TokenExpiration`, in this order and without blanks.
-/

namespace IdentityCache.Json

set_option autoImplicit false

/-- The members of an entry. -/
inductive Field
  | roleArn
  | audience
  | useRegionalSts
  | tokenExpiration
  deriving DecidableEq, Repr

namespace Field

/-- The fields in the order in which they are written. -/
def all : List Field := [.roleArn, .audience, .useRegionalSts, .tokenExpiration]

/-- The name of a member. -/
def name : Field → String
  | .roleArn => "RoleARN"
  | .audience => "Audience"
  | .useRegionalSts => "UseRegionalSTS"
  | .tokenExpiration => "TokenExpiration"

/-- The field with the given name. -/
def ofName? (name : String) : Option Field := all.find? fun field => field.name = name

end Field

/-- The value of a field as it is written. -/
def fieldText (entry : Entry) : Field → List Char
  | .roleArn => quote entry.roleArn
  | .audience => quote entry.audience
  | .useRegionalSts => truth entry.useRegionalSts
  | .tokenExpiration => Decimal.numeral entry.tokenExpiration.toInt

/-- An entry as an object. -/
def entryText (entry : Entry) : List Char :=
  object (Field.all.map fun field => member field.name (fieldText entry field))

end IdentityCache.Json
