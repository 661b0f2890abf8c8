import IdentityCache.Json.StringLiteral

/-!
# Compact objects

Objects are written without blanks, their members in the order in which they are
given.
-/

namespace IdentityCache.Json

set_option autoImplicit false

/-- The words for truth values. -/
def truth (value : Bool) : List Char :=
  if value then ['t', 'r', 'u', 'e'] else ['f', 'a', 'l', 's', 'e']

/-- A member of an object. -/
def member (name : String) (value : List Char) : List Char := quote name ++ ':' :: value

/-- An object with the given members. -/
def object (members : List (List Char)) : List Char :=
  '\x7b' :: ((members.intersperse [',']).flatten ++ ['\x7d'])

end IdentityCache.Json
