import IdentityCache.Unicode.DecimalDigit
import IdentityCache.Unicode.WordCharacter

/-!
# Resource names of IAM roles

The name of a role is written `arn:<partition>:iam::<account>:role/<path>`.  The
partition is `aws`, possibly followed by lower-case ASCII letters, ASCII digits and
hyphens.  The account is either twelve decimal digits or the word `aws`, which
stands for roles managed by the provider.  The path is a non-empty run of word
characters and of `+ = , . @ / -`.

`RoleArn.path?` walks over the name from left to right and returns what follows
`:role/`; `RoleArn.isValid` accepts a name when that rest is a path.  No character
of a partition is a colon, so the walk never has to go back.
-/

namespace IdentityCache.RoleArn

set_option autoImplicit false

open Unicode (isDecimalDigit isWordCharacter)

/-- The characters that may follow `aws` in the name of a partition. -/
def isPartitionCharacter (c : Char) : Bool :=
  ('a' ≤ c && c ≤ 'z') || ('0' ≤ c && c ≤ '9') || c == '-'

/-- The characters of a role's path. -/
def isPathCharacter (c : Char) : Bool :=
  isWordCharacter c || ['+', '=', ',', '.', '@', '/', '-'].contains c

/-- What follows an account at the head of the text, if there is one. -/
def afterAccount? (text : List Char) : Option (List Char) :=
  if (text.take 12).length = 12 ∧ (text.take 12).all isDecimalDigit then
    some (text.drop 12)
  else
    ['a', 'w', 's'].isPrefixOf? text

/-- What follows `:role/` in a text that begins like the name of a role. -/
def path? (text : List Char) : Option (List Char) := do
  let afterAws ← ['a', 'r', 'n', ':', 'a', 'w', 's'].isPrefixOf? text
  let afterPartition := afterAws.dropWhile isPartitionCharacter
  let atAccount ← [':', 'i', 'a', 'm', ':', ':'].isPrefixOf? afterPartition
  let afterAccount ← afterAccount? atAccount
  [':', 'r', 'o', 'l', 'e', '/'].isPrefixOf? afterAccount

/-- Whether the whole text is the name of a role. -/
def isValid (arn : String) : Bool :=
  match path? arn.toList with
  | some path => !path.isEmpty && path.all isPathCharacter
  | none => false

end IdentityCache.RoleArn
