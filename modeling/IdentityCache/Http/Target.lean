/-!
# Request targets

The target of an HTTP request is `*`, a path with an optional query, an absolute
URI, or a bare authority.  Only its path matters here: what precedes the first `?`
or `#`, taken as it is.  An absolute URI without a path has the path `/`; a bare
authority has the empty path.

Characters beyond ASCII are let through in paths and queries, not in authorities.
-/

namespace IdentityCache.Http

set_option autoImplicit false

/-- The number of bytes that a target may have. -/
def maxTargetBytes : Nat := 65534

/-- Whether a code point lies in a range. -/
def within (c : Char) (low high : Nat) : Bool := low ≤ c.toNat && c.toNat ≤ high

/-- Whether a character may stand in a path. -/
def isPathCharacter (c : Char) : Bool :=
  c.toNat = 0x21 || within c 0x24 0x3B || c.toNat = 0x3D || within c 0x40 0x5F ||
    within c 0x61 0x7A || c.toNat = 0x7C || c.toNat = 0x7E || 0x80 ≤ c.toNat ||
    c = '"' || c = '\x7b' || c = '\x7d'

/-- Whether a character may stand in a query. -/
def isQueryCharacter (c : Char) : Bool :=
  c.toNat = 0x21 || within c 0x24 0x3B || c.toNat = 0x3D || within c 0x3F 0x7E ||
    0x80 ≤ c.toNat

/-- The path of a text made of a path, an optional query and an optional fragment; what a
fragment holds is not looked at. -/
def pathBeforeQuery? (text : List Char) : Option (List Char) :=
  let path := text.takeWhile fun c => c ≠ '?' && c ≠ '#'
  let rest := text.drop path.length
  let query := if rest.head? = some '?' then (rest.drop 1).takeWhile (· ≠ '#') else []
  if path.all isPathCharacter && query.all isQueryCharacter then some path else none

/-! ## Authorities -/

/-- Whether a character may stand in an authority, apart from the percent sign. -/
def isAuthorityCharacter (c : Char) : Bool :=
  c.isAlphanum ||
    ['!', '$', '&', '\'', '(', ')', '*', '+', ',', '-', '.', ':', ';', '=', '@', '[', ']', '_',
      '~'].contains c

/-- What matters of the characters of an authority that have been read. -/
structure AuthorityScan where
  /-- The colons that do not belong to a user or an address in brackets. -/
  colons : Nat := 0
  /-- Whether a bracket was opened. -/
  opened : Bool := false
  /-- Whether the bracket was closed. -/
  closed : Bool := false
  /-- Whether a percent sign was read that does not belong to a user or an address. -/
  percent : Bool := false
  /-- Whether the last character was an at sign. -/
  endsWithUser : Bool := false

/-- Reads a character of an authority. -/
def AuthorityScan.step (scan : AuthorityScan) (c : Char) : Option AuthorityScan :=
  let scan := { scan with endsWithUser := c == '@' }
  if c = ':' then
    if 8 ≤ scan.colons then none else some { scan with colons := scan.colons + 1 }
  else if c = '[' then
    if scan.percent || scan.opened then none else some { scan with opened := true }
  else if c = ']' then
    if !scan.opened || scan.closed then none
    else some { scan with closed := true, colons := 0, percent := false }
  else if c = '@' then some { scan with colons := 0, percent := false }
  else if c = '%' then some { scan with percent := true }
  else if isAuthorityCharacter c then some scan
  else none

/-- Whether an authority may end here. -/
def AuthorityScan.isComplete (scan : AuthorityScan) : Bool :=
  scan.opened == scan.closed && scan.colons ≤ 1 && !scan.percent && !scan.endsWithUser

/-- Splits a text into the authority at its head and the rest. -/
def splitAuthority? (text : List Char) : Option (List Char × List Char) := do
  let authority := text.takeWhile fun c => c ≠ '/' && c ≠ '?' && c ≠ '#'
  let scan ← authority.foldlM AuthorityScan.step {}
  if scan.isComplete then some (authority, text.drop authority.length) else none

/-! ## Schemes -/

/-- Whether a character may stand in a scheme. -/
def isSchemeCharacter (c : Char) : Bool :=
  c.isAlphanum || c = '+' || c = '-' || c = '.' || c = '~'

/-- The number of characters that a scheme may have. -/
def maxSchemeLength : Nat := 64

/-- What the head of a target says about its scheme. -/
inductive SchemeHead
  /-- There is no scheme. -/
  | none
  /-- After a scheme comes the given rest. -/
  | before (rest : List Char)
  /-- The scheme is too long. -/
  | tooLong

/-- Looks for a scheme at the head of a target. -/
def schemeHead (text : List Char) : SchemeHead :=
  let scheme := text.takeWhile isSchemeCharacter
  match [':', '/', '/'].isPrefixOf? (text.drop scheme.length) with
  | some rest => if maxSchemeLength < scheme.length then .tooLong else .before rest
  | none => .none

/-! ## Targets -/

/-- The path of a request target, if the text is one. -/
def targetPath? (target : String) : Option String :=
  let text := target.toList
  if maxTargetBytes < target.utf8ByteSize then none
  else if text = ['*'] then some "*"
  else if text.head? = some '/' then (pathBeforeQuery? text).map String.ofList
  else
    match schemeHead text with
    | .tooLong => none
    | .none =>
      match splitAuthority? text with
      | some (authority, []) => if authority.isEmpty then none else some ""
      | some (_, _ :: _) | none => none
    | .before rest => do
      let (authority, rest) ← splitAuthority? rest
      if authority.isEmpty then none
      else
        let path ← pathBeforeQuery? rest
        some (if path.isEmpty then "/" else String.ofList path)

/-- The punctuation that may stand in a method. -/
def methodPunctuation : List Char :=
  ['!', '#', '$', '%', '&', '\'', '*', '+', '-', '.', '^', '_', '\x60', '|', '~']

/-- Whether a text is a method: a non-empty run of ASCII letters, digits and punctuation. -/
def isMethod (method : String) : Bool :=
  !method.isEmpty &&
    method.toList.all fun c => c.isAlphanum || methodPunctuation.contains c

end IdentityCache.Http
