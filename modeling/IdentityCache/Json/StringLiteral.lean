import IdentityCache.Json.Basic

/-!
# String literals

A string is written between quotes.  The quote, the backslash and the control
characters below U+0020 are escaped: five of the controls have a letter of their
own, the others are written with four lower-case hexadecimal digits.  Every other
character stands for itself.

When a string is read, a backslash may also escape the slash, and `\u` with four
hexadecimal digits gives a code unit; the units of a surrogate pair must come
together.  The four digits are taken as the next four bytes of the text: if the
text ends within them it ended too early, whatever those bytes are.
-/

namespace IdentityCache.Json

set_option autoImplicit false

/-! ## Writing -/

/-- The hexadecimal digit of a number below sixteen. -/
def hexDigit (n : Nat) : Char := Nat.digitChar n

/-- How a character is written inside a string. -/
def escape (c : Char) : List Char :=
  if c = '"' then ['\\', '"']
  else if c = '\\' then ['\\', '\\']
  else if c = '\x08' then ['\\', 'b']
  else if c = '\x0c' then ['\\', 'f']
  else if c = '\n' then ['\\', 'n']
  else if c = '\r' then ['\\', 'r']
  else if c = '\t' then ['\\', 't']
  else if c.toNat < 0x20 then
    ['\\', 'u', '0', '0', hexDigit (c.toNat / 16), hexDigit (c.toNat % 16)]
  else [c]

/-- A text as a string literal. -/
def quote (text : String) : List Char := '"' :: text.toList.flatMap escape ++ ['"']

/-! ## Reading -/

/-- The value of a hexadecimal digit of either case. -/
def hexValue? (c : Char) : Option Nat :=
  if '0' ≤ c ∧ c ≤ '9' then some (c.toNat - 0x30)
  else if 'a' ≤ c ∧ c ≤ 'f' then some (c.toNat - 0x57)
  else if 'A' ≤ c ∧ c ≤ 'F' then some (c.toNat - 0x37)
  else none

/-- The part of a four-byte hexadecimal group that has been read. -/
structure HexGroup where
  /-- The bytes read so far. -/
  width : Nat := 0
  /-- Their value, if they are all hexadecimal digits. -/
  value : Option Nat := some 0

/-- Takes one more character into a group. -/
def HexGroup.push (group : HexGroup) (c : Char) : HexGroup where
  width := group.width + c.utf8Size
  value := group.value.bind fun value => (hexValue? c).map (16 * value + ·)

/-- What is expected next inside a string. -/
inductive StringPhase
  /-- A character, an escape or the closing quote. -/
  | plain
  /-- The character after a backslash. -/
  | escaped
  /-- The rest of a hexadecimal group. -/
  | unit (group : HexGroup)
  /-- The backslash that follows the leading unit of a surrogate pair. -/
  | pairBackslash (leading : Nat)
  /-- The letter of the escape that follows the leading unit of a pair. -/
  | pairLetter (leading : Nat)
  /-- The group of the trailing unit of a pair. -/
  | pairUnit (leading : Nat) (group : HexGroup)

/-- A string literal that is being read. -/
structure StringScan where
  /-- The characters read so far, the last one first. -/
  taken : List Char := []
  /-- What is expected next. -/
  phase : StringPhase := .plain

/-- The character that an escape letter other than `u` stands for. -/
def escapedCharacter? (c : Char) : Option Char :=
  if c = '"' then some '"'
  else if c = '\\' then some '\\'
  else if c = '/' then some '/'
  else if c = 'b' then some '\x08'
  else if c = 'f' then some '\x0c'
  else if c = 'n' then some '\n'
  else if c = 'r' then some '\r'
  else if c = 't' then some '\t'
  else none

/-- Whether a code unit is the leading one of a surrogate pair. -/
def isLeading (unit : Nat) : Bool := 0xD800 ≤ unit && unit ≤ 0xDBFF

/-- Whether a code unit is the trailing one of a surrogate pair. -/
def isTrailing (unit : Nat) : Bool := 0xDC00 ≤ unit && unit ≤ 0xDFFF

namespace StringScan

/-- Takes a character into the string. -/
def push (scan : StringScan) (c : Char) : StringScan := ⟨c :: scan.taken, .plain⟩

/-- Goes on with another expectation. -/
def expect (scan : StringScan) (phase : StringPhase) : StringScan := { scan with phase }

/-- Takes the code unit of a group that stands alone or leads a pair. -/
def takeUnit (scan : StringScan) (unit : Nat) : Except Fault StringScan :=
  if isTrailing unit then .error .malformed
  else if isLeading unit then .ok (scan.expect (.pairBackslash unit))
  else .ok (scan.push (Char.ofNat unit))

/-- Takes the second code unit of a pair. -/
def takePair (scan : StringScan) (leading trailing : Nat) : Except Fault StringScan :=
  if isTrailing trailing then
    .ok (scan.push (Char.ofNat (0x10000 + (leading - 0xD800) * 0x400 + (trailing - 0xDC00))))
  else .error .malformed

/-- Hands a group on once its four bytes are there. -/
def takeGroup (group : HexGroup) (unfinished : HexGroup → StringScan)
    (finished : Nat → Except Fault StringScan) : Except Fault StringScan :=
  if group.width < 4 then .ok (unfinished group)
  else
    match group.value with
    | some unit => finished unit
    | none => .error .malformed

/-- Reads a character within the quotes. -/
def step (scan : StringScan) (c : Char) : Except Fault (StringScan ⊕ String) :=
  match scan.phase with
  | .plain =>
    if c = '"' then .ok (.inr (String.ofList scan.taken.reverse))
    else if c = '\\' then .ok (.inl (scan.expect .escaped))
    else if c.toNat < 0x20 then .error .malformed
    else .ok (.inl (scan.push c))
  | .escaped =>
    if c = 'u' then .ok (.inl (scan.expect (.unit {})))
    else
      match escapedCharacter? c with
      | some meant => .ok (.inl (scan.push meant))
      | none => .error .malformed
  | .unit group =>
    (takeGroup (group.push c) (fun group => scan.expect (.unit group)) scan.takeUnit).map .inl
  | .pairBackslash leading =>
    if c = '\\' then .ok (.inl (scan.expect (.pairLetter leading))) else .error .malformed
  | .pairLetter leading =>
    if c = 'u' then .ok (.inl (scan.expect (.pairUnit leading {}))) else .error .malformed
  | .pairUnit leading group =>
    (takeGroup (group.push c) (fun group => scan.expect (.pairUnit leading group))
      (scan.takePair leading)).map .inl

end StringScan

/-! ## Skimming

Where the text of a string is of no interest only its shape is checked: no control
characters, known escapes, hexadecimal groups.  Surrogates need no partner.
-/

/-- What is expected next inside a string that is skimmed. -/
inductive SkimmedString
  /-- A character, an escape or the closing quote. -/
  | plain
  /-- The character after a backslash. -/
  | escaped
  /-- The rest of a hexadecimal group. -/
  | unit (group : HexGroup)

/-- Skims a character within the quotes; the closing quote leaves no state. -/
def SkimmedString.step (state : SkimmedString) (c : Char) : Except Fault (Option SkimmedString) :=
  match state with
  | .plain =>
    if c = '"' then .ok none
    else if c = '\\' then .ok (some .escaped)
    else if c.toNat < 0x20 then .error .malformed
    else .ok (some .plain)
  | .escaped =>
    if c = 'u' then .ok (some (.unit {}))
    else if (escapedCharacter? c).isSome then .ok (some .plain)
    else .error .malformed
  | .unit group =>
    let group := group.push c
    if group.width < 4 then .ok (some (.unit group))
    else if group.value.isSome then .ok (some .plain)
    else .error .malformed

end IdentityCache.Json
