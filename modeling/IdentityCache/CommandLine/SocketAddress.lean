import IdentityCache.Decimal

/-!
# Socket addresses

A socket address is an internet address and a port.  An address of version 4 is
written as four decimal octets.  One of version 6 is written in brackets as eight
hexadecimal groups, of which one run of zeros may be left out, and whose last two may
be written as an address of version 4; a numeric scope may follow.

Addresses are written in one way only: the first longest run of at least two zero
groups is left out, hexadecimal digits are lower case, and an address of version 4
that is embedded in one of version 6 is shown as such.
-/

namespace IdentityCache.CommandLine

set_option autoImplicit false

/-- An internet address. -/
inductive HostAddress
  /-- The four octets of an address of version 4. -/
  | v4 (octets : List Nat)
  /-- The eight groups of an address of version 6, and its scope. -/
  | v6 (groups : List Nat) (scope : Nat)
  deriving DecidableEq, Repr

/-- An internet address and a port. -/
structure SocketAddress where
  host : HostAddress
  port : Nat
  deriving DecidableEq, Repr

/-! ## Reading -/

/-- The value of a digit in a base of at most sixteen. -/
def digitValue? (base : Nat) (c : Char) : Option Nat :=
  let value :=
    if '0' ≤ c ∧ c ≤ '9' then some (c.toNat - 0x30)
    else if 'a' ≤ c ∧ c ≤ 'f' then some (c.toNat - 0x57)
    else if 'A' ≤ c ∧ c ≤ 'F' then some (c.toNat - 0x37)
    else none
  value.filter (· < base)

/-- The digits at the head of a text, by their values, and the rest. -/
def takeDigits (base : Nat) : List Char → List Nat × List Char
  | [] => ([], [])
  | c :: text =>
    match digitValue? base c with
    | some digit =>
      let (digits, rest) := takeDigits base text
      (digit :: digits, rest)
    | none => ([], c :: text)

/-- A number at the head of a text that stays below a bound, and the rest. -/
def takeNumber? (base bound : Nat) (text : List Char) : Option (Nat × List Char) :=
  let (digits, rest) := takeDigits base text
  let value := digits.foldl (fun value digit => base * value + digit) 0
  if digits.isEmpty || bound ≤ value then none else some (value, rest)

/-- A character at the head of a text, and the rest. -/
def takeChar? (expected : Char) : List Char → Option (List Char)
  | [] => none
  | c :: text => if c = expected then some text else none

/-- An octet: at most three digits, and no superfluous zero in front. -/
def takeOctet? (text : List Char) : Option (Nat × List Char) := do
  let digits := (takeDigits 10 text).1
  if 3 < digits.length || (1 < digits.length && digits.head? = some 0) then none
  else takeNumber? 10 256 text

/-- A group of at most four hexadecimal digits. -/
def takeGroup? (text : List Char) : Option (Nat × List Char) :=
  if 4 < (takeDigits 16 text).1.length then none else takeNumber? 16 65536 text

/-- Four octets separated by points. -/
def takeOctets? (text : List Char) : Option (List Nat × List Char) := do
  let (first, text) ← takeOctet? text
  let (second, text) ← takeChar? '.' text >>= takeOctet?
  let (third, text) ← takeChar? '.' text >>= takeOctet?
  let (fourth, text) ← takeChar? '.' text >>= takeOctet?
  some ([first, second, third, fourth], text)

/-- The two groups that four octets fill. -/
def groupsOfOctets : List Nat → List Nat
  | [first, second, third, fourth] => [first * 256 + second, third * 256 + fourth]
  | _ => []

/-- Groups separated by colons, at most as many as there is room for.  Four octets may stand for
the last two; the flag says whether they do. -/
def takeGroups : (room : Nat) → (isFirst : Bool) → List Char → List Nat × Bool × List Char
  | 0, _, text => ([], false, text)
  | room + 1, isFirst, text =>
    match if isFirst then some text else takeChar? ':' text with
    | none => ([], false, text)
    | some item =>
      match if room = 0 then none else takeOctets? item with
      | some (octets, rest) => (groupsOfOctets octets, true, rest)
      | none =>
        match takeGroup? item with
        | none => ([], false, text)
        | some (group, rest) =>
          let (groups, embedded, rest) := takeGroups room false rest
          (group :: groups, embedded, rest)

/-- The eight groups of an address, of which one run of zeros may be left out. -/
def takeAddress? (text : List Char) : Option (List Nat × List Char) := do
  let (front, embedded, text) := takeGroups 8 true text
  if front.length = 8 then some (front, text)
  else if embedded then none
  else
    let text ← takeChar? ':' text >>= takeChar? ':'
    let (back, _, text) := takeGroups (7 - front.length) true text
    some (front ++ List.replicate (8 - front.length - back.length) 0 ++ back, text)

/-- A scope, which is zero unless one is written. -/
def takeScope (text : List Char) : Nat × List Char :=
  match takeChar? '%' text >>= takeNumber? 10 4294967296 with
  | some result => result
  | none => (0, text)

/-- A port, to the end of the text. -/
def port? (text : List Char) : Option Nat := do
  let (port, rest) ← takeChar? ':' text >>= takeNumber? 10 65536
  if rest.isEmpty then some port else none

/-- A socket address of version 4. -/
def socketV4? (text : List Char) : Option SocketAddress := do
  let (octets, text) ← takeOctets? text
  some ⟨.v4 octets, ← port? text⟩

/-- A socket address of version 6. -/
def socketV6? (text : List Char) : Option SocketAddress := do
  let (groups, text) ← takeChar? '[' text >>= takeAddress?
  let (scope, text) := takeScope text
  let text ← takeChar? ']' text
  some ⟨.v6 groups scope, ← port? text⟩

/-- The socket address that a text holds. -/
def SocketAddress.ofText? (text : String) : Option SocketAddress :=
  (socketV4? text.toList).or (socketV6? text.toList)

/-! ## Writing -/

/-- Octets separated by points. -/
def octetsText (octets : List Nat) : String :=
  ".".intercalate (octets.map fun octet => String.ofList (Decimal.digits octet))

/-- Groups separated by colons. -/
def groupsText (groups : List Nat) : String :=
  ":".intercalate (groups.map fun group => String.ofList (Nat.toDigits 16 group))

/-- The number of zeros at the head of a list. -/
def zerosAtHead (groups : List Nat) : Nat := (groups.takeWhile (· = 0)).length

/-- The start and the length of the first longest run of zeros. -/
def longestZeros (groups : List Nat) : Nat × Nat :=
  (List.range groups.length).foldl
    (fun best start =>
      let length := zerosAtHead (groups.drop start)
      if best.2 < length then (start, length) else best)
    (0, 0)

/-- An address of version 6. -/
def addressText (groups : List Nat) : String :=
  match groups with
  | [0, 0, 0, 0, 0, 0xFFFF, high, low] =>
    "::ffff:" ++ octetsText [high / 256, high % 256, low / 256, low % 256]
  | groups =>
    let (start, length) := longestZeros groups
    if 1 < length then
      groupsText (groups.take start) ++ "::" ++ groupsText (groups.drop (start + length))
    else groupsText groups

/-- A socket address in its one written form. -/
def SocketAddress.text (address : SocketAddress) : String :=
  let port := String.ofList (Decimal.digits address.port)
  match address.host with
  | .v4 octets => octetsText octets ++ ":" ++ port
  | .v6 groups scope =>
    let scope := if scope = 0 then "" else "%" ++ String.ofList (Decimal.digits scope)
    "[" ++ addressText groups ++ scope ++ "]:" ++ port

end IdentityCache.CommandLine
