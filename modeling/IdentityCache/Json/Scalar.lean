import IdentityCache.Json.StringLiteral
import IdentityCache.Json.Number

/-!
# Scalars

A scalar is a string, a number or one of the words `true`, `false` and `null`.  It
is read to its end before anything is said about its type, so a malformed scalar
of the wrong type is malformed first of all.
-/

namespace IdentityCache.Json

set_option autoImplicit false

/-- The value of a scalar; a number counts only as an integer or as none. -/
inductive Scalar
  | text (value : String)
  | truth (value : Bool)
  /-- The word `null`. -/
  | null
  /-- A number spelled as an integer. -/
  | integer (value : Int)
  /-- Any other number. -/
  | fractional
  deriving DecidableEq, Repr

/-- A scalar that is being read. -/
inductive ScalarScan
  /-- Within the quotes of a string. -/
  | text (scan : StringScan)
  /-- Within a number. -/
  | number (phase : NumberPhase) (parts : Number)
  /-- Within a word, of which the given letters are still to come. -/
  | word (next : Char) (rest : List Char) (meaning : Scalar)

/-- A word that begins with the given letter, by its second letter, the letters after that
and what it means. -/
def word? (c : Char) : Option (Char × List Char × Scalar) :=
  if c = 't' then some ('r', ['u', 'e'], .truth true)
  else if c = 'f' then some ('a', ['l', 's', 'e'], .truth false)
  else if c = 'n' then some ('u', ['l', 'l'], .null)
  else none

namespace ScalarScan

/-- Begins a scalar with its first character. -/
def begin? (c : Char) : Option ScalarScan :=
  if c = '"' then some (.text {})
  else
    match NumberPhase.begin? c with
    | some phase => some (.number phase (Number.push {} phase c))
    | none => (word? c).map fun (next, rest, meaning) => .word next rest meaning

/-- The value of a number that has been read to its end. -/
def numberValue (parts : Number) : Except Fault Scalar :=
  if parts.isTooLarge then .error .malformed
  else
    match parts.integer? with
    | some value => .ok (.integer value)
    | none => .ok .fractional

/-- Reads a further character. -/
def step (scan : ScalarScan) (c : Char) : Except Fault (Progress ScalarScan Scalar) :=
  match scan with
  | .text scan =>
    (scan.step c).map fun
      | .inl scan => .more (.text scan)
      | .inr value => .closed (.text value)
  | .number phase parts =>
    match phase.step c with
    | .error fault => .error fault
    | .ok (some phase) => .ok (.more (.number phase (parts.push phase c)))
    | .ok none => (numberValue parts).map .closedBefore
  | .word next rest meaning =>
    if c ≠ next then .error .malformed
    else
      match rest with
      | [] => .ok (.closed meaning)
      | next :: rest => .ok (.more (.word next rest meaning))

/-- What the end of the text makes of a scalar: only a number may end there. -/
def finish (scan : ScalarScan) : Except Fault Scalar :=
  match scan with
  | .number phase parts => phase.finish >>= fun _ => numberValue parts
  | .text _ | .word _ _ _ => .error .ended

end ScalarScan

end IdentityCache.Json
