import IdentityCache.Json.Basic
import IdentityCache.Decimal

/-!
# Numbers

A number is an optional minus sign, an integer without superfluous leading zeros,
an optional fraction and an optional exponent.  It is an integer when it has
neither fraction nor exponent and is not a negative zero.

A number that is too large for a double is refused.  The double is formed as a
product of two doubles: the significand, which keeps as many leading digits as fit
an unsigned 64-bit word, and a power of ten.  `Number.isTooLarge` decides in exact
arithmetic whether that product is infinite.
-/

namespace IdentityCache.Json

set_option autoImplicit false

/-! ## Grammar -/

/-- The part of a number that is being read. -/
inductive NumberPhase
  /-- After the minus sign. -/
  | minus
  /-- After a leading zero. -/
  | zero
  /-- Inside the integer. -/
  | whole
  /-- After the decimal point. -/
  | point
  /-- Inside the fraction. -/
  | fraction
  /-- After the letter of the exponent. -/
  | exponent
  /-- After the sign of the exponent. -/
  | exponentSign
  /-- Inside the exponent. -/
  | exponentDigits
  deriving DecidableEq, Repr

/-- Whether a number may end here. -/
def NumberPhase.isComplete : NumberPhase → Bool
  | .zero | .whole | .fraction | .exponentDigits => true
  | .minus | .point | .exponent | .exponentSign => false

/-- The part of a number that begins with the given character. -/
def NumberPhase.begin? (c : Char) : Option NumberPhase :=
  if c = '-' then some .minus
  else if c = '0' then some .zero
  else if c.isDigit then some .whole
  else none

/-- The part of a number that a character leads to; `none` if the number ends before it. -/
def NumberPhase.step (phase : NumberPhase) (c : Char) : Except Fault (Option NumberPhase) :=
  match phase with
  | .minus =>
    if c = '0' then .ok (some .zero)
    else if c.isDigit then .ok (some .whole)
    else .error .malformed
  | .zero =>
    if c.isDigit then .error .malformed
    else if c = '.' then .ok (some .point)
    else if c = 'e' ∨ c = 'E' then .ok (some .exponent)
    else .ok none
  | .whole =>
    if c.isDigit then .ok (some .whole)
    else if c = '.' then .ok (some .point)
    else if c = 'e' ∨ c = 'E' then .ok (some .exponent)
    else .ok none
  | .point => if c.isDigit then .ok (some .fraction) else .error .malformed
  | .fraction =>
    if c.isDigit then .ok (some .fraction)
    else if c = 'e' ∨ c = 'E' then .ok (some .exponent)
    else .ok none
  | .exponent =>
    if c = '+' ∨ c = '-' then .ok (some .exponentSign)
    else if c.isDigit then .ok (some .exponentDigits)
    else .error .malformed
  | .exponentSign => if c.isDigit then .ok (some .exponentDigits) else .error .malformed
  | .exponentDigits => if c.isDigit then .ok (some .exponentDigits) else .ok none

/-- What the end of the text means for a number: a sign, a point or an exponent without digits is
one that was cut short. -/
def NumberPhase.finish (phase : NumberPhase) : Except Fault Unit :=
  if phase.isComplete then .ok () else .error .ended

/-! ## Value -/

/-- A number, split into its parts. -/
structure Number where
  /-- Whether there is a minus sign. -/
  negative : Bool := false
  whole : List Char := []
  fraction : List Char := []
  /-- Whether the exponent is negative. -/
  exponentNegative : Bool := false
  exponent : List Char := []

namespace Number

/-- The number with a further character in the part that has been reached. -/
def push (number : Number) (phase : NumberPhase) (c : Char) : Number :=
  match phase with
  | .minus => { number with negative := true }
  | .zero | .whole => { number with whole := number.whole ++ [c] }
  | .fraction => { number with fraction := number.fraction ++ [c] }
  | .exponentSign => { number with exponentNegative := c == '-' }
  | .exponentDigits => { number with exponent := number.exponent ++ [c] }
  | .point | .exponent => number

/-- The integer that a number denotes by its spelling. -/
def integer? (number : Number) : Option Int :=
  if number.fraction.isEmpty ∧ number.exponent.isEmpty then
    let magnitude := Nat.ofDigitChars 10 number.whole 0
    if !number.negative then some magnitude
    else if magnitude = 0 then none
    else some (-(magnitude : Int))
  else none

/-- Digits that fit an unsigned word, the number they make, and the digits left over. -/
def significandOf (sofar : Nat) : List Char → Nat × List Char
  | [] => (sofar, [])
  | c :: digits =>
    let next := 10 * sofar + (c.toNat - '0'.toNat)
    if next < Nat.pow 2 64 then significandOf next digits else (sofar, c :: digits)

/-- The nearest number with at most 53 significant bits; a tie goes to the even neighbour. -/
def roundToDouble (n : Nat) : Nat :=
  let spare := n.log2 + 1 - 53
  let unit := Nat.pow 2 spare
  let quotient := n / unit
  let twice := 2 * (n % unit)
  if unit < twice ∨ (unit = twice ∧ quotient % 2 = 1) then (quotient + 1) * unit
  else quotient * unit

/-- The least integer that is rounded to an infinite double. -/
def infiniteFrom : Nat := (Nat.pow 2 54 - 1) * Nat.pow 2 970

/-- The significand and the power of ten by which it is scaled: digits that do not fit the
significand count as places before the point and are dropped after it. -/
def scaled (number : Number) : Nat × Int :=
  let (whole, dropped) := significandOf 0 number.whole
  let (significand, unused) := significandOf whole number.fraction
  let exponent : Int := Nat.ofDigitChars 10 number.exponent 0
  (significand,
    dropped.length - (number.fraction.length - unused.length) +
      (if number.exponentNegative then -exponent else exponent))

/-- Whether the double that a number denotes is infinite. -/
def isTooLarge (number : Number) : Bool :=
  let (significand, exponent) := number.scaled
  if significand = 0 ∨ exponent ≤ 0 then false
  else if 308 < exponent then true
  else infiniteFrom ≤ roundToDouble significand * roundToDouble (Nat.pow 10 exponent.toNat)

end Number

end IdentityCache.Json
