/-!
# Decimal numerals

A numeral is a non-empty run of ASCII digits, optionally with a sign in front.
Leading zeros are allowed when reading and never written.  Reading gives the exact
integer; whether it fits a bounded type is decided by that type.
-/

namespace IdentityCache.Decimal

set_option autoImplicit false

/-- The digits of a natural number, without leading zeros. -/
def digits (n : Nat) : List Char := Nat.toDigits 10 n

/-- The numeral of an integer; only negative numbers carry a sign. -/
def numeral (n : Int) : List Char :=
  if n < 0 then '-' :: digits n.natAbs else digits n.natAbs

/-- The number written by a non-empty run of digits. -/
def natural? (text : List Char) : Option Nat :=
  if !text.isEmpty && text.all Char.isDigit then some (Nat.ofDigitChars 10 text 0) else none

/-- The number written by digits with an optional plus sign. -/
def unsigned? : List Char → Option Nat
  | '+' :: text => natural? text
  | text => natural? text

/-- The number written by digits with an optional sign. -/
def signed? : List Char → Option Int
  | '+' :: text => (natural? text).map Int.ofNat
  | '-' :: text => (natural? text).map fun magnitude => -(magnitude : Int)
  | text => (natural? text).map Int.ofNat

/-- A number below a bound, written by digits with an optional plus sign. -/
def below? (bound : Nat) (text : String) : Option Nat :=
  (unsigned? text.toList).filter (· < bound)

end IdentityCache.Decimal
