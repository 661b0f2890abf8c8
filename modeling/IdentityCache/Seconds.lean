import IdentityCache.Decimal

/-!
# Durations in seconds

The lifetime of a token is a whole number of seconds that fits a signed 64-bit
word.  The numbers that come from outside may be negative or tiny; a stored
lifetime is raised to `Seconds.floor`.
-/

namespace IdentityCache

set_option autoImplicit false

/-- A whole number of seconds within the range of a signed 64-bit word. -/
structure Seconds where
  toInt : Int
  inRange : -9223372036854775808 ≤ toInt ∧ toInt ≤ 9223372036854775807 := by decide
  deriving DecidableEq

namespace Seconds

instance : Repr Seconds := ⟨fun seconds _ => repr seconds.toInt⟩

/-- No time at all. -/
def zero : Seconds where
  toInt := 0

/-- The shortest lifetime that is ever handed out. -/
def floor : Seconds where
  toInt := 600

/-- The lifetime of a token unless configured otherwise: one day. -/
def oneDay : Seconds where
  toInt := 86400

/-- An integer as a duration, if it is in range. -/
def ofInt? (n : Int) : Option Seconds :=
  if inRange : -9223372036854775808 ≤ n ∧ n ≤ 9223372036854775807 then some ⟨n, inRange⟩
  else none

/-- The duration written by a decimal numeral with an optional sign. -/
def ofText? (text : String) : Option Seconds :=
  (Decimal.signed? text.toList).bind ofInt?

/-- Raises a duration to the floor. -/
def raise (seconds : Seconds) : Seconds :=
  if seconds.toInt < floor.toInt then floor else seconds

/-- A raised duration is the larger of the duration and the floor. -/
theorem toInt_raise (seconds : Seconds) : seconds.raise.toInt = max 600 seconds.toInt := by
  unfold raise floor
  split
  · rename_i below
    exact (Int.max_eq_left (Int.le_of_lt below)).symm
  · rename_i notBelow
    exact (Int.max_eq_right (Int.not_lt.mp notBelow)).symm

end Seconds

end IdentityCache
