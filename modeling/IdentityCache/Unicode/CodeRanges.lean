/-!
# Sets of code points

A Unicode property is a set of code points.  The properties used here are unions
of inclusive ranges, so a set is the list of its ranges and membership looks for a
range that holds the code point.
-/

namespace IdentityCache.Unicode

set_option autoImplicit false

/-- A set of code points, given by the inclusive ranges that make it up. -/
abbrev CodeRanges := List (Nat × Nat)

/-- Whether a character's code point lies in one of the ranges. -/
def CodeRanges.covers (ranges : CodeRanges) (c : Char) : Bool :=
  ranges.any fun range => range.1 ≤ c.toNat && c.toNat ≤ range.2

/-- A character is covered exactly when some range holds its code point. -/
theorem CodeRanges.covers_iff {ranges : CodeRanges} {c : Char} :
    ranges.covers c = true ↔
      ∃ range ∈ ranges, range.1 ≤ c.toNat ∧ c.toNat ≤ range.2 := by
  simp [CodeRanges.covers]

/-- Whether no range of one set meets a range of the other. -/
def CodeRanges.areApart (ranges others : CodeRanges) : Bool :=
  ranges.all fun range => others.all fun other => range.2 < other.1 || other.2 < range.1

/-- Sets that are apart have no character in common. -/
theorem CodeRanges.covers_eq_false {ranges others : CodeRanges}
    (apart : ranges.areApart others = true) {c : Char} (covered : ranges.covers c = true) :
    others.covers c = false := by
  rw [Bool.eq_false_iff]
  intro coveredToo
  obtain ⟨range, member, low, high⟩ := covers_iff.mp covered
  obtain ⟨other, memberToo, lowToo, highToo⟩ := covers_iff.mp coveredToo
  have separate := List.all_eq_true.mp (List.all_eq_true.mp apart range member) other memberToo
  simp only [Bool.or_eq_true, decide_eq_true_eq] at separate
  omega

end IdentityCache.Unicode
