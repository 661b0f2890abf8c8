import IdentityCache.Unicode.CodeRanges

/-!
# White space

The characters with the property White_Space: blanks of every width, tabs and the
characters that end a line.  The blanks of ASCII are among them
(`isWhiteSpace_of_isWhitespace`).
-/

namespace IdentityCache.Unicode

set_option autoImplicit false

/-- The code points with the property White_Space. -/
def whiteSpaceRanges : CodeRanges := [
  (0x0009, 0x000D), (0x0020, 0x0020), (0x0085, 0x0085), (0x00A0, 0x00A0), (0x1680, 0x1680),
  (0x2000, 0x200A), (0x2028, 0x2029), (0x202F, 0x202F), (0x205F, 0x205F), (0x3000, 0x3000)]

/-- Whether a character is white space. -/
def isWhiteSpace (c : Char) : Bool := whiteSpaceRanges.covers c

/-- Blanks, tabs and line ends of ASCII are white space. -/
theorem isWhiteSpace_of_isWhitespace {c : Char} (blank : c.isWhitespace = true) :
    isWhiteSpace c = true := by
  simp only [Char.isWhitespace, Bool.or_eq_true, decide_eq_true_eq] at blank
  rcases blank with ((rfl | rfl) | rfl) | rfl <;> decide

end IdentityCache.Unicode
