import IdentityCache.Decimal
import IdentityCache.Unicode.Alphanumeric
import IdentityCache.Unicode.WhiteSpace

/-!
# Log filters

A log filter is a list of directives separated by commas, and empty ones do not
count.  A directive names a level, or a target, or a span in brackets, possibly with
a field in braces, and then the level that applies there, as in `info`, `store=debug`
and `[request]=trace`.  Levels are words in either case or numbers up to five; an empty
level is the most verbose one.  Only the form of a filter is checked here.

The parts of a directive are located in its text without the white space around it,
but they are cut out of the whole text, at the same byte positions.  White space in
front of a directive therefore shifts its parts.  A level is then never a level, and a
part that would begin or end within a character cannot be cut out at all
(`FilterVerdict.uncuttable`).
-/

namespace IdentityCache.CommandLine

set_option autoImplicit false

/-! ## Levels -/

/-- The words for levels. -/
def levelWords : List String := ["off", "error", "warn", "info", "debug", "trace"]

/-- Whether a text names a level. -/
def isLevel (text : List Char) : Bool :=
  text.isEmpty || levelWords.contains (String.ofList (text.map Char.toLower)) ||
    ((Decimal.unsigned? text).any (· ≤ 5))

/-! ## Byte positions -/

/-- The number of bytes of a text. -/
def byteLength : List Char → Nat
  | [] => 0
  | c :: text => c.utf8Size + byteLength text

/-- Whether a byte position lies between two characters of a text, or at one of its ends. -/
def isBoundary : List Char → Nat → Bool
  | _, 0 => true
  | [], _ + 1 => false
  | c :: text, position => c.utf8Size ≤ position && isBoundary text (position - c.utf8Size)

/-- Both ends of a text are boundaries. -/
theorem isBoundary_byteLength (text : List Char) : isBoundary text (byteLength text) = true := by
  induction text with
  | nil => rfl
  | cons c text ih =>
    have positive := c.utf8Size_pos
    unfold isBoundary
    split
    · rfl
    · simp_all
    · rename_i equal _ _
      simp_all [byteLength]

/-- Text in front of a text shifts its boundaries. -/
theorem isBoundary_append (front text : List Char) (position : Nat) :
    isBoundary (front ++ text) (byteLength front + position) = isBoundary text position := by
  induction front with
  | nil => simp [byteLength]
  | cons c front ih =>
    have positive := c.utf8Size_pos
    have rest : byteLength (c :: front) + position - c.utf8Size = byteLength front + position := by
      simp only [byteLength]
      omega
    have long : c.utf8Size ≤ byteLength (c :: front) + position := by
      simp only [byteLength]
      omega
    rw [List.cons_append, isBoundary, rest, ih]
    · simp [long]
    · intro atStart
      omega

/-! ## Directives -/

/-- The form of a directive. -/
structure DirectiveForm where
  /-- The byte positions at which parts are cut out, in the order of the cuts. -/
  cuts : List Nat := []
  wellFormed : Bool
  deriving DecidableEq, Repr

/-- The form of a directive that is cut at further positions first. -/
def DirectiveForm.afterCuts (form : DirectiveForm) (cuts : List Nat) : DirectiveForm :=
  { form with cuts := cuts ++ form.cuts }

/-- What may follow a target or a span at the given position: nothing, or the level that applies.
A directive with white space around it can have no level. -/
def levelForm (spaced : Bool) (position : Nat) : List Char → DirectiveForm
  | [] => { wellFormed := true }
  | c :: level =>
    if c = '=' then { cuts := [position + 1], wellFormed := !spaced && isLevel level }
    else { wellFormed := false }

/-- The rest of a directive after an opening brace: a field, and the end of the span. -/
def fieldForm (spaced : Bool) (position : Nat) (text : List Char) : DirectiveForm :=
  let field := text.takeWhile (· ≠ '\x7d')
  let ending := position + byteLength field
  match text.drop field.length with
  | [] => { wellFormed := false }
  | _ :: rest =>
    match rest with
    | ']' :: rest =>
      if field.isEmpty then { cuts := [position, ending], wellFormed := false }
      else (levelForm spaced (ending + 2) rest).afterCuts [position, ending]
    | _ => { cuts := [position, ending], wellFormed := false }

/-- The rest of a directive after an opening bracket: a span. -/
def spanForm (spaced : Bool) (position : Nat) (text : List Char) : DirectiveForm :=
  let span := text.takeWhile fun c => c ≠ ']' && c ≠ '\x7b'
  let ending := position + byteLength span
  match text.drop span.length with
  | [] => { wellFormed := false }
  | ']' :: rest => (levelForm spaced (ending + 1) rest).afterCuts [position, ending]
  | _ :: rest => (fieldForm spaced (ending + 1) rest).afterCuts [position, ending]

/-- Whether a directive may begin with a character, other than the bracket of a span. -/
def beginsDirective (c : Char) : Bool :=
  c = '-' || c = ':' || c = '_' || Unicode.isAlphanumeric c

/-- The form of a directive that is given without the white space around it. -/
def directiveForm (spaced : Bool) (text : List Char) : DirectiveForm :=
  match text with
  | [] => { wellFormed := false }
  | '[' :: rest => spanForm spaced 1 rest
  | c :: _ =>
    if beginsDirective c then
      let target := text.takeWhile fun c => c ≠ '=' && c ≠ '['
      let ending := byteLength target
      match text.drop target.length with
      | [] => { wellFormed := true }
      | '[' :: rest => (spanForm spaced (ending + 1) rest).afterCuts [ending]
      | rest => (levelForm spaced ending rest).afterCuts [ending]
    else { wellFormed := false }

/-! ## Filters -/

/-- What becomes of a log filter. -/
inductive FilterVerdict
  | accepted
  | refused
  /-- A part of it would have to be cut out within a character. -/
  | uncuttable
  deriving DecidableEq, Repr

/-- A text without the white space around it. -/
def trimmed (text : List Char) : List Char :=
  ((text.dropWhile Unicode.isWhiteSpace).reverse.dropWhile Unicode.isWhiteSpace).reverse

/-- What becomes of a directive. -/
def directiveVerdict (text : List Char) : FilterVerdict :=
  let form := directiveForm (trimmed text ≠ text) (trimmed text)
  if !form.cuts.all (isBoundary text) then .uncuttable
  else if form.wellFormed then .accepted
  else .refused

/-- What becomes of a log filter: the first directive that is not accepted decides. -/
def filterVerdict (text : String) : FilterVerdict :=
  let directives := (text.toList.splitOn ',').filter (!·.isEmpty)
  ((directives.map directiveVerdict).find? (· ≠ .accepted)).getD .accepted

end IdentityCache.CommandLine
