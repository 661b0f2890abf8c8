import IdentityCache.Proofs.JsonGrammar
import IdentityCache.Proofs.Numerals

/-!
# The grammar of all JSON values

`JsonText` says which character lists spell a value of any kind, with any blanks around its parts
and nested to any depth.  A piece of text may be a value, a value with the blanks around it, or a
part of an array or an object, and one inductive relation covers all of them.

The grammar asks of a string only that every character between its quotes is printable or escaped
in a known way.  Two code units that are surrogates need not pair up; a string in which they do not
is JSON, but there is no text that it spells (`Value.unpaired`), and a member whose name is such a
string has no name.  A number with a fraction or an exponent is told apart from an integer, and so
is a zero with a sign.
-/

namespace IdentityCache.Json

set_option autoImplicit false

/-! ## Strings that need not spell a text -/

/-- What may stand between the quotes of a string: characters, escapes and single code units. -/
inductive LooseText : List Char → Prop
  | nil : LooseText []
  | plain {c : Char} {spelling : List Char} (printable : 0x20 ≤ c.toNat) (notQuote : c ≠ '"')
      (notBackslash : c ≠ '\\') (rest : LooseText spelling) : LooseText (c :: spelling)
  | letter {letter c : Char} {spelling : List Char} (meant : escapedCharacter? letter = some c)
      (rest : LooseText spelling) : LooseText ('\\' :: letter :: spelling)
  | unit {unit : Nat} {group spelling : List Char} (digits : HexText unit group)
      (rest : LooseText spelling) : LooseText ('\\' :: 'u' :: (group ++ spelling))

/-- A string that spells no text, since some surrogate in it has no partner. -/
inductive UnpairedText : List Char → Prop
  | quoted {inside : List Char} (loose : LooseText inside)
      (noText : ∀ chars, ¬ CharactersText chars inside) : UnpairedText ('"' :: inside ++ ['"'])

/-- Each spelling of a character is a run of characters, escapes and code units. -/
theorem CharacterText.loose {c : Char} {spelling rest : List Char}
    (spelled : CharacterText c spelling) (loose : LooseText rest) :
    LooseText (spelling ++ rest) := by
  cases spelled with
  | plain printable notQuote notBackslash => exact .plain printable notQuote notBackslash loose
  | letter meant => exact .letter meant loose
  | unit digits _ _ => exact .unit digits loose
  | pair digits _ others _ =>
    rw [List.append_assoc]
    exact .unit digits (.unit others loose)

theorem CharactersText.loose {chars spelling : List Char}
    (spelled : CharactersText chars spelling) : LooseText spelling := by
  induction spelled with
  | nil => exact .nil
  | cons first _ ih => exact first.loose ih

/-! ## Numbers that are no integers -/

/-- Only a single zero spells zero. -/
theorem WholeText.eq_zero {digits : List Char} (whole : WholeText digits)
    (zero : Nat.ofDigitChars 10 digits 0 = 0) : digits = ['0'] := by
  cases whole with
  | zero => rfl
  | @digits first rest isDigit notZero _ =>
    have least := Decimal.le_ofDigitChars rest (10 * 0 + (first.toNat - '0'.toNat))
    rw [Nat.ofDigitChars_cons] at zero
    have small : first.toNat ≤ '0'.toNat := by omega
    have same : first = '0' := by
      have bounds := isDigit
      rw [Char.isDigit_iff_toNat] at bounds
      exact Char.toNat_inj.mp (Nat.le_antisymm small bounds.1)
    exact absurd same notZero

/-- The sign of a number. -/
inductive SignText : List Char → Prop
  | absent : SignText []
  | minus : SignText ['-']

/-- The fraction of a number, or nothing. -/
inductive FractionText : List Char → Prop
  | absent : FractionText []
  | present {digits : List Char} (areDigits : Decimal.IsDigits digits) :
      FractionText ('.' :: digits)

/-- The exponent of a number, or nothing. -/
inductive ExponentText : List Char → Prop
  | absent : ExponentText []
  | bare {letter : Char} {digits : List Char} (isLetter : letter = 'e' ∨ letter = 'E')
      (areDigits : Decimal.IsDigits digits) : ExponentText (letter :: digits)
  | signed {letter sign : Char} {digits : List Char} (isLetter : letter = 'e' ∨ letter = 'E')
      (isSign : sign = '+' ∨ sign = '-') (areDigits : Decimal.IsDigits digits) :
      ExponentText (letter :: sign :: digits)

/-- A number that is no integer: a zero with a sign, or one with a fraction, an exponent or both. -/
inductive FractionalText : List Char → Prop
  | negativeZero : FractionalText ['-', '0']
  | number {sign whole fraction exponent : List Char} (signed : SignText sign)
      (isWhole : WholeText whole) (isFraction : FractionText fraction)
      (isExponent : ExponentText exponent) (notInteger : fraction ++ exponent ≠ []) :
      FractionalText (sign ++ (whole ++ (fraction ++ exponent)))

/-- **Every number is an integer or it is none**, whichever of its parts it has. -/
theorem integer_or_fractional {sign whole fraction exponent : List Char} (signed : SignText sign)
    (isWhole : WholeText whole) (isFraction : FractionText fraction)
    (isExponent : ExponentText exponent) :
    (∃ n, IntegerText n (sign ++ (whole ++ (fraction ++ exponent)))) ∨
      FractionalText (sign ++ (whole ++ (fraction ++ exponent))) := by
  by_cases more : fraction ++ exponent = []
  · rw [more, List.append_nil]
    cases signed with
    | absent => exact .inl ⟨_, .natural isWhole⟩
    | minus =>
      by_cases zero : Nat.ofDigitChars 10 whole 0 = 0
      · rw [isWhole.eq_zero zero]
        exact .inr .negativeZero
      · exact .inl ⟨_, .negative isWhole zero⟩
  · exact .inr (.number signed isWhole isFraction isExponent more)

/-! ## Values -/

/-- A JSON value.  A member has no name if its name spells no text. -/
inductive Value
  | scalar (value : Scalar)
  /-- A string that spells no text. -/
  | unpaired
  | array (items : List Value)
  | object (members : List (Option String × Value))

/-- What a piece of JSON text stands for. -/
inductive Piece
  | value (value : Value)
  /-- A value with the blanks around it. -/
  | element (value : Value)
  | items (items : List Value)
  | member (member : Option String × Value)
  | members (members : List (Option String × Value))

/-- The spellings of the name of a member. -/
inductive NameText : Option String → List Char → Prop
  | text {name : String} {spelling : List Char} (spelled : StringText name spelling) :
      NameText (some name) spelling
  | unpaired {spelling : List Char} (spelled : UnpairedText spelling) : NameText none spelling

/-- The spellings of JSON values and of the parts that they are made of. -/
inductive JsonText : Piece → List Char → Prop
  | scalar {value : Scalar} {spelling : List Char} (spelled : ScalarText value spelling) :
      JsonText (.value (.scalar value)) spelling
  | fractional {spelling : List Char} (spelled : FractionalText spelling) :
      JsonText (.value (.scalar .fractional)) spelling
  | unpaired {spelling : List Char} (spelled : UnpairedText spelling) :
      JsonText (.value .unpaired) spelling
  | emptyArray {blanks : List Char} (areBlanks : Blanks blanks) :
      JsonText (.value (.array [])) ('[' :: (blanks ++ [']']))
  | array {items : List Value} {spelling : List Char} (spelled : JsonText (.items items) spelling) :
      JsonText (.value (.array items)) ('[' :: (spelling ++ [']']))
  | emptyObject {blanks : List Char} (areBlanks : Blanks blanks) :
      JsonText (.value (.object [])) ('\x7b' :: (blanks ++ ['\x7d']))
  | object {members : List (Option String × Value)} {spelling : List Char}
      (spelled : JsonText (.members members) spelling) :
      JsonText (.value (.object members)) ('\x7b' :: (spelling ++ ['\x7d']))
  | element {value : Value} {before spelling after : List Char}
      (blanks : Blanks before ∧ Blanks after) (spelled : JsonText (.value value) spelling) :
      JsonText (.element value) (before ++ (spelling ++ after))
  | lastItem {item : Value} {spelling : List Char} (spelled : JsonText (.element item) spelling) :
      JsonText (.items [item]) spelling
  | moreItems {item : Value} {items : List Value} {spelling others : List Char}
      (spelled : JsonText (.element item) spelling) (rest : JsonText (.items items) others) :
      JsonText (.items (item :: items)) (spelling ++ ',' :: others)
  | member {name : Option String} {value : Value} {before nameSpelling after spelling : List Char}
      (blanks : Blanks before ∧ Blanks after) (named : NameText name nameSpelling)
      (spelled : JsonText (.element value) spelling) :
      JsonText (.member (name, value)) (before ++ (nameSpelling ++ (after ++ ':' :: spelling)))
  | lastMember {member : Option String × Value} {spelling : List Char}
      (spelled : JsonText (.member member) spelling) : JsonText (.members [member]) spelling
  | moreMembers {member : Option String × Value} {members : List (Option String × Value)}
      {spelling others : List Char} (spelled : JsonText (.member member) spelling)
      (rest : JsonText (.members members) others) :
      JsonText (.members (member :: members)) (spelling ++ ',' :: others)

end IdentityCache.Json
