import IdentityCache.Json.Snapshot

/-!
# The grammar of JSON texts

The grammar says which character lists spell a value, without regard to how they are read: a
character has several spellings within the quotes of a string, a pair of surrogates among them,
and blanks may stand around the names and the values of an object.  Numbers are spelled here as
integers only, and an object is spelled for any way to spell the values of its members.

The writers keep to the grammar: `stringText_quote` for strings, `integerText_numeral` for
numerals and `objectText_object` for objects.  So a table is written as an object whose members
are its rows in order, each with the four members of its entry (`objectText_snapshotText`).
-/

namespace IdentityCache.Json

set_option autoImplicit false

/-! ## Strings -/

/-- Four hexadecimal digits and the number that they make. -/
inductive HexText : Nat → List Char → Prop
  | group {a b c d : Char} {w x y z : Nat} (first : hexValue? a = some w)
      (second : hexValue? b = some x) (third : hexValue? c = some y)
      (fourth : hexValue? d = some z) :
      HexText (16 * (16 * (16 * w + x) + y) + z) [a, b, c, d]

/-- The spellings of a character between the quotes of a string. -/
inductive CharacterText : Char → List Char → Prop
  | plain {c : Char} (printable : 0x20 ≤ c.toNat) (notQuote : c ≠ '"') (notBackslash : c ≠ '\\') :
      CharacterText c [c]
  | letter {letter c : Char} (meant : escapedCharacter? letter = some c) :
      CharacterText c ['\\', letter]
  | unit {unit : Nat} {group : List Char} (digits : HexText unit group)
      (notLeading : isLeading unit = false) (notTrailing : isTrailing unit = false) :
      CharacterText (Char.ofNat unit) ('\\' :: 'u' :: group)
  | pair {leading trailing : Nat} {group other : List Char} (digits : HexText leading group)
      (leads : isLeading leading = true) (others : HexText trailing other)
      (trails : isTrailing trailing = true) :
      CharacterText (Char.ofNat (0x10000 + (leading - 0xD800) * 0x400 + (trailing - 0xDC00)))
        ('\\' :: 'u' :: group ++ '\\' :: 'u' :: other)

/-- The spellings of characters one after the other. -/
inductive CharactersText : List Char → List Char → Prop
  | nil : CharactersText [] []
  | cons {c : Char} {chars spelling others : List Char} (first : CharacterText c spelling)
      (rest : CharactersText chars others) : CharactersText (c :: chars) (spelling ++ others)

/-- The spellings of a text as a string. -/
inductive StringText : String → List Char → Prop
  | quoted {text : String} {spelling : List Char} (inside : CharactersText text.toList spelling) :
      StringText text ('"' :: spelling ++ ['"'])

theorem hexValue?_hexDigit {n : Nat} (small : n < 16) : hexValue? (hexDigit n) = some n := by
  have every : ∀ n < 16, hexValue? (hexDigit n) = some n := by decide
  exact every n small

/-- A control character is the code unit that its four digits make. -/
theorem characterText_control {c : Char} (control : c.toNat < 0x20) :
    CharacterText c ['\\', 'u', '0', '0', hexDigit (c.toNat / 16), hexDigit (c.toNat % 16)] := by
  have zero : hexValue? '0' = some 0 := rfl
  have digits : HexText (16 * (16 * (16 * 0 + 0) + c.toNat / 16) + c.toNat % 16)
      ['0', '0', hexDigit (c.toNat / 16), hexDigit (c.toNat % 16)] :=
    .group zero zero (hexValue?_hexDigit (by omega)) (hexValue?_hexDigit (by omega))
  have number : 16 * (16 * (16 * 0 + 0) + c.toNat / 16) + c.toNat % 16 = c.toNat := by omega
  rw [number] at digits
  have notLeading : isLeading c.toNat = false := by simp [isLeading]; omega
  have notTrailing : isTrailing c.toNat = false := by simp [isTrailing]; omega
  have spelled := CharacterText.unit digits notLeading notTrailing
  rwa [Char.ofNat_toNat] at spelled

theorem characterText_escape (c : Char) : CharacterText c (escape c) := by
  have lettered {letter meant : Char} (same : c = meant)
      (means : escapedCharacter? letter = some meant) : CharacterText c ['\\', letter] :=
    same ▸ .letter means
  unfold escape
  split
  case isTrue quote => exact lettered quote rfl
  split
  case isTrue backslash => exact lettered backslash rfl
  split
  case isTrue backspace => exact lettered backspace rfl
  split
  case isTrue formFeed => exact lettered formFeed rfl
  split
  case isTrue lineFeed => exact lettered lineFeed rfl
  split
  case isTrue carriageReturn => exact lettered carriageReturn rfl
  split
  case isTrue tab => exact lettered tab rfl
  split
  case isTrue control => exact characterText_control control
  case isFalse notQuote notBackslash _ _ _ _ _ notControl =>
    exact .plain (Nat.le_of_not_lt notControl) notQuote notBackslash

theorem charactersText_escape (chars : List Char) :
    CharactersText chars (chars.flatMap escape) := by
  induction chars with
  | nil => exact .nil
  | cons c chars ih => exact .cons (characterText_escape c) ih

/-- **Any text is written as a string that spells it**, with quotes, backslashes and control
characters. -/
theorem stringText_quote (text : String) : StringText text (quote text) :=
  .quoted (charactersText_escape text.toList)

/-! ## Integers -/

/-- Digits without superfluous zeros in front. -/
inductive WholeText : List Char → Prop
  | zero : WholeText ['0']
  | digits {first : Char} {rest : List Char} (isDigit : first.isDigit = true)
      (notZero : first ≠ '0') (areDigits : ∀ c ∈ rest, c.isDigit = true) :
      WholeText (first :: rest)

/-- The numeral of an integer.  A zero has no sign. -/
inductive IntegerText : Int → List Char → Prop
  | natural {digits : List Char} (whole : WholeText digits) :
      IntegerText (Nat.ofDigitChars 10 digits 0) digits
  | negative {digits : List Char} (whole : WholeText digits)
      (notZero : Nat.ofDigitChars 10 digits 0 ≠ 0) :
      IntegerText (-(Nat.ofDigitChars 10 digits 0 : Int)) ('-' :: digits)

/-- The digits of a positive number do not begin with a zero. -/
theorem toDigits_eq_cons {n : Nat} (positive : 0 < n) :
    ∃ first rest, Nat.toDigits 10 n = first :: rest ∧ first ≠ '0' := by
  induction n using Nat.strongRecOn with
  | ind n ih =>
    by_cases small : n < 10
    · have notZero : ∀ n < 10, 0 < n → Nat.digitChar n ≠ '0' := by decide
      exact ⟨n.digitChar, [], Nat.toDigits_of_lt_base small, notZero n small positive⟩
    · obtain ⟨first, rest, digits, notZero⟩ := ih (n / 10) (by omega) (by omega)
      refine ⟨first, rest ++ [(n % 10).digitChar], ?_, notZero⟩
      rw [Nat.toDigits_of_base_le (by omega) (Nat.le_of_not_lt small), digits, List.cons_append]

theorem wholeText_digits (n : Nat) : WholeText (Decimal.digits n) := by
  unfold Decimal.digits
  rcases Nat.eq_zero_or_pos n with zero | positive
  · rw [zero, Nat.toDigits_zero]
    exact .zero
  · obtain ⟨first, rest, digits, notZero⟩ := toDigits_eq_cons positive
    have areDigits : ∀ c ∈ first :: rest, c.isDigit = true := fun c member =>
      Nat.isDigit_of_mem_toDigits (b := 10) (n := n) (by omega) (by omega) (digits ▸ member)
    rw [digits]
    exact .digits (areDigits first List.mem_cons_self) notZero
      fun c member => areDigits c (List.mem_cons_of_mem _ member)

theorem integerText_numeral (n : Int) : IntegerText n (Decimal.numeral n) := by
  have value : Nat.ofDigitChars 10 (Decimal.digits n.natAbs) 0 = n.natAbs :=
    Nat.ofDigitChars_ten_toDigits
  unfold Decimal.numeral
  split
  · rename_i negative
    have spelled := IntegerText.negative (wholeText_digits n.natAbs) (by rw [value]; omega)
    rw [value] at spelled
    have same : -(n.natAbs : Int) = n := by omega
    rwa [same] at spelled
  · rename_i notNegative
    have spelled := IntegerText.natural (wholeText_digits n.natAbs)
    rw [value] at spelled
    have same : (n.natAbs : Int) = n := by omega
    rwa [same] at spelled

/-! ## Scalars and objects -/

/-- The spellings of scalars, of the numbers those of integers. -/
inductive ScalarText : Scalar → List Char → Prop
  | text {value : String} {spelling : List Char} (spelled : StringText value spelling) :
      ScalarText (.text value) spelling
  | truth (value : Bool) : ScalarText (.truth value) (truth value)
  | null : ScalarText .null ['n', 'u', 'l', 'l']
  | integer {value : Int} {spelling : List Char} (spelled : IntegerText value spelling) :
      ScalarText (.integer value) spelling

/-- Characters that may stand between tokens. -/
def Blanks (spelling : List Char) : Prop := ∀ c ∈ spelling, isBlank c = true

section Objects

variable {α : Type}

/-- The spellings of a member with the blanks around its name and its value. -/
inductive MemberText (valueText : α → List Char → Prop) : String × α → List Char → Prop
  | member {name : String} {value : α}
      {before nameSpelling after next valueSpelling last : List Char}
      (blanks : Blanks before ∧ Blanks after ∧ Blanks next ∧ Blanks last)
      (named : StringText name nameSpelling) (spelled : valueText value valueSpelling) :
      MemberText valueText (name, value)
        (before ++ nameSpelling ++ after ++ ':' :: next ++ valueSpelling ++ last)

/-- The spellings of one member or more with commas between them. -/
inductive MembersText (valueText : α → List Char → Prop) :
    List (String × α) → List Char → Prop
  | last {member : String × α} {spelling : List Char}
      (spelled : MemberText valueText member spelling) : MembersText valueText [member] spelling
  | more {member : String × α} {members : List (String × α)} {spelling others : List Char}
      (spelled : MemberText valueText member spelling)
      (rest : MembersText valueText members others) :
      MembersText valueText (member :: members) (spelling ++ ',' :: others)

/-- The spellings of an object with the given members in this order. -/
inductive ObjectText (valueText : α → List Char → Prop) :
    List (String × α) → List Char → Prop
  | empty {blanks : List Char} (areBlanks : Blanks blanks) :
      ObjectText valueText [] ('\x7b' :: blanks ++ ['\x7d'])
  | members {members : List (String × α)} {spelling : List Char}
      (spelled : MembersText valueText members spelling) :
      ObjectText valueText members ('\x7b' :: spelling ++ ['\x7d'])

variable {valueText : α → List Char → Prop}

theorem memberText_member (name : String) {value : α} {spelling : List Char}
    (spelled : valueText value spelling) :
    MemberText valueText (name, value) (member name spelling) := by
  have none : Blanks [] := List.forall_mem_nil _
  have compact := MemberText.member ⟨none, none, none, none⟩ (stringText_quote name) spelled
  simpa [member] using compact

variable {β : Type} {members : β → String × α} {texts : β → List Char}

theorem membersText_intersperse (item : β) (items : List β)
    (spelled : ∀ item, MemberText valueText (members item) (texts item)) :
    MembersText valueText ((item :: items).map members)
      ((((item :: items).map texts).intersperse [',']).flatten) := by
  induction items generalizing item with
  | nil => simpa using MembersText.last (spelled item)
  | cons next items ih => simpa using MembersText.more (spelled item) (ih next)

/-- **Members that are spelled one by one make up an object.** -/
theorem objectText_object (items : List β)
    (spelled : ∀ item, MemberText valueText (members item) (texts item)) :
    ObjectText valueText (items.map members) (object (items.map texts)) := by
  cases items with
  | nil => exact .empty (List.forall_mem_nil _)
  | cons item items => exact .members (membersText_intersperse item items spelled)

end Objects

/-! ## Entries and snapshots -/

/-- The members of an entry. -/
def entryMembers (entry : Entry) : List (String × Scalar) := [
  ("RoleARN", .text entry.roleArn),
  ("Audience", .text entry.audience),
  ("UseRegionalSTS", .truth entry.useRegionalSts),
  ("TokenExpiration", .integer entry.tokenExpiration.toInt)]

/-- The spellings of an entry as an object with all its members. -/
def EntryText (entry : Entry) : List Char → Prop := ObjectText ScalarText (entryMembers entry)

/-- The scalar that is the value of a field. -/
def fieldScalar (entry : Entry) : Field → Scalar
  | .roleArn => .text entry.roleArn
  | .audience => .text entry.audience
  | .useRegionalSts => .truth entry.useRegionalSts
  | .tokenExpiration => .integer entry.tokenExpiration.toInt

theorem scalarText_fieldText (entry : Entry) (field : Field) :
    ScalarText (fieldScalar entry field) (fieldText entry field) := by
  cases field with
  | roleArn => exact .text (stringText_quote entry.roleArn)
  | audience => exact .text (stringText_quote entry.audience)
  | useRegionalSts => exact .truth entry.useRegionalSts
  | tokenExpiration => exact .integer (integerText_numeral entry.tokenExpiration.toInt)

theorem entryText_entryText (entry : Entry) : EntryText entry (entryText entry) := by
  have spelled : ∀ field : Field, MemberText ScalarText (field.name, fieldScalar entry field)
      (member field.name (fieldText entry field)) := fun field =>
    memberText_member field.name (scalarText_fieldText entry field)
  exact objectText_object Field.all spelled

/-- **A table is written as an object of its rows.** -/
theorem objectText_snapshotText (table : Table Entry) :
    ObjectText EntryText (table.rows.map fun row => (row.1.text, row.2)) (snapshotText table) :=
  objectText_object table.rows fun row => memberText_member row.1.text (entryText_entryText row.2)

end IdentityCache.Json
