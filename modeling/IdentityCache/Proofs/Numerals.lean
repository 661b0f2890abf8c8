import IdentityCache.Seconds

/-!
# Numerals

An integer is spelled by decimal digits, with any number of zeros in front of them and a sign in
front of those (`SignedText`).  The reader of numerals reads exactly these spellings
(`signed?_eq_some_iff`), and among them the numeral that is written for the integer.

A duration is an integer that fits a signed 64-bit word.  `Seconds.ofText?` reads the integer first
and then looks whether it fits.  Reading digit by digit without ever leaving the word comes to the
same (`Seconds.readDigitwise?_eq`), because the digits that are read never make a larger number than
the whole numeral does.
-/

namespace IdentityCache

set_option autoImplicit false

namespace Decimal

/-- One decimal digit or more. -/
def IsDigits (text : List Char) : Prop := text ≠ [] ∧ ∀ c ∈ text, c.isDigit = true

/-- The spellings of an integer: digits, with a sign in front of them or without. -/
inductive SignedText : Int → List Char → Prop
  | plain {digits : List Char} (areDigits : IsDigits digits) :
      SignedText (Nat.ofDigitChars 10 digits 0) digits
  | plus {digits : List Char} (areDigits : IsDigits digits) :
      SignedText (Nat.ofDigitChars 10 digits 0) ('+' :: digits)
  | minus {digits : List Char} (areDigits : IsDigits digits) :
      SignedText (-(Nat.ofDigitChars 10 digits 0 : Int)) ('-' :: digits)

theorem natural?_of_isDigits {text : List Char} (areDigits : IsDigits text) :
    natural? text = some (Nat.ofDigitChars 10 text 0) := by
  obtain ⟨nonempty, digits⟩ := areDigits
  rw [natural?, List.isEmpty_eq_false_iff.mpr nonempty, List.all_eq_true.mpr digits]
  exact if_pos rfl

theorem natural?_eq_some_iff (text : List Char) (n : Nat) :
    natural? text = some n ↔ IsDigits text ∧ Nat.ofDigitChars 10 text 0 = n := by
  constructor
  · intro read
    unfold natural? at read
    split at read
    · rename_i digits
      exact ⟨by simpa [IsDigits] using digits, Option.some.inj read⟩
    · cases read
  · rintro ⟨areDigits, rfl⟩
    exact natural?_of_isDigits areDigits

/-- What follows a minus sign is read without it. -/
theorem signed?_minus (text : List Char) :
    signed? ('-' :: text) = (natural? text).map fun magnitude : Nat => -(magnitude : Int) := by
  rw [signed?]
  cases natural? text <;> rfl

/-- A text that begins with neither sign is read as it stands. -/
theorem signed?_of_ne {text : List Char} (plus : text.head? ≠ some '+')
    (minus : text.head? ≠ some '-') : signed? text = (natural? text).map Int.ofNat := by
  unfold signed?
  split
  · exact absurd rfl plus
  · exact absurd rfl minus
  · rfl

/-- A text has one of the signs, or neither. -/
theorem sign_cases (text : List Char) :
    (∃ rest, text = '+' :: rest) ∨ (∃ rest, text = '-' :: rest) ∨
      text.head? ≠ some '+' ∧ text.head? ≠ some '-' := by
  cases text with
  | nil => exact .inr (.inr ⟨nofun, nofun⟩)
  | cons c rest =>
    by_cases plus : c = '+'
    · exact .inl ⟨rest, by rw [plus]⟩
    · by_cases minus : c = '-'
      · exact .inr (.inl ⟨rest, by rw [minus]⟩)
      · exact .inr (.inr ⟨by simpa using plus, by simpa using minus⟩)

/-- A text that begins with a digit has no sign. -/
theorem IsDigits.noSign {text : List Char} (areDigits : IsDigits text) :
    text.head? ≠ some '+' ∧ text.head? ≠ some '-' := by
  have digit {c : Char} (first : text.head? = some c) : c.isDigit = true :=
    areDigits.2 c (List.mem_of_mem_head? first)
  exact ⟨fun plus => absurd (digit plus) (by decide),
    fun minus => absurd (digit minus) (by decide)⟩

/-- **A text is read as an integer exactly if it spells it.** -/
theorem signed?_eq_some_iff (text : List Char) (n : Int) :
    signed? text = some n ↔ SignedText n text := by
  constructor
  · intro read
    have digitsOf {rest : List Char} {value : Nat → Int}
        (digits : (natural? rest).map value = some n) :
        IsDigits rest ∧ value (Nat.ofDigitChars 10 rest 0) = n := by
      obtain ⟨magnitude, natural, rfl⟩ := Option.map_eq_some_iff.mp digits
      obtain ⟨areDigits, rfl⟩ := (natural?_eq_some_iff _ _).mp natural
      exact ⟨areDigits, rfl⟩
    rcases sign_cases text with ⟨rest, rfl⟩ | ⟨rest, rfl⟩ | ⟨plus, minus⟩
    · obtain ⟨areDigits, rfl⟩ := digitsOf read
      exact .plus areDigits
    · rw [signed?_minus] at read
      obtain ⟨areDigits, rfl⟩ := digitsOf read
      exact .minus areDigits
    · rw [signed?_of_ne plus minus] at read
      obtain ⟨areDigits, rfl⟩ := digitsOf read
      exact .plain areDigits
  · intro spelled
    cases spelled with
    | plain areDigits =>
      rw [signed?_of_ne areDigits.noSign.1 areDigits.noSign.2, natural?_of_isDigits areDigits]
      rfl
    | plus areDigits =>
      rw [signed?, natural?_of_isDigits areDigits]
      rfl
    | minus areDigits =>
      rw [signed?_minus, natural?_of_isDigits areDigits]
      rfl

theorem isDigits_digits (n : Nat) : IsDigits (digits n) :=
  ⟨Nat.toDigits_ne_nil, fun c member =>
    Nat.isDigit_of_mem_toDigits (b := 10) (n := n) (by omega) (by omega) member⟩

/-- A number is read from its digits. -/
theorem below?_digits {n bound : Nat} (fits : n < bound) :
    below? bound (String.ofList (digits n)) = some n := by
  have value : Nat.ofDigitChars 10 (digits n) 0 = n := Nat.ofDigitChars_ten_toDigits
  have read : unsigned? (digits n) = some n := by
    unfold unsigned?
    split
    · rename_i rest signed
      have noSign := (isDigits_digits n).noSign.1
      rw [signed] at noSign
      exact absurd rfl noSign
    · rw [natural?_of_isDigits (isDigits_digits n), value]
  rw [below?, String.toList_ofList, read]
  exact if_pos (decide_eq_true fits)

/-- The numeral of an integer spells it. -/
theorem signedText_numeral (n : Int) : SignedText n (numeral n) := by
  have value : Nat.ofDigitChars 10 (digits n.natAbs) 0 = n.natAbs := Nat.ofDigitChars_ten_toDigits
  unfold numeral
  split
  · have spelled := SignedText.minus (isDigits_digits n.natAbs)
    have same : -(n.natAbs : Int) = n := by omega
    rwa [value, same] at spelled
  · have spelled := SignedText.plain (isDigits_digits n.natAbs)
    have same : (n.natAbs : Int) = n := by omega
    rwa [value, same] at spelled

/-- More digits make no smaller number. -/
theorem le_ofDigitChars (digits : List Char) (sofar : Nat) :
    sofar ≤ Nat.ofDigitChars 10 digits sofar := by
  induction digits generalizing sofar with
  | nil => exact Nat.le_refl _
  | cons c digits ih =>
    rw [Nat.ofDigitChars_cons]
    have grown := ih (10 * sofar + (c.toNat - '0'.toNat))
    omega

end Decimal

namespace Seconds

open Decimal

theorem ofInt?_eq_some_iff (n : Int) (seconds : Seconds) :
    ofInt? n = some seconds ↔ seconds.toInt = n := by
  unfold ofInt?
  constructor
  · intro fits
    split at fits
    · cases fits
      rfl
    · cases fits
  · rintro rfl
    exact dif_pos seconds.inRange

/-- **A text is read as a duration exactly if it spells one**, an integer within the word. -/
theorem ofText?_eq_some_iff (text : String) (seconds : Seconds) :
    ofText? text = some seconds ↔ SignedText seconds.toInt text.toList := by
  unfold ofText?
  simp only [Option.bind_eq_some_iff, signed?_eq_some_iff, ofInt?_eq_some_iff]
  constructor
  · rintro ⟨n, spelled, rfl⟩
    exact spelled
  · intro spelled
    exact ⟨_, spelled, rfl⟩

/-- The numeral of a lifetime is read as this lifetime. -/
theorem ofText?_numeral (seconds : Seconds) :
    ofText? (String.ofList (numeral seconds.toInt)) = some seconds := by
  rw [ofText?_eq_some_iff, String.toList_ofList]
  exact signedText_numeral seconds.toInt

/-! ## Digit by digit -/

/-- A number with a sign. -/
def signed (negative : Bool) (magnitude : Nat) : Int :=
  if negative then -(magnitude : Int) else magnitude

/-- Takes one more digit into a number of the given sign.  The tenfold of the number and its sum
with the digit both have to fit. -/
def takeDigit? (negative : Bool) (sofar : Seconds) (c : Char) : Option Seconds :=
  if c.isDigit then
    (ofInt? (10 * sofar.toInt)).bind fun tenfold =>
      ofInt? (tenfold.toInt + signed negative (c.toNat - '0'.toNat))
  else none

/-- Takes digits, at least one. -/
def takeDigits? (negative : Bool) (digits : List Char) : Option Seconds :=
  if digits.isEmpty then none else digits.foldlM (takeDigit? negative) zero

/-- Reads a numeral digit by digit without ever leaving the word. -/
def readDigitwise? : List Char → Option Seconds
  | '+' :: digits => takeDigits? false digits
  | '-' :: digits => takeDigits? true digits
  | digits => takeDigits? false digits

/-- What does not fit does not fit with further digits. -/
theorem ofInt?_signed_eq_none {negative : Bool} {magnitude larger : Nat}
    (unfit : ofInt? (signed negative magnitude) = none) (le : magnitude ≤ larger) :
    ofInt? (signed negative larger) = none := by
  unfold ofInt? at unfit ⊢
  split at unfit
  · cases unfit
  · rename_i outOfRange
    refine dif_neg fun inRange => outOfRange ?_
    unfold signed at inRange ⊢
    cases negative with
    | true => simp only [if_true] at inRange ⊢; omega
    | false => simp only [Bool.false_eq_true, if_false] at inRange ⊢; omega

/-- **Digits that are taken one by one fit exactly if the number that they make does.** -/
theorem foldlM_takeDigit? (negative : Bool) (digits : List Char) {sofar : Seconds}
    {magnitude : Nat} (value : sofar.toInt = signed negative magnitude) :
    digits.foldlM (takeDigit? negative) sofar =
      if digits.all Char.isDigit then
        ofInt? (signed negative (Nat.ofDigitChars 10 digits magnitude))
      else none := by
  induction digits generalizing sofar magnitude with
  | nil => exact ((ofInt?_eq_some_iff _ _).mpr value).symm
  | cons c digits ih =>
    rw [List.foldlM_cons, Nat.ofDigitChars_cons, List.all_cons, takeDigit?]
    cases isDigit : c.isDigit with
    | false => rfl
    | true =>
      have tenfold : 10 * sofar.toInt = signed negative (10 * magnitude) := by
        rw [value]
        unfold signed
        split <;> omega
      have sum : signed negative (10 * magnitude) + signed negative (c.toNat - '0'.toNat) =
          signed negative (10 * magnitude + (c.toNat - '0'.toNat)) := by
        unfold signed
        split <;> omega
      rw [tenfold, if_pos rfl, Bool.true_and]
      -- If an intermediate number does not fit, the whole one does not fit either.
      cases first : ofInt? (signed negative (10 * magnitude)) with
      | none =>
        have grows := Nat.le_trans (Nat.le_add_right (10 * magnitude) (c.toNat - '0'.toNat))
          (le_ofDigitChars digits _)
        rw [ofInt?_signed_eq_none first grows, ite_self]
        rfl
      | some product =>
        rw [Option.bind_some, (ofInt?_eq_some_iff _ _).mp first, sum]
        cases second : ofInt? (signed negative (10 * magnitude + (c.toNat - '0'.toNat))) with
        | none =>
          rw [ofInt?_signed_eq_none second (le_ofDigitChars digits _), ite_self]
          rfl
        | some next => exact ih ((ofInt?_eq_some_iff _ _).mp second)

theorem takeDigits?_eq (negative : Bool) (digits : List Char) :
    takeDigits? negative digits = (natural? digits).bind fun magnitude =>
      ofInt? (signed negative magnitude) := by
  have start : zero.toInt = signed negative 0 := by cases negative <;> rfl
  unfold takeDigits? natural?
  rw [foldlM_takeDigit? negative digits start]
  cases digits.isEmpty with
  | true => rfl
  | false => cases digits.all Char.isDigit <;> rfl

/-- **Reading digit by digit within the word comes to reading the integer first.** -/
theorem readDigitwise?_eq (text : List Char) :
    readDigitwise? text = (signed? text).bind ofInt? := by
  have bound (rest : List Char) (value : Nat → Int) :
      ((natural? rest).map value).bind ofInt? =
        (natural? rest).bind fun magnitude => ofInt? (value magnitude) := by
    cases natural? rest <;> rfl
  rcases sign_cases text with ⟨rest, rfl⟩ | ⟨rest, rfl⟩ | ⟨plus, minus⟩
  · exact (takeDigits?_eq false rest).trans (bound rest Int.ofNat).symm
  · rw [signed?_minus, bound]
    exact takeDigits?_eq true rest
  · rw [signed?_of_ne plus minus, bound]
    unfold readDigitwise?
    split
    · exact absurd rfl plus
    · exact absurd rfl minus
    · exact takeDigits?_eq false text

end Seconds

end IdentityCache
