import IdentityCache.Proofs.NumberReading

/-!
# Scalars are read as they are spelled

A scan reads what is left of a token if the token ends there with its value: a string with its
closing quote, a number before any character that ends a number (`StringScan.Reads`,
`ScalarScan.Reads`).  Both relations follow the text, so a machine that keeps a scan within its
state follows the same text to the same end.

Every spelling of a text is read as this text (`StringText.reads`), with surrogate pairs put
together.  Every spelling of a scalar is read as this scalar, if an integer fits an unsigned
64-bit word: then its digits are all kept, and it cannot be too large for a double
(`ScalarText.reads`).
-/

namespace IdentityCache.Json

set_option autoImplicit false

/-! ## Strings -/

/-- The rest of a string literal, with its closing quote, is read and gives the text. -/
inductive StringScan.Reads (text : String) : StringScan → List Char → Prop
  | closed {scan : StringScan} {c : Char} (step : scan.step c = .ok (.inr text)) :
      Reads text scan [c]
  | more {scan next : StringScan} {c : Char} {rest : List Char}
      (step : scan.step c = .ok (.inl next)) (later : Reads text next rest) :
      Reads text scan (c :: rest)

theorem utf8Size_of_hexValue? {c : Char} {n : Nat} (digit : hexValue? c = some n) :
    c.utf8Size = 1 := by
  have ascii : c.val ≤ 127 := by
    unfold hexValue? at digit
    simp only [Char.le_def, UInt32.le_iff_toNat_le] at digit ⊢
    grind
  exact Char.utf8Size_eq_one_iff.mpr ascii

/-- A digit is taken into a group of hexadecimal digits. -/
theorem HexGroup.push_digit {width value digit : Nat} {c : Char}
    (isDigit : hexValue? c = some digit) :
    HexGroup.push ⟨width, some value⟩ c = ⟨width + 1, some (16 * value + digit)⟩ := by
  simp [push, utf8Size_of_hexValue? isDigit, isDigit]

/-- Four hexadecimal digits are taken one after the other, for any property of what is left of a
text: it has to be kept from a group that is unfinished to the one with a digit less, and to hold of
the last digit of the group. -/
theorem HexText.follows {σ : Type} {P : σ → List Char → Prop} {unit : Nat} {group rest : List Char}
    (digits : HexText unit group) (unfinished : HexGroup → σ)
    (more : ∀ (group : HexGroup) (c : Char) (rest : List Char), (group.push c).width < 4 →
      P (unfinished (group.push c)) rest → P (unfinished group) (c :: rest))
    (last : ∀ (group : HexGroup) (c : Char), ¬ (group.push c).width < 4 →
      (group.push c).value = some unit → P (unfinished group) (c :: rest)) :
    P (unfinished {}) (group ++ rest) := by
  cases digits with
  | @group a b c d w x y z first second third fourth =>
    refine more _ a _ ?_ (more _ b _ ?_ (more _ c _ ?_ (last _ d ?_ ?_))) <;>
      simp [HexGroup.push_digit first, HexGroup.push_digit second, HexGroup.push_digit third,
        HexGroup.push_digit fourth]

/-- Four hexadecimal digits are read if the number that they make is taken. -/
theorem HexText.reads {text : String} {unit : Nat} {group rest : List Char}
    {finished : Nat → Except Fault StringScan} {next : StringScan} (digits : HexText unit group)
    (unfinished : HexGroup → StringScan)
    (steps : ∀ group c, (unfinished group).step c =
      (StringScan.takeGroup (group.push c) unfinished finished).map .inl)
    (taken : finished unit = .ok next) (later : next.Reads text rest) :
    (unfinished {}).Reads text (group ++ rest) := by
  refine digits.follows unfinished (fun group c rest short more => .more ?_ more)
    fun group c whole value => .more ?_ later
  · rw [steps, StringScan.takeGroup, if_pos short, Except.map]
  · rw [steps, StringScan.takeGroup, if_neg whole, value]
    exact congrArg (Except.map Sum.inl) taken

/-- Each spelling of a character takes the character into the text. -/
theorem CharacterText.reads {text : String} {c : Char} {spelling rest taken : List Char}
    (spelled : CharacterText c spelling)
    (later : StringScan.Reads text ⟨c :: taken, .plain⟩ rest) :
    StringScan.Reads text ⟨taken, .plain⟩ (spelling ++ rest) := by
  cases spelled with
  | plain printable notQuote notBackslash =>
    refine .more ?_ later
    simp only [StringScan.step, notQuote, notBackslash, Nat.not_lt.mpr printable, if_false,
      StringScan.push]
  | @letter letter _ meant =>
    have notUnit : letter ≠ 'u' := by
      rintro rfl
      cases meant
    refine .more rfl (.more ?_ later)
    simp only [StringScan.step, StringScan.expect, notUnit, meant, if_false, StringScan.push]
  | @unit unit _ digits notLeading notTrailing =>
    have alone : StringScan.takeUnit ⟨taken, .plain⟩ unit =
        .ok ⟨Char.ofNat unit :: taken, .plain⟩ := by
      simp [StringScan.takeUnit, notLeading, notTrailing, StringScan.push]
    exact .more rfl (.more rfl
      (digits.reads (fun group => ⟨taken, .unit group⟩) (fun _ _ => rfl) alone later))
  | @pair leading trailing group other digits leads others trails =>
    have first : StringScan.takeUnit ⟨taken, .plain⟩ leading =
        .ok ⟨taken, .pairBackslash leading⟩ := by
      have notTrailing : isTrailing leading = false := by
        simp only [isLeading, isTrailing, Bool.and_eq_true, Bool.and_eq_false_iff,
          decide_eq_true_eq, decide_eq_false_iff_not] at leads ⊢
        omega
      simp [StringScan.takeUnit, leads, notTrailing, StringScan.expect]
    have second : StringScan.takePair ⟨taken, .plain⟩ leading trailing = .ok ⟨_ :: taken, .plain⟩ :=
      if_pos trails
    have partner : StringScan.Reads text ⟨taken, .pairBackslash leading⟩
        ('\\' :: 'u' :: (other ++ rest)) :=
      .more rfl (.more rfl (others.reads (fun group => ⟨taken, .pairUnit leading group⟩)
        (fun _ _ => rfl) second later))
    have whole : StringScan.Reads text ⟨taken, .plain⟩
        ('\\' :: 'u' :: (group ++ '\\' :: 'u' :: (other ++ rest))) :=
      .more rfl (.more rfl (digits.reads (fun group => ⟨taken, .unit group⟩) (fun _ _ => rfl)
        first partner))
    simpa using whole

theorem CharactersText.reads {text : String} {chars spelling taken : List Char}
    (spelled : CharactersText chars spelling) (whole : text.toList = taken.reverse ++ chars) :
    StringScan.Reads text ⟨taken, .plain⟩ (spelling ++ ['"']) := by
  induction spelled generalizing taken with
  | nil =>
    have all : text = String.ofList taken.reverse := by
      rw [← String.toList_inj, whole, List.append_nil, String.toList_ofList]
    exact .closed (all ▸ rfl)
  | cons first rest ih =>
    rw [List.append_assoc]
    exact first.reads (ih (by simp [whole]))

/-- **Every spelling of a text is read as this text.** -/
theorem StringText.reads {text : String} {spelling : List Char}
    (spelled : StringText text spelling) :
    ∃ rest, spelling = '"' :: rest ∧ StringScan.Reads text {} rest := by
  obtain ⟨inside⟩ := spelled
  exact ⟨_, rfl, inside.reads rfl⟩

/-! ## Integers -/

/-- A character that does not belong to a number. -/
def EndsNumber (c : Char) : Prop := c.isDigit = false ∧ c ≠ '.' ∧ c ≠ 'e' ∧ c ≠ 'E'

instance (c : Char) : Decidable (EndsNumber c) := inferInstanceAs (Decidable (_ ∧ _))

/-- The rest of a scalar is read to its end and gives its value: its last character closes it, or
any character after it that does not belong to a number. -/
inductive ScalarScan.Reads (value : Scalar) : ScalarScan → List Char → Prop
  | closed {scan : ScalarScan} {c : Char} (step : scan.step c = .ok (.closed value)) :
      Reads value scan [c]
  | closedBefore {scan : ScalarScan}
      (step : ∀ c, EndsNumber c → scan.step c = .ok (.closedBefore value)) :
      Reads value scan []
  | more {scan next : ScalarScan} {c : Char} {rest : List Char}
      (step : scan.step c = .ok (.more next)) (later : Reads value next rest) :
      Reads value scan (c :: rest)

/-- A whole spelling is read as a scalar. -/
def Scalar.ReadFrom (value : Scalar) (spelling : List Char) : Prop :=
  ∃ first rest scan, spelling = first :: rest ∧ ScalarScan.begin? first = some scan ∧
    scan.Reads value rest

/-- Of a number that fits an unsigned word all digits are significant. -/
theorem Number.significandOf_eq {digits : List Char} {sofar : Nat}
    (fits : Nat.ofDigitChars 10 digits sofar < Nat.pow 2 64) :
    significandOf sofar digits = (Nat.ofDigitChars 10 digits sofar, []) := by
  induction digits generalizing sofar with
  | nil => rfl
  | cons c digits ih =>
    rw [Nat.ofDigitChars_cons] at fits ⊢
    have short := Nat.lt_of_le_of_lt (Decimal.le_ofDigitChars digits _) fits
    rw [significandOf, if_pos short]
    exact ih fits

/-- A number without fraction and exponent is not too large if it fits an unsigned word. -/
theorem Number.isTooLarge_integer {digits : List Char} (negative : Bool)
    (fits : Nat.ofDigitChars 10 digits 0 < Nat.pow 2 64) :
    isTooLarge { negative, whole := digits } = false := by
  have scaled : scaled { negative, whole := digits } = (Nat.ofDigitChars 10 digits 0, 0) := by
    simp [scaled, significandOf_eq fits, significandOf]
  simp [isTooLarge, scaled]

/-- A number may end before any character that does not belong to one. -/
theorem NumberPhase.step_of_ends {phase : NumberPhase} (complete : phase.isComplete = true)
    {c : Char} (ends : EndsNumber c) : phase.step c = .ok none := by
  obtain ⟨notDigit, notPoint, notE, notCapitalE⟩ := ends
  cases phase with
  | zero | whole | fraction | exponentDigits =>
    simp [step, notDigit, notPoint, notE, notCapitalE]
  | minus | point | exponent | exponentSign => cases complete

/-- A number that is read on to its end counts as a scalar if it has a value. -/
theorem Number.ReadsOn.reads {last phase : NumberPhase} {parts whole : Number} {text : List Char}
    {value : Scalar} (reads : ReadsOn last whole phase parts text)
    (complete : last.isComplete = true) (means : ScalarScan.numberValue whole = .ok value) :
    ScalarScan.Reads value (.number phase parts) text := by
  induction reads with
  | done =>
    refine .closedBefore fun c ends => ?_
    simp [ScalarScan.step, NumberPhase.step_of_ends complete ends, means, Except.map]
  | more step _ ih => exact .more (by simp [ScalarScan.step, step]) ih

theorem ScalarScan.begin?_number {c : Char} {phase : NumberPhase}
    (begins : NumberPhase.begin? c = some phase) :
    begin? c = some (.number phase (Number.push {} phase c)) := by
  have notQuote : c ≠ '"' := by
    rintro rfl
    cases begins
  simp [begin?, notQuote, begins]

/-- **Every numeral of an integer that fits an unsigned word is read as this integer.** -/
theorem IntegerText.reads {n : Int} {spelling : List Char} (spelled : IntegerText n spelling)
    (fits : n.natAbs < Nat.pow 2 64) : Scalar.ReadFrom (.integer n) spelling := by
  obtain ⟨negative, digits, ⟨last, first, rest, phase, rfl, begins, reads, complete⟩, isInteger,
    magnitude⟩ := spelled.readFrom
  have means : ScalarScan.numberValue { negative, whole := digits } = .ok (.integer n) := by
    simp [ScalarScan.numberValue, Number.isTooLarge_integer negative (magnitude ▸ fits), isInteger]
  exact ⟨first, rest, _, rfl, ScalarScan.begin?_number begins, reads.reads complete means⟩

/-! ## Scalars -/

theorem StringScan.Reads.scalar {text : String} {scan : StringScan} {rest : List Char}
    (reads : scan.Reads text rest) : ScalarScan.Reads (.text text) (.text scan) rest := by
  induction reads with
  | closed step => exact .closed (by simp [ScalarScan.step, step, Except.map])
  | more step _ ih => exact .more (by simp [ScalarScan.step, step, Except.map]) ih

theorem ScalarScan.reads_word (next : Char) (rest : List Char) (meaning : Scalar) :
    Reads meaning (.word next rest meaning) (next :: rest) := by
  induction rest generalizing next with
  | nil => exact .closed (by simp [step])
  | cons letter rest ih => exact .more (by simp [step]) (ih letter)

/-- **Every spelling of a scalar is read as this scalar**, if an integer fits an unsigned word. -/
theorem ScalarText.reads {value : Scalar} {spelling : List Char}
    (spelled : ScalarText value spelling)
    (fits : ∀ n, value = .integer n → n.natAbs < Nat.pow 2 64) : value.ReadFrom spelling := by
  cases spelled with
  | text spelled =>
    obtain ⟨rest, rfl, reads⟩ := spelled.reads
    exact ⟨'"', rest, _, rfl, rfl, reads.scalar⟩
  | truth value =>
    cases value with
    | true => exact ⟨'t', _, _, rfl, rfl, ScalarScan.reads_word _ _ _⟩
    | false => exact ⟨'f', _, _, rfl, rfl, ScalarScan.reads_word _ _ _⟩
  | null => exact ⟨'n', _, _, rfl, rfl, ScalarScan.reads_word _ _ _⟩
  | integer spelled => exact spelled.reads (fits _ rfl)

/-! ## How values begin -/

/-- A character that begins a value: no blank and no closing bracket. -/
def BeginsValue (c : Char) : Prop := isBlank c = false ∧ c ≠ ']'

theorem beginsValue_of_begin? {c : Char} {scan : ScalarScan}
    (begins : ScalarScan.begin? c = some scan) : BeginsValue c := by
  refine ⟨?_, ?_⟩
  · rw [Bool.eq_false_iff]
    intro blank
    simp only [isBlank, Bool.or_eq_true, beq_iff_eq] at blank
    rcases blank with ((rfl | rfl) | rfl) | rfl <;> cases begins
  · rintro rfl
    cases begins

/-- What begins a scalar is no bracket. -/
theorem not_bracket_of_begin? {c : Char} {scan : ScalarScan}
    (begins : ScalarScan.begin? c = some scan) : ¬ (c = '[' ∨ c = '\x7b') := by
  rintro (rfl | rfl) <;> cases begins

end IdentityCache.Json
