import IdentityCache.Proofs.JsonValues

/-!
# Numbers are split as they are spelled

Both readers of numbers follow the parts of a number: one keeps the digits of each part, the other
only skims.  `Number.ReadsOn` is what they have in common, the way from one part of a number to
another with the digits on it, and `Number.ReadFrom` is that way for a whole spelling.

Every integer is split into its sign and its digits (`IntegerText.readFrom`).  Every other number is
split into parts that make no integer (`FractionalText.readFrom`).
-/

namespace IdentityCache.Json

set_option autoImplicit false

/-! ## From part to part -/

/-- A number of which some part has been read is read on to its last part and is whole there. -/
inductive Number.ReadsOn (last : NumberPhase) (whole : Number) :
    NumberPhase → Number → List Char → Prop
  | done : ReadsOn last whole last whole []
  | more {phase next : NumberPhase} {parts : Number} {c : Char} {rest : List Char}
      (step : phase.step c = .ok (some next))
      (later : ReadsOn last whole next (parts.push next c) rest) :
      ReadsOn last whole phase parts (c :: rest)

/-- A spelling is read as a whole number, which may end there. -/
def Number.ReadFrom (whole : Number) (spelling : List Char) : Prop :=
  ∃ last first rest phase, spelling = first :: rest ∧ NumberPhase.begin? first = some phase ∧
    ReadsOn last whole phase (Number.push {} phase first) rest ∧ last.isComplete = true

theorem Number.ReadsOn.trans {phase middle last : NumberPhase} {parts between whole : Number}
    {text rest : List Char} (reads : ReadsOn middle between phase parts text)
    (later : ReadsOn last whole middle between rest) :
    ReadsOn last whole phase parts (text ++ rest) := by
  induction reads with
  | done => exact later
  | more step _ ih => exact .more step ih

/-- Digits are read on within a part that they belong to. -/
theorem Number.readsOn_digits {phase : NumberPhase}
    (stays : ∀ c : Char, c.isDigit = true → phase.step c = .ok (some phase)) (parts : Number)
    {digits : List Char} (areDigits : ∀ c ∈ digits, c.isDigit = true) :
    ReadsOn phase (digits.foldl (fun parts c => parts.push phase c) parts) phase parts digits := by
  induction digits generalizing parts with
  | nil => exact .done
  | cons c digits ih =>
    obtain ⟨isDigit, later⟩ := List.forall_mem_cons.mp areDigits
    exact .more (stays c isDigit) (ih _ later)

theorem NumberPhase.step_digit {phase : NumberPhase}
    (inside : phase = .whole ∨ phase = .fraction ∨ phase = .exponentDigits) {c : Char}
    (isDigit : c.isDigit = true) : phase.step c = .ok (some phase) := by
  rcases inside with rfl | rfl | rfl <;> exact if_pos isDigit

/-! ## Integers -/

theorem Number.foldl_push_whole (parts : Number) (digits : List Char) :
    digits.foldl (fun parts c => parts.push .whole c) parts =
      { parts with whole := parts.whole ++ digits } := by
  induction digits generalizing parts with
  | nil => simp
  | cons c digits ih =>
    rw [List.foldl_cons, ih]
    simp [push]

/-- What a first digit begins is what it leads to after a sign, and the other digits follow. -/
theorem WholeText.readsOn {digits : List Char} (whole : WholeText digits) (negative : Bool) :
    ∃ first rest phase, digits = first :: rest ∧ NumberPhase.begin? first = some phase ∧
      NumberPhase.step .minus first = .ok (some phase) ∧ (phase = .zero ∨ phase = .whole) ∧
      Number.ReadsOn phase { negative, whole := digits } phase
        (Number.push { negative } phase first) rest := by
  cases whole with
  | zero => exact ⟨'0', [], .zero, rfl, rfl, rfl, .inl rfl, .done⟩
  | @digits first rest isDigit notZero areDigits =>
    have notMinus : first ≠ '-' := by
      rintro rfl
      cases isDigit
    refine ⟨first, rest, .whole, rfl, ?_, ?_, .inr rfl, ?_⟩
    · simp [NumberPhase.begin?, notMinus, notZero, isDigit]
    · simp [NumberPhase.step, notZero, isDigit]
    · have reads := Number.readsOn_digits (fun _ => NumberPhase.step_digit (.inl rfl))
        (Number.push { negative } .whole first) areDigits
      rwa [Number.foldl_push_whole] at reads

/-- A whole number is read from its sign on, up to where a fraction or an exponent may follow. -/
theorem SignText.readsOn {sign digits : List Char} (signed : SignText sign)
    (whole : WholeText digits) :
    ∃ first rest phase last, sign ++ digits = first :: rest ∧
      NumberPhase.begin? first = some phase ∧ (last = .zero ∨ last = .whole) ∧
      Number.ReadsOn last { negative := decide (sign ≠ []), whole := digits } phase
        (Number.push {} phase first) rest := by
  cases signed with
  | absent =>
    obtain ⟨first, rest, phase, rfl, begins, -, among, reads⟩ := whole.readsOn false
    exact ⟨first, rest, phase, phase, rfl, begins, among, reads⟩
  | minus =>
    obtain ⟨first, rest, phase, rfl, -, next, among, reads⟩ := whole.readsOn true
    exact ⟨'-', first :: rest, .minus, phase, rfl, rfl, among, .more next reads⟩

/-- **An integer is split into its sign and its digits.** -/
theorem IntegerText.readFrom {n : Int} {spelling : List Char} (spelled : IntegerText n spelling) :
    ∃ negative digits, Number.ReadFrom { negative, whole := digits } spelling ∧
      Number.integer? { negative, whole := digits } = some n ∧
      Nat.ofDigitChars 10 digits 0 = n.natAbs := by
  have reads {sign digits : List Char} (signed : SignText sign) (whole : WholeText digits) :
      Number.ReadFrom { negative := decide (sign ≠ []), whole := digits } (sign ++ digits) := by
    obtain ⟨first, rest, phase, last, same, begins, among, reads⟩ := signed.readsOn whole
    exact ⟨last, first, rest, phase, same, begins, reads, by rcases among with rfl | rfl <;> rfl⟩
  cases spelled with
  | natural whole =>
    exact ⟨_, _, reads .absent whole, by simp [Number.integer?], by rw [Int.natAbs_natCast]⟩
  | negative whole notZero =>
    refine ⟨_, _, reads .minus whole, by simp [Number.integer?, notZero], ?_⟩
    rw [Int.natAbs_neg, Int.natAbs_natCast]

/-! ## Other numbers -/

/-- A number that has a fraction or an exponent. -/
def Number.HasMore (parts : Number) : Prop := parts.fraction ≠ [] ∨ parts.exponent ≠ []

theorem Number.HasMore.integer?_eq_none {parts : Number} (more : parts.HasMore) :
    parts.integer? = none := by
  unfold integer?
  rcases more with more | more <;> simp [more]

theorem Number.HasMore.push {parts : Number} (more : parts.HasMore) (phase : NumberPhase)
    (c : Char) : (parts.push phase c).HasMore := by
  rcases more with more | more <;> cases phase <;> simp [HasMore, Number.push, more]

theorem Number.ReadsOn.hasMore {phase last : NumberPhase} {parts whole : Number} {text : List Char}
    (reads : ReadsOn last whole phase parts text) (more : parts.HasMore) : whole.HasMore := by
  induction reads with
  | done => exact more
  | more _ _ ih => exact ih (more.push _ _)

/-- The digits of a fraction or an exponent are read on from what comes before them. -/
theorem Number.readsOn_more (before : NumberPhase) {phase : NumberPhase} (parts : Number)
    {digits : List Char}
    (inside : phase = .fraction ∨ phase = .exponentDigits)
    (enters : ∀ c : Char, c.isDigit = true → before.step c = .ok (some phase))
    (areDigits : Decimal.IsDigits digits) :
    ∃ whole, ReadsOn phase whole before parts digits ∧ whole.HasMore := by
  obtain ⟨first, rest, rfl⟩ := List.exists_cons_of_ne_nil areDigits.1
  obtain ⟨isDigit, later⟩ := List.forall_mem_cons.mp areDigits.2
  have reads := readsOn_digits (fun _ => NumberPhase.step_digit (.inr inside))
    (parts.push phase first) later
  have more : (parts.push phase first).HasMore := by
    rcases inside with rfl | rfl <;> simp [HasMore, Number.push]
  exact ⟨_, .more (enters first isDigit) reads, reads.hasMore more⟩

/-- A fraction is read on from the integer before it. -/
theorem FractionText.readsOn {spelling : List Char} (spelled : FractionText spelling)
    {phase : NumberPhase} (parts : Number) (among : phase = .zero ∨ phase = .whole) :
    ∃ last whole, Number.ReadsOn last whole phase parts spelling ∧
      (last = .zero ∨ last = .whole ∨ last = .fraction) ∧ (spelling ≠ [] → whole.HasMore) := by
  cases spelled with
  | absent =>
    exact ⟨phase, parts, .done, among.imp_right .inl, fun nonempty => absurd rfl nonempty⟩
  | present areDigits =>
    have point : phase.step '.' = .ok (some .point) := by rcases among with rfl | rfl <;> rfl
    obtain ⟨whole, reads, more⟩ :=
      Number.readsOn_more .point parts (.inl rfl) (fun _ isDigit => if_pos isDigit) areDigits
    exact ⟨.fraction, whole, .more point reads, .inr (.inr rfl), fun _ => more⟩

/-- An exponent is read on from the integer or the fraction before it. -/
theorem ExponentText.readsOn {spelling : List Char} (spelled : ExponentText spelling)
    {phase : NumberPhase} (parts : Number)
    (among : phase = .zero ∨ phase = .whole ∨ phase = .fraction) :
    ∃ last whole, Number.ReadsOn last whole phase parts spelling ∧ last.isComplete = true ∧
      (spelling ≠ [] → whole.HasMore) := by
  have enters {letter : Char} (isLetter : letter = 'e' ∨ letter = 'E') :
      phase.step letter = .ok (some .exponent) := by
    rcases isLetter with rfl | rfl <;> rcases among with rfl | rfl | rfl <;> rfl
  cases spelled with
  | absent =>
    refine ⟨phase, parts, .done, ?_, fun nonempty => absurd rfl nonempty⟩
    rcases among with rfl | rfl | rfl <;> rfl
  | bare isLetter areDigits =>
    have first : ∀ c : Char, c.isDigit = true →
        NumberPhase.step .exponent c = .ok (some .exponentDigits) := by
      intro c isDigit
      have noSign : ¬ (c = '+' ∨ c = '-') := by
        rintro (rfl | rfl) <;> cases isDigit
      exact (if_neg noSign).trans (if_pos isDigit)
    obtain ⟨whole, reads, more⟩ :=
      Number.readsOn_more .exponent parts (.inr rfl) first areDigits
    exact ⟨.exponentDigits, whole, .more (enters isLetter) reads, rfl, fun _ => more⟩
  | @signed letter sign digits isLetter isSign areDigits =>
    have signStep : NumberPhase.step .exponent sign = .ok (some .exponentSign) := if_pos isSign
    obtain ⟨whole, reads, more⟩ := Number.readsOn_more .exponentSign
      (parts.push .exponentSign sign) (.inr rfl) (fun _ isDigit => if_pos isDigit) areDigits
    exact ⟨.exponentDigits, whole, .more (enters isLetter) (.more signStep reads), rfl,
      fun _ => more⟩

/-- **A number that is no integer is split into parts that make none.** -/
theorem FractionalText.readFrom {spelling : List Char} (spelled : FractionalText spelling) :
    ∃ parts, Number.ReadFrom parts spelling ∧ parts.integer? = none := by
  cases spelled with
  | negativeZero =>
    exact ⟨{ negative := true, whole := ['0'] },
      ⟨.zero, '-', ['0'], .minus, rfl, rfl, .more rfl .done, rfl⟩, by decide⟩
  | @number sign whole fraction exponent signed isWhole isFraction isExponent notInteger =>
    obtain ⟨first, rest, phase, last, same, begins, among, reads⟩ := signed.readsOn isWhole
    obtain ⟨middle, between, onFraction, amongToo, more⟩ := isFraction.readsOn _ among
    obtain ⟨final, parts, onExponent, complete, moreToo⟩ := isExponent.readsOn between amongToo
    have hasMore : parts.HasMore := by
      by_cases present : fraction = []
      · exact moreToo fun absent => notInteger (by rw [present, absent]; rfl)
      · exact onExponent.hasMore (more present)
    refine ⟨parts, ⟨final, first, rest ++ (fraction ++ exponent), phase, ?_, begins, ?_,
      complete⟩, hasMore.integer?_eq_none⟩
    · rw [← List.append_assoc, same, List.cons_append]
    · exact reads.trans (onFraction.trans onExponent)

end IdentityCache.Json
