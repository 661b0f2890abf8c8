import IdentityCache.Proofs.Skimming
import IdentityCache.Proofs.SnapshotReading

/-!
# Values in the place of a scalar

Where a scalar is expected any JSON value may stand.  A bracket is refused at once.  What begins a
scalar is read to its end, and whether it is taken depends on its value alone: a string that spells
a text, a word and an integer that fits an unsigned 64-bit word are read as what they spell
(`ScalarText.reads`), and a string that spells no text is refused within the string
(`UnpairedText.fails`).  Any other number is read or refused, and it has no value that a field would
take.

`TakesScalar` is a machine that keeps a scan within its state until the scalar ends.
`TakesScalar.outcome_value` is its law over every JSON value.
-/

namespace IdentityCache.Json

set_option autoImplicit false

/-! ## Strings that spell no text -/

/-- A scan meets a fault in the text. -/
inductive StringScan.Fails : StringScan → List Char → Prop
  | here {scan : StringScan} {c : Char} {rest : List Char} {fault : Fault}
      (step : scan.step c = .error fault) : Fails scan (c :: rest)
  | later {scan next : StringScan} {c : Char} {rest : List Char}
      (step : scan.step c = .ok (.inl next)) (fails : Fails next rest) : Fails scan (c :: rest)

/-- Four hexadecimal digits are followed by a fault, or the number that they make is one. -/
theorem HexText.fails {unit : Nat} {group rest : List Char}
    {finished : Nat → Except Fault StringScan} (digits : HexText unit group)
    (unfinished : HexGroup → StringScan)
    (steps : ∀ group c, (unfinished group).step c =
      (StringScan.takeGroup (group.push c) unfinished finished).map .inl)
    (refused : ∀ next, finished unit = .ok next → next.Fails rest) :
    (unfinished {}).Fails (group ++ rest) := by
  refine digits.follows unfinished (fun group c rest short fails => .later ?_ fails)
    fun group c whole value => ?_
  · rw [steps, StringScan.takeGroup, if_pos short, Except.map]
  · have taken : (unfinished group).step c = (finished unit).map .inl := by
      rw [steps, StringScan.takeGroup, if_neg whole, value]
    cases result : finished unit with
    | error fault => exact .here (by rw [taken, result, Except.map])
    | ok next => exact .later (by rw [taken, result, Except.map]) (refused next result)

theorem HexText.fails_unit {unit : Nat} {group rest taken : List Char} (digits : HexText unit group)
    (refused : ∀ next, StringScan.takeUnit ⟨taken, .plain⟩ unit = .ok next →
      next.Fails (rest ++ ['"'])) :
    StringScan.Fails ⟨taken, .plain⟩ ('\\' :: 'u' :: (group ++ rest) ++ ['"']) := by
  have fails := digits.fails (fun group => ⟨taken, .unit group⟩) (fun _ _ => rfl) refused
  rw [← List.append_assoc] at fails
  exact .later rfl (.later rfl fails)

theorem HexText.fails_pair {unit leading : Nat} {group rest taken : List Char}
    (digits : HexText unit group)
    (refused : ∀ next, StringScan.takePair ⟨taken, .plain⟩ leading unit = .ok next →
      next.Fails (rest ++ ['"'])) :
    StringScan.Fails ⟨taken, .pairBackslash leading⟩
      ('\\' :: 'u' :: (group ++ rest) ++ ['"']) := by
  have fails := digits.fails (fun group => ⟨taken, .pairUnit leading group⟩) (fun _ _ => rfl)
    refused
  rw [← List.append_assoc] at fails
  exact .later rfl (.later rfl fails)

/-- What may follow the leading unit of a pair: a trailing unit, and then what spells a text. -/
def FollowsLeading (spelling : List Char) : Prop :=
  ∃ unit group chars rest, spelling = '\\' :: 'u' :: (group ++ rest) ∧ HexText unit group ∧
    isTrailing unit = true ∧ CharactersText chars rest

/-- The characters up to a quote spell a text, or a scan refuses them. -/
def SpellsOrFails (spelling : List Char) : Prop :=
  (∃ chars, CharactersText chars spelling) ∨
    ∀ taken, StringScan.Fails ⟨taken, .plain⟩ (spelling ++ ['"'])

/-- The characters up to a quote follow the leading unit of a pair, or a scan that has read one
refuses them. -/
def FollowsOrFails (spelling : List Char) : Prop :=
  FollowsLeading spelling ∨
    ∀ taken leading, StringScan.Fails ⟨taken, .pairBackslash leading⟩ (spelling ++ ['"'])

/-- A unit is a character by itself or with a trailing unit after it. -/
theorem HexText.spells_or_fails {unit : Nat} {group rest : List Char} (digits : HexText unit group)
    (spells : SpellsOrFails rest) (follows : FollowsOrFails rest) :
    SpellsOrFails ('\\' :: 'u' :: (group ++ rest)) := by
  cases trails : isTrailing unit with
  | true =>
    refine .inr fun taken => digits.fails_unit fun next accepted => ?_
    rw [StringScan.takeUnit, trails] at accepted
    cases accepted
  | false =>
    cases leads : isLeading unit with
    | true =>
      rcases follows with ⟨trailing, other, chars, later, rfl, others, trailsToo, spelled⟩ | fails
      · have pair := CharactersText.cons (.pair digits leads others trailsToo) spelled
        exact .inl ⟨_, by simpa using pair⟩
      · refine .inr fun taken => digits.fails_unit fun next accepted => ?_
        rw [StringScan.takeUnit, trails, leads] at accepted
        cases accepted
        exact fails taken unit
    | false =>
      rcases spells with ⟨chars, spelled⟩ | fails
      · exact .inl ⟨_, .cons (.unit digits leads trails) spelled⟩
      · refine .inr fun taken => digits.fails_unit fun next accepted => ?_
        rw [StringScan.takeUnit, trails, leads] at accepted
        cases accepted
        exact fails _

/-- Of the units only a trailing one may follow the leading unit of a pair. -/
theorem HexText.follows_or_fails {unit : Nat} {group rest : List Char} (digits : HexText unit group)
    (spells : SpellsOrFails rest) : FollowsOrFails ('\\' :: 'u' :: (group ++ rest)) := by
  cases trails : isTrailing unit with
  | true =>
    rcases spells with ⟨chars, spelled⟩ | fails
    · exact .inl ⟨unit, group, chars, rest, rfl, digits, trails, spelled⟩
    · refine .inr fun taken leading => digits.fails_pair fun next accepted => ?_
      rw [StringScan.takePair, trails] at accepted
      cases accepted
      exact fails _
  | false =>
    refine .inr fun taken leading => digits.fails_pair fun next accepted => ?_
    rw [StringScan.takePair, trails] at accepted
    cases accepted

/-- **Characters between quotes spell a text, or a reader refuses them.**  Whether a leading unit is
part of a character depends on what follows it, so both are shown together. -/
theorem LooseText.spells_or_fails {spelling : List Char} (loose : LooseText spelling) :
    SpellsOrFails spelling ∧ FollowsOrFails spelling := by
  induction loose with
  | nil => exact ⟨.inl ⟨_, .nil⟩, .inr fun _ _ => .here rfl⟩
  | @plain c _ printable notQuote notBackslash _ ih =>
    refine ⟨ih.1.imp (fun ⟨chars, spelled⟩ => ⟨_, .cons (.plain printable notQuote notBackslash)
      spelled⟩) fun fails taken => .later ?_ (fails (c :: taken)),
      .inr fun _ _ => .here (if_neg notBackslash)⟩
    simp only [StringScan.step, notQuote, notBackslash, Nat.not_lt.mpr printable, if_false,
      StringScan.push]
  | @letter letter c _ meant _ ih =>
    have notUnit : letter ≠ 'u' := by
      rintro rfl
      cases meant
    refine ⟨ih.1.imp (fun ⟨chars, spelled⟩ => ⟨_, .cons (.letter meant) spelled⟩)
      fun fails taken => .later rfl (.later ?_ (fails (c :: taken))),
      .inr fun _ _ => .later rfl (.here (if_neg notUnit))⟩
    simp only [StringScan.step, StringScan.expect, notUnit, meant, if_false, StringScan.push]
  | unit digits _ ih =>
    exact ⟨digits.spells_or_fails ih.1 ih.2, digits.follows_or_fails ih.1⟩

/-! ## Scalars that are refused -/

/-- What is left of a scalar meets a fault within the text or before any character after it that
does not belong to a number. -/
inductive ScalarScan.Fails : ScalarScan → List Char → Prop
  | here {scan : ScalarScan} {c : Char} {rest : List Char} {fault : Fault}
      (step : scan.step c = .error fault) : Fails scan (c :: rest)
  | before {scan : ScalarScan} {fault : Fault}
      (step : ∀ c, EndsNumber c → scan.step c = .error fault) : Fails scan []
  | later {scan next : ScalarScan} {c : Char} {rest : List Char}
      (step : scan.step c = .ok (.more next)) (fails : Fails next rest) : Fails scan (c :: rest)

/-- A spelling begins a scalar and meets a fault. -/
def ScalarScan.FailsFrom (spelling : List Char) : Prop :=
  ∃ first rest scan, spelling = first :: rest ∧ begin? first = some scan ∧ scan.Fails rest

theorem StringScan.Fails.scalar {scan : StringScan} {text : List Char} (fails : scan.Fails text) :
    ScalarScan.Fails (.text scan) text := by
  induction fails with
  | here step => exact .here (by rw [ScalarScan.step, step, Except.map])
  | later step _ ih => exact .later (by rw [ScalarScan.step, step, Except.map]) ih

/-- A string that spells no text is refused. -/
theorem UnpairedText.fails {spelling : List Char} (spelled : UnpairedText spelling) :
    ∃ rest, spelling = '"' :: rest ∧ StringScan.Fails {} rest := by
  obtain ⟨loose, noText⟩ := spelled
  rcases loose.spells_or_fails.1 with ⟨chars, spelled⟩ | fails
  · exact absurd spelled (noText chars)
  · exact ⟨_, rfl, fails []⟩

theorem Number.ReadsOn.fails {last phase : NumberPhase} {parts whole : Number} {text : List Char}
    {fault : Fault} (reads : ReadsOn last whole phase parts text)
    (complete : last.isComplete = true) (noValue : ScalarScan.numberValue whole = .error fault) :
    ScalarScan.Fails (.number phase parts) text := by
  induction reads with
  | done =>
    have refused : ∀ c, EndsNumber c →
        ScalarScan.step (.number last whole) c = .error fault := by
      intro c ends
      rw [ScalarScan.step, NumberPhase.step_of_ends complete ends]
      exact congrArg (Except.map _) noValue
    exact .before refused
  | more step _ ih => exact .later (by rw [ScalarScan.step, step]) ih

/-- The value of a number is the integer that its parts make, or none. -/
theorem eq_of_numberValue {parts : Number} {value : Scalar}
    (means : ScalarScan.numberValue parts = .ok value) :
    value = (parts.integer?.map Scalar.integer).getD .fractional := by
  unfold ScalarScan.numberValue at means
  split at means
  · cases means
  · cases integer : parts.integer? <;> rw [integer] at means <;> cases means <;> rfl

/-- A number is read as its value or refused. -/
theorem Number.ReadFrom.reads_or_fails {parts : Number} {spelling : List Char}
    (reads : parts.ReadFrom spelling) :
    (∃ value, ScalarScan.numberValue parts = .ok value ∧ value.ReadFrom spelling) ∨
      ScalarScan.FailsFrom spelling := by
  obtain ⟨last, first, rest, phase, rfl, begins, reads, complete⟩ := reads
  have isNumber := ScalarScan.begin?_number begins
  cases result : ScalarScan.numberValue parts with
  | ok value => exact .inl ⟨value, rfl, first, rest, _, rfl, isNumber, reads.reads complete result⟩
  | error fault => exact .inr ⟨first, rest, _, rfl, isNumber, reads.fails complete result⟩

/-! ## Values -/

/-- The scalar that a value is. -/
def Value.scalar? : Value → Option Scalar
  | .scalar value => some value
  | .unpaired | .array _ | .object _ => none

/-- A value that is written in brackets. -/
def Value.IsBracketed : Value → Prop
  | .array _ | .object _ => True
  | .scalar _ | .unpaired => False

/-- A number that is no integer or does not fit an unsigned 64-bit word. -/
def Scalar.FitsNoWord : Scalar → Prop
  | .fractional => True
  | .integer n => Nat.pow 2 64 ≤ n.natAbs
  | .text _ | .truth _ | .null => False

/-- **A value without brackets is read as the scalar that it is, or refused.**  Of those that spell
a scalar only numbers are refused. -/
theorem JsonText.reads_or_fails {value : Value} {spelling : List Char}
    (spelled : JsonText (.value value) spelling) (flat : ¬ value.IsBracketed) :
    (∃ scalar, value = .scalar scalar ∧ scalar.ReadFrom spelling) ∨
      ScalarScan.FailsFrom spelling ∧ ∀ scalar, value = .scalar scalar → scalar.FitsNoWord := by
  cases spelled with
  | @scalar scalar _ spelled =>
    cases spelled with
    | text spelled => exact .inl ⟨_, rfl, (ScalarText.text spelled).reads nofun⟩
    | truth value => exact .inl ⟨_, rfl, (ScalarText.truth value).reads nofun⟩
    | null => exact .inl ⟨_, rfl, ScalarText.null.reads nofun⟩
    | @integer n _ spelled =>
      by_cases fits : n.natAbs < Nat.pow 2 64
      · exact .inl ⟨_, rfl, spelled.reads fits⟩
      · obtain ⟨negative, digits, reads, isInteger, -⟩ := spelled.readFrom
        rcases reads.reads_or_fails with ⟨value, means, reads⟩ | fails
        · cases isInteger ▸ eq_of_numberValue means
          exact .inl ⟨_, rfl, reads⟩
        · exact .inr ⟨fails, fun _ same => Value.scalar.inj same ▸ Nat.le_of_not_lt fits⟩
  | fractional spelled =>
    obtain ⟨parts, reads, noInteger⟩ := spelled.readFrom
    rcases reads.reads_or_fails with ⟨value, means, reads⟩ | fails
    · cases noInteger ▸ eq_of_numberValue means
      exact .inl ⟨_, rfl, reads⟩
    · exact .inr ⟨fails, fun _ same => Value.scalar.inj same ▸ trivial⟩
  | unpaired spelled =>
    obtain ⟨rest, rfl, fails⟩ := spelled.fails
    exact .inr ⟨⟨'"', rest, _, rfl, rfl, fails.scalar⟩, nofun⟩
  | emptyArray | array | emptyObject | object => exact absurd trivial flat

/-- **The blanks around a value make no difference** to a machine that waits before and after
it. -/
theorem JsonText.outcome_of_value {σ α : Type} {step : σ → Char → Except Fault σ} {before : σ}
    {after : α → σ} {value : Value} {taken : Option α} {spelling : List Char}
    (spelled : JsonText (.element value) spelling)
    (waits : ∀ c, isBlank c = true → step before c = .ok before)
    (waitsAfter : ∀ taken c, isBlank c = true → step (after taken) c = .ok (after taken))
    (overValue : ∀ {text}, JsonText (.value value) text → ∀ c, EndsNumber c → ∀ rest,
      outcome step before (text ++ c :: rest) =
        taken.bind fun taken => outcome step (after taken) (c :: rest))
    {c : Char} (ends : EndsNumber c) (rest : List Char) :
    outcome step before (spelling ++ c :: rest) =
      taken.bind fun taken => outcome step (after taken) (c :: rest) := by
  cases spelled with
  | element blanks spelled =>
    obtain ⟨d, others, same, endsToo⟩ := blanks.2.endNumber ends rest
    rw [List.append_assoc, List.append_assoc, outcome_blanks blanks.1 waits, same,
      overValue spelled d endsToo, ← same]
    exact Option.bind_congr fun taken _ => outcome_blanks blanks.2 (waitsAfter taken) _

/-! ## Machines that take a name -/

/-- A machine that keeps the scan of a string within its state and takes its text when it ends. -/
structure TakesString {σ : Type} (step : σ → Char → Except Fault σ) (inside : StringScan → σ)
    (taken : String → Except Fault σ) : Prop where
  steps : ∀ scan c, step (inside scan) c = scan.step c >>= fun
    | .inl scan => .ok (inside scan)
    | .inr text => taken text

namespace TakesString

variable {σ : Type} {step : σ → Char → Except Fault σ} {inside : StringScan → σ}
  {taken : String → Except Fault σ} (takes : TakesString step inside taken)
include takes

theorem outcome_reads {text : String} {scan : StringScan} {spelling : List Char}
    (reads : scan.Reads text spelling) :
    outcome step (inside scan) spelling = (taken text).toOption := by
  refine congrArg Except.toOption (reads.run inside (fun scan next c goesOn => ?_)
    fun scan c closes => ?_)
  · rw [takes.steps, goesOn]
    rfl
  · rw [takes.steps, closes]
    rfl

theorem outcome_fails {scan : StringScan} {text : List Char} (fails : scan.Fails text) :
    outcome step (inside scan) text = none := by
  induction fails with
  | here fails =>
    rw [outcome_cons, takes.steps, fails]
    rfl
  | later goesOn _ ih =>
    refine (outcome_cons_of_ok ?_ _).trans ih
    rw [takes.steps, goesOn]
    rfl

/-- A name is taken if it spells a text. -/
theorem outcome_name {before : σ} (begins : step before '"' = .ok (inside {}))
    {name : Option String} {spelling : List Char} (named : NameText name spelling)
    (rest : List Char) :
    outcome step before (spelling ++ rest) =
      (name.bind fun name => (taken name).toOption).bind fun next => outcome step next rest := by
  rw [outcome_append]
  cases named with
  | text spelled =>
    obtain ⟨inner, rfl, reads⟩ := spelled.reads
    rw [outcome_cons_of_ok begins, takes.outcome_reads reads]
    rfl
  | unpaired spelled =>
    obtain ⟨inner, rfl, fails⟩ := spelled.fails
    rw [outcome_cons_of_ok begins, takes.outcome_fails fails]
    rfl

end TakesString

/-! ## Machines that take a scalar -/

/-- A machine that keeps the scan of a scalar within its state, and when the scalar ends makes
something of it and goes on from there. -/
structure TakesScalar {σ α : Type} (step : σ → Char → Except Fault σ) (before : σ)
    (inside : ScalarScan → σ) (take : Scalar → Except Fault α) (after : α → σ) : Prop where
  begins : ∀ {c scan}, ScalarScan.begin? c = some scan → step before c = .ok (inside scan)
  steps : ∀ scan c, step (inside scan) c = scan.step c >>= fun
    | .more scan => .ok (inside scan)
    | .closed value => (take value).map after
    | .closedBefore value => take value >>= fun taken => step (after taken) c
  refuses : ∀ {scalar : Scalar}, scalar.FitsNoWord → ∃ fault, take scalar = .error fault

namespace TakesScalar

variable {σ α : Type} {step : σ → Char → Except Fault σ} {before : σ} {inside : ScalarScan → σ}
  {take : Scalar → Except Fault α} {after : α → σ}
  (takes : TakesScalar step before inside take after)
include takes

theorem outcome_reads {scalar : Scalar} {scan : ScalarScan} {text : List Char}
    (reads : scan.Reads scalar text) {c : Char} (ends : EndsNumber c) (rest : List Char) :
    outcome step (inside scan) (text ++ c :: rest) =
      (take scalar).toOption.bind fun taken => outcome step (after taken) (c :: rest) := by
  induction reads with
  | closed closes =>
    rw [List.singleton_append, outcome_cons, takes.steps, closes]
    change ((take scalar).map after).toOption.bind _ = _
    cases take scalar <;> rfl
  | closedBefore closes =>
    rw [List.nil_append, outcome_cons, takes.steps, closes c ends]
    change (take scalar >>= fun taken => step (after taken) c).toOption.bind _ = _
    cases take scalar with
    | error fault => rfl
    | ok taken => exact (outcome_cons step (after taken) c rest).symm
  | more goesOn _ ih =>
    refine (outcome_cons_of_ok ?_ _).trans ih
    rw [takes.steps, goesOn]
    rfl

theorem outcome_fails {scan : ScalarScan} {text : List Char} (fails : scan.Fails text) {c : Char}
    (ends : EndsNumber c) (rest : List Char) :
    outcome step (inside scan) (text ++ c :: rest) = none := by
  induction fails with
  | here fails =>
    rw [List.cons_append, outcome_cons, takes.steps, fails]
    rfl
  | before fails =>
    rw [List.nil_append, outcome_cons, takes.steps, fails c ends]
    rfl
  | later goesOn _ ih =>
    refine (outcome_cons_of_ok ?_ _).trans ih
    rw [takes.steps, goesOn]
    rfl

/-- A value without brackets is taken if the scalar that it is is taken, and refused otherwise. -/
theorem outcome_flat {value : Value} {spelling : List Char}
    (spelled : JsonText (.value value) spelling) (flat : ¬ value.IsBracketed) {c : Char}
    (ends : EndsNumber c) (rest : List Char) :
    outcome step before (spelling ++ c :: rest) =
      (value.scalar?.bind fun scalar => (take scalar).toOption).bind
        fun taken => outcome step (after taken) (c :: rest) := by
  rcases spelled.reads_or_fails flat with
    ⟨scalar, rfl, first, inner, scan, rfl, begins, reads⟩ |
    ⟨⟨first, inner, scan, rfl, begins, fails⟩, fitsNoWord⟩
  · exact (outcome_cons_of_ok (takes.begins begins) _).trans (takes.outcome_reads reads ends rest)
  · have refused : (value.scalar?.bind fun scalar => (take scalar).toOption) = none := by
      cases value with
      | scalar scalar =>
        obtain ⟨fault, refused⟩ := takes.refuses (fitsNoWord scalar rfl)
        exact congrArg Except.toOption refused
      | unpaired | array | object => rfl
    rw [refused]
    exact (outcome_cons_of_ok (takes.begins begins) _).trans (takes.outcome_fails fails ends rest)

/-- **Any value is taken if it is a scalar that is taken, and refused otherwise**, where brackets
are refused. -/
theorem outcome_value
    (brackets : ∀ c, c = '[' ∨ c = '\x7b' → ∃ fault, step before c = .error fault)
    {value : Value} {spelling : List Char} (spelled : JsonText (.value value) spelling)
    {c : Char} (ends : EndsNumber c) (rest : List Char) :
    outcome step before (spelling ++ c :: rest) =
      (value.scalar?.bind fun scalar => (take scalar).toOption).bind
        fun taken => outcome step (after taken) (c :: rest) := by
  by_cases flat : value.IsBracketed
  · have refused {bracket : Char} (isBracket : bracket = '[' ∨ bracket = '\x7b')
        (text : List Char) : outcome step before (bracket :: text) = none := by
      obtain ⟨fault, fails⟩ := brackets bracket isBracket
      exact outcome_cons_of_error fails text
    cases spelled with
    | emptyArray | array => exact refused (.inl rfl) _
    | emptyObject | object => exact refused (.inr rfl) _
    | scalar | fractional | unpaired => exact absurd flat id
  · exact takes.outcome_flat spelled flat ends rest

theorem outcome_element
    (brackets : ∀ c, c = '[' ∨ c = '\x7b' → ∃ fault, step before c = .error fault)
    (waits : ∀ c, isBlank c = true → step before c = .ok before)
    (waitsAfter : ∀ taken c, isBlank c = true → step (after taken) c = .ok (after taken))
    {value : Value} {spelling : List Char} (spelled : JsonText (.element value) spelling)
    {c : Char} (ends : EndsNumber c) (rest : List Char) :
    outcome step before (spelling ++ c :: rest) =
      (value.scalar?.bind fun scalar => (take scalar).toOption).bind
        fun taken => outcome step (after taken) (c :: rest) := by
  exact spelled.outcome_of_value waits waitsAfter
    (fun spelled _ => takes.outcome_value brackets spelled) ends rest

end TakesScalar

end IdentityCache.Json
