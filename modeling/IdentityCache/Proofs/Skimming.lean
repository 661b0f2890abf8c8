import IdentityCache.Proofs.JsonRuns
import IdentityCache.Proofs.ScalarReading

/-!
# Every value is skimmed to its end

A machine that skims a value keeps a `Skim` within its state until the value ends, and goes on from
a state of its own (`HoldsSkim`).  Whatever value a text spells, however deep it is nested, such a
machine is led over the whole spelling and to this state: `HoldsSkim.passes`.

The proof is an induction over the grammar.  What is to be shown of a piece of text depends on what
the piece is (`HoldsSkim.Passes`), and is always that the brackets around the piece are the same
after it as before it.
-/

namespace IdentityCache.Json

set_option autoImplicit false

/-! ## How values begin -/

theorem ScalarScan.begin?_word {c next : Char} {rest : List Char} {meaning : Scalar}
    (begins : word? c = some (next, rest, meaning)) :
    begin? c = some (.word next rest meaning) := by
  have letter : c = 't' ∨ c = 'f' ∨ c = 'n' := by
    unfold word? at begins
    grind
  rcases letter with rfl | rfl | rfl <;> cases begins <;> rfl

/-- A scalar is a string, an integer or a word. -/
theorem ScalarText.cases {value : Scalar} {spelling : List Char}
    (spelled : ScalarText value spelling) :
    (∃ text, value = .text text ∧ StringText text spelling) ∨
      (∃ n, value = .integer n ∧ IntegerText n spelling) ∨
      ∃ first next rest, spelling = first :: next :: rest ∧
        word? first = some (next, rest, value) := by
  cases spelled with
  | text spelled => exact .inl ⟨_, rfl, spelled⟩
  | truth value =>
    cases value with
    | true => exact .inr (.inr ⟨'t', 'r', ['u', 'e'], rfl, rfl⟩)
    | false => exact .inr (.inr ⟨'f', 'a', ['l', 's', 'e'], rfl, rfl⟩)
  | null => exact .inr (.inr ⟨'n', 'u', ['l', 'l'], rfl, rfl⟩)
  | integer spelled => exact .inr (.inl ⟨_, rfl, spelled⟩)

/-- A value begins with a character that is neither blank nor a closing bracket. -/
theorem JsonText.begins {value : Value} {spelling : List Char}
    (spelled : JsonText (.value value) spelling) :
    ∃ first rest, spelling = first :: rest ∧ BeginsValue first := by
  have quote : BeginsValue '"' := ⟨rfl, by decide⟩
  have number {parts : Number} {spelling : List Char} (reads : parts.ReadFrom spelling) :
      ∃ first rest, spelling = first :: rest ∧ BeginsValue first := by
    obtain ⟨-, first, rest, phase, rfl, begins, -⟩ := reads
    exact ⟨first, rest, rfl, beginsValue_of_begin? (ScalarScan.begin?_number begins)⟩
  cases spelled with
  | scalar spelled =>
    rcases spelled.cases with ⟨text, -, ⟨inside⟩⟩ | ⟨n, -, integer⟩ |
      ⟨first, next, rest, rfl, begins⟩
    · exact ⟨_, _, rfl, quote⟩
    · obtain ⟨negative, digits, reads, -⟩ := integer.readFrom
      exact number reads
    · exact ⟨_, _, rfl, beginsValue_of_begin? (ScalarScan.begin?_word begins)⟩
  | fractional spelled =>
    obtain ⟨parts, reads, -⟩ := spelled.readFrom
    exact number reads
  | unpaired spelled =>
    obtain ⟨-⟩ := spelled
    exact ⟨_, _, rfl, quote⟩
  | emptyArray | array => exact ⟨'[', _, rfl, rfl, by decide⟩
  | emptyObject | object => exact ⟨'\x7b', _, rfl, rfl, by decide⟩

/-- A value with blanks around it begins with blanks and then as the value does. -/
theorem JsonText.element_begins {value : Value} {spelling : List Char}
    (spelled : JsonText (.element value) spelling) :
    ∃ blanks first rest, Blanks blanks ∧ BeginsValue first ∧
      spelling = blanks ++ first :: rest := by
  cases spelled with
  | @element _ before inner after blanks spelled =>
    obtain ⟨first, rest, rfl, begins⟩ := spelled.begins
    exact ⟨before, first, rest ++ after, blanks.1, begins, rfl⟩

theorem JsonText.items_begin {items : List Value} {spelling : List Char}
    (spelled : JsonText (.items items) spelling) :
    ∃ blanks first rest, Blanks blanks ∧ BeginsValue first ∧
      spelling = blanks ++ first :: rest := by
  cases spelled with
  | lastItem spelled => exact spelled.element_begins
  | moreItems spelled _ =>
    obtain ⟨blanks, first, rest, areBlanks, begins, rfl⟩ := spelled.element_begins
    exact ⟨blanks, first, _, areBlanks, begins, List.append_assoc _ _ _⟩

/-- Members begin with blanks and the quote of the first name. -/
theorem JsonText.members_begin {members : List (Option String × Value)} {spelling : List Char}
    (spelled : JsonText (.members members) spelling) :
    ∃ blanks rest, Blanks blanks ∧ spelling = blanks ++ '"' :: rest := by
  have ofMember {member : Option String × Value} {spelling : List Char}
      (spelled : JsonText (.member member) spelling) :
      ∃ blanks rest, Blanks blanks ∧ spelling = blanks ++ '"' :: rest := by
    cases spelled with
    | @member _ _ before _ _ _ blanks named _ =>
      cases named with
      | text spelled =>
        obtain ⟨-⟩ := spelled
        exact ⟨before, _, blanks.1, rfl⟩
      | unpaired spelled =>
        obtain ⟨-⟩ := spelled
        exact ⟨before, _, blanks.1, rfl⟩
  cases spelled with
  | lastMember spelled => exact ofMember spelled
  | moreMembers spelled _ =>
    obtain ⟨blanks, rest, areBlanks, rfl⟩ := ofMember spelled
    exact ⟨blanks, _, areBlanks, List.append_assoc _ _ _⟩

theorem endsNumber_of_isBlank {c : Char} (blank : isBlank c = true) : EndsNumber c := by
  simp only [isBlank, Bool.or_eq_true, beq_iff_eq] at blank
  rcases blank with ((rfl | rfl) | rfl) | rfl <;> decide

/-- Blanks end a number, and if there are none then what follows them does. -/
theorem Blanks.endNumber {blanks : List Char} (areBlanks : Blanks blanks) {c : Char}
    (ends : EndsNumber c) (rest : List Char) :
    ∃ d others, blanks ++ c :: rest = d :: others ∧ EndsNumber d := by
  cases blanks with
  | nil => exact ⟨c, rest, rfl, ends⟩
  | cons d blanks =>
    exact ⟨d, blanks ++ c :: rest, rfl, endsNumber_of_isBlank (areBlanks d List.mem_cons_self)⟩

/-! ## Machines that skim -/

theorem Skim.step_between_blank {place : SkimPlace} {enclosing : List Bracket} {c : Char}
    (blank : isBlank c = true) :
    (between place enclosing).step c = .ok (.more (.between place enclosing)) := if_pos blank

/-- A machine that keeps a skim within its state and goes on from another state as soon as the
skimmed value has ended.  Blanks make no difference there. -/
structure HoldsSkim {σ : Type} (step : σ → Char → Except Fault σ) (inside : Skim → σ) (after : σ) :
    Prop where
  steps : ∀ skim c, step (inside skim) c = skim.step c >>= fun
    | .more skim => .ok (inside skim)
    | .closed _ => .ok after
    | .closedBefore _ => step after c
  waits : ∀ c, isBlank c = true → step after c = .ok after

namespace HoldsSkim

variable {σ : Type} {step : σ → Char → Except Fault σ} {inside : Skim → σ} {after : σ}

/-- Where a machine goes on after a value within the given brackets. -/
def placeAfter (inside : Skim → σ) (after : σ) : List Bracket → σ
  | [] => after
  | enclosing => inside (.between .after enclosing)

variable (holds : HoldsSkim step inside after)
include holds

theorem step_more {skim next : Skim} {c : Char} (goes : skim.step c = .ok (.more next)) :
    step (inside skim) c = .ok (inside next) := by
  rw [holds.steps, goes]
  rfl

/-- The last character of a value leads to the place after it. -/
theorem step_closes {skim : Skim} {enclosing : List Bracket} {c : Char}
    (closes : skim.step c = .ok (Skim.afterValue enclosing)) :
    step (inside skim) c = .ok (placeAfter inside after enclosing) := by
  rw [holds.steps, closes]
  cases enclosing <;> rfl

/-- Between tokens blanks make no difference. -/
theorem run_blanksBetween {blanks : List Char} (areBlanks : Blanks blanks) (place : SkimPlace)
    (enclosing : List Bracket) (rest : List Char) :
    run step (inside (.between place enclosing)) (blanks ++ rest) =
      run step (inside (.between place enclosing)) rest :=
  run_blanks areBlanks (fun _ blank => holds.step_more (Skim.step_between_blank blank)) rest

theorem run_blanksAfter {blanks : List Char} (areBlanks : Blanks blanks)
    (enclosing : List Bracket) (rest : List Char) :
    run step (placeAfter inside after enclosing) (blanks ++ rest) =
      run step (placeAfter inside after enclosing) rest := by
  cases enclosing with
  | nil => exact run_blanks areBlanks holds.waits rest
  | cons => exact holds.run_blanksBetween areBlanks _ _ rest

/-! ### Strings, numbers and words -/

/-- Four hexadecimal digits are skimmed. -/
theorem run_group {unit : Nat} {group : List Char} (digits : HexText unit group) (isName : Bool)
    (enclosing : List Bracket) (rest : List Char) :
    run step (inside (.text isName (.unit {}) enclosing)) (group ++ rest) =
      run step (inside (.text isName .plain enclosing)) rest := by
  refine digits.follows
    (P := fun state text => run step (inside (.text isName state enclosing)) text =
      run step (inside (.text isName .plain enclosing)) rest) .unit
    (fun group c text short later => (run_cons_of_ok (holds.step_more ?_) text).trans later)
    fun group c whole value => run_cons_of_ok (holds.step_more ?_) rest
  · simp [Skim.step, SkimmedString.step, short, Except.map]
  · simp [Skim.step, SkimmedString.step, whole, value, Except.map]

/-- The characters of a string are skimmed up to its closing quote. -/
theorem run_loose {spelling : List Char} (loose : LooseText spelling) (isName : Bool)
    (enclosing : List Bracket) (rest : List Char) :
    run step (inside (.text isName .plain enclosing)) (spelling ++ rest) =
      run step (inside (.text isName .plain enclosing)) rest := by
  induction loose with
  | nil => rfl
  | plain printable notQuote notBackslash _ ih =>
    refine (run_cons_of_ok (holds.step_more ?_) _).trans ih
    simp [Skim.step, SkimmedString.step, notQuote, notBackslash, Nat.not_lt.mpr printable,
      Except.map]
  | @letter letter c _ meant _ ih =>
    have notUnit : letter ≠ 'u' := by
      rintro rfl
      cases meant
    refine (run_cons_of_ok (holds.step_more rfl) _).trans
      ((run_cons_of_ok (holds.step_more ?_) _).trans ih)
    simp [Skim.step, SkimmedString.step, notUnit, meant, Except.map]
  | unit digits _ ih =>
    refine (run_cons_of_ok (holds.step_more rfl) _).trans
      ((run_cons_of_ok (holds.step_more rfl) _).trans ?_)
    exact (congrArg _ (List.append_assoc _ _ _)).trans
      ((holds.run_group digits isName enclosing _).trans ih)

/-- A string that is a value is skimmed. -/
theorem run_string {spelling : List Char} (loose : LooseText spelling) (enclosing : List Bracket)
    (rest : List Char) :
    run step (inside (.between .value enclosing)) ('"' :: spelling ++ ['"'] ++ rest) =
      run step (placeAfter inside after enclosing) rest := by
  rw [List.append_assoc, List.cons_append, run_cons_of_ok (holds.step_more rfl),
    holds.run_loose loose]
  exact run_cons_of_ok (holds.step_closes rfl) rest

/-- A string that is a name is skimmed. -/
theorem run_name {name : Option String} {spelling : List Char} (named : NameText name spelling)
    (enclosing : List Bracket) (rest : List Char) :
    run step (inside (.between .name enclosing)) (spelling ++ rest) =
      run step (inside (.between .colon enclosing)) rest := by
  have skims {inner : List Char} (loose : LooseText inner) :
      run step (inside (.between .name enclosing)) ('"' :: inner ++ ['"'] ++ rest) =
        run step (inside (.between .colon enclosing)) rest := by
    rw [List.append_assoc, List.cons_append, run_cons_of_ok (holds.step_more rfl),
      holds.run_loose loose]
    exact run_cons_of_ok (holds.step_more rfl) rest
  cases named with
  | text spelled =>
    obtain ⟨inner⟩ := spelled
    exact skims inner.loose
  | unpaired spelled =>
    obtain ⟨loose, -⟩ := spelled
    exact skims loose

/-- A number is skimmed up to the next character that does not belong to one. -/
theorem run_number {last phase : NumberPhase} {parts whole : Number} {text : List Char}
    (reads : Number.ReadsOn last whole phase parts text) (complete : last.isComplete = true)
    (enclosing : List Bracket) {c : Char} (ends : EndsNumber c) (rest : List Char) :
    run step (inside (.number phase enclosing)) (text ++ c :: rest) =
      run step (placeAfter inside after enclosing) (c :: rest) := by
  induction reads with
  | done =>
    refine run_cons_congr ?_ rest
    have stepped : Skim.step (.number last enclosing) c =
        if enclosing.isEmpty then .ok (.closedBefore ())
        else Skim.stepBetween .after enclosing c := by
      simp [Skim.step, NumberPhase.step_of_ends complete ends]
    rw [holds.steps, stepped]
    cases enclosing with
    | nil => rfl
    | cons bracket outer => exact (holds.steps (.between .after (bracket :: outer)) c).symm
  | more next _ ih =>
    exact (run_cons_of_ok (holds.step_more (by simp [Skim.step, next])) _).trans ih

/-- The letters of a word are skimmed. -/
theorem run_word (next : Char) (letters : List Char) (enclosing : List Bracket) (rest : List Char) :
    run step (inside (.word next letters enclosing)) (next :: letters ++ rest) =
      run step (placeAfter inside after enclosing) rest := by
  induction letters generalizing next with
  | nil => exact run_cons_of_ok (holds.step_closes (by simp [Skim.step])) rest
  | cons letter letters ih =>
    exact (run_cons_of_ok (holds.step_more (by simp [Skim.step])) _).trans (ih letter)

/-! ### Values -/

theorem step_begin {enclosing : List Bracket} {first : Char} {skim : Skim}
    (notBlank : isBlank first = false) (begins : Skim.beginValue enclosing first = .ok skim) :
    step (inside (.between .value enclosing)) first = .ok (inside skim) := by
  refine holds.step_more ?_
  rw [Skim.step, Skim.stepBetween, notBlank, begins]
  rfl

/-- A number that is a value is skimmed. -/
theorem run_readFrom {parts : Number} {spelling : List Char} (reads : parts.ReadFrom spelling)
    (enclosing : List Bracket) {c : Char} (ends : EndsNumber c) (rest : List Char) :
    run step (inside (.between .value enclosing)) (spelling ++ c :: rest) =
      run step (placeAfter inside after enclosing) (c :: rest) := by
  obtain ⟨last, first, inner, phase, rfl, begins, reads, complete⟩ := reads
  have notBlank := (beginsValue_of_begin? (ScalarScan.begin?_number begins)).1
  have enters : Skim.beginValue enclosing first = .ok (.number phase enclosing) := by
    have others : first ≠ '"' ∧ first ≠ '[' ∧ first ≠ '\x7b' := by
      refine ⟨?_, ?_, ?_⟩ <;> rintro rfl <;> cases begins
    simp [Skim.beginValue, others, begins]
  exact (run_cons_of_ok (holds.step_begin notBlank enters) _).trans
    (holds.run_number reads complete enclosing ends rest)

theorem run_scalar {value : Scalar} {spelling : List Char} (spelled : ScalarText value spelling)
    (enclosing : List Bracket) {c : Char} (ends : EndsNumber c) (rest : List Char) :
    run step (inside (.between .value enclosing)) (spelling ++ c :: rest) =
      run step (placeAfter inside after enclosing) (c :: rest) := by
  rcases spelled.cases with ⟨text, -, ⟨inner⟩⟩ | ⟨n, -, integer⟩ |
    ⟨first, next, letters, rfl, begins⟩
  · exact holds.run_string inner.loose enclosing _
  · obtain ⟨negative, digits, reads, -⟩ := integer.readFrom
    exact holds.run_readFrom reads enclosing ends rest
  · have isWord := ScalarScan.begin?_word begins
    have enters : Skim.beginValue enclosing first = .ok (.word next letters enclosing) := by
      have others : first ≠ '[' ∧ first ≠ '\x7b' := by
        refine ⟨?_, ?_⟩ <;> rintro rfl <;> cases isWord
      unfold ScalarScan.begin? at isWord
      split at isWord
      · cases isWord
      · split at isWord
        · cases isWord
        · simp_all [Skim.beginValue]
    exact (run_cons_of_ok (holds.step_begin (beginsValue_of_begin? isWord).1 enters) _).trans
      (holds.run_word next letters enclosing _)

/-- After its opening bracket what an array or an object holds is skimmed as items or as members. -/
theorem run_opening {place : SkimPlace} {enclosing within : List Bracket} {opening first : Char}
    (opens : step (inside (.between .value enclosing)) opening =
      .ok (inside (.between .opened within)))
    (same : Skim.step (.between .opened within) first = Skim.step (.between place within) first)
    {blanks inner spelling : List Char} (areBlanks : Blanks blanks)
    (begins : spelling = blanks ++ first :: inner) (closing : Char) (rest : List Char) :
    run step (inside (.between .value enclosing)) (opening :: (spelling ++ [closing]) ++ rest) =
      run step (inside (.between place within)) (spelling ++ closing :: rest) := by
  subst begins
  simp only [List.cons_append, List.append_assoc, List.nil_append]
  rw [run_cons_of_ok opens, holds.run_blanksBetween areBlanks, holds.run_blanksBetween areBlanks]
  exact run_cons_congr (by rw [holds.steps, holds.steps, same]) _

omit holds

/-- What is shown of a piece of text: a machine that skims is led over it to the place after it,
with the same brackets open. -/
def Passes (step : σ → Char → Except Fault σ) (inside : Skim → σ) (after : σ) :
    Piece → List Char → Prop
  | .value _, text | .element _, text => ∀ enclosing c rest, EndsNumber c →
    run step (inside (.between .value enclosing)) (text ++ c :: rest) =
      run step (placeAfter inside after enclosing) (c :: rest)
  | .items _, text => ∀ outer rest,
    run step (inside (.between .value (.array :: outer))) (text ++ ']' :: rest) =
      run step (placeAfter inside after outer) rest
  | .member _, text => ∀ outer c rest, EndsNumber c →
    run step (inside (.between .name (.object :: outer))) (text ++ c :: rest) =
      run step (inside (.between .after (.object :: outer))) (c :: rest)
  | .members _, text => ∀ outer rest,
    run step (inside (.between .name (.object :: outer))) (text ++ '\x7d' :: rest) =
      run step (placeAfter inside after outer) rest

include holds

/-- **Every piece of JSON text is skimmed to its end.** -/
theorem passes {piece : Piece} {text : List Char} (spelled : JsonText piece text) :
    Passes step inside after piece text := by
  induction spelled with
  | scalar spelled =>
    exact fun enclosing c rest ends => holds.run_scalar spelled enclosing ends rest
  | fractional spelled =>
    obtain ⟨parts, reads, -⟩ := spelled.readFrom
    exact fun enclosing c rest ends => holds.run_readFrom reads enclosing ends rest
  | unpaired spelled =>
    obtain ⟨loose, -⟩ := spelled
    exact fun enclosing c rest _ => holds.run_string loose enclosing _
  | emptyArray areBlanks =>
    intro enclosing c rest _
    rw [List.cons_append, List.append_assoc, run_cons_of_ok (holds.step_begin rfl rfl),
      holds.run_blanksBetween areBlanks]
    exact run_cons_of_ok (holds.step_closes rfl) _
  | array spelled ih =>
    intro enclosing c rest _
    obtain ⟨blanks, first, inner, areBlanks, ⟨notBlank, notClosing⟩, same⟩ := spelled.items_begin
    have opened : Skim.step (.between .opened (.array :: enclosing)) first =
        Skim.step (.between .value (.array :: enclosing)) first := by
      simp [Skim.step, Skim.stepBetween, notBlank, notClosing]
    exact (holds.run_opening (holds.step_begin rfl rfl) opened areBlanks same ']' _).trans
      (ih enclosing (c :: rest))
  | emptyObject areBlanks =>
    intro enclosing c rest _
    rw [List.cons_append, List.append_assoc, run_cons_of_ok (holds.step_begin rfl rfl),
      holds.run_blanksBetween areBlanks]
    exact run_cons_of_ok (holds.step_closes rfl) _
  | object spelled ih =>
    intro enclosing c rest _
    obtain ⟨blanks, inner, areBlanks, same⟩ := spelled.members_begin
    have opened : Skim.step (.between .opened (.object :: enclosing)) '"' =
        Skim.step (.between .name (.object :: enclosing)) '"' := rfl
    exact (holds.run_opening (holds.step_begin rfl rfl) opened areBlanks same '\x7d' _).trans
      (ih enclosing (c :: rest))
  | @element value before spelling after blanks spelled ih =>
    intro enclosing c rest ends
    obtain ⟨d, others, same, endsToo⟩ := blanks.2.endNumber ends rest
    rw [List.append_assoc, List.append_assoc, holds.run_blanksBetween blanks.1, same,
      ih enclosing d others endsToo, ← same, holds.run_blanksAfter blanks.2]
  | lastItem _ ih =>
    intro outer rest
    rw [ih _ ']' rest (by decide)]
    exact run_cons_of_ok (holds.step_closes rfl) rest
  | moreItems _ _ ih later =>
    intro outer rest
    rw [List.append_assoc, List.cons_append, ih _ ',' _ (by decide)]
    exact (run_cons_of_ok (holds.step_more rfl) _).trans (later outer rest)
  | member blanks named _ ih =>
    intro outer c rest ends
    simp only [List.append_assoc, List.cons_append]
    rw [holds.run_blanksBetween blanks.1, holds.run_name named, holds.run_blanksBetween blanks.2]
    exact (run_cons_of_ok (holds.step_more rfl) _).trans (ih _ c rest ends)
  | lastMember _ ih =>
    intro outer rest
    rw [ih _ '\x7d' rest (by decide)]
    exact run_cons_of_ok (holds.step_closes rfl) rest
  | moreMembers _ _ ih later =>
    intro outer rest
    rw [List.append_assoc, List.cons_append, ih _ ',' _ (by decide)]
    exact (run_cons_of_ok (holds.step_more rfl) _).trans (later outer rest)

end HoldsSkim

end IdentityCache.Json
