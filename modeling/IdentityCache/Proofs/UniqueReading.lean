import IdentityCache.Proofs.ScalarReading

/-!
# An object of scalars can be read in one way only

The grammar spells a value in many ways, but a text spells at most one value.  Wherever a
spelling stands at the beginning of a text that goes on as it may, the value and the place where
its spelling ends are determined by the text (`ReadsUniquely`): a string ends with its closing
quote, blanks end before the first character that is none, and a number or a word ends before the
first character that cannot belong to one.

Member by member this determines the members of an object, `objectText_unique`.
-/

namespace IdentityCache.Json

set_option autoImplicit false

/-- The value at the beginning of a text and the end of its spelling are determined by the text,
if what follows the spelling is of the given kind. -/
def ReadsUniquely {α : Type} (valueText : α → List Char → Prop) (Follows : List Char → Prop) :
    Prop :=
  ∀ {value other : α} {spelling second rest others : List Char}, valueText value spelling →
    valueText other second → Follows rest → Follows others →
    spelling ++ rest = second ++ others → value = other ∧ spelling = second ∧ rest = others

/-! ## Runs of characters -/

/-- A text that does not begin with a character of the given kind. -/
def BeginsOutside (kind : Char → Bool) (text : List Char) : Prop :=
  ∀ c, text.head? = some c → kind c = false

theorem beginsOutside_cons {kind : Char → Bool} {c : Char} (outside : kind c = false)
    (text : List Char) : BeginsOutside kind (c :: text) := by
  intro first same
  rw [← Option.some.inj same]
  exact outside

/-- A run of characters of one kind ends before the first character of another kind. -/
theorem run_unique {kind : Char → Bool} {run second rest others : List Char}
    (inside : ∀ c ∈ run, kind c = true) (insideToo : ∀ c ∈ second, kind c = true)
    (outside : BeginsOutside kind rest) (outsideToo : BeginsOutside kind others)
    (same : run ++ rest = second ++ others) : run = second ∧ rest = others := by
  induction run generalizing second with
  | nil =>
    cases second with
    | nil => exact ⟨rfl, same⟩
    | cons c second =>
      have begins := outside c (by rw [← List.nil_append rest, same]; rfl)
      rw [insideToo c List.mem_cons_self] at begins
      cases begins
  | cons c run ih =>
    cases second with
    | nil =>
      have begins := outsideToo c (by rw [← List.nil_append others, ← same]; rfl)
      rw [inside c List.mem_cons_self] at begins
      cases begins
    | cons first second =>
      obtain ⟨head, tail⟩ := List.cons.inj same
      obtain ⟨runs, rests⟩ := ih (List.forall_mem_cons.mp inside).2
        (List.forall_mem_cons.mp insideToo).2 tail
      exact ⟨by rw [head, runs], rests⟩

/-! ## Strings -/

/-- What a scan of a string comes to and where it ends are determined by the text. -/
theorem StringScan.Reads.unique {text other : String} {scan : StringScan}
    {spelling second rest others : List Char} (reads : scan.Reads text spelling)
    (readsToo : scan.Reads other second) (same : spelling ++ rest = second ++ others) :
    text = other ∧ spelling = second ∧ rest = others := by
  induction reads generalizing second with
  | closed step =>
    cases readsToo with
    | closed stepToo =>
      obtain ⟨rfl, tail⟩ := List.cons.inj same
      rw [step] at stepToo
      cases stepToo
      exact ⟨rfl, rfl, tail⟩
    | more stepToo later =>
      obtain ⟨rfl, -⟩ := List.cons.inj same
      rw [step] at stepToo
      cases stepToo
  | more step later ih =>
    cases readsToo with
    | closed stepToo =>
      obtain ⟨rfl, -⟩ := List.cons.inj same
      rw [step] at stepToo
      cases stepToo
    | more stepToo laterToo =>
      obtain ⟨rfl, tail⟩ := List.cons.inj same
      rw [step] at stepToo
      cases stepToo
      obtain ⟨texts, spellings, rests⟩ := ih laterToo tail
      exact ⟨texts, by rw [spellings], rests⟩

/-- **A string ends with its closing quote**, whatever follows. -/
theorem readsUniquely_stringText : ReadsUniquely StringText fun _ => True := by
  intro text other spelling second rest others spelled spelledToo _ _ same
  obtain ⟨inside, rfl, reads⟩ := spelled.reads
  obtain ⟨insideToo, rfl, readsToo⟩ := spelledToo.reads
  obtain ⟨texts, insides, rests⟩ := reads.unique readsToo (List.cons.inj same).2
  exact ⟨texts, by rw [insides], rests⟩

/-! ## Scalars -/

/-- The characters of words and numbers, and others that follow neither. -/
def isPlain (c : Char) : Bool := !isBlank c && c != ',' && c != '\x7d' && c != '"'

/-- The word or the integer that a text without quotes spells, if it spells one. -/
def plainValue : List Char → Scalar
  | [] => .null
  | first :: rest =>
    if first.isDigit then .integer (Nat.ofDigitChars 10 (first :: rest) 0 : Nat)
    else if first = '-' then .integer (-(Nat.ofDigitChars 10 rest 0 : Int))
    else if first = 't' then .truth true
    else if first = 'f' then .truth false
    else .null

theorem isPlain_of_isDigit {c : Char} (digit : c.isDigit = true) : isPlain c = true := by
  have noDigits : ∀ other ∈ [' ', '\t', '\n', '\r', ',', '\x7d', '"'], (!other.isDigit) = true :=
    List.all_eq_true.mp rfl
  have differs : ∀ other ∈ [' ', '\t', '\n', '\r', ',', '\x7d', '"'], c ≠ other := by
    rintro other among rfl
    have noDigit := noDigits c among
    rw [digit] at noDigit
    cases noDigit
  simpa [isPlain, isBlank, and_assoc] using differs

theorem WholeText.areDigits {digits : List Char} (whole : WholeText digits) :
    digits ≠ [] ∧ ∀ c ∈ digits, c.isDigit = true := by
  cases whole with
  | zero => exact ⟨nofun, List.all_eq_true.mp rfl⟩
  | digits isDigit _ areDigits => exact ⟨nofun, List.forall_mem_cons.mpr ⟨isDigit, areDigits⟩⟩

/-- A scalar is a string, or its value is determined by its spelling and no character of the
spelling ends it. -/
theorem ScalarText.text_or_plain {value : Scalar} {spelling : List Char}
    (spelled : ScalarText value spelling) :
    (∃ text, value = .text text ∧ StringText text spelling) ∨
      spelling ≠ [] ∧ (∀ c ∈ spelling, isPlain c = true) ∧ value = plainValue spelling := by
  cases spelled with
  | text spelled => exact .inl ⟨_, rfl, spelled⟩
  | truth value => cases value <;> exact .inr ⟨nofun, List.all_eq_true.mp rfl, rfl⟩
  | null => exact .inr ⟨nofun, List.all_eq_true.mp rfl, rfl⟩
  | integer spelled =>
    cases spelled with
    | natural whole =>
      obtain ⟨nonempty, areDigits⟩ := whole.areDigits
      refine .inr ⟨nonempty, fun c member => isPlain_of_isDigit (areDigits c member), ?_⟩
      cases spelling with
      | nil => exact absurd rfl nonempty
      | cons first rest => rw [plainValue, if_pos (areDigits first List.mem_cons_self)]
    | negative whole =>
      obtain ⟨-, areDigits⟩ := whole.areDigits
      exact .inr ⟨nofun, List.forall_mem_cons.mpr ⟨rfl, fun c member =>
        isPlain_of_isDigit (areDigits c member)⟩, rfl⟩

/-- A scalar begins with a quote or with a character of a word or a number. -/
theorem ScalarText.begins {value : Scalar} {spelling : List Char}
    (spelled : ScalarText value spelling) :
    ∃ first rest, spelling = first :: rest ∧ isBlank first = false := by
  rcases spelled.text_or_plain with ⟨text, -, ⟨inside⟩⟩ | ⟨nonempty, plain, -⟩
  · exact ⟨'"', _, rfl, rfl⟩
  · obtain ⟨first, rest, rfl⟩ := List.exists_cons_of_ne_nil nonempty
    have isPlain := plain first List.mem_cons_self
    simp only [Json.isPlain, Bool.and_eq_true, Bool.not_eq_true'] at isPlain
    exact ⟨first, rest, rfl, isPlain.1.1.1⟩

/-- A word or a number does not begin as a string does. -/
theorem quote_ne_plain {text : String} {spelling second rest others : List Char}
    (spelled : StringText text spelling) (nonempty : second ≠ [])
    (plain : ∀ c ∈ second, isPlain c = true) : spelling ++ rest ≠ second ++ others := by
  obtain ⟨inside⟩ := spelled
  obtain ⟨first, remainder, rfl⟩ := List.exists_cons_of_ne_nil nonempty
  intro same
  have isPlain := plain first List.mem_cons_self
  rw [← (List.cons.inj same).1] at isPlain
  cases isPlain

/-- **A scalar ends with its closing quote or before the first character that ends it.** -/
theorem readsUniquely_scalarText : ReadsUniquely ScalarText (BeginsOutside isPlain) := by
  intro value other spelling second rest others spelled spelledToo outside outsideToo same
  rcases spelled.text_or_plain with ⟨text, rfl, quoted⟩ | ⟨nonempty, plain, isValue⟩
  · rcases spelledToo.text_or_plain with ⟨text, rfl, quotedToo⟩ | ⟨nonempty, plain, -⟩
    · obtain ⟨rfl, spellings, rests⟩ :=
        readsUniquely_stringText quoted quotedToo trivial trivial same
      exact ⟨rfl, spellings, rests⟩
    · exact absurd same (quote_ne_plain quoted nonempty plain)
  · rcases spelledToo.text_or_plain with ⟨text, rfl, quotedToo⟩ | ⟨-, plainToo, isValueToo⟩
    · exact absurd same.symm (quote_ne_plain quotedToo nonempty plain)
    · obtain ⟨rfl, rests⟩ := run_unique plain plainToo outside outsideToo same
      exact ⟨isValue.trans isValueToo.symm, rfl, rests⟩

/-! ## Objects -/

/-- A text that begins with the comma or the brace after a member. -/
def EndsMember (text : List Char) : Prop :=
  ∃ c rest, text = c :: rest ∧ (c = ',' ∨ c = '\x7d')

/-- Blanks end before the first character that is none. -/
theorem blanks_unique {blanks second rest others : List Char} {c d : Char}
    (areBlanks : Blanks blanks) (areBlanksToo : Blanks second) (notBlank : isBlank c = false)
    (notBlankToo : isBlank d = false) (same : blanks ++ c :: rest = second ++ d :: others) :
    blanks = second ∧ c :: rest = d :: others :=
  run_unique areBlanks areBlanksToo (beginsOutside_cons notBlank rest)
    (beginsOutside_cons notBlankToo others) same

theorem EndsMember.notBlank {text : List Char} (ends : EndsMember text) :
    ∃ c rest, text = c :: rest ∧ isBlank c = false := by
  obtain ⟨c, rest, rfl, rfl | rfl⟩ := ends
  · exact ⟨_, _, rfl, rfl⟩
  · exact ⟨_, _, rfl, rfl⟩

/-- The blanks after a value end it, as does what ends its member. -/
theorem EndsMember.afterBlanks {blanks text : List Char} (ends : EndsMember text)
    (areBlanks : Blanks blanks) : BeginsOutside isPlain (blanks ++ text) := by
  cases blanks with
  | nil =>
    obtain ⟨c, rest, rfl, rfl | rfl⟩ := ends
    · exact beginsOutside_cons rfl rest
    · exact beginsOutside_cons rfl rest
  | cons c blanks =>
    refine beginsOutside_cons ?_ _
    rw [isPlain, areBlanks c List.mem_cons_self]
    rfl

/-- **A member and the place where it ends are determined by the text.** -/
theorem readsUniquely_memberText : ReadsUniquely (MemberText ScalarText) EndsMember := by
  intro member other spelling second rest others spelled spelledToo ends endsToo same
  obtain ⟨blanks, named, valued⟩ := spelled
  obtain ⟨blanksToo, namedToo, valuedToo⟩ := spelledToo
  rename_i name value before nameSpelling after next valueSpelling last
    nameToo valueToo beforeToo nameSpellingToo afterToo nextToo valueSpellingToo lastToo
  obtain ⟨beforeBlank, afterBlank, nextBlank, lastBlank⟩ := blanks
  obtain ⟨beforeBlankToo, afterBlankToo, nextBlankToo, lastBlankToo⟩ := blanksToo
  obtain ⟨inName, rfl, -⟩ := named.reads
  obtain ⟨inNameToo, rfl, -⟩ := namedToo.reads
  obtain ⟨first, inValue, rfl, solid⟩ := valued.begins
  obtain ⟨firstToo, inValueToo, rfl, solidToo⟩ := valuedToo.begins
  obtain ⟨c, remainder, rfl, notBlank⟩ := ends.notBlank
  obtain ⟨d, remainderToo, rfl, notBlankToo⟩ := endsToo.notBlank
  simp only [List.append_assoc, List.cons_append] at same
  -- The parts are cut off one after the other.
  obtain ⟨rfl, fromName⟩ := blanks_unique beforeBlank beforeBlankToo rfl rfl same
  obtain ⟨rfl, sameName, fromAfter⟩ :=
    readsUniquely_stringText named namedToo trivial trivial (by simpa using fromName)
  obtain ⟨rfl, fromColon⟩ := blanks_unique afterBlank afterBlankToo rfl rfl fromAfter
  obtain ⟨rfl, fromValue⟩ :=
    blanks_unique nextBlank nextBlankToo solid solidToo (List.cons.inj fromColon).2
  obtain ⟨rfl, sameValue, fromLast⟩ :=
    readsUniquely_scalarText valued valuedToo (ends.afterBlanks lastBlank)
      (endsToo.afterBlanks lastBlankToo) fromValue
  obtain ⟨rfl, rests⟩ := blanks_unique lastBlank lastBlankToo notBlank notBlankToo fromLast
  exact ⟨rfl, by rw [sameName, sameValue], rests⟩

/-- **The members of an object and the place where they end are determined by the text.** -/
theorem readsUniquely_membersText :
    ReadsUniquely (MembersText ScalarText) fun rest => ∃ tail, rest = '\x7d' :: tail := by
  intro members other spelling second rest others spelled spelledToo ends endsToo same
  obtain ⟨tail, rfl⟩ := ends
  obtain ⟨tailToo, rfl⟩ := endsToo
  have comma (text : List Char) : EndsMember (',' :: text) := ⟨_, _, rfl, .inl rfl⟩
  have brace (text : List Char) : EndsMember ('\x7d' :: text) := ⟨_, _, rfl, .inr rfl⟩
  induction spelled generalizing other second with
  | last member =>
    cases spelledToo with
    | last memberToo =>
      obtain ⟨rfl, rfl, rests⟩ :=
        readsUniquely_memberText member memberToo (brace _) (brace _) same
      exact ⟨rfl, rfl, rests⟩
    | more memberToo _ =>
      rw [List.append_assoc] at same
      obtain ⟨-, -, rests⟩ := readsUniquely_memberText member memberToo (brace _) (comma _) same
      exact absurd (List.cons.inj rests).1 (by decide)
  | more member _ ih =>
    cases spelledToo with
    | last memberToo =>
      rw [List.append_assoc] at same
      obtain ⟨-, -, rests⟩ := readsUniquely_memberText member memberToo (comma _) (brace _) same
      exact absurd (List.cons.inj rests).1 (by decide)
    | more memberToo laterToo =>
      rw [List.append_assoc, List.append_assoc] at same
      obtain ⟨rfl, rfl, rests⟩ :=
        readsUniquely_memberText member memberToo (comma _) (comma _) same
      obtain ⟨rfl, rfl, remainders⟩ := ih laterToo (List.cons.inj rests).2
      exact ⟨rfl, rfl, remainders⟩

/-- Members begin with the name of the first one. -/
theorem MembersText.begins {members : List (String × Scalar)} {spelling : List Char}
    (spelled : MembersText ScalarText members spelling) :
    ∃ blanks rest, Blanks blanks ∧ spelling = blanks ++ '"' :: rest := by
  have ofMember {member : String × Scalar} {spelling : List Char}
      (spelled : MemberText ScalarText member spelling) :
      ∃ blanks rest, Blanks blanks ∧ spelling = blanks ++ '"' :: rest := by
    obtain ⟨blanks, ⟨inside⟩, -⟩ := spelled
    exact ⟨_, _, blanks.1, by simp only [List.append_assoc, List.cons_append]; rfl⟩
  cases spelled with
  | last member => exact ofMember member
  | more member _ =>
    obtain ⟨blanks, rest, areBlanks, rfl⟩ := ofMember member
    exact ⟨blanks, _, areBlanks, List.append_assoc _ _ _⟩

/-- **The members of an object of scalars are determined by its text**, with their order. -/
theorem objectText_unique {members others : List (String × Scalar)} {text : List Char}
    (spelled : ObjectText ScalarText members text)
    (spelledToo : ObjectText ScalarText others text) : members = others := by
  have notEmpty {blanks : List Char} {members : List (String × Scalar)} {spelling : List Char}
      (areBlanks : Blanks blanks) (spelled : MembersText ScalarText members spelling) :
      blanks ++ ['\x7d'] ≠ spelling ++ ['\x7d'] := by
    obtain ⟨before, rest, areBlanksToo, rfl⟩ := spelled.begins
    intro same
    rw [List.append_assoc] at same
    obtain ⟨-, heads⟩ := blanks_unique areBlanks areBlanksToo rfl rfl same
    exact absurd (List.cons.inj heads).1 (by decide)
  cases spelled with
  | empty areBlanks =>
    generalize whole : '\x7b' :: _ ++ ['\x7d'] = text at spelledToo
    cases spelledToo with
    | empty => rfl
    | members membersToo => exact absurd (List.cons.inj whole).2 (notEmpty areBlanks membersToo)
  | members membersText =>
    generalize whole : '\x7b' :: _ ++ ['\x7d'] = text at spelledToo
    cases spelledToo with
    | empty areBlanks =>
      exact absurd (List.cons.inj whole).2.symm (notEmpty areBlanks membersText)
    | members membersToo =>
      exact (readsUniquely_membersText membersText membersToo ⟨[], rfl⟩ ⟨[], rfl⟩
        (List.cons.inj whole).2).1

end IdentityCache.Json
