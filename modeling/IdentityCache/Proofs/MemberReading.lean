import IdentityCache.Proofs.ValueReading

/-!
# What the parts of an entry do

An object is read as an entry member by member.  What a member does to the fields that have been
read depends on its name and its value alone (`Draft.record?`): the field with this name takes the
value if it has not been read before, and a member with another name makes no difference.  An array
is read item by item, as the object that gives its items the names of the fields in order
(`Draft.foldlM_takeItem?`).

A machine that takes an object comes to what its members come to one after the other
(`TakesJsonMembers.outcome_object`).  The places at which the reader of entries expects a scalar are
machines that take one (`EntryReader.takesField`, `EntryReader.takesItem`).
-/

namespace IdentityCache.Json

set_option autoImplicit false

/-! ## What members do -/

/-- What a member makes of the fields that have been read. -/
def Draft.record? (draft : Draft) (member : Option String × Value) : Option Draft :=
  member.1.bind fun name =>
    match Field.ofName? name with
    | none => some draft
    | some field =>
      if draft.has field then none
      else member.2.scalar?.bind fun scalar => (draft.set field scalar).toOption

/-- The members that a value gives to an entry: those of an object, and the items of an array under
the names of the fields, of which there are no more than four. -/
def Value.members? : Value → Option (List (Option String × Value))
  | .object members => some members
  | .array items =>
    if items.length ≤ Field.all.length then
      some ((Field.all.map fun field => some field.name).zip items)
    else none
  | .scalar _ | .unpaired => none

/-- The fields that are read from a value. -/
def Value.draft? (value : Value) : Option Draft :=
  value.members?.bind fun members => members.foldlM Draft.record? {}

/-- The entry that is read from a value. -/
def Value.recorded? (value : Value) : Option Entry := value.draft?.map Draft.entry

/-- What an item of an array makes of the fields that have been read and of those that remain. -/
def Draft.takeItem? (state : Draft × List Field) (item : Value) : Option (Draft × List Field) :=
  item.scalar?.bind fun scalar => (EntryReader.takeItem state.1 state.2 scalar).toOption

/-! ## Objects -/

section Objects

variable {σ ι : Type}

/-- A machine that takes the members of an object one by one. -/
structure TakesJsonMembers (step : σ → Char → Except Fault σ) (name after closed : ι → σ)
    (add : ι → Option String × Value → Option ι) : Prop where
  member : ∀ {state member text c} rest, JsonText (.member member) text → EndsNumber c →
    outcome step (name state) (text ++ c :: rest) =
      (add state member).bind fun next => outcome step (after next) (c :: rest)
  comma : ∀ state, step (after state) ',' = .ok (name state)
  brace : ∀ state, step (after state) '\x7d' = .ok (closed state)
  waits : ∀ state c, isBlank c = true → step (name state) c = .ok (name state)

variable {step : σ → Char → Except Fault σ} {name after closed : ι → σ}
  {add : ι → Option String × Value → Option ι}

/-- Members are taken up to the closing brace. -/
theorem TakesJsonMembers.outcome_members (takes : TakesJsonMembers step name after closed add)
    {members : List (Option String × Value)} {text : List Char}
    (spelled : JsonText (.members members) text) (state : ι) (rest : List Char) :
    outcome step (name state) (text ++ '\x7d' :: rest) =
      (members.foldlM add state).bind fun final => outcome step (closed final) rest := by
  induction members generalizing text state with
  | nil => cases spelled
  | cons member members ih =>
    rw [List.foldlM_cons]
    cases spelled with
    | lastMember spelled =>
      rw [takes.member rest spelled (by decide)]
      cases add state member with
      | none => rfl
      | some next => exact outcome_cons_of_ok (takes.brace next) rest
    | moreMembers spelled others =>
      rw [List.append_assoc, List.cons_append, takes.member _ spelled (by decide)]
      cases add state member with
      | none => rfl
      | some next => exact (outcome_cons_of_ok (takes.comma next) _).trans (ih others next)

/-- **An object comes to what its members come to one after the other.** -/
theorem TakesJsonMembers.outcome_object (takes : TakesJsonMembers step name after closed add)
    {before opened : σ} {start : ι} (opens : step before '\x7b' = .ok opened)
    (empty : step opened '\x7d' = .ok (closed start))
    (begins : step opened '"' = step (name start) '"')
    (waits : ∀ c, isBlank c = true → step opened c = .ok opened)
    {members : List (Option String × Value)} {text : List Char}
    (spelled : JsonText (.value (.object members)) text) (rest : List Char) :
    outcome step before (text ++ rest) =
      (members.foldlM add start).bind fun final => outcome step (closed final) rest := by
  cases spelled with
  | emptyObject areBlanks =>
    rw [List.cons_append, List.append_assoc, outcome_cons_of_ok opens,
      outcome_blanks areBlanks waits]
    exact outcome_cons_of_ok empty rest
  | object spelled =>
    have members := takes.outcome_members spelled start rest
    obtain ⟨blanks, inner, areBlanks, rfl⟩ := spelled.members_begin
    rw [List.append_assoc, List.cons_append,
      outcome_blanks areBlanks (takes.waits start)] at members
    rw [List.cons_append, List.append_assoc, outcome_cons_of_ok opens, List.append_assoc,
      List.cons_append, outcome_blanks areBlanks waits, outcome_cons_congr begins]
    exact members

end Objects

/-! ## What fields take -/

/-- A field takes a scalar exactly if it is the value of the field in some entry. -/
theorem Draft.set_eq_ok_iff (draft next : Draft) (field : Field) (scalar : Scalar) :
    draft.set field scalar = .ok next ↔
      ∃ entry, scalar = fieldScalar entry field ∧ next = draft.put entry field := by
  constructor
  · intro recorded
    cases field with
    | roleArn =>
      cases scalar <;> cases recorded
      exact ⟨{ roleArn := _ }, rfl, rfl⟩
    | audience =>
      cases scalar <;> cases recorded
      exact ⟨{ audience := _ }, rfl, rfl⟩
    | useRegionalSts =>
      cases scalar <;> cases recorded
      exact ⟨{ useRegionalSts := _ }, rfl, rfl⟩
    | tokenExpiration =>
      cases scalar with
      | integer n =>
        simp only [set] at recorded
        split at recorded
        case h_1 seconds inRange =>
          cases recorded
          have same := (Seconds.ofInt?_eq_some_iff n seconds).mp inRange
          exact ⟨{ tokenExpiration := seconds }, congrArg Scalar.integer same.symm, rfl⟩
        case h_2 => cases recorded
      | text | truth | null | fractional => cases recorded
  · rintro ⟨entry, rfl, rfl⟩
    exact draft.set_fieldScalar entry field

/-- No field takes a number that is no integer or does not fit a word. -/
theorem Draft.set_of_fitsNoWord (draft : Draft) (field : Field) {scalar : Scalar}
    (fitsNoWord : scalar.FitsNoWord) : ∃ fault, draft.set field scalar = .error fault := by
  cases recorded : draft.set field scalar with
  | error fault => exact ⟨fault, rfl⟩
  | ok next =>
    obtain ⟨entry, rfl, -⟩ := (draft.set_eq_ok_iff next field scalar).mp recorded
    cases field with
    | tokenExpiration =>
      have bounds := entry.tokenExpiration.inRange
      have large : 18446744073709551616 ≤ entry.tokenExpiration.toInt.natAbs := fitsNoWord
      omega
    | roleArn | audience | useRegionalSts => cases fitsNoWord

/-- Without a field there is no place for an item. -/
theorem Draft.takeItem?_nil (draft : Draft) (item : Value) : takeItem? (draft, []) item = none := by
  unfold takeItem?
  cases item.scalar? <;> rfl

/-- **Items are recorded as members with the names of the fields are**, as long as there are
fields. -/
theorem Draft.foldlM_takeItem? {draft : Draft} {remaining : List Field}
    (unread : draft.Unread remaining) (items : List Value) :
    (items.foldlM takeItem? (draft, remaining)).map Prod.fst =
      if items.length ≤ remaining.length then
        ((remaining.map fun field => some field.name).zip items).foldlM record? draft
      else none := by
  induction items generalizing draft remaining with
  | nil => simp
  | cons item items ih =>
    rw [List.foldlM_cons]
    cases remaining with
    | nil => simp [takeItem?_nil]
    | cons field remaining =>
      have fresh : draft.has field = false := unread.2 field List.mem_cons_self
      have recorded : draft.record? (some field.name, item) =
          item.scalar?.bind fun scalar => (draft.set field scalar).toOption := by
        simp [record?, Field.ofName?_name, fresh]
      have taken : takeItem? (draft, field :: remaining) item =
          (draft.record? (some field.name, item)).map fun next => (next, remaining) := by
        rw [recorded, takeItem?]
        cases item.scalar? with
        | none => rfl
        | some scalar =>
          change ((draft.set field scalar).map _).toOption = (draft.set field scalar).toOption.map _
          cases draft.set field scalar <;> rfl
      rw [taken, List.map_cons, List.zip_cons_cons, List.foldlM_cons]
      simp only [List.length_cons, Nat.add_le_add_iff_right]
      cases result : draft.record? (some field.name, item) with
      | none => simp
      | some next =>
        rw [recorded] at result
        obtain ⟨scalar, -, accepted⟩ := Option.bind_eq_some_iff.mp result
        have isSet : draft.set field scalar = .ok next := by
          cases isSet : draft.set field scalar <;> rw [isSet] at accepted <;> cases accepted
          rfl
        obtain ⟨entry, -, rfl⟩ := (draft.set_eq_ok_iff _ field scalar).mp isSet
        exact ih (unread.put entry)

/-! ## Places where a scalar is expected -/

namespace EntryReader

/-- Whether the closing bracket is still to come. -/
def IsOpen (reader : EntryReader) : Prop := ∀ entry, reader ≠ .closed entry

theorem isOpen_start : start.IsOpen := by
  rintro entry ⟨⟩

theorem isOpen_mistyped (scan : ScalarScan) : (mistyped scan).IsOpen := by
  rintro entry ⟨⟩

theorem isOpen_object (draft : Draft) (place : MemberPlace) : (object draft place).IsOpen := by
  rintro entry ⟨⟩

theorem isOpen_array (draft : Draft) (remaining : List Field) (place : ItemPlace) :
    (array draft remaining place).IsOpen := by
  rintro entry ⟨⟩

/-- The value of a field is recorded in the draft. -/
theorem takesField (draft : Draft) (field : Field) :
    TakesScalar step (object draft (.value (some field)))
      (fun scan => object draft (.inValue field scan)) (draft.set field)
      (fun next => object next .after) where
  begins := stepObject_value
  steps scan c := by
    rw [step, stepObject]
    cases scan.step c with
    | error fault => rfl
    | ok progress => cases progress <;> rfl
  refuses := draft.set_of_fitsNoWord field

/-- An item is recorded in the draft as the first of the remaining fields. -/
theorem takesItem (draft : Draft) (remaining : List Field) {place : ItemPlace}
    (expected : place = .opened ∨ place = .item) :
    TakesScalar step (array draft remaining place)
      (fun scan => array draft remaining (.inItem scan)) (takeItem draft remaining)
      (fun next => array next.1 next.2 .after) where
  begins begins := by
    obtain ⟨notBlank, notClosing⟩ := beginsValue_of_begin? begins
    rcases expected with rfl | rfl <;>
      simp [step, stepArray, notBlank, notClosing, beginScalar_of_begin? begins, Except.map]
  steps scan c := by
    rw [step, stepArray]
    cases scan.step c with
    | error fault => rfl
    | ok progress => cases progress <;> rfl
  refuses fitsNoWord := by
    cases remaining with
    | nil => exact ⟨.malformed, rfl⟩
    | cons field remaining =>
      obtain ⟨fault, refused⟩ := draft.set_of_fitsNoWord field fitsNoWord
      exact ⟨fault, congrArg (Except.map _) refused⟩

/-- In the place of an entry no scalar is taken. -/
theorem takesMistyped :
    TakesScalar step start mistyped (fun _ => .error .mistyped) closed where
  begins begins := by
    obtain ⟨notBlank, -⟩ := beginsValue_of_begin? begins
    obtain ⟨notArray, notObject⟩ := not_or.mp (not_bracket_of_begin? begins)
    simp [step, notBlank, notArray, notObject, begins]
  steps scan c := by
    rw [step, stepMistyped]
    cases scan.step c with
    | error fault => rfl
    | ok progress => cases progress <;> rfl
  refuses _ := ⟨.mistyped, rfl⟩

end EntryReader

end IdentityCache.Json
