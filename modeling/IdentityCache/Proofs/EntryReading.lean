import IdentityCache.Proofs.MemberReading

/-!
# Entries and snapshots are read from any JSON value

What is read as an entry from a text is determined by the value that the text spells
(`readEntry_eq_ok_iff_recorded?`): neither the blanks nor the way in which names and values are
spelled make a difference, and what is skimmed makes none either.

The reader of snapshots keeps a reader of entries within its state, so what is said of entries is
said of any machine that keeps one (`HoldsEntry`).  What is read as a snapshot from an object is
determined by its members (`readSnapshot_eq_ok_iff_members`).
-/

namespace IdentityCache.Json

set_option autoImplicit false

/-! ## Machines that keep a reader of entries -/

/-- A machine that keeps a reader of entries within its state as long as the entry is open. -/
structure HoldsEntry {σ : Type} (step : σ → Char → Except Fault σ) (host : EntryReader → σ) :
    Prop where
  steps : ∀ {reader}, reader.IsOpen → ∀ c, step (host reader) c = (reader.step c).map host
  waits : ∀ entry c, isBlank c = true → step (host (.closed entry)) c = .ok (host (.closed entry))

namespace HoldsEntry

variable {σ : Type} {step : σ → Char → Except Fault σ} {host : EntryReader → σ}
  (holds : HoldsEntry step host)
include holds

theorem step_ok {reader next : EntryReader} {c : Char} (isOpen : reader.IsOpen)
    (goes : reader.step c = .ok next) : step (host reader) c = .ok (host next) := by
  rw [holds.steps isOpen, goes]
  rfl

theorem step_error {reader : EntryReader} {c : Char} {fault : Fault} (isOpen : reader.IsOpen)
    (fails : reader.step c = .error fault) : step (host reader) c = .error fault := by
  rw [holds.steps isOpen, fails]
  rfl

/-- Where the reader takes a scalar, the machine takes it. -/
theorem takes {α : Type} {before : EntryReader} {inside : ScalarScan → EntryReader}
    {take : Scalar → Except Fault α} {after : α → EntryReader}
    (takes : TakesScalar EntryReader.step before inside take after) (beforeOpen : before.IsOpen)
    (insideOpen : ∀ scan, (inside scan).IsOpen)
    (afterOpen : ∀ {scalar taken}, take scalar = .ok taken → (after taken).IsOpen) :
    TakesScalar step (host before) (fun scan => host (inside scan)) take
      (fun taken => host (after taken)) where
  begins begins := holds.step_ok beforeOpen (takes.begins begins)
  steps scan c := by
    rw [holds.steps (insideOpen scan), takes.steps]
    cases scan.step c with
    | error fault => rfl
    | ok progress =>
      cases progress with
      | more scan => rfl
      | closed scalar =>
        change ((take scalar).map after).map host = (take scalar).map _
        cases take scalar <;> rfl
      | closedBefore scalar =>
        change (take scalar >>= _).map host = take scalar >>= _
        cases taken : take scalar with
        | error fault => rfl
        | ok next => exact (holds.steps (afterOpen taken) c).symm
  refuses := takes.refuses

theorem takesName (draft : Draft) :
    TakesString step (fun scan => host (.object draft (.inName scan)))
      (fun name => (EntryReader.takeName draft name).map host) where
  steps scan c := by
    rw [holds.steps (EntryReader.isOpen_object _ _), EntryReader.step, EntryReader.stepObject]
    cases scan.step c with
    | error fault => rfl
    | ok progress => cases progress <;> rfl

/-- A value that is skimmed leads to the place after it. -/
theorem holdsSkim (draft : Draft) :
    HoldsSkim step (fun skim => host (.object draft (.skimming skim)))
      (host (.object draft .after)) where
  steps skim c := by
    rw [holds.steps (EntryReader.isOpen_object _ _), EntryReader.step, EntryReader.stepObject]
    cases skim.step c with
    | error fault => rfl
    | ok progress =>
      cases progress with
      | more | closed => rfl
      | closedBefore => exact (holds.steps (EntryReader.isOpen_object draft .after) c).symm
  waits c blank := holds.step_ok (EntryReader.isOpen_object _ _) (if_pos blank)

/-! ### Members -/

/-- Within an object blanks between tokens make no difference. -/
theorem waits_object (draft : Draft) {place : MemberPlace}
    (between : place = .opened ∨ place = .name ∨ place = .after ∨ ∃ field,
      place = .colon field ∨ place = .value field) (c : Char) (blank : isBlank c = true) :
    step (host (.object draft place)) c = .ok (host (.object draft place)) := by
  refine holds.step_ok (EntryReader.isOpen_object _ _) ?_
  rcases between with rfl | rfl | rfl | ⟨field, rfl | rfl⟩ <;> exact if_pos blank

/-- The value of a field is recorded in the draft. -/
theorem outcome_fieldValue (draft : Draft) (field : Field) {value : Value} {text : List Char}
    (spelled : JsonText (.element value) text) {c : Char} (ends : EndsNumber c) (rest : List Char) :
    outcome step (host (.object draft (.value (some field)))) (text ++ c :: rest) =
      (value.scalar?.bind fun scalar => (draft.set field scalar).toOption).bind
        fun next => outcome step (host (.object next .after)) (c :: rest) := by
  have takes := holds.takes (EntryReader.takesField draft field) (EntryReader.isOpen_object _ _)
    (fun _ => EntryReader.isOpen_object _ _) fun _ => EntryReader.isOpen_object _ _
  refine takes.outcome_element ?_ ?_ ?_ spelled ends rest
  · rintro c (rfl | rfl) <;>
      exact ⟨.mistyped, holds.step_error (EntryReader.isOpen_object _ _) rfl⟩
  · exact holds.waits_object draft (.inr (.inr (.inr ⟨_, .inr rfl⟩)))
  · exact fun next => holds.waits_object next (.inr (.inr (.inl rfl)))

/-- What is skimmed leads to the place after it. -/
theorem outcome_skimmed (draft : Draft) {value : Value} {text : List Char}
    (spelled : JsonText (.element value) text) {c : Char} (ends : EndsNumber c) (rest : List Char) :
    outcome step (host (.object draft (.value none))) (text ++ c :: rest) =
      outcome step (host (.object draft .after)) (c :: rest) := by
  have skim := holds.holdsSkim draft
  have passes := skim.passes spelled [] c rest ends
  obtain ⟨blanks, first, inner, areBlanks, ⟨notBlank, -⟩, rfl⟩ := spelled.element_begins
  have waits := holds.waits_object draft (.inr (.inr (.inr ⟨none, .inr rfl⟩)))
  have same : step (host (.object draft (.value none))) first =
      step (host (.object draft (.skimming (.between .value [])))) first := by
    rw [skim.steps, holds.steps (EntryReader.isOpen_object _ _), EntryReader.step,
      EntryReader.stepObject, Skim.step, Skim.stepBetween, notBlank]
    cases Skim.beginValue [] first <;> rfl
  rw [List.append_assoc, List.cons_append, skim.run_blanksBetween areBlanks] at passes
  rw [List.append_assoc, List.cons_append, outcome_blanks areBlanks waits, outcome_cons_congr same]
  exact congrArg Except.toOption passes

/-- **A member records its value or leads past it**, as its name says. -/
theorem outcome_member (draft : Draft) {member : Option String × Value} {text : List Char}
    (spelled : JsonText (.member member) text) {c : Char} (ends : EndsNumber c) (rest : List Char) :
    outcome step (host (.object draft .name)) (text ++ c :: rest) =
      (draft.record? member).bind
        fun next => outcome step (host (.object next .after)) (c :: rest) := by
  cases spelled with
  | @member name value before nameText after text blanks named spelled =>
    have colon (field : Option Field) (text : List Char) :
        outcome step (host (.object draft (.colon field))) (after ++ ':' :: text) =
          outcome step (host (.object draft (.value field))) text := by
      have waits := holds.waits_object draft (.inr (.inr (.inr ⟨field, .inl rfl⟩)))
      rw [outcome_blanks blanks.2 waits]
      exact outcome_cons_of_ok (holds.step_ok (EntryReader.isOpen_object _ _) rfl) text
    have quote : step (host (.object draft .name)) '"' = .ok (host (.object draft (.inName {}))) :=
      holds.step_ok (EntryReader.isOpen_object _ _) rfl
    have waits := holds.waits_object draft (.inr (.inl rfl))
    simp only [List.append_assoc, List.cons_append]
    rw [outcome_blanks blanks.1 waits, (holds.takesName draft).outcome_name quote named]
    cases name with
    | none => rfl
    | some name =>
      cases known : Field.ofName? name with
      | none =>
        have taken : EntryReader.takeName draft name = .ok (.object draft (.colon none)) := by
          rw [EntryReader.takeName, known]
        have recorded : draft.record? (some name, value) = some draft := by
          simp [Draft.record?, known]
        rw [recorded]
        simp only [Option.bind_some, taken]
        exact (colon none _).trans (holds.outcome_skimmed draft spelled ends rest)
      | some field =>
        cases repeated : draft.has field with
        | true => simp [EntryReader.takeName, Draft.record?, known, repeated, Except.map,
            Except.toOption]
        | false =>
          have taken : EntryReader.takeName draft name =
              .ok (.object draft (.colon (some field))) := by
            simp [EntryReader.takeName, known, repeated]
          have recorded : draft.record? (some name, value) =
              value.scalar?.bind fun scalar => (draft.set field scalar).toOption := by
            simp [Draft.record?, known, repeated]
          rw [recorded]
          simp only [Option.bind_some, taken]
          exact (colon (some field) _).trans
            (holds.outcome_fieldValue draft field spelled ends rest)

theorem takesMembers :
    TakesJsonMembers step (fun draft => host (.object draft .name))
      (fun draft => host (.object draft .after)) (fun draft => host (.closed draft.entry))
      Draft.record? where
  member {draft _ _ _} rest spelled ends := holds.outcome_member draft spelled ends rest
  comma _ := holds.step_ok (EntryReader.isOpen_object _ _) rfl
  brace _ := holds.step_ok (EntryReader.isOpen_object _ _) rfl
  waits draft := holds.waits_object draft (.inr (.inl rfl))

/-! ### Items -/

/-- Within an array blanks between tokens make no difference. -/
theorem waits_array (draft : Draft) (remaining : List Field) {place : ItemPlace}
    (between : place = .opened ∨ place = .item ∨ place = .after) (c : Char)
    (blank : isBlank c = true) :
    step (host (.array draft remaining place)) c = .ok (host (.array draft remaining place)) := by
  refine holds.step_ok (EntryReader.isOpen_array _ _ _) ?_
  rcases between with rfl | rfl | rfl <;> exact if_pos blank

/-- An item is recorded as the first of the remaining fields. -/
theorem outcome_item (draft : Draft) (remaining : List Field) {place : ItemPlace}
    (expected : place = .opened ∨ place = .item) {item : Value} {text : List Char}
    (spelled : JsonText (.element item) text) {c : Char} (ends : EndsNumber c) (rest : List Char) :
    outcome step (host (.array draft remaining place)) (text ++ c :: rest) =
      (item.scalar?.bind fun scalar => (EntryReader.takeItem draft remaining scalar).toOption).bind
        fun next => outcome step (host (.array next.1 next.2 .after)) (c :: rest) := by
  have takes := holds.takes (EntryReader.takesItem draft remaining expected)
    (EntryReader.isOpen_array _ _ _) (fun _ => EntryReader.isOpen_array _ _ _)
    fun _ => EntryReader.isOpen_array _ _ _
  refine takes.outcome_element ?_ ?_ ?_ spelled ends rest
  · rintro c (rfl | rfl) <;> rcases expected with rfl | rfl <;>
      exact ⟨.mistyped, holds.step_error (EntryReader.isOpen_array _ _ _) rfl⟩
  · exact holds.waits_array draft remaining (expected.imp_right .inl)
  · exact fun next => holds.waits_array next.1 next.2 (.inr (.inr rfl))

/-- Items are recorded up to the closing bracket. -/
theorem outcome_items (draft : Draft) (remaining : List Field) {place : ItemPlace}
    (expected : place = .opened ∨ place = .item) {items : List Value} {text : List Char}
    (spelled : JsonText (.items items) text) (rest : List Char) :
    outcome step (host (.array draft remaining place)) (text ++ ']' :: rest) =
      (items.foldlM Draft.takeItem? (draft, remaining)).bind
        fun final => outcome step (host (.closed final.1.entry)) rest := by
  induction items generalizing text draft remaining place with
  | nil => cases spelled
  | cons item items ih =>
    rw [List.foldlM_cons]
    have closing (next : Draft × List Field) : step (host (.array next.1 next.2 .after)) ']' =
        .ok (host (.closed next.1.entry)) := holds.step_ok (EntryReader.isOpen_array _ _ _) rfl
    cases spelled with
    | lastItem spelled =>
      rw [holds.outcome_item draft remaining expected spelled (by decide)]
      change (Draft.takeItem? (draft, remaining) item).bind _ = _
      cases Draft.takeItem? (draft, remaining) item with
      | none => rfl
      | some next => exact outcome_cons_of_ok (closing next) rest
    | moreItems spelled others =>
      rw [List.append_assoc, List.cons_append,
        holds.outcome_item draft remaining expected spelled (by decide)]
      change (Draft.takeItem? (draft, remaining) item).bind _ = _
      cases Draft.takeItem? (draft, remaining) item with
      | none => rfl
      | some next =>
        obtain ⟨draft, remaining⟩ := next
        cases remaining with
        | nil =>
          -- After the last field there is no comma, and no field for a further item.
          have refused : step (host (.array draft [] .after)) ',' = .error .malformed :=
            holds.step_error (EntryReader.isOpen_array _ _ _) rfl
          have none : items.foldlM Draft.takeItem? (draft, []) = none := by
            cases items with
            | nil => cases others
            | cons item items => simp [Draft.takeItem?_nil]
          exact (outcome_cons_of_error refused _).trans (congrArg (Option.bind · _) none).symm
        | cons field remaining =>
          have comma : step (host (.array draft (field :: remaining) .after)) ',' =
              .ok (host (.array draft (field :: remaining) .item)) :=
            holds.step_ok (EntryReader.isOpen_array _ _ _) rfl
          exact (outcome_cons_of_ok comma _).trans (ih draft _ (.inr rfl) others)

/-! ### Values -/

/-- **An object or an array comes to the fields that are read from it.** -/
theorem outcome_bracketed {value : Value} {text : List Char}
    (spelled : JsonText (.value value) text) (bracketed : value.IsBracketed) (rest : List Char) :
    outcome step (host .start) (text ++ rest) =
      value.draft?.bind fun draft => outcome step (host (.closed draft.entry)) rest := by
  cases value with
  | scalar | unpaired => exact absurd bracketed id
  | object members =>
    have opens : step (host .start) '\x7b' = .ok (host (.object {} .opened)) :=
      holds.step_ok EntryReader.isOpen_start rfl
    have empty : step (host (.object {} .opened)) '\x7d' = .ok (host (.closed (Draft.entry {}))) :=
      holds.step_ok (EntryReader.isOpen_object _ _) rfl
    have begins : step (host (.object {} .opened)) '"' = step (host (.object {} .name)) '"' := by
      rw [holds.steps (EntryReader.isOpen_object _ _), holds.steps (EntryReader.isOpen_object _ _)]
      rfl
    exact holds.takesMembers.outcome_object opens empty begins (holds.waits_object _ (.inl rfl))
      spelled rest
  | array items =>
    have opens : step (host .start) '[' = .ok (host (.array {} Field.all .opened)) :=
      holds.step_ok EntryReader.isOpen_start rfl
    have empty : step (host (.array {} Field.all .opened)) ']' =
        .ok (host (.closed (Draft.entry {}))) :=
      holds.step_ok (EntryReader.isOpen_array _ _ _) rfl
    cases spelled with
    | emptyArray areBlanks =>
      rw [List.cons_append, List.append_assoc, outcome_cons_of_ok opens,
        outcome_blanks areBlanks (holds.waits_array _ _ (.inl rfl))]
      exact outcome_cons_of_ok empty rest
    | array spelled =>
      have unread : Draft.Unread {} Field.all := by decide
      have read : (Value.array items).draft? =
          (items.foldlM Draft.takeItem? ({}, Field.all)).map Prod.fst := by
        rw [Draft.foldlM_takeItem? unread, Value.draft?, Value.members?]
        split <;> rfl
      rw [List.cons_append, List.append_assoc, outcome_cons_of_ok opens, read]
      have recorded := holds.outcome_items {} Field.all (.inl rfl) spelled rest
      rw [Option.bind_map]
      exact recorded

/-- A value comes to the fields that are read from it; a scalar comes to nothing. -/
theorem outcome_value {value : Value} {text : List Char} (spelled : JsonText (.value value) text)
    {c : Char} (ends : EndsNumber c) (rest : List Char) :
    outcome step (host .start) (text ++ c :: rest) =
      value.draft?.bind fun draft => outcome step (host (.closed draft.entry)) (c :: rest) := by
  by_cases bracketed : value.IsBracketed
  · exact holds.outcome_bracketed spelled bracketed (c :: rest)
  · have takes := holds.takes EntryReader.takesMistyped EntryReader.isOpen_start
      EntryReader.isOpen_mistyped nofun
    rw [takes.outcome_flat spelled bracketed ends]
    cases value with
    | scalar | unpaired => rfl
    | array | object => exact absurd trivial bracketed

/-- **The blanks around an entry make no difference.** -/
theorem outcome_element {value : Value} {text : List Char}
    (spelled : JsonText (.element value) text) {c : Char} (ends : EndsNumber c) (rest : List Char) :
    outcome step (host .start) (text ++ c :: rest) =
      value.draft?.bind fun draft => outcome step (host (.closed draft.entry)) (c :: rest) := by
  have waits : ∀ c, isBlank c = true → step (host .start) c = .ok (host .start) :=
    fun _ blank => holds.step_ok EntryReader.isOpen_start (if_pos blank)
  exact spelled.outcome_of_value waits (fun draft => holds.waits draft.entry)
    (fun spelled _ => holds.outcome_value spelled) ends rest

end HoldsEntry

/-! ## Entries -/

theorem EntryReader.holdsEntry : HoldsEntry step id where
  steps {reader} _ c := by
    change reader.step c = (reader.step c).map id
    cases reader.step c <;> rfl
  waits _ _ blank := if_pos blank

theorem Value.isBracketed_of_draft? {value : Value} {draft : Draft}
    (read : value.draft? = some draft) : value.IsBracketed := by
  cases value with
  | scalar | unpaired => cases read
  | array | object => trivial

/-- **What is read as an entry from a text is determined by the value that the text spells.** -/
theorem readEntry_eq_ok_iff_recorded? {value : Value} {text : String}
    (spelled : JsonText (.element value) text.toList) (entry : Entry) :
    readEntry text = .ok entry ↔ value.recorded? = some entry := by
  have holds := EntryReader.holdsEntry
  rw [readEntry_eq_ok_iff, ← outcome_eq_some_iff, Value.recorded?, Option.map_eq_some_iff]
  constructor
  · -- A blank after the text changes nothing, and with it a number has ended too.
    intro read
    have withBlank : outcome EntryReader.step .start (text.toList ++ [' ']) =
        some (.closed entry) := by
      rw [outcome_append, read]
      rfl
    have ends := holds.outcome_element spelled (c := ' ') (by decide) []
    obtain ⟨draft, isRead, closed⟩ := Option.bind_eq_some_iff.mp (ends.symm.trans withBlank)
    exact ⟨draft, isRead, EntryReader.closed.inj (Option.some.inj closed)⟩
  · rintro ⟨draft, isRead, rfl⟩
    generalize text.toList = chars at spelled
    cases spelled with
    | element blanks spelled =>
      rw [outcome_blanks blanks.1 fun _ blank => if_pos blank]
      have read := holds.outcome_bracketed spelled (Value.isBracketed_of_draft? isRead)
      rw [isRead] at read
      exact (read _).trans (outcome_of_blanks blanks.2 (holds.waits draft.entry))

/-! ## Snapshots -/

/-- What a member makes of the rows that have been read. -/
def recordRow? (table : Table Entry) (member : Option String × Value) : Option (Table Entry) :=
  member.1.bind fun key => member.2.recorded?.map (table.insert ⟨key⟩)

namespace SnapshotReader

theorem holdsEntry (table : Table Entry) (key : CacheKey) :
    HoldsEntry step (takeEntry table key) where
  steps {reader} isOpen c := by
    cases reader with
    | closed entry => exact absurd rfl (isOpen entry)
    | start | mistyped | object | array => rfl
  waits _ _ blank := if_pos blank

theorem takesKey (table : Table Entry) :
    TakesString step (inKey table) (fun key => .ok (.colon table ⟨key⟩)) where
  steps scan c := by
    rw [step]
    cases scan.step c with
    | error fault => rfl
    | ok progress => cases progress <;> rfl

/-- A member records its entry under its key. -/
theorem outcome_member (table : Table Entry) {member : Option String × Value} {text : List Char}
    (spelled : JsonText (.member member) text) {c : Char} (ends : EndsNumber c) (rest : List Char) :
    outcome step (nextKey table) (text ++ c :: rest) =
      (recordRow? table member).bind fun next => outcome step (after next) (c :: rest) := by
  cases spelled with
  | @member name value before nameText after text blanks named spelled =>
    simp only [List.append_assoc, List.cons_append]
    rw [outcome_blanks blanks.1 fun _ blank => if_pos blank,
      (takesKey table).outcome_name rfl named]
    cases name with
    | none => rfl
    | some key =>
      have colon : outcome step (colon table ⟨key⟩) (after ++ ':' :: (text ++ c :: rest)) =
          outcome step (takeEntry table ⟨key⟩ .start) (text ++ c :: rest) := by
        rw [outcome_blanks blanks.2 fun _ blank => if_pos blank]
        exact outcome_cons_of_ok rfl _
      refine colon.trans (((holdsEntry table ⟨key⟩).outcome_element spelled ends rest).trans ?_)
      change _ = ((value.draft?.map Draft.entry).map (table.insert ⟨key⟩)).bind _
      rw [Option.map_map, Option.bind_map]
      rfl

theorem takesJsonMembers :
    TakesJsonMembers step nextKey after closed recordRow? where
  member {table _ _ _} rest spelled ends := outcome_member table spelled ends rest
  comma _ := rfl
  brace _ := rfl
  waits _ _ blank := if_pos blank

end SnapshotReader

/-- **What is read as a snapshot from an object is determined by its members.** -/
theorem readSnapshot_eq_ok_iff_members {members : List (Option String × Value)} {text : String}
    (spelled : JsonText (.element (.object members)) text.toList) (table : Table Entry) :
    readSnapshot text = .ok table ↔ members.foldlM recordRow? ∅ = some table := by
  rw [readSnapshot_eq_ok_iff, ← outcome_eq_some_iff]
  generalize text.toList = chars at spelled
  cases spelled with
  | @element _ before inner last blanks spelled =>
    have opens : SnapshotReader.step .start '\x7b' = .ok .opened := rfl
    have empty : SnapshotReader.step .opened '\x7d' = .ok (.closed ∅) := rfl
    have begins : SnapshotReader.step .opened '"' = SnapshotReader.step (.nextKey ∅) '"' := rfl
    have read := SnapshotReader.takesJsonMembers.outcome_object opens empty begins
      (fun _ blank => if_pos blank) spelled last
    have closed (final : Table Entry) :
        outcome SnapshotReader.step (.closed final) last = some (.closed final) :=
      outcome_of_blanks blanks.2 fun _ blank => if_pos blank
    rw [outcome_blanks blanks.1 fun _ blank => if_pos blank, read]
    constructor
    · intro reads
      obtain ⟨final, folded, isClosed⟩ := Option.bind_eq_some_iff.mp reads
      rw [closed] at isClosed
      exact SnapshotReader.closed.inj (Option.some.inj isClosed) ▸ folded
    · intro folded
      rw [folded]
      exact closed table

end IdentityCache.Json
