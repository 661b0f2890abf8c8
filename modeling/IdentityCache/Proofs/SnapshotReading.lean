import IdentityCache.Proofs.JsonRuns
import IdentityCache.Proofs.ScalarReading
import IdentityCache.Proofs.Table

/-!
# Snapshots are read as they are written

The reader of a snapshot and the reader of an entry within it are the same kind of machine: both
take an object member by member and keep what they have read so far.  For such a machine one
member at a time is enough (`run_object`).

An entry keeps the fields that have been read in a draft, which after all four fields is the
entry (`run_entryText`).  A snapshot records an entry as soon as its reader is closed, and this
happens at the closing brace and not before (`run_inEntry`).  The rows of a table come in order,
so recording them one by one gives the table back (`readSnapshot_snapshotText`).
-/

namespace IdentityCache.Json

set_option autoImplicit false

/-! ## Objects -/

/-- A machine that keeps the scan of a string within its state reads the string to its end. -/
theorem StringScan.Reads.run {σ : Type} {step : σ → Char → Except Fault σ}
    (inside : StringScan → σ) {after : Except Fault σ} {text : String} {scan : StringScan}
    {rest : List Char}
    (goesOn : ∀ scan next c, scan.step c = .ok (.inl next) →
      step (inside scan) c = .ok (inside next))
    (closes : ∀ scan c, scan.step c = .ok (.inr text) → step (inside scan) c = after)
    (reads : scan.Reads text rest) : run step (inside scan) rest = after := by
  induction reads with
  | closed stepped => exact (run_singleton step _ _).trans (closes _ _ stepped)
  | more stepped _ ih => exact (run_cons_of_ok (goesOn _ _ _ stepped) _).trans ih

section Objects

variable {σ ι α : Type}

/-- A machine that takes objects member by member.  Each member leads from a state before a name
to what the character after it makes of the state with the member added, as long as the members
that are still to come may be added. -/
structure TakesMembers (step : σ → Char → Except Fault σ) (name closed : ι → σ)
    (add : ι → α → ι) (text : α → List Char) (MayCome : ι → List α → Prop) : Prop where
  quoted : ∀ item, ∃ rest, text item = '"' :: rest
  keeps : ∀ {state item items}, MayCome state (item :: items) → MayCome (add state item) items
  comma : ∀ {state item items}, MayCome state (item :: items) →
    run step (name state) (text item ++ [',']) = .ok (name (add state item))
  brace : ∀ {state item items}, MayCome state (item :: items) →
    run step (name state) (text item ++ ['\x7d']) = .ok (closed (add state item))

variable {step : σ → Char → Except Fault σ} {name closed : ι → σ} {add : ι → α → ι}
  {text : α → List Char} {MayCome : ι → List α → Prop}

/-- Members with commas between them are taken up to the closing brace. -/
theorem TakesMembers.run_members (takes : TakesMembers step name closed add text MayCome)
    {state : ι} {item : α} {items : List α} (mayCome : MayCome state (item :: items)) :
    run step (name state) ((((item :: items).map text).intersperse [',']).flatten ++ ['\x7d']) =
      .ok (closed ((item :: items).foldl add state)) := by
  induction items generalizing state item with
  | nil => simpa using takes.brace mayCome
  | cons next items ih =>
    have split : (((item :: next :: items).map text).intersperse [',']).flatten ++ ['\x7d'] =
        (text item ++ [',']) ++
          ((((next :: items).map text).intersperse [',']).flatten ++ ['\x7d']) := by
      simp
    rw [split, run_append_of_ok (takes.comma mayCome)]
    exact ih (takes.keeps mayCome)

/-- **An object is taken as a whole if its members are taken one by one.** -/
theorem TakesMembers.run_object (takes : TakesMembers step name closed add text MayCome)
    {before opened : σ} {start : ι} (opens : step before '\x7b' = .ok opened)
    (empty : step opened '\x7d' = .ok (closed start))
    (begins : step opened '"' = step (name start) '"') {items : List α}
    (mayCome : MayCome start items) :
    run step before (object (items.map text)) = .ok (closed (items.foldl add start)) := by
  rw [object, run_cons_of_ok opens]
  cases items with
  | nil => exact (run_singleton step opened '\x7d').trans empty
  | cons item items =>
    obtain ⟨rest, quote⟩ := takes.quoted item
    obtain ⟨others, first⟩ : ∃ others,
        (((item :: items).map text).intersperse [',']).flatten ++ ['\x7d'] = '"' :: others := by
      cases items <;> simp [quote]
    have members := takes.run_members mayCome
    rw [first, run_cons] at members ⊢
    rwa [begins]

end Objects

/-! ## Entries -/

/-- The draft in which a field of an entry has been recorded. -/
def Draft.put (entry : Entry) (draft : Draft) : Field → Draft
  | .roleArn => { draft with roleArn := some entry.roleArn }
  | .audience => { draft with audience := some entry.audience }
  | .useRegionalSts => { draft with useRegionalSts := some entry.useRegionalSts }
  | .tokenExpiration => { draft with tokenExpiration := some entry.tokenExpiration }

theorem Draft.has_put (entry : Entry) (draft : Draft) (field other : Field) :
    (draft.put entry field).has other = (decide (other = field) || draft.has other) := by
  cases field <;> cases other <;> rfl

/-- Different fields of which none has been recorded. -/
def Draft.Unread (draft : Draft) (fields : List Field) : Prop :=
  fields.Nodup ∧ ∀ field ∈ fields, draft.has field = false

instance (draft : Draft) (fields : List Field) : Decidable (draft.Unread fields) :=
  inferInstanceAs (Decidable (_ ∧ _))

theorem Draft.Unread.put {draft : Draft} {field : Field} {fields : List Field} (entry : Entry)
    (unread : draft.Unread (field :: fields)) : (draft.put entry field).Unread fields := by
  obtain ⟨isNew, nodup⟩ := List.nodup_cons.mp unread.1
  refine ⟨nodup, fun other member => ?_⟩
  have different : other ≠ field := fun same => isNew (same ▸ member)
  simp [has_put, different, unread.2 other (List.mem_cons_of_mem _ member)]

theorem Draft.set_fieldScalar (entry : Entry) (draft : Draft) (field : Field) :
    draft.set field (fieldScalar entry field) = .ok (draft.put entry field) := by
  cases field with
  | tokenExpiration =>
    have inRange : Seconds.ofInt? entry.tokenExpiration.toInt = some entry.tokenExpiration :=
      dif_pos entry.tokenExpiration.inRange
    simp [set, fieldScalar, inRange, put]
  | roleArn | audience | useRegionalSts => rfl

/-- Of an entry every number fits an unsigned word. -/
theorem readFrom_fieldText (entry : Entry) (field : Field) :
    (fieldScalar entry field).ReadFrom (fieldText entry field) := by
  refine (scalarText_fieldText entry field).reads fun n same => ?_
  cases field with
  | tokenExpiration =>
    have bounds := entry.tokenExpiration.inRange
    cases same
    have fits : entry.tokenExpiration.toInt.natAbs < 18446744073709551616 := by omega
    exact fits
  | roleArn | audience | useRegionalSts => cases same

theorem Field.ofName?_name (field : Field) : ofName? field.name = some field := by
  cases field <;> rfl

namespace EntryReader

theorem run_inName {name : String} {draft : Draft} {scan : StringScan} {rest : List Char}
    (reads : scan.Reads name rest) :
    run step (.object draft (.inName scan)) rest = takeName draft name := by
  refine reads.run (fun scan => object draft (.inName scan)) (fun scan next c goesOn => ?_)
    (fun scan c closes => ?_)
  · simp only [step, stepObject, goesOn]
    rfl
  · simp only [step, stepObject, closes]
    rfl

/-- A value that has been read counts when the character after it comes. -/
theorem run_inValue {value : Scalar} {draft next : Draft} {field : Field} {scan : ScalarScan}
    {rest : List Char} (reads : scan.Reads value rest) (recorded : draft.set field value = .ok next)
    {c : Char} (ends : EndsNumber c) :
    run step (.object draft (.inValue field scan)) (rest ++ [c]) = stepAfterMember next c := by
  induction reads with
  | @closed scan last closes =>
    have closed : step (.object draft (.inValue field scan)) last = .ok (.object next .after) := by
      simp only [step, stepObject, closes]
      exact congrArg (Except.map _) recorded
    exact (run_cons_of_ok closed _).trans (run_singleton _ _ _)
  | closedBefore closes =>
    rw [List.nil_append, run_singleton]
    simp only [step, stepObject, closes c ends]
    exact congrArg (· >>= fun draft => stepAfterMember draft c) recorded
  | more goesOn _ ih =>
    refine (run_cons_of_ok ?_ _).trans ih
    simp only [step, stepObject, goesOn]
    rfl

theorem beginScalar_of_begin? {c : Char} {scan : ScalarScan}
    (begins : ScalarScan.begin? c = some scan) : beginScalar c = .ok scan := by
  rw [beginScalar, if_neg (not_bracket_of_begin? begins), begins]

theorem stepObject_value {draft : Draft} {field : Field} {scan : ScalarScan} {c : Char}
    (begins : ScalarScan.begin? c = some scan) :
    step (.object draft (.value (some field))) c = .ok (.object draft (.inValue field scan)) := by
  simp [step, stepObject, (beginsValue_of_begin? begins).1, beginScalar_of_begin? begins,
    Except.map]

/-- A member that has not been read yet is recorded. -/
theorem run_member (entry : Entry) {draft : Draft} {field : Field}
    (fresh : draft.has field = false) {c : Char} (ends : EndsNumber c) :
    run step (.object draft .name) (member field.name (fieldText entry field) ++ [c]) =
      stepAfterMember (draft.put entry field) c := by
  obtain ⟨inName, quoted, readsName⟩ := (stringText_quote field.name).reads
  obtain ⟨first, rest, scan, spelled, begins, readsValue⟩ := readFrom_fieldText entry field
  have named : run step (.object draft (.inName {})) inName =
      .ok (.object draft (.colon (some field))) := by
    rw [run_inName readsName]
    simp [takeName, Field.ofName?_name, fresh]
  have text : member field.name (fieldText entry field) ++ [c] =
      '"' :: (inName ++ ':' :: first :: (rest ++ [c])) := by
    simp [member, quoted, spelled]
  rw [text, run_cons_of_ok rfl, run_append_of_ok named, run_cons_of_ok rfl,
    run_cons_of_ok (stepObject_value begins)]
  exact run_inValue readsValue (draft.set_fieldScalar entry field) ends

theorem takesMembers (entry : Entry) :
    TakesMembers step (fun draft => object draft .name) (fun draft => closed draft.entry)
      (Draft.put entry) (fun field => member field.name (fieldText entry field)) Draft.Unread where
  quoted _ := ⟨_, rfl⟩
  keeps unread := unread.put entry
  comma unread := run_member entry (unread.2 _ List.mem_cons_self) (by decide)
  brace unread := run_member entry (unread.2 _ List.mem_cons_self) (by decide)

/-- **An entry is read as it is written.** -/
theorem run_entryText (entry : Entry) :
    run step .start (entryText entry) = .ok (.closed entry) := by
  have opens : step .start '\x7b' = .ok (.object {} .opened) := rfl
  have unread : Draft.Unread {} Field.all := by decide
  exact (takesMembers entry).run_object opens rfl rfl unread

/-- After an entry only blanks are read, and the entry stays. -/
theorem eq_closed_of_run {entry : Entry} {text : List Char} {reader : EntryReader}
    (read : run step (.closed entry) text = .ok reader) : reader = .closed entry :=
  (run_of_waits (fun _ => rfl) read).1

theorem finish_eq_ok_iff (reader : EntryReader) (entry : Entry) :
    reader.finish = .ok entry ↔ reader = .closed entry := by
  cases reader <;> simp [finish]

end EntryReader

theorem readEntry_eq_ok_iff (text : String) (entry : Entry) :
    readEntry text = .ok entry ↔ run EntryReader.step .start text.toList = .ok (.closed entry) := by
  unfold readEntry
  cases run EntryReader.step .start text.toList with
  | error fault => exact ⟨nofun, nofun⟩
  | ok reader =>
    exact (reader.finish_eq_ok_iff entry).trans ⟨congrArg Except.ok, Except.ok.inj⟩

/-! ## Snapshots -/

namespace SnapshotReader

theorem run_inKey {key : String} {table : Table Entry} {scan : StringScan} {rest : List Char}
    (reads : scan.Reads key rest) :
    run step (.inKey table scan) rest = .ok (.colon table ⟨key⟩) := by
  refine reads.run (inKey table) (fun scan next c goesOn => ?_) (fun scan c closes => ?_)
  · simp only [step, goesOn]
    rfl
  · simp only [step, closes]
    rfl

/-- An entry is not recorded before it is closed. -/
theorem run_inEntry_of_open {table : Table Entry} {key : CacheKey} {text : List Char}
    {reader next : EntryReader} (read : run EntryReader.step reader text = .ok next)
    (isOpen : ∀ entry, next ≠ .closed entry) :
    run step (.inEntry table key reader) text = .ok (.inEntry table key next) := by
  induction text generalizing reader with
  | nil =>
    cases Except.ok.inj read
    rfl
  | cons c text ih =>
    cases stepped : reader.step c with
    | error fault =>
      rw [run_cons, stepped] at read
      cases read
    | ok middle =>
      rw [run_cons_of_ok stepped] at read
      have middleOpen : ∀ entry, middle ≠ .closed entry := by
        rintro entry rfl
        exact isOpen entry (EntryReader.eq_closed_of_run read)
      have kept : takeEntry table key middle = .inEntry table key middle := by
        cases middle with
        | closed entry => exact absurd rfl (middleOpen entry)
        | start | mistyped | object | array => rfl
      refine (run_cons_of_ok ?_ text).trans (ih read)
      simp only [step, stepped, Except.map, kept]

/-- **An entry is recorded at its closing bracket**, which is no blank. -/
theorem run_inEntry {table : Table Entry} {key : CacheKey} {text : List Char} {last : Char}
    {entry : Entry} (read : run EntryReader.step .start (text ++ [last]) = .ok (.closed entry))
    (notBlank : isBlank last = false) :
    run step (.inEntry table key .start) (text ++ [last]) =
      .ok (.after (table.insert key entry)) := by
  cases before : run EntryReader.step .start text with
  | error fault =>
    rw [run_append, before] at read
    cases read
  | ok reader =>
    rw [run_append_of_ok before, run_singleton] at read
    have isOpen : ∀ entry, reader ≠ .closed entry := by
      rintro entry rfl
      simp only [EntryReader.step, notBlank] at read
      cases read
    rw [run_append_of_ok (run_inEntry_of_open before isOpen), run_singleton]
    simp only [step, read]
    rfl

theorem run_member (table : Table Entry) (row : CacheKey × Entry) :
    run step (.nextKey table) (member row.1.text (entryText row.2)) =
      .ok (.after (table.insert row.1 row.2)) := by
  obtain ⟨inKey, quoted, readsKey⟩ := (stringText_quote row.1.text).reads
  have text : member row.1.text (entryText row.2) = '"' :: (inKey ++ ':' :: entryText row.2) := by
    simp [member, quoted]
  rw [text, run_cons_of_ok rfl, run_append_of_ok (run_inKey readsKey), run_cons_of_ok rfl]
  obtain ⟨inner, closes⟩ : ∃ inner, entryText row.2 = inner ++ ['\x7d'] :=
    ⟨'\x7b' :: _, rfl⟩
  have read := EntryReader.run_entryText row.2
  rw [closes] at read ⊢
  exact run_inEntry read rfl

theorem takesMembers :
    TakesMembers step nextKey closed
      (fun (table : Table Entry) (row : CacheKey × Entry) => table.insert row.1 row.2)
      (fun row => member row.1.text (entryText row.2)) (fun _ _ => True) where
  quoted _ := ⟨_, rfl⟩
  keeps _ := trivial
  comma _ := run_append_of_ok (run_member _ _) [',']
  brace _ := run_append_of_ok (run_member _ _) ['\x7d']

theorem finish_eq_ok_iff (reader : SnapshotReader) (table : Table Entry) :
    reader.finish = .ok table ↔ reader = .closed table := by
  cases reader <;> simp [finish]

end SnapshotReader

theorem readSnapshot_eq_ok_iff (text : String) (table : Table Entry) :
    readSnapshot text = .ok table ↔
      run SnapshotReader.step .start text.toList = .ok (.closed table) := by
  unfold readSnapshot
  cases run SnapshotReader.step .start text.toList with
  | error fault => exact ⟨nofun, nofun⟩
  | ok reader =>
    exact (SnapshotReader.finish_eq_ok_iff reader table).trans
      ⟨congrArg Except.ok, Except.ok.inj⟩

/-- **A table is read back from the text that it is written as**, whatever its keys and the texts
and numbers in its entries are. -/
theorem readSnapshot_snapshotText (table : Table Entry) :
    readSnapshot (String.ofList (snapshotText table)) = .ok table := by
  have opens : SnapshotReader.step .start '\x7b' = .ok .opened := rfl
  have read : run SnapshotReader.step .start (object (table.rows.map _)) = .ok (.closed _) :=
    SnapshotReader.takesMembers.run_object opens rfl rfl trivial
  have rebuilt : table.rows.foldl (fun table row => table.insert row.1 row.2) ∅ = table :=
    table.empty_override
  rw [readSnapshot, String.toList_ofList, snapshotText, read, rebuilt]
  rfl

end IdentityCache.Json
