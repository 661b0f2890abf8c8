import IdentityCache.Proofs.EntryReading
import IdentityCache.Proofs.Run

/-!
# Entries that are given in part

Whoever writes a snapshot by hand may leave members out, put them in any order and add members of
other names.  What such an object states is said without a reader: every field has the value that a
member with its name gives it, or no member has its name and the field is empty, false or zero
(`States`).  It is said of the names and the values that the text spells, so no spelling makes a
difference.

The reader takes the members one after the other.  What it comes to are the values under each name
in the order of the members, put after what has been read (`foldlM_record?_eq_some_iff`).  From this
follows that it comes to the entry that the members state, and to none if they state none.  The main
statement is `partial_entries_are_read`.
-/

namespace IdentityCache.Json

set_option autoImplicit false

/-! ## What members state -/

/-- The values that members have under the name of a field. -/
def valuesOf (field : Field) (members : List (Option String × Value)) : List Value :=
  (members.filter fun member => member.1 = some field.name).map Prod.snd

/-- The value of a field that is not given. -/
def zeroScalar : Field → Scalar
  | .roleArn | .audience => .text ""
  | .useRegionalSts => .truth false
  | .tokenExpiration => .integer 0

/-- The values that a field takes. -/
def Field.Takes (value : Value) : Field → Prop
  | .roleArn | .audience => ∃ text, value = .scalar (.text text)
  | .useRegionalSts => ∃ truth, value = .scalar (.truth truth)
  | .tokenExpiration =>
    ∃ n, value = .scalar (.integer n) ∧ -9223372036854775808 ≤ n ∧ n ≤ 9223372036854775807

/-- The entry that members state: all members have names, and a field has the one value that is
given under its name or, if none is given, the empty one. -/
structure States (members : List (Option String × Value)) (entry : Entry) : Prop where
  named : ∀ member ∈ members, member.1.isSome = true
  values : ∀ field : Field,
    valuesOf field members = [] ∧ fieldScalar entry field = zeroScalar field ∨
      valuesOf field members = [.scalar (fieldScalar entry field)]

/-- The entry that a value states by the members that it gives. -/
def Value.StatesEntry (value : Value) (entry : Entry) : Prop :=
  ∃ members, value.members? = some members ∧ States members entry

theorem Field.takes_fieldScalar (entry : Entry) (field : Field) :
    field.Takes (.scalar (fieldScalar entry field)) := by
  cases field with
  | roleArn | audience | useRegionalSts => exact ⟨_, rfl⟩
  | tokenExpiration => exact ⟨_, rfl, entry.tokenExpiration.inRange⟩

/-- What a field takes is its value in some entry. -/
theorem Field.Takes.exists_entry {field : Field} {value : Value} (takes : field.Takes value) :
    ∃ entry : Entry, value = .scalar (fieldScalar entry field) := by
  cases field with
  | roleArn =>
    obtain ⟨text, rfl⟩ := takes
    exact ⟨{ roleArn := text }, rfl⟩
  | audience =>
    obtain ⟨text, rfl⟩ := takes
    exact ⟨{ audience := text }, rfl⟩
  | useRegionalSts =>
    obtain ⟨truth, rfl⟩ := takes
    exact ⟨{ useRegionalSts := truth }, rfl⟩
  | tokenExpiration =>
    obtain ⟨n, rfl, inRange⟩ := takes
    exact ⟨{ tokenExpiration := ⟨n, inRange⟩ }, rfl⟩

/-! ## What has been read -/

namespace Draft

/-- The value of a field that has been read. -/
def scalar? (draft : Draft) : Field → Option Scalar
  | .roleArn => draft.roleArn.map .text
  | .audience => draft.audience.map .text
  | .useRegionalSts => draft.useRegionalSts.map .truth
  | .tokenExpiration => draft.tokenExpiration.map fun seconds => .integer seconds.toInt

/-- What has been read of a field, as a list of values. -/
def values (draft : Draft) (field : Field) : List Value :=
  (draft.scalar? field).toList.map .scalar

theorem has_eq (draft : Draft) (field : Field) :
    draft.has field = (draft.scalar? field).isSome := by
  cases field <;> simp [has, scalar?]

theorem scalar?_put (entry : Entry) (draft : Draft) (field other : Field) :
    (draft.put entry field).scalar? other =
      if other = field then some (fieldScalar entry field) else draft.scalar? other := by
  cases field <;> cases other <;> rfl

/-- A field that has been read has its value in the entry, and any other field is empty. -/
theorem fieldScalar_entry (draft : Draft) (field : Field) :
    fieldScalar draft.entry field = (draft.scalar? field).getD (zeroScalar field) := by
  obtain ⟨role, audience, regional, lifetime⟩ := draft
  cases field with
  | roleArn => cases role <;> rfl
  | audience => cases audience <;> rfl
  | useRegionalSts => cases regional <;> rfl
  | tokenExpiration => cases lifetime <;> rfl

theorem values_put (entry : Entry) (draft : Draft) (field other : Field) :
    (draft.put entry field).values other =
      if other = field then [.scalar (fieldScalar entry field)] else draft.values other := by
  unfold values
  rw [scalar?_put]
  split <;> rfl

/-- The values of the fields determine what has been read. -/
theorem ext_values {draft other : Draft} (same : ∀ field, draft.values field = other.values field) :
    draft = other := by
  have scalars : ∀ field, draft.scalar? field = other.scalar? field := by
    intro field
    have lists := same field
    unfold values at lists
    cases one : draft.scalar? field <;> cases two : other.scalar? field <;> simp_all
  have seconds {one two : Seconds} (equal : Scalar.integer one.toInt = .integer two.toInt) :
      one = two := by
    obtain ⟨n, inRange⟩ := one
    obtain ⟨m, inRangeToo⟩ := two
    cases equal
    rfl
  have role := Option.map_injective (fun _ _ => Scalar.text.inj) (scalars .roleArn)
  have audience := Option.map_injective (fun _ _ => Scalar.text.inj) (scalars .audience)
  have regional := Option.map_injective (fun _ _ => Scalar.truth.inj) (scalars .useRegionalSts)
  have lifetime := Option.map_injective (fun _ _ => seconds) (scalars .tokenExpiration)
  cases draft
  cases other
  simp_all

end Draft

/-! ## Members one after the other -/

theorem Field.name_inj {field other : Field} (same : field.name = other.name) : field = other :=
  Option.some.inj (by rw [← ofName?_name field, same, ofName?_name])

theorem Field.name_of_ofName? {name : String} {field : Field} (known : ofName? name = some field) :
    name = field.name := by
  have found := List.find?_some known
  exact (of_decide_eq_true found).symm

theorem valuesOf_cons_of_ne {field : Field} {name : Option String} (other : name ≠ some field.name)
    (value : Value) (members : List (Option String × Value)) :
    valuesOf field ((name, value) :: members) = valuesOf field members := by
  simp [valuesOf, other]

theorem valuesOf_cons (field other : Field) (value : Value)
    (members : List (Option String × Value)) :
    valuesOf other ((some field.name, value) :: members) =
      if other = field then value :: valuesOf other members else valuesOf other members := by
  by_cases same : other = field
  · subst same
    simp [valuesOf]
  · have differs : some field.name ≠ some other.name := fun equal =>
      same (Field.name_inj (Option.some.inj equal)).symm
    rw [valuesOf_cons_of_ne differs, if_neg same]

/-- A member with the name of a field is recorded if the field has not been read and takes its
value. -/
theorem Draft.record?_eq_some_iff (draft next : Draft) (field : Field) (value : Value) :
    draft.record? (some field.name, value) = some next ↔
      draft.has field = false ∧
        ∃ entry, value = .scalar (fieldScalar entry field) ∧ next = draft.put entry field := by
  simp only [record?, Option.bind_some, Field.ofName?_name]
  cases repeated : draft.has field with
  | true => simp
  | false =>
    simp only [Bool.false_eq_true, if_false, true_and]
    cases value with
    | scalar scalar =>
      have recorded : (draft.set field scalar).toOption = some next ↔
          draft.set field scalar = .ok next := by
        cases draft.set field scalar <;> simp [Except.toOption]
      simp only [Value.scalar?, Option.bind_some, recorded, draft.set_eq_ok_iff, Value.scalar.injEq]
    | unpaired | array | object => simp [Value.scalar?]

/-- A value that is recorded counts as read instead of as still to come. -/
theorem Draft.values_put_append {draft : Draft} {field : Field} (fresh : draft.has field = false)
    (entry : Entry) (members : List (Option String × Value)) (other : Field) :
    (draft.put entry field).values other ++ valuesOf other members =
      draft.values other ++
        valuesOf other ((some field.name, .scalar (fieldScalar entry field)) :: members) := by
  rw [values_put, valuesOf_cons]
  split
  · rename_i same
    subst same
    have unread : draft.scalar? other = none := by
      rw [has_eq] at fresh
      simpa using fresh
    simp [values, unread]
  · rfl

/-- If a further value is the only one of its field, the field has not been read before. -/
theorem Draft.of_values_append {draft final : Draft} {field : Field} {value : Value}
    {others : List Value} (same : draft.values field ++ value :: others = final.values field) :
    draft.has field = false ∧ value = .scalar (fieldScalar final.entry field) := by
  rw [has_eq, fieldScalar_entry]
  unfold values at same
  cases before : draft.scalar? field <;> cases after : final.scalar? field <;> simp_all

/-- **Reading members comes to what has been read before with their values after it**, field by
field, and to nothing if some field would have two values or one of another type. -/
theorem foldlM_record?_eq_some_iff (members : List (Option String × Value)) (draft final : Draft) :
    members.foldlM Draft.record? draft = some final ↔
      (∀ member ∈ members, member.1.isSome = true) ∧
        ∀ field, draft.values field ++ valuesOf field members = final.values field := by
  induction members generalizing draft with
  | nil =>
    simp only [List.foldlM_nil, valuesOf, List.filter_nil, List.map_nil, List.append_nil]
    constructor
    · intro same
      cases same
      exact ⟨nofun, fun _ => rfl⟩
    · exact fun same => congrArg some (Draft.ext_values same.2)
  | cons member members ih =>
    obtain ⟨name, value⟩ := member
    rw [List.foldlM_cons]
    cases name with
    | none =>
      constructor
      · intro read
        cases read
      · intro read
        cases read.1 _ List.mem_cons_self
    | some name =>
      rw [List.forall_mem_cons]
      cases known : Field.ofName? name with
      | none =>
        have skipped : draft.record? (some name, value) = some draft := by
          simp [Draft.record?, known]
        have others (field : Field) :
            valuesOf field ((some name, value) :: members) = valuesOf field members := by
          refine valuesOf_cons_of_ne (fun same => ?_) value members
          rw [Option.some.inj same, Field.ofName?_name] at known
          cases known
        simp only [skipped, Option.bind_eq_bind, Option.bind_some, others]
        exact (ih draft).trans ⟨fun read => ⟨⟨rfl, read.1⟩, read.2⟩, fun read => ⟨read.1.2, read.2⟩⟩
      | some field =>
        obtain rfl := Field.name_of_ofName? known
        constructor
        · intro read
          obtain ⟨next, recorded, read⟩ := Option.bind_eq_some_iff.mp read
          obtain ⟨fresh, entry, rfl, rfl⟩ := (draft.record?_eq_some_iff _ _ _).mp recorded
          obtain ⟨named, values⟩ := (ih _).mp read
          exact ⟨⟨rfl, named⟩, fun other =>
            (draft.values_put_append fresh entry members other).symm.trans (values other)⟩
        · rintro ⟨⟨-, named⟩, values⟩
          have here := values field
          rw [valuesOf_cons, if_pos rfl] at here
          obtain ⟨fresh, rfl⟩ := Draft.of_values_append here
          have recorded := (draft.record?_eq_some_iff _ field _).mpr ⟨fresh, final.entry, rfl, rfl⟩
          rw [recorded]
          exact (ih _).mpr ⟨named, fun other =>
            (draft.values_put_append fresh final.entry members other).trans (values other)⟩

/-! ## Entries -/

/-- The fields of an entry that are given. -/
def Draft.restrict (entry : Entry) (given : Field → Bool) : Draft where
  roleArn := if given .roleArn then some entry.roleArn else none
  audience := if given .audience then some entry.audience else none
  useRegionalSts := if given .useRegionalSts then some entry.useRegionalSts else none
  tokenExpiration := if given .tokenExpiration then some entry.tokenExpiration else none

theorem Draft.scalar?_restrict (entry : Entry) (given : Field → Bool) (field : Field) :
    (restrict entry given).scalar? field =
      if given field then some (fieldScalar entry field) else none := by
  cases field <;> simp only [restrict, scalar?] <;> split <;> rfl

theorem entry_eq_of_fieldScalar {entry other : Entry}
    (same : ∀ field, fieldScalar entry field = fieldScalar other field) : entry = other := by
  have role := Scalar.text.inj (same .roleArn)
  have audience := Scalar.text.inj (same .audience)
  have regional := Scalar.truth.inj (same .useRegionalSts)
  have lifetime := Scalar.integer.inj (same .tokenExpiration)
  obtain ⟨_, _, _, ⟨_, _⟩⟩ := entry
  obtain ⟨_, _, _, ⟨_, _⟩⟩ := other
  simp_all

/-- **Members are read as the entry that they state**, and as none if they state none. -/
theorem states_iff (members : List (Option String × Value)) (entry : Entry) :
    States members entry ↔
      ∃ draft, members.foldlM Draft.record? {} = some draft ∧ draft.entry = entry := by
  have unread (field : Field) : Draft.values {} field = [] := by cases field <;> rfl
  simp only [foldlM_record?_eq_some_iff, unread, List.nil_append]
  constructor
  · intro states
    let given (field : Field) : Bool := !(valuesOf field members).isEmpty
    have scalars (field : Field) : (Draft.restrict entry given).scalar? field =
        if given field then some (fieldScalar entry field) else none :=
      Draft.scalar?_restrict entry given field
    refine ⟨.restrict entry given, ⟨states.named, fun field => ?_⟩,
      entry_eq_of_fieldScalar fun field => ?_⟩
    · rw [Draft.values, scalars]
      rcases states.values field with ⟨none, -⟩ | one
      · simp [given, none]
      · simp [given, one]
    · rw [Draft.fieldScalar_entry, scalars]
      rcases states.values field with ⟨none, zero⟩ | one
      · simp [given, none, zero]
      · simp [given, one]
  · rintro ⟨draft, ⟨named, values⟩, rfl⟩
    refine ⟨named, fun field => ?_⟩
    rw [values field, draft.fieldScalar_entry, Draft.values]
    cases draft.scalar? field with
    | none => exact .inl ⟨rfl, rfl⟩
    | some scalar => exact .inr rfl

/-- What is read from a value is the entry that it states. -/
theorem Value.statesEntry_iff (value : Value) (entry : Entry) :
    value.StatesEntry entry ↔ value.recorded? = some entry := by
  simp only [StatesEntry, states_iff, recorded?, draft?, Option.map_eq_some_iff,
    Option.bind_eq_some_iff]
  grind

/-- Members of which each field has one value at most, which it takes, state an entry. -/
theorem exists_states {members : List (Option String × Value)}
    (named : ∀ member ∈ members, member.1.isSome = true)
    (takes : ∀ field : Field, valuesOf field members = [] ∨
      ∃ value, valuesOf field members = [value] ∧ field.Takes value) :
    ∃ entry, States members entry := by
  have each : ∀ field : Field, ∃ entry : Entry,
      valuesOf field members = [] ∧ fieldScalar entry field = zeroScalar field ∨
        valuesOf field members = [.scalar (fieldScalar entry field)] := by
    intro field
    rcases takes field with none | ⟨value, one, takes⟩
    · exact ⟨{}, .inl ⟨none, by cases field <;> rfl⟩⟩
    · obtain ⟨entry, rfl⟩ := takes.exists_entry
      exact ⟨entry, .inr one⟩
  obtain ⟨given, values⟩ := Classical.skolem.mp each
  let entry : Entry :=
    { roleArn := (given .roleArn).roleArn
      audience := (given .audience).audience
      useRegionalSts := (given .useRegionalSts).useRegionalSts
      tokenExpiration := (given .tokenExpiration).tokenExpiration }
  have same (field : Field) : fieldScalar entry field = fieldScalar (given field) field := by
    cases field <;> rfl
  exact ⟨entry, named, fun field => by rw [same]; exact values field⟩

/-- Members that state an entry give each field one value at most, and the field takes it. -/
theorem States.takes {members : List (Option String × Value)} {entry : Entry}
    (states : States members entry) (field : Field) :
    (valuesOf field members).length ≤ 1 ∧ ∀ value ∈ valuesOf field members, field.Takes value := by
  rcases states.values field with ⟨none, -⟩ | one
  · rw [none]
    exact ⟨Nat.zero_le 1, nofun⟩
  · rw [one]
    exact ⟨Nat.le_refl 1, List.forall_mem_singleton.mpr (field.takes_fieldScalar entry)⟩

/-- The item at the place of a field is the only value that an array gives to the field. -/
theorem valuesOf_zip {fields : List Field} (nodup : fields.Nodup) (items : List Value) {place : Nat}
    {field : Field} (isAt : fields[place]? = some field) :
    valuesOf field ((fields.map fun field => some field.name).zip items) =
      items[place]?.toList := by
  induction fields generalizing items place with
  | nil => cases isAt
  | cons first fields ih =>
    obtain ⟨notAmong, later⟩ := List.nodup_cons.mp nodup
    cases items with
    | nil => rfl
    | cons item items =>
      rw [List.map_cons, List.zip_cons_cons, valuesOf_cons]
      cases place with
      | zero =>
        cases isAt
        have noOthers :
            valuesOf field ((fields.map fun field => some field.name).zip items) = [] := by
          simp only [valuesOf, List.map_eq_nil_iff, List.filter_eq_nil_iff, decide_eq_true_eq]
          intro member among same
          obtain ⟨other, isOther, name⟩ := List.mem_map.mp (List.of_mem_zip among).1
          rw [same] at name
          exact notAmong (Field.name_inj (Option.some.inj name) ▸ isOther)
        simp [noOthers]
      | succ place =>
        have different : field ≠ first := by
          rintro rfl
          exact notAmong (List.mem_of_getElem? isAt)
        simpa [different] using ih later items isAt

/-- An array states the entry that an object states whose members give its items to the fields in
order, whatever else they are. -/
theorem statesEntry_array_iff {items : List Value} {members : List (Option String × Value)}
    (short : items.length ≤ 4) (named : ∀ member ∈ members, member.1.isSome = true)
    (given : ∀ (place : Nat) (field : Field), Field.all[place]? = some field →
      valuesOf field members = items[place]?.toList) (entry : Entry) :
    (Value.array items).StatesEntry entry ↔ (Value.object members).StatesEntry entry := by
  have zipNamed : ∀ member ∈ (Field.all.map fun field => some field.name).zip items,
      member.1.isSome = true := by
    intro member among
    obtain ⟨field, -, name⟩ := List.mem_map.mp (List.of_mem_zip among).1
    exact name ▸ rfl
  have same (field : Field) :
      valuesOf field ((Field.all.map fun field => some field.name).zip items) =
        valuesOf field members := by
    obtain ⟨place, isAt⟩ : ∃ place : Nat, Field.all[place]? = some field := by
      cases field with
      | roleArn => exact ⟨0, rfl⟩
      | audience => exact ⟨1, rfl⟩
      | useRegionalSts => exact ⟨2, rfl⟩
      | tokenExpiration => exact ⟨3, rfl⟩
    rw [valuesOf_zip (by decide) items isAt, given place field isAt]
  have isArray : (Value.array items).members? =
      some ((Field.all.map fun field => some field.name).zip items) := if_pos short
  constructor
  · rintro ⟨zipped, isZip, states⟩
    rw [isArray] at isZip
    cases isZip
    exact ⟨members, rfl, named, fun field => same field ▸ states.values field⟩
  · rintro ⟨others, isObject, states⟩
    cases isObject
    exact ⟨_, isArray, zipNamed, fun field => (same field).symm ▸ states.values field⟩

/-! ## Snapshots -/

/-- The rows of a snapshot are recorded one after the other if all its members are entries under
keys, and under each key the last one stays. -/
theorem exists_foldlM_recordRow? {members : List (Option String × Value)}
    (accepted : ∀ member ∈ members, member.1.isSome = true ∧ ∃ entry, member.2.StatesEntry entry)
    (table : Table Entry) :
    ∃ final, members.foldlM recordRow? table = some final ∧
      ∀ key : CacheKey, final.get? key =
        latestOr (fun member => decide (member.1 = some key.text))
          (fun member => member.2.recorded?) (table.get? key) members := by
  induction members generalizing table with
  | nil => exact ⟨table, rfl, fun _ => rfl⟩
  | cons member members ih =>
    obtain ⟨⟨named, entry, states⟩, later⟩ := List.forall_mem_cons.mp accepted
    obtain ⟨name, value⟩ := member
    obtain ⟨key, rfl⟩ := Option.isSome_iff_exists.mp named
    have isEntry := (value.statesEntry_iff entry).mp states
    have recorded : recordRow? table (some key, value) = some (table.insert ⟨key⟩ entry) := by
      simp [recordRow?, isEntry]
    obtain ⟨final, folded, found⟩ := ih later (table.insert ⟨key⟩ entry)
    refine ⟨final, by rw [List.foldlM_cons, recorded]; exact folded, fun other => ?_⟩
    rw [found, latestOr_cons, Table.get?_insert, isEntry]
    congr 1
    obtain ⟨other⟩ := other
    by_cases same : other = key
    · simp [same]
    · simp [same, Ne.symm same]

/-- A snapshot of which a member is no entry or has no key is not read. -/
theorem accepted_of_foldlM_recordRow? {members : List (Option String × Value)}
    {table final : Table Entry} (read : members.foldlM recordRow? table = some final) :
    ∀ member ∈ members, member.1.isSome = true ∧ ∃ entry, member.2.StatesEntry entry := by
  induction members generalizing table with
  | nil => exact nofun
  | cons member members ih =>
    obtain ⟨next, recorded, later⟩ := Option.bind_eq_some_iff.mp read
    obtain ⟨key, named, recorded⟩ := Option.bind_eq_some_iff.mp recorded
    obtain ⟨entry, isEntry, -⟩ := Option.map_eq_some_iff.mp recorded
    exact List.forall_mem_cons.mpr ⟨⟨Option.isSome_of_eq_some named, entry,
      (member.2.statesEntry_iff entry).mpr isEntry⟩, ih later⟩

/-! ## The main statement -/

/-- **An object that gives an entry in part is read as the entry that it states.**  Of any text that
spells a JSON value, the entry that is read is the one that the value states.

An object in which every field has at most one value, which is of its type, is read, in whatever
order its members come and whatever other members it has; a field without a value is empty, false or
zero.  An object in which a field has two values or one that it does not take is refused.  An array
of at most four items is read as any object that gives these items to the fields in order.

An object whose members are entries under keys is read as a snapshot, which holds under each key the
last of its entries and nothing under any other.  If one member is no entry, nothing is read. -/
theorem partial_entries_are_read :
    (∀ (value : Value) (text : String), JsonText (.element value) text.toList →
      ∀ entry, readEntry text = .ok entry ↔ value.StatesEntry entry) ∧
    (∀ (members : List (Option String × Value)) (text : String),
      JsonText (.element (.object members)) text.toList →
      ((∀ member ∈ members, member.1.isSome = true) →
        (∀ field : Field, valuesOf field members = [] ∨
          ∃ value, valuesOf field members = [value] ∧ field.Takes value) →
        ∃ entry, readEntry text = .ok entry ∧ States members entry) ∧
      ((∃ field : Field, 2 ≤ (valuesOf field members).length ∨
          ∃ value ∈ valuesOf field members, ¬ field.Takes value) →
        ∃ fault, readEntry text = .error fault)) ∧
    (∀ (items : List Value) (members : List (Option String × Value)) (text other : String),
      JsonText (.element (.array items)) text.toList →
      JsonText (.element (.object members)) other.toList →
      items.length ≤ 4 → (∀ member ∈ members, member.1.isSome = true) →
      (∀ (place : Nat) (field : Field), Field.all[place]? = some field →
        valuesOf field members = items[place]?.toList) →
      ∀ entry, readEntry text = .ok entry ↔ readEntry other = .ok entry) ∧
    (∀ (members : List (Option String × Value)) (text : String),
      JsonText (.element (.object members)) text.toList →
      ((∀ member ∈ members, member.1.isSome = true ∧ ∃ entry, member.2.StatesEntry entry) →
        ∃ table, readSnapshot text = .ok table ∧ ∀ (key : CacheKey) (entry : Entry),
          table.get? key = some entry ↔
            ∃ member, members.reverse.find? (fun member => member.1 = some key.text) = some member ∧
              member.2.StatesEntry entry) ∧
      ((∃ member ∈ members, ¬ ∃ entry, member.2.StatesEntry entry) →
        ∃ fault, readSnapshot text = .error fault)) := by
  have reads (value : Value) (text : String) (spelled : JsonText (.element value) text.toList)
      (entry : Entry) : readEntry text = .ok entry ↔ value.StatesEntry entry :=
    (readEntry_eq_ok_iff_recorded? spelled entry).trans (value.statesEntry_iff entry).symm
  refine ⟨reads, fun members text spelled => ⟨fun named takes => ?_, fun wrong => ?_⟩,
    fun items members text other array object short named given entry => ?_,
    fun members text spelled => ⟨fun accepted => ?_, fun wrong => ?_⟩⟩
  · obtain ⟨entry, states⟩ := exists_states named takes
    exact ⟨entry, (reads _ text spelled entry).mpr ⟨members, rfl, states⟩, states⟩
  · cases read : readEntry text with
    | error fault => exact ⟨fault, rfl⟩
    | ok entry =>
      obtain ⟨_, isObject, states⟩ := (reads _ text spelled entry).mp read
      cases isObject
      obtain ⟨field, twice | ⟨value, among, notTaken⟩⟩ := wrong
      · exact absurd (states.takes field).1 (Nat.not_le_of_lt twice)
      · exact absurd ((states.takes field).2 value among) notTaken
  · exact (reads _ text array entry).trans
      ((statesEntry_array_iff short named given entry).trans (reads _ other object entry).symm)
  · obtain ⟨table, folded, found⟩ := exists_foldlM_recordRow? accepted ∅
    refine ⟨table, (readSnapshot_eq_ok_iff_members spelled table).mpr folded, fun key entry => ?_⟩
    rw [found, latestOr, Table.get?_empty]
    cases last : members.reverse.find? fun member => member.1 = some key.text with
    | none => simp
    | some member => simp [Value.statesEntry_iff]
  · cases read : readSnapshot text with
    | error fault => exact ⟨fault, rfl⟩
    | ok table =>
      have folded := (readSnapshot_eq_ok_iff_members spelled table).mp read
      obtain ⟨member, among, noEntry⟩ := wrong
      exact absurd (accepted_of_foldlM_recordRow? folded member among).2 noEntry

/-- An object with a nested value under an unknown name is read as the array of its two fields is,
by itself and within a snapshot.  With a member twice it is refused. -/
theorem unknown_member_makes_no_difference :
    let role : Option String × Value := (some "RoleARN", .scalar (.text "r"))
    let skipped : Option String × Value := (some "x", .array [.scalar .fractional])
    let audience : Option String × Value := (some "Audience", .scalar (.text "a"))
    let part := "\x7b\"RoleARN\":\"r\",\"x\":[-0],\"Audience\":\"a\"\x7d"
    let whole := "\x7b\"k\":\x7b\"RoleARN\":\"r\",\"x\":[-0],\"Audience\":\"a\"\x7d\x7d"
    let twice := "\x7b\"RoleARN\":\"r\",\"RoleARN\":\"r\"\x7d"
    JsonText (.element (.object [role, skipped, audience])) part.toList ∧
      readEntry part = .ok { roleArn := "r", audience := "a" } ∧
      readEntry "[\"r\",\"a\"]" = .ok { roleArn := "r", audience := "a" } ∧
      (∃ fault, readEntry twice = .error fault) ∧
      ∃ table, readSnapshot whole = .ok table ∧
        table.get? ⟨"k"⟩ = some { roleArn := "r", audience := "a" } := by
  intro role skipped audience part whole twice
  have compact {value : Value} {spelling : List Char} (spelled : JsonText (.value value) spelling) :
      JsonText (.element value) spelling := by
    simpa using @JsonText.element value [] spelling [] ⟨nofun, nofun⟩ spelled
  have named {name : String} {value : Value} {spelling : List Char}
      (spelled : JsonText (.element value) spelling) :
      JsonText (.member (some name, value)) (quote name ++ ':' :: spelling) :=
    @JsonText.member _ _ [] _ [] _ ⟨nofun, nofun⟩ (.text (stringText_quote name)) spelled
  have quoted (text : String) : JsonText (.element (.scalar (.text text))) (quote text) :=
    compact (.scalar (.text (stringText_quote text)))
  have roleText : JsonText (.member role) "\"RoleARN\":\"r\"".toList := named (quoted "r")
  have audienceText : JsonText (.member audience) "\"Audience\":\"a\"".toList := named (quoted "a")
  have skippedText : JsonText (.member skipped) "\"x\":[-0]".toList :=
    named (compact (.array (.lastItem (compact (.fractional .negativeZero)))))
  have partText : JsonText (.element (.object [role, skipped, audience])) part.toList := by
    unfold part
    exact compact (.object (.moreMembers roleText (.moreMembers skippedText
      (.lastMember audienceText))))
  have wholeText : JsonText (.element (.object [(some "k", .object [role, skipped, audience])]))
      whole.toList := by
    unfold part at partText
    unfold whole
    exact compact (.object (.lastMember (named partText)))
  have twiceText : JsonText (.element (.object [role, role])) twice.toList := by
    unfold twice
    exact compact (.object (.moreMembers roleText (.lastMember roleText)))
  have arrayText : JsonText (.element (.array [role.2, audience.2])) "[\"r\",\"a\"]".toList :=
    compact (.array (.moreItems (quoted "r") (.lastItem (quoted "a"))))
  have states : States [role, skipped, audience] { roleArn := "r", audience := "a" } := by
    refine ⟨by simp [role, skipped, audience], fun field => ?_⟩
    cases field with
    | roleArn | audience => exact .inr rfl
    | useRegionalSts | tokenExpiration => exact .inl ⟨rfl, rfl⟩
  obtain ⟨reads, objects, arrays, snapshots⟩ := partial_entries_are_read
  have read := (reads _ part partText _).mpr ⟨_, rfl, states⟩
  refine ⟨partText, read, ?_, ?_, ?_⟩
  · refine (arrays _ _ _ part arrayText partText (by decide) states.named ?_ _).mpr read
    intro place field isAt
    match place with
    | 0 => cases isAt; rfl
    | 1 => cases isAt; rfl
    | 2 => cases isAt; rfl
    | 3 => cases isAt; rfl
    | _ + 4 => cases isAt
  · exact (objects _ twice twiceText).2 ⟨.roleArn, .inl (Nat.le_refl 2)⟩
  · obtain ⟨table, readWhole, found⟩ := (snapshots _ whole wholeText).1
      (List.forall_mem_singleton.mpr ⟨rfl, _, _, rfl, states⟩)
    exact ⟨table, readWhole, (found _ _).mpr ⟨_, rfl, _, rfl, states⟩⟩

end IdentityCache.Json
