import IdentityCache.Json.EntryText
import IdentityCache.Json.Skim

/-!
# Entries read from JSON

An entry is read from an object that holds its members in any order, each at most
once, among any others, or from an array that holds their values in order.  What is
absent is empty, false or zero.

`EntryReader` is the machine: it keeps the fields read so far in a `Draft` and knows
its place in the object or the array.
-/

namespace IdentityCache.Json

set_option autoImplicit false

/-- The fields of an entry that have been read. -/
structure Draft where
  /-- The role, once read. -/
  roleArn : Option String := none
  /-- The audience, once read. -/
  audience : Option String := none
  /-- The choice of endpoint, once read. -/
  useRegionalSts : Option Bool := none
  /-- The lifetime, once read. -/
  tokenExpiration : Option Seconds := none

namespace Draft

/-- Whether a field has been read. -/
def has (draft : Draft) : Field → Bool
  | .roleArn => draft.roleArn.isSome
  | .audience => draft.audience.isSome
  | .useRegionalSts => draft.useRegionalSts.isSome
  | .tokenExpiration => draft.tokenExpiration.isSome

/-- Records the value of a field, if it has the field's type. -/
def set (draft : Draft) (field : Field) (value : Scalar) : Except Fault Draft :=
  match field, value with
  | .roleArn, .text value => .ok { draft with roleArn := some value }
  | .audience, .text value => .ok { draft with audience := some value }
  | .useRegionalSts, .truth value => .ok { draft with useRegionalSts := some value }
  | .tokenExpiration, .integer value =>
    match Seconds.ofInt? value with
    | some seconds => .ok { draft with tokenExpiration := some seconds }
    | none => .error .mistyped
  | _, _ => .error .mistyped

/-- The entry with the fields that were read and the defaults of the others. -/
def entry (draft : Draft) : Entry where
  roleArn := draft.roleArn.getD ""
  audience := draft.audience.getD ""
  useRegionalSts := draft.useRegionalSts.getD false
  tokenExpiration := draft.tokenExpiration.getD .zero

end Draft

/-- The place within an object. -/
inductive MemberPlace
  /-- After the opening brace: the first name or the closing brace. -/
  | opened
  /-- After a comma: a name. -/
  | name
  /-- Within a name. -/
  | inName (scan : StringScan)
  /-- After a name, which may be that of a field. -/
  | colon (field : Option Field)
  /-- After a colon. -/
  | value (field : Option Field)
  /-- Within the value of a field. -/
  | inValue (field : Field) (scan : ScalarScan)
  /-- Within the value of an unknown member. -/
  | skimming (skim : Skim)
  /-- After a member: a comma or the closing brace. -/
  | after

/-- The place within an array. -/
inductive ItemPlace
  /-- After the opening bracket: the first item or the closing bracket. -/
  | opened
  /-- After a comma: an item. -/
  | item
  /-- Within an item. -/
  | inItem (scan : ScalarScan)
  /-- After an item: a comma or the closing bracket. -/
  | after

/-- An entry that is being read. -/
inductive EntryReader
  /-- Before the opening bracket. -/
  | start
  /-- Within a scalar that stands where an entry belongs. -/
  | mistyped (scan : ScalarScan)
  /-- Within an object. -/
  | object (draft : Draft) (place : MemberPlace)
  /-- Within an array, of which the given fields are still to come. -/
  | array (draft : Draft) (remaining : List Field) (place : ItemPlace)
  /-- After the closing bracket. -/
  | closed (entry : Entry)

namespace EntryReader

/-- A scalar where a bracket belongs: it is read to its end and then refused. -/
def stepMistyped (scan : ScalarScan) (c : Char) : Except Fault ScalarScan :=
  match scan.step c with
  | .error fault => .error fault
  | .ok (.more scan) => .ok scan
  | .ok (.closed _) | .ok (.closedBefore _) => .error .mistyped

/-- Begins a scalar where a value is expected; a bracket is of the wrong type at once. -/
def beginScalar (c : Char) : Except Fault ScalarScan :=
  if c = '[' ∨ c = '\x7b' then .error .mistyped
  else
    match ScalarScan.begin? c with
    | some scan => .ok scan
    | none => .error .malformed

/-- Reads a character where a comma or the closing brace of an object belongs. -/
def stepAfterMember (draft : Draft) (c : Char) : Except Fault EntryReader :=
  if isBlank c then .ok (.object draft .after)
  else if c = '\x7d' then .ok (.closed draft.entry)
  else if c = ',' then .ok (.object draft .name)
  else .error .malformed

/-- Begins the name of a member. -/
def beginName (draft : Draft) (c : Char) : Except Fault EntryReader :=
  if c = '"' then .ok (.object draft (.inName {})) else .error .malformed

/-- A name has been read: that of a field may not come twice. -/
def takeName (draft : Draft) (name : String) : Except Fault EntryReader :=
  match Field.ofName? name with
  | some field =>
    if draft.has field then .error .mistyped else .ok (.object draft (.colon (some field)))
  | none => .ok (.object draft (.colon none))

/-- Reads a character within an object. -/
def stepObject (draft : Draft) (place : MemberPlace) (c : Char) : Except Fault EntryReader :=
  match place with
  | .opened =>
    if isBlank c then .ok (.object draft .opened)
    else if c = '\x7d' then .ok (.closed draft.entry)
    else beginName draft c
  | .name => if isBlank c then .ok (.object draft .name) else beginName draft c
  | .inName scan =>
    scan.step c >>= fun
      | .inl scan => .ok (.object draft (.inName scan))
      | .inr name => takeName draft name
  | .colon field =>
    if isBlank c then .ok (.object draft (.colon field))
    else if c = ':' then .ok (.object draft (.value field))
    else .error .malformed
  | .value field =>
    if isBlank c then .ok (.object draft (.value field))
    else
      match field with
      | some field => (beginScalar c).map fun scan => .object draft (.inValue field scan)
      | none => (Skim.beginValue [] c).map fun skim => .object draft (.skimming skim)
  | .inValue field scan =>
    scan.step c >>= fun
      | .more scan => .ok (.object draft (.inValue field scan))
      | .closed value => (draft.set field value).map fun draft => .object draft .after
      | .closedBefore value => draft.set field value >>= fun draft => stepAfterMember draft c
  | .skimming skim =>
    skim.step c >>= fun
      | .more skim => .ok (.object draft (.skimming skim))
      | .closed _ => .ok (.object draft .after)
      | .closedBefore _ => stepAfterMember draft c
  | .after => stepAfterMember draft c

/-- Reads a character where a comma or the closing bracket of an array belongs.  After the
last field there is no comma. -/
def stepAfterItem (draft : Draft) (remaining : List Field) (c : Char) :
    Except Fault EntryReader :=
  if isBlank c then .ok (.array draft remaining .after)
  else if c = ']' then .ok (.closed draft.entry)
  else if c = ',' ∧ remaining ≠ [] then .ok (.array draft remaining .item)
  else .error .malformed

/-- Records an item as the first of the remaining fields. -/
def takeItem (draft : Draft) (remaining : List Field) (value : Scalar) :
    Except Fault (Draft × List Field) :=
  match remaining with
  | [] => .error .malformed
  | field :: remaining => (draft.set field value).map fun draft => (draft, remaining)

/-- Reads a character within an array. -/
def stepArray (draft : Draft) (remaining : List Field) (place : ItemPlace) (c : Char) :
    Except Fault EntryReader :=
  match place with
  | .opened =>
    if isBlank c then .ok (.array draft remaining .opened)
    else if c = ']' then .ok (.closed draft.entry)
    else (beginScalar c).map fun scan => .array draft remaining (.inItem scan)
  | .item =>
    if isBlank c then .ok (.array draft remaining .item)
    else (beginScalar c).map fun scan => .array draft remaining (.inItem scan)
  | .inItem scan =>
    scan.step c >>= fun
      | .more scan => .ok (.array draft remaining (.inItem scan))
      | .closed value =>
        (takeItem draft remaining value).map fun (draft, remaining) =>
          .array draft remaining .after
      | .closedBefore value =>
        takeItem draft remaining value >>= fun (draft, remaining) =>
          stepAfterItem draft remaining c
  | .after => stepAfterItem draft remaining c

/-- Reads a further character.  After an entry only blanks may follow. -/
def step (reader : EntryReader) (c : Char) : Except Fault EntryReader :=
  match reader with
  | .start =>
    if isBlank c then .ok .start
    else if c = '\x7b' then .ok (.object {} .opened)
    else if c = '[' then .ok (.array {} Field.all .opened)
    else
      match ScalarScan.begin? c with
      | some scan => .ok (.mistyped scan)
      | none => .error .malformed
  | .mistyped scan => (stepMistyped scan c).map .mistyped
  | .object draft place => stepObject draft place c
  | .array draft remaining place => stepArray draft remaining place c
  | .closed entry => if isBlank c then .ok (.closed entry) else .error .malformed

/-- The fault of a text that ends with a scalar: what is still missing, or that its value is
of the wrong type if it is complete. -/
def scalarFaultAtEnd (scan : ScalarScan) (complete : Scalar → Fault) : Fault :=
  match scan.finish with
  | .error fault => fault
  | .ok value => complete value

/-- The fault of a text that ends before the entry is closed. -/
def faultAtEnd : EntryReader → Fault
  | .mistyped scan => scalarFaultAtEnd scan fun _ => .mistyped
  | .object draft (.inValue field scan) =>
    scalarFaultAtEnd scan fun value =>
      match draft.set field value with
      | .error fault => fault
      | .ok _ => .ended
  | .object _ (.skimming skim) => skim.faultAtEnd
  | .array draft remaining (.inItem scan) =>
    scalarFaultAtEnd scan fun value =>
      match takeItem draft remaining value with
      | .error fault => fault
      | .ok _ => .ended
  | .start | .object _ _ | .array _ _ _ | .closed _ => .ended

/-- What the end of the text makes of an entry. -/
def finish : EntryReader → Except Fault Entry
  | .closed entry => .ok entry
  | reader => .error reader.faultAtEnd

end EntryReader

/-- Reads an entry from a whole text. -/
def readEntry (text : String) : Except Fault Entry :=
  run EntryReader.step .start text.toList >>= EntryReader.finish

end IdentityCache.Json
