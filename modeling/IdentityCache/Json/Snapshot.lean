import IdentityCache.Json.EntryReader
import IdentityCache.Table.Basic

/-!
# Snapshots

A snapshot is an object whose members are entries under their keys.  It is how a
table of identities is written out, and how one is delivered in a ConfigMap.  When
a key is repeated the last of its entries counts.
-/

namespace IdentityCache.Json

set_option autoImplicit false

/-- A table as an object, in the order of its keys. -/
def snapshotText (table : Table Entry) : List Char :=
  object (table.rows.map fun row => member row.1.text (entryText row.2))

/-- A snapshot that is being read, with the rows read so far. -/
inductive SnapshotReader
  /-- Before the opening brace. -/
  | start
  /-- Within a scalar that stands where a snapshot belongs. -/
  | mistyped (scan : ScalarScan)
  /-- After the opening brace: the first key or the closing brace. -/
  | opened
  /-- After a comma: a key. -/
  | nextKey (table : Table Entry)
  /-- Within a key. -/
  | inKey (table : Table Entry) (scan : StringScan)
  /-- After a key. -/
  | colon (table : Table Entry) (key : CacheKey)
  /-- Within the entry of a key. -/
  | inEntry (table : Table Entry) (key : CacheKey) (reader : EntryReader)
  /-- After an entry: a comma or the closing brace. -/
  | after (table : Table Entry)
  /-- After the closing brace. -/
  | closed (table : Table Entry)

namespace SnapshotReader

/-- Begins a key. -/
def beginKey (table : Table Entry) (c : Char) : Except Fault SnapshotReader :=
  if c = '"' then .ok (.inKey table {}) else .error .malformed

/-- Records an entry as soon as its bracket closes. -/
def takeEntry (table : Table Entry) (key : CacheKey) : EntryReader → SnapshotReader
  | .closed entry => .after (table.insert key entry)
  | reader => .inEntry table key reader

/-- Reads a further character.  After a snapshot only blanks may follow. -/
def step (reader : SnapshotReader) (c : Char) : Except Fault SnapshotReader :=
  match reader with
  | .start =>
    if isBlank c then .ok .start
    else if c = '\x7b' then .ok .opened
    else if c = '[' then .error .mistyped
    else
      match ScalarScan.begin? c with
      | some scan => .ok (.mistyped scan)
      | none => .error .malformed
  | .mistyped scan => (EntryReader.stepMistyped scan c).map .mistyped
  | .opened =>
    if isBlank c then .ok .opened
    else if c = '\x7d' then .ok (.closed ∅)
    else beginKey ∅ c
  | .nextKey table => if isBlank c then .ok (.nextKey table) else beginKey table c
  | .inKey table scan =>
    (scan.step c).map fun
      | .inl scan => .inKey table scan
      | .inr key => .colon table ⟨key⟩
  | .colon table key =>
    if isBlank c then .ok (.colon table key)
    else if c = ':' then .ok (.inEntry table key .start)
    else .error .malformed
  | .inEntry table key reader => (reader.step c).map (takeEntry table key)
  | .after table =>
    if isBlank c then .ok (.after table)
    else if c = '\x7d' then .ok (.closed table)
    else if c = ',' then .ok (.nextKey table)
    else .error .malformed
  | .closed table => if isBlank c then .ok (.closed table) else .error .malformed

/-- What the end of the text makes of a snapshot. -/
def finish : SnapshotReader → Except Fault (Table Entry)
  | .closed table => .ok table
  | .mistyped scan => .error (EntryReader.scalarFaultAtEnd scan fun _ => .mistyped)
  | .inEntry _ _ reader => .error reader.faultAtEnd
  | .start | .opened | .nextKey _ | .inKey _ _ | .colon _ _ | .after _ => .error .ended

end SnapshotReader

/-- Reads a snapshot from a whole text. -/
def readSnapshot (text : String) : Except Fault (Table Entry) :=
  run SnapshotReader.step .start text.toList >>= SnapshotReader.finish

end IdentityCache.Json
