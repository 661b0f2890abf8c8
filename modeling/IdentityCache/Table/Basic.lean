import IdentityCache.Table.Rows

/-!
# Tables keyed by ServiceAccount

A `Table` maps keys to values.  Its rows are kept in strictly increasing order of
their keys, so each key has at most one row and two tables with the same contents
are equal.  The order is also the order in which a table is written out.

The only view of a table that the rest of the library reasons with is `get?`:
`get?_insert`, `get?_erase` and `get?_map` say what each operation does to it, and
`Table.ext_get?` says that nothing else matters.
-/

namespace IdentityCache

set_option autoImplicit false

/-- A finite map from keys to values, written in order of its keys. -/
structure Table (α : Type) where
  /-- The rows in increasing order of their keys. -/
  rows : List (CacheKey × α) := []
  ordered : Rows.Ordered rows := by exact List.Pairwise.nil

namespace Table

variable {α β : Type}

instance [DecidableEq α] : DecidableEq (Table α) := fun a b =>
  if same : a.rows = b.rows then
    isTrue (by cases a; cases b; cases same; rfl)
  else
    isFalse fun equal => same (equal ▸ rfl)

instance [Repr α] : Repr (Table α) := ⟨fun table _ => repr table.rows⟩

/-- The table without rows. -/
def empty : Table α := {}

instance : EmptyCollection (Table α) := ⟨empty⟩

/-- The value recorded under a key. -/
def get? (table : Table α) (key : CacheKey) : Option α := Rows.find? key table.rows

/-- Whether a key has a row. -/
def contains (table : Table α) (key : CacheKey) : Bool := (table.get? key).isSome

/-- Records a value under a key, replacing what was there. -/
def insert (table : Table α) (key : CacheKey) (value : α) : Table α :=
  ⟨Rows.insert key value table.rows, table.ordered.insert⟩

/-- Removes the row of a key, if there is one. -/
def erase (table : Table α) (key : CacheKey) : Table α :=
  ⟨table.rows.filter fun row => row.1 ≠ key, table.ordered.filter _⟩

/-- Changes every value. -/
def map (change : α → β) (table : Table α) : Table β :=
  ⟨table.rows.map fun row => (row.1, change row.2), table.ordered.map change⟩

/-- The number of rows. -/
def size (table : Table α) : Nat := table.rows.length

/-- The keys in increasing order. -/
def keys (table : Table α) : List CacheKey := table.rows.map (·.1)

/-- The table overwritten with every row of another one. -/
def override (table newer : Table α) : Table α :=
  newer.rows.foldl (fun table row => table.insert row.1 row.2) table

/-- The table without the rows of the given keys. -/
def eraseAll (table : Table α) (keys : List CacheKey) : Table α := keys.foldl erase table

/-- The empty table holds nothing. -/
@[simp] theorem get?_empty (key : CacheKey) : (∅ : Table α).get? key = none := rfl

/-- An insertion is seen under its key only. -/
theorem get?_insert (table : Table α) (key : CacheKey) (value : α) (other : CacheKey) :
    (table.insert key value).get? other = if other = key then some value else table.get? other :=
  Rows.find?_insert key value table.rows other

/-- A removal is seen under its key only. -/
theorem get?_erase (table : Table α) (key other : CacheKey) :
    (table.erase key).get? other = if other = key then none else table.get? other :=
  Rows.find?_filter_ne key table.rows other

/-- Changed values are seen under every key. -/
theorem get?_map (change : α → β) (table : Table α) (key : CacheKey) :
    (table.map change).get? key = (table.get? key).map change :=
  Rows.find?_map change table.rows key

/-- **Tables with the same contents are the same table.** -/
theorem ext_get? {table other : Table α} (agree : ∀ key, table.get? key = other.get? key) :
    table = other := by
  have rows : table.rows = other.rows := Rows.eq_of_find?_eq table.ordered other.ordered agree
  cases table
  cases other
  cases rows
  rfl

end Table

end IdentityCache
