import IdentityCache.Table.Basic

/-!
# Overwriting and thinning out tables

What the operations on whole tables do to the view `Table.get?`.  A key of the newer
table wins when one table is overwritten with another (`get?_override`), and the keys
that are removed together are gone together (`get?_eraseAll`).

An older table that is overwritten with a newer one and then thinned out by the keys
that only the older one had is the newer table (`eraseAll_override`).
-/

namespace IdentityCache

set_option autoImplicit false

variable {α β : Type}

/-- A key finds a value in rows exactly if one of the rows has it. -/
theorem Rows.isSome_find?_iff (key : CacheKey) (rows : List (CacheKey × α)) :
    (find? key rows).isSome ↔ key ∈ rows.map (·.1) := by
  induction rows with
  | nil => simp [find?]
  | cons row rows ih =>
    by_cases same : key = row.1
    · simp [find?, same]
    · simp only [find?, same, if_false, ih, List.map_cons, List.mem_cons, false_or]

/-- In ordered rows a key finds what stands beside it. -/
theorem Rows.mem_iff_find? {rows : List (CacheKey × α)} (ordered : Ordered rows)
    (key : CacheKey) (value : α) : (key, value) ∈ rows ↔ find? key rows = some value := by
  induction rows with
  | nil => simp [find?]
  | cons row rows ih =>
    obtain ⟨above, tail⟩ := List.pairwise_cons.mp ordered
    rw [List.mem_cons, ih tail]
    by_cases same : key = row.1
    · subst same
      rw [find?_eq_none_of_lt above]
      simp [find?, Prod.ext_iff, eq_comm]
    · simp [find?, same, Prod.ext_iff]

/-- Ordered rows that are inserted one after the other overwrite what a table held. -/
theorem Rows.get?_foldl_insert {rows : List (CacheKey × α)} (ordered : Ordered rows)
    (table : Table α) (key : CacheKey) :
    (rows.foldl (fun table row => table.insert row.1 row.2) table).get? key =
      (find? key rows).or (table.get? key) := by
  induction rows generalizing table with
  | nil => rfl
  | cons row rows ih =>
    obtain ⟨above, tail⟩ := List.pairwise_cons.mp ordered
    rw [List.foldl_cons, ih tail, Table.get?_insert]
    by_cases same : key = row.1
    · subst same
      rw [find?_eq_none_of_lt above]
      simp [find?]
    · simp only [find?, same, if_false]

namespace Table

/-- The keys of a table are those that have a value. -/
theorem mem_keys (table : Table α) (key : CacheKey) :
    key ∈ table.keys ↔ (table.get? key).isSome :=
  (Rows.isSome_find?_iff key table.rows).symm

/-- Insertions under different keys can be made in either order. -/
theorem insert_comm {key other : CacheKey} (differ : key ≠ other) (table : Table α)
    (value second : α) :
    (table.insert key value).insert other second =
      (table.insert other second).insert key value := by
  refine ext_get? fun third => ?_
  simp only [get?_insert]
  split
  · rename_i same
    rw [if_neg fun own => differ (own.symm.trans same)]
  · rfl

/-- Removals can be made in either order. -/
theorem erase_comm (table : Table α) (key other : CacheKey) :
    (table.erase key).erase other = (table.erase other).erase key := by
  refine ext_get? fun third => ?_
  simp only [get?_erase]
  split <;> split <;> rfl

/-- Overwriting takes the newer value where there is one. -/
theorem get?_override (table newer : Table α) (key : CacheKey) :
    (table.override newer).get? key = (newer.get? key).or (table.get? key) :=
  Rows.get?_foldl_insert newer.ordered table key

theorem empty_override (newer : Table α) : (∅ : Table α).override newer = newer := by
  refine ext_get? fun key => ?_
  rw [get?_override, get?_empty, Option.or_none]

/-- Removing several keys is seen under each of them and nowhere else. -/
theorem get?_eraseAll (table : Table α) (keys : List CacheKey) (key : CacheKey) :
    (table.eraseAll keys).get? key = if key ∈ keys then none else table.get? key := by
  unfold eraseAll
  induction keys generalizing table with
  | nil => simp
  | cons first keys ih =>
    rw [List.foldl_cons, ih, get?_erase]
    by_cases later : key ∈ keys
    · simp [later]
    · by_cases same : key = first
      · simp [same]
      · simp [same, later]

/-- Of the keys that are removed only the set matters. -/
theorem eraseAll_congr (table : Table α) {keys others : List CacheKey}
    (same : ∀ key, key ∈ keys ↔ key ∈ others) : table.eraseAll keys = table.eraseAll others := by
  refine ext_get? fun key => ?_
  simp only [get?_eraseAll, same]

/-- Overwriting a table and removing keys from it a second time changes nothing. -/
theorem eraseAll_override_again (table newer : Table α) (keys : List CacheKey) :
    (((table.override newer).eraseAll keys).override newer).eraseAll keys =
      (table.override newer).eraseAll keys := by
  refine ext_get? fun key => ?_
  simp only [get?_eraseAll, get?_override]
  split
  · rfl
  · rw [← Option.or_assoc, Option.or_self]

/-- Removing a key that has no row changes nothing. -/
theorem erase_eq_self {table : Table α} {key : CacheKey} (absent : table.get? key = none) :
    table.erase key = table := by
  refine ext_get? fun other => ?_
  rw [get?_erase]
  split
  · rename_i same
    rw [same, absent]
  · rfl

/-- Removing keys that have no row changes nothing. -/
theorem eraseAll_eq_self {table : Table α} {keys : List CacheKey}
    (absent : ∀ key ∈ keys, table.get? key = none) : table.eraseAll keys = table := by
  refine ext_get? fun key => ?_
  rw [get?_eraseAll]
  split
  · rename_i removed
    exact (absent key removed).symm
  · rfl

/-- Changing values to themselves changes nothing. -/
theorem map_eq_self {change : α → α} {table : Table α}
    (fixed : ∀ key value, table.get? key = some value → change value = value) :
    table.map change = table := by
  refine ext_get? fun key => ?_
  rw [get?_map]
  cases found : table.get? key with
  | none => rfl
  | some value => rw [Option.map_some, fixed key value found]

/-- **An older table that is overwritten and rid of what only it had is the newer table.** -/
theorem eraseAll_override (change : α → β) (older newer : Table α) :
    ((older.map change).override (newer.map change)).eraseAll
        (older.keys.filter fun key => !newer.contains key) =
      newer.map change := by
  refine ext_get? fun key => ?_
  simp only [get?_eraseAll, get?_override, get?_map, List.mem_filter, mem_keys]
  cases inNewer : newer.get? key with
  | some value => simp [contains, inNewer]
  | none =>
    cases inOlder : older.get? key with
    | some value => simp [contains, inNewer]
    | none => simp

end Table

end IdentityCache
