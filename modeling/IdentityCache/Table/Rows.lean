import IdentityCache.Entry

/-!
# Rows in order of their keys

The rows of a table form a list whose keys strictly increase.  Each operation on rows
is described by what `Rows.find?` sees afterwards: `find?_insert`, `find?_filter_ne`
and `find?_map`.  Ordered rows in which every key finds the same value are the same
rows (`eq_of_find?_eq`).
-/

namespace IdentityCache

set_option autoImplicit false

namespace Rows

variable {α β : Type}

/-- Puts a row at its place, replacing the row that has the same key. -/
def insert (key : CacheKey) (value : α) : List (CacheKey × α) → List (CacheKey × α)
  | [] => [(key, value)]
  | (other, kept) :: rows =>
    if key = other then (key, value) :: rows
    else if key < other then (key, value) :: (other, kept) :: rows
    else (other, kept) :: insert key value rows

/-- The rows whose keys strictly increase. -/
def Ordered (rows : List (CacheKey × α)) : Prop := rows.Pairwise fun a b => a.1 < b.1

/-- The value of the first row with the given key. -/
def find? (key : CacheKey) : List (CacheKey × α) → Option α
  | [] => none
  | (other, value) :: rows => if key = other then some value else find? key rows

/-- A row after an insertion is the new one or was there before. -/
theorem mem_insert {key : CacheKey} {value : α} {rows : List (CacheKey × α)}
    {row : CacheKey × α} (member : row ∈ insert key value rows) :
    row = (key, value) ∨ row ∈ rows := by
  induction rows with
  | nil => exact .inl (List.mem_singleton.mp member)
  | cons head rows ih =>
    unfold insert at member
    split at member
    · rcases List.mem_cons.mp member with here | later
      · exact .inl here
      · exact .inr (List.mem_cons_of_mem _ later)
    · split at member
      · rcases List.mem_cons.mp member with here | later
        · exact .inl here
        · exact .inr later
      · rcases List.mem_cons.mp member with here | later
        · exact .inr (here ▸ List.mem_cons_self)
        · exact (ih later).imp_right (List.mem_cons_of_mem _)

/-- Inserting keeps rows in order. -/
theorem Ordered.insert {key : CacheKey} {value : α} {rows : List (CacheKey × α)}
    (ordered : Ordered rows) : Ordered (Rows.insert key value rows) := by
  induction rows with
  | nil => exact List.pairwise_singleton _ _
  | cons head rows ih =>
    have above := (List.pairwise_cons.mp ordered).1
    have tail := (List.pairwise_cons.mp ordered).2
    unfold Rows.insert
    split
    · rename_i same
      exact List.pairwise_cons.mpr ⟨fun row member => same ▸ above row member, tail⟩
    · rename_i different
      split
      · rename_i less
        refine List.pairwise_cons.mpr ⟨fun row member => ?_, ordered⟩
        rcases List.mem_cons.mp member with here | later
        · exact here ▸ less
        · exact CacheKey.lt_trans less (above row later)
      · rename_i notLess
        refine List.pairwise_cons.mpr ⟨fun row member => ?_, ih tail⟩
        rcases mem_insert member with here | later
        · exact here ▸ CacheKey.lt_of_not_lt notLess different
        · exact above row later

/-- Leaving rows out keeps the others in order. -/
theorem Ordered.filter {rows : List (CacheKey × α)} (ordered : Ordered rows)
    (keep : CacheKey × α → Bool) : Ordered (rows.filter keep) :=
  List.Pairwise.filter keep ordered

/-- Changing values keeps rows in order. -/
theorem Ordered.map {rows : List (CacheKey × α)} (ordered : Ordered rows) (change : α → β) :
    Ordered (rows.map fun row => (row.1, change row.2)) :=
  List.Pairwise.map _ (fun _ _ less => less) ordered

/-- After an insertion the inserted key finds the new value and every other key what it found. -/
theorem find?_insert (key : CacheKey) (value : α) (rows : List (CacheKey × α))
    (other : CacheKey) :
    find? other (insert key value rows) = if other = key then some value else find? other rows := by
  induction rows with
  | nil => rfl
  | cons head rows ih =>
    unfold insert
    split
    · rename_i same
      subst same
      simp only [find?]
      split <;> rfl
    · split
      · rfl
      · simp only [find?, ih]
        grind

/-- After a key was left out it finds nothing and every other key what it found. -/
theorem find?_filter_ne (key : CacheKey) (rows : List (CacheKey × α)) (other : CacheKey) :
    find? other (rows.filter fun row => row.1 ≠ key) =
      if other = key then none else find? other rows := by
  induction rows with
  | nil => simp [find?]
  | cons head rows ih =>
    simp only [List.filter_cons]
    grind [find?]

/-- After values were changed every key finds the changed value. -/
theorem find?_map (change : α → β) (rows : List (CacheKey × α)) (key : CacheKey) :
    find? key (rows.map fun row => (row.1, change row.2)) = (find? key rows).map change := by
  induction rows with
  | nil => rfl
  | cons head rows ih =>
    simp only [List.map_cons, find?, ih]
    split <;> rfl

/-- A key below all rows finds nothing. -/
theorem find?_eq_none_of_lt {key : CacheKey} {rows : List (CacheKey × α)}
    (above : ∀ row ∈ rows, key < row.1) : find? key rows = none := by
  induction rows with
  | nil => rfl
  | cons head rows ih =>
    have different : key ≠ head.1 := fun same =>
      CacheKey.lt_irrefl key (by simpa [← same] using above head List.mem_cons_self)
    simp [find?, different, ih fun row member => above row (List.mem_cons_of_mem _ member)]

/-- **Ordered rows are determined by what is found in them.** -/
theorem eq_of_find?_eq {rows others : List (CacheKey × α)} (ordered : Ordered rows)
    (otherOrdered : Ordered others) (agree : ∀ key, find? key rows = find? key others) :
    rows = others := by
  induction rows generalizing others with
  | nil =>
    cases others with
    | nil => rfl
    | cons head others => simpa [find?] using agree head.1
  | cons head rows ih =>
    cases others with
    | nil => simpa [find?] using agree head.1
    | cons otherHead others =>
      obtain ⟨above, tail⟩ := List.pairwise_cons.mp ordered
      obtain ⟨otherAbove, otherTail⟩ := List.pairwise_cons.mp otherOrdered
      have keys : head.1 = otherHead.1 := by
        apply Decidable.byContradiction
        intro different
        rcases Decidable.em (head.1 < otherHead.1) with less | notLess
        · have missing : find? head.1 (otherHead :: others) = none := by
            refine find?_eq_none_of_lt fun row member => ?_
            rcases List.mem_cons.mp member with here | later
            · exact here ▸ less
            · exact CacheKey.lt_trans less (otherAbove row later)
          have found := agree head.1
          rw [missing] at found
          simp [find?] at found
        · have greater := CacheKey.lt_of_not_lt notLess different
          have missing : find? otherHead.1 (head :: rows) = none := by
            refine find?_eq_none_of_lt fun row member => ?_
            rcases List.mem_cons.mp member with here | later
            · exact here ▸ greater
            · exact CacheKey.lt_trans greater (above row later)
          have found := agree otherHead.1
          rw [missing] at found
          simp [find?] at found
      have values : head.2 = otherHead.2 := by
        simpa [find?, keys] using agree head.1
      have tails : rows = others := by
        refine ih tail otherTail fun key => ?_
        rcases Decidable.em (key = head.1) with here | elsewhere
        · rw [here, find?_eq_none_of_lt above, keys, find?_eq_none_of_lt otherAbove]
        · simpa [find?, elsewhere, ← keys] using agree key
      rw [tails, Prod.ext keys values]

end Rows

end IdentityCache
