import Mathlib.Data.List.Nodup

/-!
# Ledgers

A ledger is a list of which no entry is ever removed or moved: entries are added at its end and
changed in their places.  So a mark that no change takes away stays in its place for ever
(`HasMarked.mono`), and what holds of every entry goes on to hold if it holds of what is added
and of what is changed (`LedgerHolds.append`, `LedgerHolds.modify`).
-/

namespace IdentityCache

set_option autoImplicit false

variable {α : Type}

/-- A ledger grows: every entry stays in its place and becomes what it may become. -/
def LedgerGrows (becomes : α → α → Prop) (before after : List α) : Prop :=
  ∀ (index : Nat) (status : α), before[index]? = some status →
    ∃ next, after[index]? = some next ∧ becomes status next

/-- A ledger has an entry in a place, and the entry is marked. -/
def HasMarked (marked : α → Prop) (ledger : List α) (index : Nat) : Prop :=
  ∃ status, ledger[index]? = some status ∧ marked status

/-- Every entry of a ledger is as it should be in its place. -/
def LedgerHolds (holds : Nat → α → Prop) (ledger : List α) : Prop :=
  ∀ (index : Nat) (status : α), ledger[index]? = some status → holds index status

variable {becomes : α → α → Prop} {marked : α → Prop} {holds : Nat → α → Prop}
  {ledger : List α}

theorem ledgerGrows_refl (same : ∀ status, becomes status status) :
    LedgerGrows becomes ledger ledger :=
  fun _ status found => ⟨status, found, same status⟩

theorem ledgerGrows_append (same : ∀ status, becomes status status) (added : List α) :
    LedgerGrows becomes ledger (ledger ++ added) := by
  intro index status found
  obtain ⟨inside, -⟩ := List.getElem?_eq_some_iff.mp found
  exact ⟨status, by rw [List.getElem?_append_left inside, found], same status⟩

theorem ledgerGrows_modify (same : ∀ status, becomes status status) {change : α → α}
    (changes : ∀ status, becomes status (change status)) (place : Nat) :
    LedgerGrows becomes ledger (ledger.modify place change) := by
  intro index status found
  rw [List.getElem?_modify, found]
  by_cases here : place = index
  · exact ⟨change status, by simp [here], changes status⟩
  · exact ⟨status, by simp [here], same status⟩

/-- A mark that no entry loses stays in its place. -/
theorem HasMarked.mono {after : List α} (grows : LedgerGrows becomes ledger after)
    (keeps : ∀ {status next}, becomes status next → marked status → marked next) {index : Nat}
    (hasMarked : HasMarked marked ledger index) : HasMarked marked after index := by
  obtain ⟨status, found, isMarked⟩ := hasMarked
  obtain ⟨next, there, becomes⟩ := grows index status found
  exact ⟨next, there, keeps becomes isMarked⟩

/-- The entry that is found in a marked place is marked. -/
theorem HasMarked.marked_of_found {index : Nat} (hasMarked : HasMarked marked ledger index)
    {status : α} (found : ledger[index]? = some status) : marked status := by
  obtain ⟨same, there, isMarked⟩ := hasMarked
  cases found.symm.trans there
  exact isMarked

theorem HasMarked.index_lt {index : Nat} (hasMarked : HasMarked marked ledger index) :
    index < ledger.length := by
  obtain ⟨status, found, -⟩ := hasMarked
  exact (List.getElem?_eq_some_iff.mp found).1

theorem LedgerHolds.mono {holdsToo : Nat → α → Prop} (ledgerHolds : LedgerHolds holds ledger)
    (implies : ∀ index status, holds index status → holdsToo index status) :
    LedgerHolds holdsToo ledger :=
  fun index status found => implies index status (ledgerHolds index status found)

theorem LedgerHolds.append (ledgerHolds : LedgerHolds holds ledger) {added : α}
    (new : holds ledger.length added) : LedgerHolds holds (ledger ++ [added]) := by
  intro index status found
  by_cases inside : index < ledger.length
  · rw [List.getElem?_append_left inside] at found
    exact ledgerHolds index status found
  · rw [List.getElem?_append_right (Nat.le_of_not_lt inside), List.getElem?_singleton] at found
    split at found
    · rename_i first
      have last : index = ledger.length := by omega
      cases found
      exact last ▸ new
    · cases found

theorem LedgerHolds.modify (ledgerHolds : LedgerHolds holds ledger) {place : Nat}
    {change : α → α} (changed : ∀ status, holds place status → holds place (change status)) :
    LedgerHolds holds (ledger.modify place change) := by
  intro index status found
  rw [List.getElem?_modify, Option.map_eq_map, Option.map_eq_some_iff] at found
  obtain ⟨before, there, rfl⟩ := found
  by_cases here : place = index
  · subst here
    rw [if_pos rfl]
    exact changed before (ledgerHolds place before there)
  · rw [if_neg here]
    exact ledgerHolds index before there

/-- What an operation yields is distinct from what was yielded before if it is none of that. -/
theorem nodup_filterMap_concat {β : Type} {yields : α → Option β} {run : List α} {item : α}
    (distinct : (run.filterMap yields).Nodup)
    (fresh : ∀ value, yields item = some value → value ∉ run.filterMap yields) :
    ((run ++ [item]).filterMap yields).Nodup := by
  rw [List.filterMap_append]
  cases yielded : yields item with
  | none => simpa [yielded] using distinct
  | some value =>
    have last : [item].filterMap yields = [value] := by simp [yielded]
    rw [last, List.nodup_append]
    refine ⟨distinct, List.nodup_singleton value, fun earlier member other isLast => ?_⟩
    rw [List.mem_singleton] at isLast
    rintro rfl
    exact fresh earlier (isLast ▸ yielded) member

end IdentityCache
