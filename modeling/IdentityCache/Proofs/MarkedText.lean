import Mathlib.Data.List.Basic
import Mathlib.Data.List.TakeWhile

/-!
# Texts cut at a mark

A text is cut at the first place where some character, the mark, stands.  What comes before holds no
mark, and this alone tells where the cut is: two parts of which the first holds no mark are got back
from the text that they make up with the mark between them.
-/

namespace IdentityCache

set_option autoImplicit false

variable {mark : Char} {front other back otherBack : List Char}

/-- What comes before the first mark. -/
theorem takeWhile_append_mark (plain : mark ∉ front) (back : List Char) :
    (front ++ mark :: back).takeWhile (fun c => decide (c ≠ mark)) = front := by
  have others : ∀ c ∈ front, decide (c ≠ mark) = true := fun c member =>
    decide_eq_true fun (same : c = mark) => plain (same ▸ member)
  rw [List.takeWhile_append_of_pos others, List.takeWhile_cons_of_neg (by simp), List.append_nil]

theorem mark_notMem_takeWhile (mark : Char) (text : List Char) :
    mark ∉ text.takeWhile (fun c => decide (c ≠ mark)) := by
  intro member
  have other := List.mem_takeWhile_imp member
  simp at other

/-- **A text is cut at its first mark in one way only.** -/
theorem eq_of_append_mark (plain : mark ∉ front) (plainToo : mark ∉ other)
    (same : front ++ mark :: back = other ++ mark :: otherBack) :
    front = other ∧ back = otherBack := by
  have fronts : front = other := by
    rw [← takeWhile_append_mark plain back, same, takeWhile_append_mark plainToo]
  subst fronts
  exact ⟨rfl, List.cons.inj (List.append_cancel_left same) |>.2⟩

/-- A text that is not at its end where its first mark should be has the mark there. -/
theorem eq_append_mark (mark : Char) (text : List Char) :
    text.drop (text.takeWhile fun c => decide (c ≠ mark)).length ≠ [] →
      text.takeWhile (fun c => decide (c ≠ mark)) ++
        mark :: (text.drop (text.takeWhile fun c => decide (c ≠ mark)).length).drop 1 = text := by
  induction text with
  | nil =>
      intro found
      exact absurd rfl found
  | cons c text ih =>
      intro found
      by_cases here : c = mark
      · subst here
        rw [List.takeWhile_cons_of_neg (by simp)]
        rfl
      · have goesOn : (c :: text).takeWhile (fun c => decide (c ≠ mark)) =
            c :: text.takeWhile fun c => decide (c ≠ mark) :=
          List.takeWhile_cons_of_pos (decide_eq_true here)
        rw [goesOn] at found ⊢
        exact congrArg (c :: ·) (ih found)

end IdentityCache
