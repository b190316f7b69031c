import Mathlib.Data.List.Perm.Basic
import Mathlib.Tactic.Common

/-!
Contract: an array from which an element is taken by putting the last one in its place.

Owns: `swapRemove`, and that it leaves the other elements, each as often as before.
-/

namespace MidWay.Lib

variable {α : Type}

/-- The last element comes into the place, and the array is one shorter. -/
def swapRemove (entries : List α) (place : Nat) : List α :=
  match entries.getLast? with
  | none => []
  | some last => (entries.set place last).dropLast

theorem swapRemove_perm (front : List α) (entry : α) (back : List α) :
    (swapRemove (front ++ entry :: back) front.length).Perm (front ++ back) := by
  rcases List.eq_nil_or_concat back with rfl | ⟨middle, last, rfl⟩
  · have isLast : (front ++ [entry]).getLast? = some entry := List.getLast?_concat
    rw [swapRemove, isLast]
    dsimp only
    rw [List.set_append_right _ _ (Nat.le_refl _), Nat.sub_self, List.set_cons_zero,
      List.dropLast_concat, List.append_nil]
  · have isLast : (front ++ entry :: (middle ++ [last])).getLast? = some last := by
      rw [← List.cons_append, ← List.append_assoc, List.getLast?_concat]
    rw [List.concat_eq_append, swapRemove, isLast]
    dsimp only
    rw [List.set_append_right _ _ (Nat.le_refl _), Nat.sub_self, List.set_cons_zero,
      ← List.cons_append, ← List.append_assoc, List.dropLast_concat]
    exact (List.perm_append_singleton last middle).symm.append_left front

/-- The elements are those of before without the one in the place. -/
theorem swapRemove_erase [DecidableEq α] {entries : List α} {place : Nat} {entry : α}
    (isThere : entries[place]? = some entry) :
    (swapRemove entries place).Perm (entries.erase entry) := by
  obtain ⟨inside, isEntry⟩ := List.getElem?_eq_some_iff.mp isThere
  have split : entries = entries.take place ++ entry :: entries.drop (place + 1) := by
    rw [← isEntry, List.getElem_cons_drop, List.take_append_drop]
  have frontLength : (entries.take place).length = place := by
    grind
  have removed := swapRemove_perm (entries.take place) entry (entries.drop (place + 1))
  rw [frontLength, ← split] at removed
  apply removed.trans
  have withEntry : (entry :: (entries.take place ++ entries.drop (place + 1))).Perm entries := by
    grind
  have erased := withEntry.erase entry
  rw [List.erase_cons_head] at erased
  exact erased

end MidWay.Lib
