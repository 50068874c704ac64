import Mathlib.Data.List.Perm.Basic

/-!
# Lists of clients and events

A run replaces one client at a time and puts events at the end of a list. What is picked from such
lists changes by what is picked from the one that was replaced or put there.
-/

namespace Mintmark

variable {α β : Type}

/-- Replacing one entry of a list changes what is picked from the list by what is picked from it. -/
theorem filterMap_set_perm (pick : α → Option β) {l : List α} {i : Nat} {a : α}
    (here : l[i]? = some a) :
    ∃ rest, (l.filterMap pick).Perm ((pick a).toList ++ rest) ∧
      ∀ b, ((l.set i b).filterMap pick).Perm ((pick b).toList ++ rest) := by
  obtain ⟨bound, eq⟩ := List.getElem?_eq_some_iff.mp here
  have cons (b : α) (l : List α) :
      (b :: l).filterMap pick = (pick b).toList ++ l.filterMap pick := by
    cases picked : pick b with
    | none => rw [List.filterMap_cons_none picked]; rfl
    | some _ => rw [List.filterMap_cons_some picked]; rfl
  refine ⟨(l.eraseIdx i).filterMap pick, ?_, fun b => ?_⟩
  · rw [← cons, ← eq]
    exact (List.getElem_cons_eraseIdx_perm bound).symm.filterMap pick
  · rw [← cons]
    exact (List.set_perm_cons_eraseIdx bound b).filterMap pick

theorem filterMap_append_option (pick : α → Option β) (l : List α) (event : Option α) :
    (l ++ event.toList).filterMap pick = l.filterMap pick ++ (event.bind pick).toList := by
  rw [List.filterMap_append]
  cases event with
  | none => rfl
  | some e => cases picked : pick e <;> simp [picked]

theorem concat_sublist_concat (front : List α) {l : List α} {a x : α}
    (sub : (front ++ [a]).Sublist (l ++ [x])) :
    (front ++ [a]).Sublist l ∨ a = x ∧ front.Sublist l := by
  rw [← List.reverse_sublist, List.reverse_concat, List.reverse_concat] at sub
  cases sub with
  | cons _ sub =>
    left
    rwa [← List.reverse_sublist, List.reverse_concat]
  | cons_cons _ sub => exact .inr ⟨rfl, List.reverse_sublist.mp sub⟩

end Mintmark
