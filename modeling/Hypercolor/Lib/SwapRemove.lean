import Mathlib.Data.List.Perm.Basic

/-!
# Removing by swapping

`swapRemove` takes the element at an index out of a list and puts the last one in its place.

**`perm_of_swapRemove`**: what is left is the list without that element, in some order.
-/

namespace Hypercolor.Lib

open List

variable {α : Type} {l rest : List α} {a : α} {i : Nat}

/-- The element at an index and the list without it, the last element in its place; `none` where the
index is out of bounds. -/
def swapRemove (l : List α) (i : Nat) : Option (α × List α) :=
  match l[i]?, l.getLast? with
  | some a, some last => some (a, (l.set i last).dropLast)
  | _, _ => none

lemma swapRemove_isSome (h : i < l.length) : (swapRemove l i).isSome := by
  unfold swapRemove
  have hn : l ≠ [] := ne_nil_of_length_pos (Nat.zero_lt_of_lt h)
  rw [getElem?_eq_getElem h, getLast?_eq_getLast_of_ne_nil hn]
  rfl

lemma getElem?_of_swapRemove (h : swapRemove l i = some (a, rest)) : l[i]? = some a := by
  unfold swapRemove at h
  split at h
  · rename_i found _ hf _
    obtain ⟨rfl, -⟩ := Prod.mk.inj (Option.some_inj.mp h)
    exact hf
  · cases h

theorem perm_of_swapRemove (h : swapRemove l i = some (a, rest)) : l.Perm (a :: rest) := by
  have ha := getElem?_of_swapRemove h
  unfold swapRemove at h
  rw [ha] at h
  rcases eq_nil_or_concat l with rfl | ⟨init, last, rfl⟩
  · cases ha
  · rw [concat_eq_append] at h ha ⊢
    rw [getLast?_concat] at h
    obtain ⟨-, rfl⟩ := Prod.mk.inj (Option.some_inj.mp h)
    by_cases hi : i < init.length
    · rw [getElem?_append_left hi, getElem?_eq_getElem hi] at ha
      obtain rfl := Option.some_inj.mp ha
      rw [set_append_left _ _ hi, dropLast_concat]
      have hl : (init ++ [last]).Perm (last :: init[i] :: init.eraseIdx i) :=
        (perm_append_singleton last init).trans ((getElem_cons_eraseIdx_perm hi).symm.cons last)
      have hs : (init[i] :: init.set i last).Perm (init[i] :: last :: init.eraseIdx i) :=
        (set_perm_cons_eraseIdx hi last).cons _
      exact (hl.trans (List.Perm.swap ..)).trans hs.symm
    · have hle := (List.getElem?_eq_some_iff.mp ha).1
      rw [length_append, length_singleton] at hle
      obtain rfl : i = init.length := by omega
      rw [getElem?_concat_length] at ha
      obtain rfl := Option.some_inj.mp ha
      rw [set_append_right _ _ (Nat.le_refl _), Nat.sub_self, set_cons_zero, dropLast_concat]
      exact perm_append_singleton _ init

end Hypercolor.Lib
