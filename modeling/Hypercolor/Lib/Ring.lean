import Mathlib.Data.List.Basic
import Mathlib.Data.List.Infix

/-!
# Rings

A ring of cells keeps the newest entries of a log that only grows, each stamped with its number in
the log. A reader who remembers a position is given what is still held after it and is told how
many entries were overwritten before.

* **`Holds.push`**: writing the next entry over the cell its number falls on keeps the ring right.
* **`Holds.window`**: the cells of the last entries give exactly the end of the log.
* **`Follows.advance`**: reading on from the remembered position keeps the reader's account.
-/

namespace Hypercolor.Lib.Ring

open List

variable {α : Type}

/-- An entry with its number in the log. -/
structure Entry (α : Type) where
  cursor : Nat
  event : α

/-! ## Cells -/

/-- The last entries of the log are in the cells their numbers fall on. -/
def Holds (cells : List (Option (Entry α))) (log : List α) : Prop :=
  ∀ i x, log[i]? = some x → log.length ≤ i + cells.length → cells[i % cells.length]? = some (some ⟨i, x⟩)

/-- The entry of a number, where its cell still has it. -/
def look (cells : List (Option (Entry α))) (i : Nat) : Option α :=
  (cells[i % cells.length]?.join.filter fun entry => entry.cursor = i).map Entry.event

lemma Holds.nil (cells : List (Option (Entry α))) : Holds cells [] := by
  intro i x h
  simp at h

variable {cells : List (Option (Entry α))} {log : List α}

lemma Holds.look (h : Holds cells log) {i : Nat} {x : α} (hx : log[i]? = some x)
    (hr : log.length ≤ i + cells.length) : look cells i = some x := by
  simp [Ring.look, h i x hx hr]

/-- **Writing the next entry.** The cell it takes is the one of the oldest entry, which leaves the
window. -/
theorem Holds.push (h : Holds cells log) (hc : 0 < cells.length) (x : α) :
    Holds (cells.set (log.length % cells.length) (some ⟨log.length, x⟩)) (log ++ [x]) := by
  intro i y hy hr
  rw [length_append, length_singleton, length_set] at hr
  rw [length_set]
  have hs : log.length % cells.length < cells.length := Nat.mod_lt _ hc
  rcases Nat.lt_or_ge i log.length with hi | hi
  · rw [getElem?_append_left hi] at hy
    have hoh : log.length % cells.length ≠ i % cells.length := by
      intro he
      have hg : (log.length - i) % cells.length = 0 := (Nat.sub_mod_eq_zero_of_mod_eq he)
      rw [Nat.mod_eq_of_lt (by omega)] at hg
      omega
    rw [getElem?_set_ne hoh]
    exact h i y hy (by omega)
  · have hi' : i = log.length := by
      have := (List.getElem?_eq_some_iff.mp hy).1
      simp at this
      omega
    subst hi'
    rw [getElem?_set_self hs]
    simp at hy
    rw [hy]

/-- The last entries, read cell by cell. -/
theorem Holds.window (h : Holds cells log) (n st : Nat) (hl : st + n = log.length)
    (hr : log.length ≤ st + cells.length) :
        (range' st n).mapM (Ring.look cells) = some (log.drop st) := by
  induction n generalizing st with
  | zero =>
    have : log.drop st = [] := by simp; omega
    simp [this]
  | succ n ih =>
    have hs : st < log.length := by omega
    have hh := h.look (getElem?_eq_getElem hs) hr
    rw [range'_succ, mapM_cons, hh, ih (st + 1) (by omega) (by omega), drop_eq_getElem_cons hs]
    rfl

/-! ## Readers -/

/-- A reader that joined at `base` and stands at `position`: what it was given stands in the log
in that order, and with what it was told was dropped it adds up. -/
structure Follows (base : Nat) (log : List α) (position : Nat) (given : List α) (dropped : Nat) :
    Prop where
  joined : base ≤ position
  within : position ≤ log.length
  sublist : given.Sublist ((log.take position).drop base)
  account : given.length + dropped = position - base

variable {base : Nat}

lemma Follows.join (h : base ≤ log.length) : Follows base log base [] 0 where
  joined := le_rfl
  within := h
  sublist := nil_sublist _
  account := by simp

variable {ps dr : Nat} {given : List α}

lemma Follows.grow (h : Follows base log ps given dr) (more : List α) :
    Follows base (log ++ more) ps given dr where
  joined := h.joined
  within := h.within.trans (by simp)
  sublist := by
    rw [take_append_of_le_length h.within]
    exact h.sublist
  account := h.account

/-- **Reading on.** The reader is given what the ring still has after its position, `oldest` being
the number of the first entry held. -/
theorem Follows.advance (h : Follows base log ps given dr) {oldest : Nat} (hol : oldest ≤ log.length) :
    Follows base log log.length (given ++ log.drop (max ps oldest)) (dr + (oldest - ps)) where
  joined := h.joined.trans h.within
  within := le_rfl
  sublist := by
    have hs : (log.drop base) = (log.take ps).drop base ++ log.drop ps := by
      conv_lhs => rw [← take_append_drop ps log]
      rw [drop_append_of_le_length (by simp [h.within, h.joined])]
    rw [take_length, hs]
    refine h.sublist.append ?_
    rw [← Nat.add_sub_cancel' (le_max_left ps oldest), ← drop_drop]
    exact drop_sublist _ _
  account := by
    have := h.account
    have := h.joined
    have := h.within
    simp only [length_append, length_drop]
    omega

end Hypercolor.Lib.Ring
