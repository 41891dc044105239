import Hypercolor.Lib.Sorting
import Mathlib.Data.Finset.Basic

/-!
# A hold that several parties share

Several parties may hold the same thing. It is announced as held whenever one of them takes it, and
as free when the last one lets go. The announcements carry a key, by which they may be sorted before
anyone hears them.

* **`settled_iff`**: what is heard last in the order of the keys is the truth if and only if the
  announcement sorted last says what the one made last says.
-/

namespace Hypercolor.Lib

variable {S R : Type} [DecidableEq S]

/-- Who holds, and what was announced: whether it is held, and the key. -/
structure Tally (S R : Type) where
  holders : Finset S
  edges : List (Bool × R)

namespace Tally

def take (t : Tally S R) (s : S) (key : R) : Tally S R :=
  ⟨insert s t.holders, t.edges ++ [(true, key)]⟩

/-- It is free if nobody holds it. -/
def announce (t : Tally S R) (key : R) : Tally S R :=
  ⟨t.holders, if t.holders = ∅ then t.edges ++ [(false, key)] else t.edges⟩

/-- Whoever does not hold has nothing to let go. -/
def letGo (t : Tally S R) (s : S) (key : R) : Tally S R :=
  if s ∈ t.holders then announce ⟨t.holders.erase s, t.edges⟩ key else t

variable {t : Tally S R} {s : S} {key key' : R} {held : Bool}

@[simp] theorem mem_holders_letGo {other : S} :
    other ∈ (t.letGo s key).holders ↔ other ≠ s ∧ other ∈ t.holders := by
  unfold letGo
  split
  · exact Finset.mem_erase
  · grind

@[simp] theorem letGo_letGo : (t.letGo s key).letGo s key' = t.letGo s key := by
  rw [letGo, if_neg (by simp)]

lemma letGo_of_notMem (h : s ∉ t.holders) : t.letGo s key = t := if_neg h

/-- What was announced last, from what was known at first, is the truth. -/
def Current (held : Bool) (t : Tally S R) : Prop :=
  (t.edges.getLast?.map Prod.fst).getD held = decide (t.holders ≠ ∅)

lemma current_start (holders : Finset S) :
    Current (decide (holders ≠ ∅)) (⟨holders, []⟩ : Tally S R) := rfl

lemma current_take : (t.take s key).Current held := by
  simp [Current, take]

lemma Current.letGo (h : t.Current held) : (t.letGo s key).Current held := by
  unfold Tally.letGo
  split
  · rename_i hm
    by_cases hl : t.holders.erase s = ∅
    · simp [Current, announce, hl]
    · -- nothing is announced, and the thing was held before
      have hh : t.holders ≠ ∅ := Finset.ne_empty_of_mem hm
      simpa [Current, announce, hl, hh] using h
  · exact h

/-- The keys of what was announced. -/
def keys (t : Tally S R) : List R := t.edges.map Prod.snd

lemma keys_take : (t.take s key).keys = t.keys ++ [key] := by
  simp [keys, take]

lemma keys_letGo : (t.letGo s key).keys.Sublist (t.keys ++ [key]) := by
  unfold letGo announce keys
  split
  · dsimp only
    split <;> simp
  · simp

variable [LinearOrder R]

/-- The announcements in the order of their keys. -/
def sorted (t : Tally S R) : List (Bool × R) := sortByKey Prod.snd t.edges

/-- What is sorted last says what was announced last. -/
def Settled (t : Tally S R) : Prop :=
  t.sorted.getLast?.map Prod.fst = t.edges.getLast?.map Prod.fst

instance : Decidable t.Settled := inferInstanceAs (Decidable (_ = _))

/-- **What is heard last is the truth** exactly when the tally is settled. -/
theorem settled_iff (h : t.Current held) :
    (t.sorted.getLast?.map Prod.fst).getD held = decide (t.holders ≠ ∅) ↔ t.Settled := by
  rw [← h, Settled]
  have hp : t.sorted.Perm t.edges := perm_sortByKey Prod.snd t.edges
  by_cases he : t.edges = []
  · have hs : t.sorted = [] := (he ▸ hp).eq_nil
    simp [he, hs]
  · have hs : t.sorted ≠ [] := fun hn => he ((hn ▸ hp).nil_eq.symm)
    rw [List.getLast?_eq_getLast_of_ne_nil hs, List.getLast?_eq_getLast_of_ne_nil he]
    simp

omit [DecidableEq S] in
/-- Announcements made in the order of their keys settle. -/
lemma settled_of_keys (h : t.keys.Pairwise (· ≤ ·)) : t.Settled := by
  rw [Settled, sorted, sortByKey_eq, (List.pairwise_map.mp h).insertionSort_eq]

end Tally

end Hypercolor.Lib
