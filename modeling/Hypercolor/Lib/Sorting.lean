import Hypercolor.Lib.Table
import Mathlib.Data.List.Sort
import Mathlib.Data.Prod.Lex

/-!
# Sorting by a key

A sort by key and place, as programs write it to keep an unstable sort stable, and the iteration
of a table in the order of its keys.

* **`sortByKey_eq`**: ties broken by the place in the list are a stable sort.
* **`filterMap_sortByKey`**: what is picked out of a sorted list is sorted the same way.
* **`mem_ordered`**: iterating a table in key order meets each of its entries.
-/

set_option linter.unusedSectionVars false

namespace Hypercolor.Lib

open List

section ByKey

variable {α β R : Type} [LinearOrder R]

/-- Sort by a key, the place in the list breaking ties. -/
def sortByKey (key : α → R) (l : List α) : List α :=
  (l.zipIdx.insertionSort fun a b => toLex (key a.1, a.2) ≤ toLex (key b.1, b.2)).map Prod.fst

variable {key : α → R} {a : α}

lemma map_orderedInsert_place {n : Nat} {l : List (α × Nat)} (h : ∀ b ∈ l, n < b.2) :
    (l.orderedInsert (fun a b => toLex (key a.1, a.2) ≤ toLex (key b.1, b.2)) (a, n)).map Prod.fst =
      (l.map Prod.fst).orderedInsert (fun a b => key a ≤ key b) a := by
  induction l with
  | nil => rfl
  | cons b l ih =>
    have hp : n < b.2 := h b mem_cons_self
    have hl : toLex (key a, n) ≤ toLex (key b.1, b.2) ↔ key a ≤ key b.1 := by
      rw [Prod.Lex.toLex_le_toLex]
      constructor
      · rintro (hlt | ⟨he, -⟩)
        · exact hlt.le
        · exact he.le
      · intro hl
        rcases hl.lt_or_eq with hlt | he
        · exact .inl hlt
        · exact .inr ⟨he, hp.le⟩
    rw [orderedInsert_cons, map_cons, orderedInsert_cons]
    by_cases ha : key a ≤ key b.1
    · rw [if_pos (hl.mpr ha), if_pos ha, map_cons, map_cons]
    · rw [if_neg (hl.not.mpr ha), if_neg ha, map_cons, ih fun c hc => h c (mem_cons_of_mem _ hc)]

/-- **Ties broken by place are a stable sort.** -/
theorem sortByKey_eq (key : α → R) (l : List α) :
    sortByKey key l = l.insertionSort fun a b => key a ≤ key b := by
  have hf : ∀ n, ((l.zipIdx n).insertionSort fun a b =>
      toLex (key a.1, a.2) ≤ toLex (key b.1, b.2)).map Prod.fst =
        l.insertionSort fun a b => key a ≤ key b := by
    induction l with
    | nil => exact fun _ => rfl
    | cons a l ih =>
      intro n
      rw [zipIdx_cons, insertionSort_cons, insertionSort_cons, map_orderedInsert_place, ih]
      intro b hb
      have hm := (mem_insertionSort _).mp hb
      exact (mem_zipIdx hm).1
  exact hf 0

variable {l : List α}

lemma mem_sortByKey : a ∈ sortByKey key l ↔ a ∈ l := by
  rw [sortByKey_eq, mem_insertionSort]

lemma perm_sortByKey (key : α → R) (l : List α) : (sortByKey key l).Perm l := by
  rw [sortByKey_eq]
  exact perm_insertionSort _ l

variable {key' : β → R} {f : α → Option β}

lemma filterMap_orderedInsert (hk : ∀ a b, f a = some b → key' b = key a) (a : α)
    (hl : l.Pairwise fun a b => key a ≤ key b) :
    (l.orderedInsert (fun a b => key a ≤ key b) a).filterMap f =
      match f a with
      | none => l.filterMap f
      | some b => (l.filterMap f).orderedInsert (fun a b => key' a ≤ key' b) b := by
  induction l with
  | nil => cases h : f a <;> simp [h]
  | cons c l ih =>
    obtain ⟨hc, hl⟩ := pairwise_cons.mp hl
    rw [orderedInsert_cons]
    by_cases hac : key a ≤ key c
    · rw [if_pos hac]
      cases ha : f a with
      | none => rw [filterMap_cons_none ha]
      | some b =>
        -- everything that is kept comes after `a`, whether or not `c` is kept
        rw [filterMap_cons_some ha]
        have hal : ∀ x ∈ (c :: l).filterMap f, key' b ≤ key' x := by
          intro x hx
          obtain ⟨d, hd, hdx⟩ := mem_filterMap.mp hx
          rw [hk a b ha, hk d x hdx]
          rcases mem_cons.mp hd with rfl | hd
          · exact hac
          · exact hac.trans (hc d hd)
        cases hr : (c :: l).filterMap f with
        | nil => rfl
        | cons x xs =>
          have hx : key' b ≤ key' x := hal x (by rw [hr]; exact mem_cons_self)
          exact (orderedInsert_cons_of_le _ xs hx).symm
    · rw [if_neg hac]
      cases hf : f c with
      | none =>
        rw [filterMap_cons_none hf, ih hl, filterMap_cons_none hf]
      | some d =>
        rw [filterMap_cons_some hf, ih hl, filterMap_cons_some hf]
        cases ha : f a with
        | none => rfl
        | some b =>
          have hb : ¬ key' b ≤ key' d := by rwa [hk a b ha, hk c d hf]
          exact (orderedInsert_of_not_le (fun a b => key' a ≤ key' b) _ hb).symm

/-- **Picking out of a sorted list** what keeps its key. -/
theorem filterMap_sortByKey (hk : ∀ a b, f a = some b → key' b = key a) (l : List α) :
    (sortByKey key l).filterMap f = sortByKey key' (l.filterMap f) := by
  rw [sortByKey_eq, sortByKey_eq]
  induction l with
  | nil => rfl
  | cons a l ih =>
    rw [insertionSort_cons, filterMap_orderedInsert hk a (pairwise_insertionSort _ l), ih]
    cases ha : f a with
    | none => rw [filterMap_cons_none ha]
    | some b => rw [filterMap_cons_some ha, insertionSort_cons]

end ByKey

namespace Table

variable {K V R : Type} [DecidableEq K] [LinearOrder R]

/-- The entries in the order of their keys. -/
def ordered (rank : K → R) (t : Table K V) : List (K × V) :=
  sortByKey (fun entry => rank entry.1) (t.entries.map fun entry => (entry.1, entry.2))

theorem mem_ordered {rank : K → R} {t : Table K V} {k : K} {v : V} :
    (k, v) ∈ t.ordered rank ↔ t.lookup k = some v := by
  have hm : (k, v) ∈ t.ordered rank ↔ ⟨k, v⟩ ∈ t.entries := by
    rw [ordered, mem_sortByKey, mem_map]
    constructor
    · rintro ⟨⟨k', v'⟩, he, heq⟩
      obtain ⟨rfl, rfl⟩ := Prod.mk.inj heq
      exact he
    · exact fun h => ⟨⟨k, v⟩, h, rfl⟩
  rw [hm]
  exact AList.mem_lookup_iff.symm

lemma nodup_ordered (rank : K → R) (t : Table K V) : ((t.ordered rank).map Prod.fst).Nodup := by
  have hp := (perm_sortByKey (fun entry : K × V => rank entry.1)
    (t.entries.map fun entry => (entry.1, entry.2))).map Prod.fst
  rw [map_map] at hp
  exact hp.nodup_iff.mpr t.nodupKeys

end Table

end Hypercolor.Lib
