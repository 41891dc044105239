import Mathlib.Data.List.AList
import Mathlib.Algebra.BigOperators.Group.List.Basic
import Mathlib.Algebra.Order.BigOperators.Group.List
import Mathlib.Algebra.Order.Ring.Nat

/-!
# Tables

A finite map as an association list with distinct keys (`AList`), with what Mathlib's own API does
not cover: changing every value in place, with or without an accumulator, and totals over the
entries.
-/

set_option linter.unusedSectionVars false

namespace Hypercolor.Lib

open List AList

variable {K V : Type} [DecidableEq K]

/-- A finite map from `K` to `V`. -/
abbrev Table (K V : Type) := AList fun _ : K => V

namespace Table

/-- The values, in the order of the entries. -/
def values (t : Table K V) : List V := t.entries.map Sigma.snd

/-- Change every value in place. -/
def mapValues (f : V → V) (t : Table K V) : Table K V where
  entries := t.entries.map fun e => ⟨e.1, f e.2⟩
  nodupKeys := by
    have h := t.nodupKeys
    rw [List.NodupKeys, List.keys] at h ⊢
    rwa [List.map_map]

lemma lookup_mapValues (f : V → V) (t : Table K V) (k : K) :
    (mapValues f t).lookup k = (t.lookup k).map f :=
  @dlookup_map₂ K _ _ _ t.entries (fun _ => f) k

lemma mem_of_lookup {t : Table K V} {k : K} {v : V} (h : t.lookup k = some v) : k ∈ t :=
  lookup_isSome.mp (by rw [h]; rfl)

lemma exists_lookup {t : Table K V} {k : K} (h : k ∈ t) : ∃ v, t.lookup k = some v :=
  Option.isSome_iff_exists.mp (lookup_isSome.mpr h)

lemma mem_values_of_lookup {t : Table K V} {k : K} {v : V} (h : t.lookup k = some v) : v ∈ t.values :=
  mem_map.mpr ⟨⟨k, v⟩, of_mem_dlookup h, rfl⟩

/-- Change every value in place, carrying an accumulator from entry to entry. -/
def mapAccumEntries {S : Type} (f : S → K → V → V × S) :
    S → List (Sigma fun _ : K => V) → List (Sigma fun _ : K => V) × S
  | s, [] => ([], s)
  | s, e :: es =>
      let step := f s e.1 e.2
      let rest := mapAccumEntries f step.2 es
      (⟨e.1, step.1⟩ :: rest.1, rest.2)

lemma keys_mapAccumEntries {S : Type} (f : S → K → V → V × S) (s : S)
    (es : List (Sigma fun _ : K => V)) : (mapAccumEntries f s es).1.keys = es.keys := by
  induction es generalizing s with
  | nil => rfl
  | cons e es ih => simp [mapAccumEntries, ih]

/-- Change every value in place, carrying an accumulator from entry to entry. -/
def mapAccum {S : Type} (f : S → K → V → V × S) (s : S) (t : Table K V) : Table K V × S :=
  (⟨(mapAccumEntries f s t.entries).1, by
      have h := t.nodupKeys
      rw [List.NodupKeys] at h ⊢
      rwa [keys_mapAccumEntries]⟩, (mapAccumEntries f s t.entries).2)

lemma dlookup_mapAccumEntries {S : Type} (f : S → K → V → V × S) (s : S) (k : K)
    (es : List (Sigma fun _ : K => V)) :
    ∃ s', (mapAccumEntries f s es).1.dlookup k = (es.dlookup k).map fun v => (f s' k v).1 := by
  induction es generalizing s with
  | nil => exact ⟨s, rfl⟩
  | cons e es ih =>
    obtain ⟨k', v⟩ := e
    by_cases hk : k = k'
    · subst hk
      exact ⟨s, by simp [mapAccumEntries]⟩
    · obtain ⟨s', hs'⟩ := ih (f s k' v).2
      refine ⟨s', ?_⟩
      rw [dlookup_cons_ne _ _ hk, ← hs']
      exact dlookup_cons_ne _ _ hk

/-- Each value is changed once, with some accumulator. -/
lemma lookup_mapAccum {S : Type} (f : S → K → V → V × S) (s : S) (t : Table K V) (k : K) :
    ∃ s', (mapAccum f s t).1.lookup k = (t.lookup k).map fun v => (f s' k v).1 :=
  dlookup_mapAccumEntries f s k t.entries

/-! ## Totals -/

section Total

variable {M : Type} [AddCommMonoid M]

/-- The total of a quantity over the entries. -/
def total (f : K → V → M) (t : Table K V) : M := (t.entries.map fun e => f e.1 e.2).sum

lemma total_perm (f : K → V → M) {t t' : Table K V} (h : t.entries.Perm t'.entries) :
    total f t = total f t' :=
  (h.map _).sum_eq

lemma total_congr {f g : K → V → M} {t : Table K V}
    (h : ∀ k v, t.lookup k = some v → f k v = g k v) : total f t = total g t :=
  congrArg sum (map_congr_left fun e he => h e.1 e.2 (mem_lookup_iff.mpr he))

lemma total_eq_zero {f : K → V → M} {t : Table K V}
    (h : ∀ k v, t.lookup k = some v → f k v = 0) : total f t = 0 := by
  rw [total_congr h, total]
  induction t.entries with
  | nil => rfl
  | cons e es ih => rw [map_cons, sum_cons, ih, add_zero]

lemma eq_empty {t : Table K V} (h : ∀ k, k ∉ t) : t = ∅ :=
  ext (map_eq_nil_iff.mp (eq_nil_iff_forall_not_mem.mpr fun k hk =>
    h k (mem_keys.mpr hk)))

lemma total_empty (f : K → V → M) : total f (∅ : Table K V) = 0 := rfl

lemma total_insert (f : K → V → M) (t : Table K V) (k : K) (v : V) :
    total f (t.insert k v) = f k v + total f (t.erase k) := by
  rfl

lemma perm_kerase {k : K} {v : V} {es : List (Sigma fun _ : K => V)}
    (h : es.dlookup k = some v) : es.Perm (⟨k, v⟩ :: es.kerase k) := by
  induction es with
  | nil => simp at h
  | cons e es ih =>
    obtain ⟨k', v'⟩ := e
    by_cases hk : k = k'
    · subst hk
      obtain rfl : v' = v := by simpa using h
      rw [kerase_cons_eq (show k = (⟨k, v'⟩ : Sigma fun _ : K => V).1 from rfl)]
    · rw [dlookup_cons_ne _ _ hk] at h
      rw [kerase_cons_ne hk]
      exact ((ih h).cons _).trans (.swap _ _ _)

lemma total_of_lookup (f : K → V → M) {t : Table K V} {k : K} {v : V}
    (h : t.lookup k = some v) : total f t = f k v + total f (t.erase k) := by
  rw [total, ((perm_kerase h).map _).sum_eq, map_cons, sum_cons]
  rfl

lemma total_of_lookup_eq_none (f : K → V → M) {t : Table K V} {k : K} (h : t.lookup k = none) :
    total f t = total f (t.erase k) := by
  have hk : k ∉ t.entries.keys := lookup_eq_none.mp h
  show _ = (map _ (t.entries.kerase k)).sum
  rw [kerase_of_notMem_keys hk]
  rfl

lemma total_add (f g : K → V → M) (t : Table K V) :
    total (fun k v => f k v + g k v) t = total f t + total g t :=
  sum_map_add

/-- Counting is a total. -/
lemma countP_values (p : V → Bool) (t : Table K V) :
    t.values.countP p = total (fun _ v => if p v then 1 else 0) t := by
  rw [values, countP_map, total]
  induction t.entries with
  | nil => rfl
  | cons e es ih => rw [countP_cons, map_cons, sum_cons, ih, Nat.add_comm]; rfl

/-- A total over the keys alone does not see the values. -/
lemma total_keys (f : K → M) (t : Table K V) : total (fun k _ => f k) t = (t.entries.keys.map f).sum := by
  rw [total, List.keys, map_map]
  rfl

lemma total_le_total {f g : K → V → Nat} {t : Table K V}
    (h : ∀ k v, t.lookup k = some v → f k v ≤ g k v) : total f t ≤ total g t :=
  sum_le_sum fun e he => h e.1 e.2 (mem_lookup_iff.mpr he)

end Total

end Table

end Hypercolor.Lib
