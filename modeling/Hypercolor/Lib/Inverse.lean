import Hypercolor.Lib.Table
import Mathlib.Tactic.SplitIfs

/-!
# Tables with a reverse index

An index is kept together with its reverse: `f` maps names to owners, `g` maps each owner back to
its name. `Inverse f g` says that the two agree, and the rules below say which pairs of edits keep
them so:

* `Inverse.drop`: both entries of a pair are erased;
* `Inverse.bind`: a free name is bound to an owner without one;
* `Inverse.move`: an owner moves to a name that nobody else holds;
* `Inverse.retain`: an owner is swept out of the index.

The edits are the ones a program writes by hand on the two maps, in either order.
-/

namespace Hypercolor.Lib

open AList Table

variable {K V : Type} [DecidableEq K]

namespace Table

lemma lookup_insert_if (t : Table K V) (k k' : K) (v : V) :
    (t.insert k v).lookup k' = if k' = k then some v else t.lookup k' := by
  split_ifs with h
  · rw [h, lookup_insert]
  · exact lookup_insert_ne h

lemma lookup_erase_if (t : Table K V) (k k' : K) :
    (t.erase k).lookup k' = if k' = k then none else t.lookup k' := by
  split_ifs with h
  · rw [h, lookup_erase]
  · exact lookup_erase_ne h

/-- Keep the entries that satisfy a test. -/
def retain (p : K → V → Bool) (t : Table K V) : Table K V where
  entries := t.entries.filter fun e => p e.1 e.2
  nodupKeys := t.nodupKeys.sublist List.filter_sublist

lemma lookup_retain_eq_some {p : K → V → Bool} {t : Table K V} {k : K} {v : V} :
    (t.retain p).lookup k = some v ↔ t.lookup k = some v ∧ p k v := by
  have hm : v ∈ (t.retain p).lookup k ↔ v ∈ t.lookup k ∧ p k v := by
    rw [mem_lookup_iff, mem_lookup_iff]
    exact List.mem_filter
  exact hm

end Table

section Inverse

variable {A B : Type} [DecidableEq A] [DecidableEq B]

/-- `f` and `g` name each other: `a` is bound to `b` in the one exactly when `b` is bound to `a` in
the other. -/
def Inverse (f : Table A B) (g : Table B A) : Prop :=
  ∀ a b, f.lookup a = some b ↔ g.lookup b = some a

namespace Inverse

variable {f : Table A B} {g : Table B A} {a a' a₀ : A} {b b' : B}

lemma empty : Inverse (∅ : Table A B) (∅ : Table B A) := fun _ _ => by
  simp only [lookup_empty, reduceCtorEq]

lemma symm (h : Inverse f g) : Inverse g f := fun b a => (h a b).symm

/-- An owner is found under one name only. -/
lemma eq_of_lookup (h : Inverse f g) (ha : f.lookup a = some b) (ha' : f.lookup a' = some b) : a = a' :=
  Option.some.inj (((h a b).mp ha).symm.trans ((h a' b).mp ha'))

/-- A name that nobody holds is nobody's. -/
lemma lookup_ne_of_none (h : Inverse f g) (ha : f.lookup a = none) : g.lookup b ≠ some a :=
  fun hb => nomatch ha.symm.trans ((h a b).mpr hb)

theorem drop (h : Inverse f g) (hb : g.lookup b = some a) : Inverse (f.erase a) (g.erase b) := by
  intro x y
  rw [lookup_erase_if, lookup_erase_if]
  by_cases hx : x = a
  · subst hx
    by_cases hy : y = b
    · simp only [hy, if_true, reduceCtorEq]
    · rw [if_pos rfl, if_neg hy]
      exact ⟨nofun, fun hg => absurd (h.symm.eq_of_lookup hg hb) hy⟩
  · by_cases hy : y = b
    · subst hy
      rw [if_neg hx, if_pos rfl]
      exact ⟨fun hf => absurd (h.eq_of_lookup hf ((h _ _).mpr hb)) hx, nofun⟩
    · rw [if_neg hx, if_neg hy]
      exact h x y

theorem bind (h : Inverse f g) (ha : f.lookup a = none) (hb : g.lookup b = none) :
    Inverse (f.insert a b) (g.insert b a) := by
  intro x y
  rw [lookup_insert_if, lookup_insert_if]
  by_cases hx : x = a
  · subst hx
    by_cases hy : y = b
    · simp only [hy, if_true]
    · rw [if_pos rfl, if_neg hy]
      exact ⟨fun hby => absurd (Option.some.inj hby).symm hy,
        fun hg => absurd hg (h.lookup_ne_of_none ha)⟩
  · by_cases hy : y = b
    · subst hy
      rw [if_neg hx, if_pos rfl]
      exact ⟨fun hf => absurd hf (h.symm.lookup_ne_of_none hb),
        fun hax => absurd (Option.some.inj hax).symm hx⟩
    · rw [if_neg hx, if_neg hy]
      exact h x y

/-- The name an owner moves to is its own or nobody's. -/
theorem move (h : Inverse f g) (hb : g.lookup b = some a₀) (ha : ∀ b', f.lookup a = some b' → b' = b) :
    Inverse ((f.erase a₀).insert a b) (g.insert b a) := by
  have hd := h.drop hb
  have hf : (f.erase a₀).lookup a = none := by
    rw [lookup_erase_if]
    split_ifs with he
    · rfl
    · rw [Option.eq_none_iff_forall_ne_some]
      intro b' hb'
      obtain rfl := ha b' hb'
      exact he (h.eq_of_lookup hb' ((h a₀ b').mpr hb))
  have hbi := hd.bind hf (lookup_erase b g)
  intro x y
  rw [hbi x y, lookup_insert_if, lookup_insert_if, lookup_erase_if]
  by_cases hy : y = b
  · rw [if_pos hy, if_pos hy]
  · rw [if_neg hy, if_neg hy, if_neg hy]

/-- An owner is forgotten under every name. -/
theorem retain (h : Inverse f g) (b : B) :
    Inverse (Table.retain (fun _ y => decide (y ≠ b)) f) (g.erase b) := by
  intro x y
  rw [lookup_retain_eq_some, lookup_erase_if, h x y]
  by_cases hy : y = b
  · simp [hy]
  · simp [hy]

/-- Rebinding a pair that is there changes no answer. -/
lemma rebind (h : Inverse f g) (ha : f.lookup a = some b) : Inverse f (g.insert b a) := by
  intro x y
  rw [lookup_insert_if]
  by_cases hy : y = b
  · subst hy
    rw [if_pos rfl]
    exact ⟨fun hx => congrArg some (h.eq_of_lookup ha hx),
      fun hx => Option.some.inj hx ▸ ha⟩
  · rw [if_neg hy]
    exact h x y

end Inverse

end Inverse

end Hypercolor.Lib
