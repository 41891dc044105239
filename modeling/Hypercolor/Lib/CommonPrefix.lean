import Mathlib.Data.List.Infix

/-!
# Common prefixes

The longest common prefix of lists, described by its own prefixes: they are the common prefixes. What
several lists have in common therefore does not depend on their order.
-/

namespace Hypercolor.Lib

open List

variable {α : Type} [DecidableEq α]

/-- What two lists share at the front. -/
def commonPrefix (a b : List α) : List α :=
  a.take ((a.zip b).takeWhile fun (x, y) => x = y).length

lemma commonPrefix_cons_cons (x y : α) (a b : List α) :
    commonPrefix (x :: a) (y :: b) = if x = y then x :: commonPrefix a b else [] := by
  simp only [commonPrefix, zip_cons_cons, takeWhile_cons]
  split <;> simp_all

variable {q a b : List α}

lemma prefix_commonPrefix_iff : q <+: commonPrefix a b ↔ q <+: a ∧ q <+: b := by
  induction a generalizing q b with
  | nil =>
    rw [commonPrefix, take_nil, prefix_nil, iff_self_and]
    rintro rfl
    exact nil_prefix
  | cons x a ih =>
    cases b with
    | nil => simp +contextual [commonPrefix]
    | cons y b =>
      rw [commonPrefix_cons_cons]
      cases q with
      | nil => simp
      | cons z q =>
        split
        · rename_i hx
          simp only [cons_prefix_cons, ih, hx]
          tauto
        · rename_i hx
          simp only [cons_prefix_cons, prefix_nil, reduceCtorEq, false_iff, not_and]
          rintro ⟨rfl, -⟩ hz
          exact absurd hz hx

/-- The prefixes of what many lists share are their common prefixes. -/
lemma prefix_foldl_commonPrefix_iff {l : List (List α)} :
    q <+: l.foldl commonPrefix a ↔ q <+: a ∧ ∀ b ∈ l, q <+: b := by
  induction l generalizing a with
  | nil => simp
  | cons b l ih =>
    rw [foldl_cons, ih, prefix_commonPrefix_iff, forall_mem_cons, and_assoc]

omit [DecidableEq α] in
/-- Lists with the same prefixes are the same. -/
lemma eq_of_prefix_iff (h : ∀ q, q <+: a ↔ q <+: b) : a = b :=
  List.IsPrefix.eq_of_length_le ((h a).mp (prefix_refl a)) ((h b).mpr (prefix_refl b)).length_le

end Hypercolor.Lib
