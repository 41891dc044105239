import Mathlib.Data.List.AList
import Mathlib.Data.List.Nodup

/-!
# Scanning a list for repeated keys

A validator walks a list, remembers the keys it has seen with a note on where, and reports on each
element with the note of an earlier element of the same key. Elements without a key are reported on
but not remembered.

* `scan_eq_nil_iff`: nothing is reported exactly when no key repeats and nothing else is wrong.
* `filter_scan`: keeping only some kinds of report is a scan that makes only those.
-/

namespace Hypercolor.Lib

open List AList

variable {α K V ε : Type} [DecidableEq K]

/-- Report on every element of a list, given the note of the latest earlier element with the same
key. -/
def scan (key : α → Option K) (note : α → V) (report : Option V → α → List ε) :
    AList (fun _ : K => V) → List α → List ε
  | _, [] => []
  | seen, a :: as =>
      match key a with
      | some k => report (seen.lookup k) a ++ scan key note report (seen.insert k (note a)) as
      | none => report none a ++ scan key note report seen as

theorem filter_scan (p : ε → Bool) (key : α → Option K) (note : α → V)
    (report : Option V → α → List ε) (seen : AList (fun _ : K => V)) (l : List α) :
    (scan key note report seen l).filter p = scan key note (fun v a => (report v a).filter p) seen l := by
  induction l generalizing seen with
  | nil => rfl
  | cons a as ih =>
    simp only [scan]
    split
    · rw [filter_append, ih]
    · rw [filter_append, ih]

/-- A scan is silent exactly when no key repeats, none was seen before, and every element is fine
in itself. -/
theorem scan_eq_nil_iff {key : α → Option K} {note : α → V} {report : Option V → α → List ε}
    (hre : ∀ v a, (key a).isSome → report (some v) a ≠ []) (seen : AList (fun _ : K => V)) (l : List α) :
    scan key note report seen l = [] ↔ (l.filterMap key).Nodup ∧ (∀ k ∈ l.filterMap key, k ∉ seen) ∧
        ∀ a ∈ l, report none a = [] := by
  induction l generalizing seen with
  | nil => simp [scan]
  | cons a as ih =>
    rcases hk : key a with _ | k
    · rw [scan, hk, append_eq_nil_iff, ih, filterMap_cons_none hk, forall_mem_cons]
      tauto
    · rw [scan, hk, append_eq_nil_iff, ih, filterMap_cons_some hk, nodup_cons,
        forall_mem_cons, forall_mem_cons]
      by_cases hse : k ∈ seen
      · -- the key was seen, so something is reported
        obtain ⟨v, hv⟩ := Option.isSome_iff_exists.mp (lookup_isSome.mpr hse)
        constructor
        · rintro ⟨hr, -⟩
          rw [hv] at hr
          exact absurd hr (hre v a (by rw [hk]; rfl))
        · rintro ⟨-, ⟨hns, -⟩, -⟩
          exact absurd hse hns
      · rw [lookup_eq_none.mpr hse]
        constructor
        · rintro ⟨hr, hn, hm, ha⟩
          refine ⟨⟨?_, hn⟩, ⟨hse, ?_⟩, hr, ha⟩
          · intro hi
            exact hm k hi (mem_insert _ |>.mpr (.inl rfl))
          · intro k' hk' hs
            exact hm k' hk' (mem_insert _ |>.mpr (.inr hs))
        · rintro ⟨⟨hni, hn⟩, ⟨-, hm⟩, hr, ha⟩
          refine ⟨hr, hn, ?_, ha⟩
          intro k' hk' hs
          rcases (mem_insert _).mp hs with rfl | hs
          · exact hni hk'
          · exact hm k' hk' hs

end Hypercolor.Lib
