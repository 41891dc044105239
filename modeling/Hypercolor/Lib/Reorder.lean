import Hypercolor.Lib.Table

/-!
# Runs of consecutive keys

What completes out of order is parked in a table under its number. `takeRun` takes out of it what can be
delivered now: the entry at the next number, at the one after it and so on.

**`takeRun_spec`**: it takes every consecutive entry and leaves the others.
-/

namespace Hypercolor.Lib

open List AList Nat

variable {V : Type} {succ : Nat → Nat}

/-- The entries at `next`, its successor and so on, what is left without them, and the first number that
is not there. -/
def takeRunWithin (succ : Nat → Nat) : Nat → Table Nat V → Nat → List V × Table Nat V × Nat
  | 0, t, next => ([], t, next)
  | size + 1, t, next => match t.lookup next with
    | none => ([], t, next)
    | some v =>
      let (vs, rest, stop) := takeRunWithin succ size (t.erase next) (succ next)
      (v :: vs, rest, stop)

def takeRun (succ : Nat → Nat) (t : Table Nat V) (next : Nat) : List V × Table Nat V × Nat :=
  takeRunWithin succ t.keys.length t next

/-- What it means to take the entries from one number up to another one. -/
structure TakesRun (t : Table Nat V) (next : Nat) (vs : List V) (rest : Table Nat V) (stop : Nat) :
    Prop where
  le : next ≤ stop
  taken : vs = (range' next (stop - next)).filterMap t.lookup
  full : ∀ k, next ≤ k → k < stop → k ∈ t
  stopped : stop ∉ t
  rest : ∀ k, rest.lookup k = if next ≤ k ∧ k < stop then none else t.lookup k

variable {t : Table Nat V} {nx : Nat}

lemma takesRun_nil (h : nx ∉ t) : TakesRun t nx [] t nx where
  le := le_refl _
  taken := by rw [Nat.sub_self]; rfl
  full := fun k hl hlt => absurd hlt (not_lt.mpr hl)
  stopped := h
  rest := fun k => by rw [if_neg (by omega)]

lemma TakesRun.cons {rest : Table Nat V} {stop : Nat} {v : V} {vs : List V}
    (h : TakesRun (t.erase nx) (nx + 1) vs rest stop) (hv : t.lookup nx = some v) :
    TakesRun t nx (v :: vs) rest stop where
  le := le_of_succ_le h.le
  taken := by
    have hl := h.le
    rw [show stop - nx = stop - (nx + 1) + 1 by omega, range'_succ, filterMap_cons, hv, h.taken]
    refine congrArg (v :: ·) (filterMap_congr fun k hk => ?_)
    have hn : k ≠ nx := by
      have := (mem_range'_1.mp hk).1
      omega
    exact lookup_erase_ne hn
  full := fun k hl hlt => by
    by_cases he : k = nx
    · exact lookup_isSome.mp (by rw [he, hv]; rfl)
    · exact (mem_erase.mp (h.full k (by omega) hlt)).2
  stopped := fun hm => by
    have hl := h.le
    exact h.stopped (mem_erase.mpr ⟨by omega, hm⟩)
  rest := fun k => by
    have hl := h.le
    rw [h.rest]
    by_cases he : k = nx
    · rw [if_neg (by omega), if_pos (by omega), he, lookup_erase]
    · rw [lookup_erase_ne he]
      exact if_congr (by omega) rfl rfl

lemma takeRunWithin_spec {size : Nat} (hsi : t.keys.length ≤ size) (hs : ∀ k ∈ t, succ k = k + 1) :
    TakesRun t nx (takeRunWithin succ size t nx).1 (takeRunWithin succ size t nx).2.1
      (takeRunWithin succ size t nx).2.2 := by
  induction size generalizing t nx with
  | zero =>
    refine takesRun_nil fun hm => ?_
    exact absurd (AList.mem_keys.mp hm) (by
      rw [eq_nil_of_length_eq_zero (le_zero.mp hsi)]
      exact not_mem_nil)
  | succ size ih =>
    rw [takeRunWithin]
    cases hv : t.lookup nx with
    | none => exact takesRun_nil (AList.lookup_eq_none.mp hv)
    | some v =>
      have hm : nx ∈ t := Table.mem_of_lookup hv
      have hsm : (t.erase nx).keys.length ≤ size := by
        rw [AList.keys_erase, length_erase_of_mem (AList.mem_keys.mp hm)]
        omega
      have hr := @ih (t.erase nx) (succ nx) hsm fun k hk => hs k (AList.mem_erase.mp hk).2
      rw [hs nx hm] at hr ⊢
      exact hr.cons hv

theorem takeRun_spec (hs : ∀ k ∈ t, succ k = k + 1) :
    TakesRun t nx (takeRun succ t nx).1 (takeRun succ t nx).2.1 (takeRun succ t nx).2.2 :=
  takeRunWithin_spec (le_refl _) hs

end Hypercolor.Lib
