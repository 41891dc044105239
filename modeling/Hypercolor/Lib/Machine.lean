import Mathlib.Logic.Relation

/-!
# Machines and their runs

A machine has initial states and labelled steps. Everything the development says about "any
interleaving" or "any sequence of operations" is a statement about `Machine.Run` or
`Machine.Reachable`, and every safety result goes through one of three rules:

* `Reachable.invariant`: what holds initially and is kept by every step holds everywhere;
* `Reachable.invariant_of`: the same, with an earlier invariant at hand in the step;
* `Run.relation`: what relates a state to its successor and composes relates the ends of a run.
-/

namespace Hypercolor.Lib

/-- A labelled transition system. -/
structure Machine (σ ε : Type) where
  /-- Where runs start. -/
  init : σ → Prop
  /-- The steps, with their labels. -/
  step : σ → ε → σ → Prop

namespace Machine

variable {σ ε : Type} {M : Machine σ ε}

/-- Runs, extended at the end, with the labels in order. -/
inductive Run (M : Machine σ ε) (s : σ) : List ε → σ → Prop where
  | nil : Run M s [] s
  | snoc {es : List ε} {e : ε} {t u : σ} : Run M s es t → M.step t e u → Run M s (es ++ [e]) u

/-- States a run from an initial state ends in. -/
inductive Reachable (M : Machine σ ε) : σ → Prop where
  | init {s : σ} : M.init s → Reachable M s
  | step {s t : σ} {e : ε} : Reachable M s → M.step s e t → Reachable M t

/-- **Invariant rule.** -/
theorem Reachable.invariant {I : σ → Prop} (hi : ∀ s, M.init s → I s)
    (hst : ∀ s e t, I s → M.step s e t → I t) {s : σ} (h : M.Reachable s) : I s := by
  induction h with
  | init h => exact hi _ h
  | step _ hs ih => exact hst _ _ _ ih hs

/-- **Invariant rule** over an invariant already known. -/
theorem Reachable.invariant_of {I J : σ → Prop} (hJ : ∀ s, M.Reachable s → J s)
    (hi : ∀ s, M.init s → I s) (hst : ∀ s e t, J s → J t → I s → M.step s e t → I t)
    {s : σ} (h : M.Reachable s) : I s := by
  induction h with
  | init h => exact hi _ h
  | step hr hs ih => exact hst _ _ _ (hJ _ hr) (hJ _ (hr.step hs)) ih hs

lemma Run.reachable {s t : σ} {es : List ε} (hi : M.Reachable s) (h : M.Run s es t) : M.Reachable t := by
  induction h with
  | nil => exact hi
  | snoc _ hs ih => exact ih.step hs

/-- **Relation rule**: a reflexive and transitive relation that holds across every step from a
reachable state holds across every run. -/
theorem Run.relation {R : σ → σ → Prop} (hr : ∀ s, R s s) (ht : ∀ s t u, R s t → R t u → R s u)
    (hst : ∀ s e t, M.Reachable s → M.step s e t → R s t)
    {s t : σ} {es : List ε} (hs : M.Reachable s) (h : M.Run s es t) : R s t := by
  induction h with
  | nil => exact hr s
  | snoc hru hl ih => exact ht _ _ _ ih (hst _ _ _ (hru.reachable hs) hl)

/-- Where a function that may fail makes the steps, a run of it that does not fail is a run. -/
lemma Reachable.foldlM {perform : σ → ε → Option σ}
    (hM : ∀ s e t, perform s e = some t → M.step s e t) {s t : σ} {es : List ε}
    (hs : M.Reachable s) (h : es.foldlM perform s = some t) : M.Reachable t := by
  induction es generalizing s with
  | nil =>
    cases h
    exact hs
  | cons e es ih =>
    obtain ⟨next, hn, hr⟩ := Option.bind_eq_some_iff.mp h
    exact ih (hs.step (hM s e next hn)) hr

/-- The same for a function that makes the steps with certain labels. -/
lemma Reachable.foldl {f : σ → ε → σ} {C : ε → Prop} (hM : ∀ s e, C e → M.step s e (f s e)) {s : σ}
    {es : List ε} (hs : M.Reachable s) (he : ∀ e ∈ es, C e) : M.Reachable (es.foldl f s) := by
  induction es generalizing s with
  | nil => exact hs
  | cons e es ih =>
    exact ih (hs.step (hM s e (he e List.mem_cons_self)))
      fun e hm => he e (List.mem_cons_of_mem _ hm)

/-- The runs whose steps all meet a condition on the state before the step and its label. -/
def restrict (M : Machine σ ε) (C : ε → σ → Prop) : Machine σ ε where
  init := M.init
  step s e t := M.step s e t ∧ C e s

lemma Reachable.of_restrict {C : ε → σ → Prop} {s : σ} (h : (M.restrict C).Reachable s) :
    M.Reachable s := by
  induction h with
  | init h => exact .init h
  | step _ hs ih => exact ih.step hs.1

end Machine

end Hypercolor.Lib
