import Mathlib.Data.List.Basic

/-!
# Local steps

A fold whose steps each touch one part of the state. Where a step at `a` changes only what is seen
at `key a`, and no two steps share a key, the fold changes each part once, by its own step.
-/

namespace Hypercolor.Lib

open List

variable {σ α κ V : Type} [DecidableEq κ] {step : σ → α → σ} {view : σ → κ → V} {key : α → κ}
  {own : α → V → V}

/-- What a fold of local steps leaves alone. -/
theorem foldl_local_of_notMem
    (hs : ∀ s a k, view (step s a) k = if k = key a then own a (view s k) else view s k)
    {l : List α} {k : κ} (hk : k ∉ l.map key) (s : σ) : view (l.foldl step s) k = view s k := by
  induction l generalizing s with
  | nil => rfl
  | cons a l ih =>
    rw [map_cons, mem_cons, not_or] at hk
    rw [foldl_cons, ih hk.2, hs, if_neg hk.1]

/-- What a fold of local steps does to the part of one of them. -/
theorem foldl_local_of_mem
    (hs : ∀ s a k, view (step s a) k = if k = key a then own a (view s k) else view s k)
    {l : List α} (hl : (l.map key).Nodup) {a : α} (ha : a ∈ l) (s : σ) :
    view (l.foldl step s) (key a) = own a (view s (key a)) := by
  induction l generalizing s with
  | nil => cases ha
  | cons b l ih =>
    rw [map_cons, nodup_cons] at hl
    rw [foldl_cons]
    rcases mem_cons.mp ha with rfl | ha
    · rw [foldl_local_of_notMem hs hl.1, hs, if_pos rfl]
    · have hn : key a ≠ key b := by
        intro he
        exact hl.1 (he ▸ mem_map_of_mem ha)
      rw [ih hl.2 ha, hs, if_neg hn]

/-- What a fold of local steps tells of each of them, where a property of its end is one of every
state on the way. -/
lemma foldl_local_forall {Q : σ → Prop} {P : α → V → Prop}
    (hst : ∀ s a k, view (step s a) k = if k = key a then own a (view s k) else view s k)
    (hba : ∀ s a, Q (step s a) → Q s ∧ P a (view s (key a)))
    {l : List α} (hl : (l.map key).Nodup) {s : σ} (h : Q (l.foldl step s)) :
    Q s ∧ ∀ a ∈ l, P a (view s (key a)) := by
  induction l generalizing s with
  | nil => exact ⟨h, nofun⟩
  | cons b l ih =>
    rw [map_cons, nodup_cons] at hl
    obtain ⟨hn, hr⟩ := ih hl.2 h
    obtain ⟨hs, hb⟩ := hba s b hn
    refine ⟨hs, fun a ha => ?_⟩
    rcases mem_cons.mp ha with rfl | ha
    · exact hb
    · have hne : key a ≠ key b := by
        intro he
        exact hl.1 (he ▸ mem_map_of_mem ha)
      have := hr a ha
      rwa [hst, if_neg hne] at this

/-! ## Steps that may fail -/

variable {stepM : σ → α → Option σ} {Own : α → V → V → Prop}

omit [DecidableEq κ] in
/-- What a fold of local steps that may fail leaves alone, and what it does to the part of each. -/
theorem foldlM_local (hs : ∀ s a s', stepM s a = some s' →
      (∀ k, k ≠ key a → view s' k = view s k) ∧ Own a (view s (key a)) (view s' (key a)))
    {l : List α} (hl : (l.map key).Nodup) {s s' : σ} (h : l.foldlM stepM s = some s') :
    (∀ k, k ∉ l.map key → view s' k = view s k) ∧ ∀ a ∈ l, Own a (view s (key a)) (view s' (key a)) := by
  induction l generalizing s with
  | nil =>
    obtain rfl : s = s' := by simpa using h
    exact ⟨fun _ _ => rfl, nofun⟩
  | cons b l ih =>
    rw [map_cons, nodup_cons] at hl
    obtain ⟨next, hn, hr⟩ := Option.bind_eq_some_iff.mp h
    obtain ⟨hf, how⟩ := hs s b next hn
    obtain ⟨hos, hal⟩ := ih hl.2 hr
    constructor
    · intro k hk
      rw [map_cons, mem_cons, not_or] at hk
      rw [hos k hk.2, hf k hk.1]
    · intro a ha
      rcases mem_cons.mp ha with rfl | ha
      · rwa [hos _ hl.1]
      · have hne : key a ≠ key b := by
          intro he
          exact hl.1 (he ▸ mem_map_of_mem ha)
        rw [← hf _ hne]
        exact hal a ha

/-- What every step keeps, a fold of steps that may fail keeps. -/
theorem foldlM_keeps {P : σ → Prop} (hst : ∀ s a s', stepM s a = some s' → P s → P s')
    {l : List α} {s s' : σ} (h : l.foldlM stepM s = some s') (hs : P s) : P s' := by
  induction l generalizing s with
  | nil =>
    obtain rfl : s = s' := by simpa using h
    exact hs
  | cons b l ih =>
    obtain ⟨next, hn, hr⟩ := Option.bind_eq_some_iff.mp h
    exact ih hr (hst s b next hn hs)

end Hypercolor.Lib
