import Mathlib.Tactic

/-!
# A budget counted in fixed windows

A window opens at some time, counts what it lets through up to a limit, and is closed once its width has
passed; the next one opens whenever something asks again.

* **`Windows.le_twice`**: within any time as long as a window, at most twice the limit is let through.
-/

namespace Hypercolor.Lib

open List Nat

/-- The open window (its start and its count) and what was let through (when, and in the window that
started when), at a time that no window starts after. -/
structure Windows (width limit : Nat) (current : Option (Nat × Nat)) (passed : List (Nat × Nat))
    (clock : Nat) : Prop where
  inside : ∀ p ∈ passed, p.2 ≤ p.1 ∧ p.1 < p.2 + width
  apart : ∀ p ∈ passed, ∀ q ∈ passed, p.2 < q.2 → p.2 + width ≤ q.2
  within : ∀ start, passed.countP (·.2 = start) ≤ limit
  opened : ∀ w ∈ current, w.1 ≤ clock ∧ passed.countP (·.2 = w.1) ≤ w.2 ∧
    ∀ p ∈ passed, p.2 = w.1 ∨ p.2 + width ≤ w.1
  closed : current = none → ∀ p ∈ passed, p.2 + width ≤ clock

namespace Windows

variable {width limit clock clock' st ct : Nat} {cur : Option (Nat × Nat)}
variable {passed : List (Nat × Nat)}

lemma nil : Windows width limit none [] clock := by
  constructor <;> simp

lemma later (h : Windows width limit cur passed clock) (hl : clock ≤ clock') :
    Windows width limit cur passed clock' where
  inside := h.inside
  apart := h.apart
  within := h.within
  opened w hw := ⟨(h.opened w hw).1.trans hl, (h.opened w hw).2⟩
  closed hn p hp := (h.closed hn p hp).trans hl

/-- A window whose width has passed is closed. -/
lemma expire (h : Windows width limit (some (st, ct)) passed clock)
    (hpa : st + width ≤ clock') : Windows width limit none passed clock' where
  inside := h.inside
  apart := h.apart
  within := h.within
  opened := nofun
  closed _ p hp := by
    rcases (h.opened _ rfl).2.2 p hp with he | hl
    · omega
    · dsimp only at hl
      omega

theorem opens (h : Windows width limit none passed clock) (hw : 0 < width) :
    Windows width limit (some (clock, 0)) passed clock where
  inside := h.inside
  apart := h.apart
  within := h.within
  opened := by
    rintro _ ⟨⟩
    refine ⟨le_rfl, ?_, fun p hp => .inr (h.closed rfl p hp)⟩
    rw [le_zero, countP_eq_zero]
    intro p hp
    have := h.closed rfl p hp
    simp only [decide_eq_true_eq]
    omega
  closed := nofun

/-- A count that nothing was let through for. -/
lemma spends (h : Windows width limit (some (st, ct)) passed clock) :
    Windows width limit (some (st, ct + 1)) passed clock where
  inside := h.inside
  apart := h.apart
  within := h.within
  opened := by
    rintro _ ⟨⟩
    obtain ⟨hl, hc, hp⟩ := h.opened _ rfl
    exact ⟨hl, hc.trans (le_succ _), hp⟩
  closed := nofun

lemma passes (h : Windows width limit (some (st, ct)) passed clock) (hlt : ct < limit)
    (hon : clock < st + width) :
    Windows width limit (some (st, ct + 1)) (passed ++ [(clock, st)]) clock := by
  obtain ⟨hl, hc, hpa⟩ := h.opened _ rfl
  dsimp only at hl hc hpa
  have hm : ∀ p ∈ passed ++ [(clock, st)], p ∈ passed ∨ p = (clock, st) := by simp
  refine ⟨fun p hp => ?_, fun p hp q hq hpq => ?_, fun s => ?_, ?_, nofun⟩
  · rcases hm p hp with hp | rfl
    · exact h.inside p hp
    · exact ⟨hl, hon⟩
  · rcases hm p hp with hp | rfl <;> rcases hm q hq with hq | rfl
    · exact h.apart p hp q hq hpq
    · rcases hpa p hp with he | h
      · exact absurd he hpq.ne
      · exact h
    · rcases hpa q hq with he | h
      · exact absurd he hpq.ne'
      · dsimp only at hpq
        omega
    · exact absurd hpq (lt_irrefl _)
  · rw [countP_append, countP_singleton]
    split_ifs with hs
    · obtain rfl := of_decide_eq_true hs
      exact (Nat.add_le_add_right hc 1).trans hlt
    · exact h.within s
  · rintro _ ⟨⟩
    refine ⟨hl, ?_, fun p hp => ?_⟩
    · rw [countP_append, countP_singleton, if_pos (by simp)]
      exact Nat.add_le_add_right hc 1
    · rcases hm p hp with hp | rfl
      · exact hpa p hp
      · exact .inl rfl

/-- What one window let through. -/
lemma le_limit (h : Windows width limit cur passed clock) {P : Nat × Nat → Bool}
    (hon : ∀ p ∈ passed, ∀ q ∈ passed, P p → P q → p.2 = q.2) : passed.countP P ≤ limit := by
  by_cases ha : ∃ p ∈ passed, P p
  · obtain ⟨p, hp, hP⟩ := ha
    refine (countP_mono_left fun q hq hPq => ?_).trans (h.within p.2)
    exact decide_eq_true (hon q hq p hp hPq hP)
  · push Not at ha
    rw [countP_eq_zero.mpr ha]
    exact zero_le _

/-- **Two windows at most meet a time as long as one of them**: the one that was open when it began, and
the next. -/
theorem le_twice (h : Windows width limit cur passed clock) (time : Nat) :
    passed.countP (fun p => time ≤ p.1 ∧ p.1 ≤ time + width) ≤ 2 * limit := by
  rw [countP_eq_countP_filter_add _ _ fun p => p.2 ≤ time, countP_filter, countP_filter, two_mul]
  refine Nat.add_le_add (h.le_limit fun p hp q hq hP hPq => ?_)
    (h.le_limit fun p hp q hq hP hPq => ?_) <;>
  · have := h.inside p hp
    have := h.inside q hq
    have := h.apart p hp q hq
    have := h.apart q hq p hp
    simp only [Bool.and_eq_true, Bool.not_eq_true', decide_eq_true_eq, decide_eq_false_iff_not] at hP hPq
    omega

end Windows

end Hypercolor.Lib
