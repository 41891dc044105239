import Mathlib.Data.List.Chain

/-!
# Announced changes of a signal

Some state is on or off. Whoever turns it may announce the change or keep quiet about it.

* **`Follows.record`**: a log of the changes stays alternating and up to date.
* **`isChain_announcements`**: where turning it off is always announced, two announcements that it is on
  never follow each other.
* **`getLast?_announcements_of_off`**, **`getLast?_announcements_of_on`**: what the last announcement
  says of the signal.
* **`announcements_of_loud`**: where nobody kept quiet, the announcements alternate and the last one is
  true.
-/

namespace Hypercolor.Lib

open List

/-- A change of the signal, announced or not. -/
structure Change where
  on : Bool
  loud : Bool

namespace Change

/-- What a step from one level to another adds to the log. -/
def record (before after loud : Bool) : List Change := if before = after then [] else [⟨after, loud⟩]

/-- What was announced. -/
def announcements (log : List Change) : List Bool := (log.filter (·.loud)).map (·.on)

/-- The log of a signal that was off alternates and ends in its level. -/
structure Follows (log : List Change) (now : Bool) : Prop where
  alternates : (false :: log.map (·.on)).IsChain (· ≠ ·)
  last : (log.map (·.on)).getLast?.getD false = now

variable {log : List Change} {before after now loud : Bool}

@[simp] theorem announcements_append (log log' : List Change) :
    announcements (log ++ log') = announcements log ++ announcements log' := by
  rw [announcements, filter_append, map_append]
  rfl

lemma mem_record {ch : Change} (h : ch ∈ record before after loud) : ch = ⟨after, loud⟩ := by
  unfold record at h
  split at h
  · cases h
  · exact mem_singleton.mp h

lemma follows_nil : Follows [] false := ⟨.singleton _, rfl⟩

theorem Follows.record (h : Follows log before) (loud : Bool) :
    Follows (log ++ Change.record before after loud) after := by
  by_cases hs : before = after
  · rw [Change.record, if_pos hs, append_nil, ← hs]
    exact h
  · rw [Change.record, if_neg hs]
    refine ⟨?_, by simp⟩
    rw [map_append, ← cons_append, isChain_append]
    refine ⟨h.alternates, .singleton _, ?_⟩
    rintro x hx y ⟨⟩
    have hl := h.last
    rw [getLast?_cons, Option.mem_def, Option.some_inj] at hx
    rw [← hx, hl]
    exact hs

/-- From any level: what is announced first after it was on is that it is off. -/
lemma isChain_announcements_from (st : Bool) (h : (st :: log.map (·.on)).IsChain (· ≠ ·))
    (hof : ∀ ch ∈ log, ch.on = false → ch.loud = true) :
    ((announcements log).IsChain fun a b => a = true → b = false) ∧
      ∀ b ∈ (announcements log).head?, st = true → b = false := by
  induction log generalizing st with
  | nil => exact ⟨.nil, nofun⟩
  | cons ch log ih =>
    obtain ⟨hn, hr⟩ := isChain_cons_cons.mp h
    obtain ⟨hch, hh⟩ := ih ch.on hr fun c hc => hof c (mem_cons_of_mem _ hc)
    cases hl : ch.loud with
    | true =>
      have ha : announcements (ch :: log) = ch.on :: announcements log := by
        rw [announcements, filter_cons_of_pos hl]
        rfl
      rw [ha]
      refine ⟨isChain_cons.mpr ⟨hh, hch⟩, ?_⟩
      rintro _ ⟨⟩ rfl
      exact eq_false_of_ne_true hn.symm
    | false =>
      -- a quiet change turns the signal on
      have ha : announcements (ch :: log) = announcements log := by
        rw [announcements, filter_cons_of_neg (by simp [hl])]
        rfl
      have hon : ch.on = true := by
        by_contra hco
        rw [hof ch mem_cons_self (eq_false_of_ne_true hco)] at hl
        cases hl
      rw [ha]
      exact ⟨hch, fun _ _ hs => absurd (hs.trans hon.symm) hn⟩

/-- An announcement that it is on is followed by one that it is off, as far as there is one. -/
theorem isChain_announcements (h : Follows log now)
    (hof : ∀ change ∈ log, change.on = false → change.loud = true) :
    (announcements log).IsChain fun a b => a = true → b = false :=
  (isChain_announcements_from false h.alternates hof).1

theorem announcements_of_loud (h : Follows log now) (hl : ∀ change ∈ log, change.loud) :
    (announcements log).IsChain (· ≠ ·) ∧ (announcements log).getLast?.getD false = now := by
  have ha : announcements log = log.map (·.on) := by
    rw [announcements, filter_eq_self.mpr hl]
  rw [ha]
  exact ⟨h.alternates.tail, h.last⟩

/-- Where turning it off is always announced, the last announcement of a signal that is off is not that
it is on. -/
theorem getLast?_announcements_of_off (h : Follows log false)
    (hof : ∀ change ∈ log, change.on = false → change.loud) :
        (announcements log).getLast? ≠ some true := by
  rcases eq_nil_or_concat log with rfl | ⟨init, change, rfl⟩
  · exact nofun
  · have hon : change.on = false := by simpa using h.last
    have hl := hof change (by simp) hon
    simp [announcements, hl, hon]

/-- The last announcement of a signal that is on is that it is, unless the last change was quiet. -/
theorem getLast?_announcements_of_on (h : Follows log true) : (announcements log).getLast? = some true ∨
      ∃ change, log.getLast? = some change ∧ change.loud = false := by
  rcases eq_nil_or_concat log with rfl | ⟨init, change, rfl⟩
  · exact nomatch h.last
  · have hon : change.on := by simpa using h.last
    cases hl : change.loud with
    | true => exact .inl (by simp [announcements, hl, hon])
    | false => exact .inr ⟨change, by simp, hl⟩

end Change

end Hypercolor.Lib
