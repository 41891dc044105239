import Hypercolor.FrameRouting.Staging

/-!
# Written ranges

**`written_ranges_exact`**: the ranges of a staging buffer stay in order and apart, and cover just the
LEDs that were marked.
-/

namespace Hypercolor.FrameRouting

open List

/-- The ranges are nonempty and in order, and no two of them touch. -/
structure Apart (ranges : List LedRange) : Prop where
  nonempty : ∀ range ∈ ranges, range.start < range.stop
  sorted : ranges.Pairwise (·.stop < ·.start)

/-- A range holds the LED. -/
def Marked (ranges : List LedRange) (i : Nat) : Prop := ∃ range ∈ ranges, range.start ≤ i ∧ i < range.stop

variable {ranges rs : List LedRange} {r : LedRange} {start stop i : Nat}

@[simp] theorem marked_nil : ¬ Marked [] i := fun ⟨_, h, _⟩ => nomatch h

@[simp] theorem marked_cons : Marked (r :: rs) i ↔ (r.start ≤ i ∧ i < r.stop) ∨ Marked rs i := by
  simp [Marked]

@[simp] theorem marked_append : Marked (ranges ++ rs) i ↔ Marked ranges i ∨ Marked rs i := by
  simp [Marked, or_and_right, exists_or]

lemma lt_of_mem_insertRange {low : Nat} (hs : low < start) (h : ∀ r ∈ ranges, low < r.start) :
    ∀ r ∈ insertRange start stop ranges, low < r.start := by
  induction ranges generalizing start stop with
  | nil => simpa [insertRange] using hs
  | cons r rs ih =>
    obtain ⟨hr, hrs⟩ := forall_mem_cons.mp h
    rw [insertRange]
    split_ifs
    · exact forall_mem_cons.mpr ⟨hr, ih hs hrs⟩
    · exact forall_mem_cons.mpr ⟨hs, h⟩
    · exact ih (lt_min hs hr) hrs

/-- **A mark** keeps the ranges apart and adds itself. -/
lemma insertRange_spec (h : Apart ranges) (hs : start < stop) : Apart (insertRange start stop ranges) ∧
    ∀ i, Marked (insertRange start stop ranges) i ↔ (start ≤ i ∧ i < stop) ∨ Marked ranges i := by
  induction ranges generalizing start stop with
  | nil => exact ⟨⟨by simpa [insertRange] using hs, pairwise_singleton _ _⟩, by simp [insertRange]⟩
  | cons r rs ih =>
    obtain ⟨hr, hrs⟩ := forall_mem_cons.mp h.nonempty
    obtain ⟨hl, hp⟩ := pairwise_cons.mp h.sorted
    rw [insertRange]
    split_ifs with h₁ h₂
    · obtain ⟨ha, hm⟩ := ih ⟨hrs, hp⟩ hs
      refine ⟨⟨forall_mem_cons.mpr ⟨hr, ha.nonempty⟩,
        pairwise_cons.mpr ⟨lt_of_mem_insertRange h₁ hl, ha.sorted⟩⟩, fun i => ?_⟩
      rw [marked_cons, hm, marked_cons, or_left_comm]
    · refine ⟨⟨forall_mem_cons.mpr ⟨hs, h.nonempty⟩, pairwise_cons.mpr ⟨?_, h.sorted⟩⟩,
        fun i => marked_cons⟩
      exact forall_mem_cons.mpr ⟨h₂, fun q hq => h₂.trans (hr.trans (hl q hq))⟩
    · have hlt : min start r.start < max stop r.stop := by omega
      obtain ⟨ha, hm⟩ := ih ⟨hrs, hp⟩ hlt
      refine ⟨ha, fun i => ?_⟩
      rw [hm, marked_cons, ← or_assoc]
      exact or_congr_left (by omega)

lemma apart_concat : Apart (ranges ++ [r]) ↔
    Apart ranges ∧ r.start < r.stop ∧ ∀ q ∈ ranges, q.stop < r.start := by
  have hn : (∀ q ∈ ranges ++ [r], q.start < q.stop) ↔ (∀ q ∈ ranges, q.start < q.stop) ∧
      r.start < r.stop := by
    simp [or_imp, forall_and]
  refine ⟨fun ⟨hq, hs⟩ => ?_, fun ⟨⟨hq, hp⟩, hr, hl⟩ => ⟨hn.mpr ⟨hq, hr⟩, ?_⟩⟩
  · obtain ⟨hp, -, hl⟩ := pairwise_append.mp hs
    exact ⟨⟨(hn.mp hq).1, hp⟩, (hn.mp hq).2, fun q hq => hl q hq r mem_cons_self⟩
  · exact pairwise_append.mpr ⟨hp, pairwise_singleton _ _, by simpa using hl⟩

/-- One range more. -/
lemma markWrittenRange_spec (staging : DeviceStagingBuffer) (h : Apart staging.writtenRanges)
    (start stop : Nat) : Apart (staging.markWrittenRange start stop).writtenRanges ∧
      ∀ i, Marked (staging.markWrittenRange start stop).writtenRanges i ↔
        (start ≤ i ∧ i < stop) ∨ Marked staging.writtenRanges i := by
  unfold DeviceStagingBuffer.markWrittenRange
  split_ifs with hs
  · exact ⟨h, fun i => (or_iff_right (by omega)).symm⟩
  have hs : start < stop := Nat.not_le.mp hs
  rcases eq_nil_or_concat staging.writtenRanges with he | ⟨init, last, he⟩
  · rw [he, getLast?_nil]
    exact insertRange_spec (he ▸ h) hs
  rw [concat_eq_append] at he
  obtain ⟨hi, hl, hb⟩ := apart_concat.mp (he ▸ h)
  rw [he, getLast?_concat]
  dsimp only
  split_ifs with h₁ h₂
  · dsimp only
    rw [dropLast_concat]
    refine ⟨apart_concat.mpr ⟨hi, by dsimp only; omega, hb⟩, fun i => ?_⟩
    simp only [marked_append, marked_cons, marked_nil, or_false]
    rw [or_left_comm]
    exact or_congr_right (by omega)
  · refine ⟨apart_concat.mpr ⟨he ▸ h, hs, fun q hq => ?_⟩, fun i => ?_⟩
    · show q.stop < start
      rcases mem_append.mp hq with hq | hq
      · exact (hb q hq).trans (by omega)
      · rw [mem_singleton.mp hq]
        omega
    · simp [or_comm, or_assoc]
  · exact he ▸ insertRange_spec h hs

/-- **Any ranges in any order**, from a buffer that was cleared. -/
theorem written_ranges_exact (staging : DeviceStagingBuffer) (marks : List LedRange) :
    let marked := marks.foldl (fun staging mark => staging.markWrittenRange mark.start mark.stop)
      { staging with writtenRanges := [] }
    Apart marked.writtenRanges ∧ ∀ i, Marked marked.writtenRanges i ↔ Marked marks i := by
  induction marks using reverseRecOn with
  | nil => exact ⟨⟨nofun, .nil⟩, fun _ => Iff.rfl⟩
  | append_singleton marks mark ih =>
    obtain ⟨ha, hm⟩ := ih
    rw [foldl_append, foldl_cons, foldl_nil]
    obtain ⟨ha', hm'⟩ := markWrittenRange_spec _ ha mark.start mark.stop
    refine ⟨ha', fun i => (hm' i).trans ?_⟩
    rw [hm, or_comm, marked_append, marked_cons]
    simp

end Hypercolor.FrameRouting
