import Hypercolor.Idempotency.Store

/-!
# The completion queue describes the completed entries

`Queue s now`: the completion queue of the store lists exactly the completed entries, once each,
oldest first, none from the future. Under it the eviction code has a simple meaning:

* `evictFront` always finds the record current, so it drops the oldest completed entry
  (`evictFront_spec`);
* `expire` drops exactly the completed entries of age at least `age` (`expire_spec`): a key
  whose old record is still queued cannot exist, so no younger entry is dropped in its place;
* `shrinkTo` drops some completed entries and never an in-flight one (`shrinkTo_spec`).
-/

namespace Hypercolor.Idempotency

open List AList

namespace StoreInner

variable {K F : Type} [DecidableEq K]

/-- The completion queue lists the completed entries, each once, in completion order. -/
structure Queue (s : StoreInner K F) (now : Nat) : Prop where
  sorted : s.completed.Pairwise fun a b => a.completedAt ≤ b.completedAt
  past : ∀ r ∈ s.completed, r.completedAt ≤ now
  keys_nodup : (s.completed.map CompletedRecord.key).Nodup
  described : ∀ r ∈ s.completed, ∃ fp o,
    s.entries.lookup r.key = some (.completed fp o r.sequence r.completedAt)
  recorded : ∀ k fp o q t, s.entries.lookup k = some (.completed fp o q t) →
    ⟨k, q, t⟩ ∈ s.completed

lemma Queue.default : (default : StoreInner K F).Queue 0 where
  sorted := List.Pairwise.nil
  past := by simp [StoreInner.default]
  keys_nodup := nodup_nil
  described := by simp [StoreInner.default]
  recorded := by
    intro k fp o q t h
    simp [StoreInner.default] at h

variable {s : StoreInner K F} {now : Nat}

lemma Queue.mono {now' : Nat} (h : s.Queue now) (hl : now ≤ now') : s.Queue now' :=
  { h with past := fun r hr => (h.past r hr).trans hl }

/-- What popping the front record does: its entry goes, and nothing else. -/
theorem evictFront_spec (h : s.Queue now) {rec : CompletedRecord K}
    {rest : List (CompletedRecord K)} (hq : s.completed = rec :: rest) :
    ∃ s', s.evictFront = some s' ∧ s'.entries = s.entries.erase rec.key ∧
      s'.completed = rest ∧ s'.Queue now := by
  obtain ⟨fp, o, hl⟩ := h.described rec (by rw [hq]; exact mem_cons_self)
  have hn := h.keys_nodup
  have hs := h.sorted
  rw [hq] at hn hs
  rw [map_cons, nodup_cons] at hn
  -- a record of the rest is about another key
  have hne : ∀ r ∈ rest, r.key ≠ rec.key := by
    intro r hr heq
    exact hn.1 (mem_map.mpr ⟨r, hr, heq⟩)
  refine ⟨_, by simp only [evictFront, hq]; rfl, ?_, ?_, ?_⟩
  · simp [describes, forget, hl]
  · simp [describes, forget, hl]
  · have he : ∀ (t : StoreInner K F), t.entries = s.entries.erase rec.key →
        t.completed = rest → t.Queue now := by
      intro t he hre
      refine ⟨?_, ?_, ?_, ?_, ?_⟩
      · rw [hre]
        exact (pairwise_cons.mp hs).2
      · intro r hr
        rw [hre] at hr
        exact h.past r (by rw [hq]; exact mem_cons_of_mem _ hr)
      · rw [hre]
        exact hn.2
      · intro r hr
        rw [hre] at hr
        obtain ⟨fp', o', hl'⟩ := h.described r (by rw [hq]; exact mem_cons_of_mem _ hr)
        exact ⟨fp', o', by rw [he, lookup_erase_ne (hne r hr), hl']⟩
      · intro k fp' o' q t' hk
        rw [he] at hk
        have hkn : k ≠ rec.key := by
          rintro rfl
          rw [lookup_erase] at hk
          cases hk
        rw [lookup_erase_ne hkn] at hk
        have hm := h.recorded k fp' o' q t' hk
        rw [hq, mem_cons] at hm
        rw [hre]
        rcases hm with rfl | hm
        · exact absurd rfl hkn
        · exact hm
    exact he _ (by simp [describes, forget, hl]) (by simp [describes, forget, hl])

/-- What is left of a lookup once entries of age `age` are gone. -/
def unexpired (now age : Nat) : Option (Entry F) → Option (Entry F)
  | some (.completed fp o q t) => if now - t < age then some (.completed fp o q t) else none
  | e => e

/-- **Expiry is exact**: it drops the completed entries of age at least `age` and keeps every
other entry. -/
lemma expire_spec (now age : Nat) (s : StoreInner K F) (h : s.Queue now) : (s.expire now age).Queue now ∧
      ∀ k, (s.expire now age).entries.lookup k = unexpired now age (s.entries.lookup k) := by
  fun_induction expire now age s with
  | case1 s hq =>
      refine ⟨h, fun k => ?_⟩
      rcases hk : s.entries.lookup k with _ | e
      · rfl
      · rcases e with ⟨fp, id⟩ | ⟨fp, o, q, t⟩
        · rfl
        · have := h.recorded k fp o q t hk
          rw [hq] at this
          cases this
  | case2 s front rest hq hfr =>
      -- the front is the oldest, so nothing behind it has expired
      refine ⟨h, fun k => ?_⟩
      rcases hk : s.entries.lookup k with _ | e
      · rfl
      · rcases e with ⟨fp, id⟩ | ⟨fp, o, q, t⟩
        · rfl
        · have hm := h.recorded k fp o q t hk
          have hsr := h.sorted
          rw [hq] at hm hsr
          have hle : front.completedAt ≤ t := by
            rcases mem_cons.mp hm with heq | hm
            · rw [← heq]
            · exact (pairwise_cons.mp hsr).1 _ hm
          have : now - t < age := by omega
          simp [unexpired, this]
  | case3 s front rest hq hold he =>
      obtain ⟨s', hs', -⟩ := evictFront_spec h hq
      rw [hs'] at he
      cases he
  | case4 s front rest hq hold s₁ he ih =>
      obtain ⟨s', hs', hen, -, hqu⟩ := evictFront_spec h hq
      rw [hs'] at he
      cases he
      obtain ⟨hq', hl⟩ := ih hqu
      refine ⟨hq', fun k => ?_⟩
      rw [hl, hen]
      by_cases hk : k = front.key
      · subst hk
        obtain ⟨fp, o, hf⟩ := h.described front (by rw [hq]; exact mem_cons_self)
        rw [lookup_erase, hf]
        simp [unexpired, hold]
      · rw [lookup_erase_ne hk]

/-- Shrinking drops completed entries only. -/
lemma shrinkTo_spec (ret : Retention) (now : Nat) (s : StoreInner K F) (h : s.Queue now) :
    (s.shrinkTo ret).Queue now ∧ ∀ k, (s.shrinkTo ret).entries.lookup k = s.entries.lookup k ∨
        ((s.shrinkTo ret).entries.lookup k = none ∧
          ∃ fp o q t, s.entries.lookup k = some (.completed fp o q t)) := by
  fun_induction shrinkTo ret s with
  | case1 s hb he | case3 s hok => exact ⟨h, fun k => .inl rfl⟩
  | case2 s hb s₁ he ih =>
      rcases hq : s.completed with _ | ⟨front, rest⟩
      · simp [evictFront, hq] at he
      · obtain ⟨s', hs', hen, -, hqu⟩ := evictFront_spec h hq
        rw [hs'] at he
        cases he
        obtain ⟨hq', hl⟩ := ih hqu
        refine ⟨hq', fun k => ?_⟩
        by_cases hk : k = front.key
        · subst hk
          obtain ⟨fp, o, hf⟩ := h.described front (by rw [hq]; exact mem_cons_self)
          have hn : s₁.entries.lookup front.key = none := by rw [hen, lookup_erase]
          refine .inr ⟨?_, fp, o, _, _, hf⟩
          rcases hl front.key with heq | ⟨heq, -⟩
          · rw [heq, hn]
          · exact heq
        · have hsa : s₁.entries.lookup k = s.entries.lookup k := by
            rw [hen, lookup_erase_ne hk]
          rw [← hsa]
          exact hl k

/-- More completed answers than the bounds allow. -/
def OverBounds (retention : Retention) (s : StoreInner K F) : Prop :=
  s.completedCount > max retention.entries 1 ∨ (s.storedBytes > retention.bytes ∧ s.completedCount > 1)

/-- Within its bounds a store is not shrunk. -/
lemma shrinkTo_of_within {ret : Retention} (h : ¬ s.OverBounds ret) : s.shrinkTo ret = s := by
  rw [shrinkTo]
  exact if_neg h

/-! ## The critical sections keep the queue -/

variable {key : K}

/-- Taking a free key into flight changes no completed entry. -/
lemma Queue.insert_inFlight {s' : StoreInner K F} (h : s.Queue now)
    (hf : s.entries.lookup key = none) {fingerprint : F} {flight : FlightId}
    (he : s'.entries = s.entries.insert key (.inFlight fingerprint flight))
    (hq : s'.completed = s.completed) : s'.Queue now := by
  refine ⟨by rw [hq]; exact h.sorted, by rw [hq]; exact h.past, by rw [hq]; exact h.keys_nodup, ?_, ?_⟩
  · intro r hr
    rw [hq] at hr
    obtain ⟨fp, o, hl⟩ := h.described r hr
    have hn : r.key ≠ key := by
      rintro rfl
      rw [hf] at hl
      cases hl
    exact ⟨fp, o, by rw [he, lookup_insert_ne hn, hl]⟩
  · intro k fp o q t hk
    rw [he] at hk
    rw [hq]
    by_cases hn : k = key
    · subst hn
      rw [lookup_insert] at hk
      cases hk
    · rw [lookup_insert_ne hn] at hk
      exact h.recorded k fp o q t hk

variable {fp : F} {id : FlightId}

/-- Recording an answer for a key without a completed entry appends it to the queue. -/
lemma record_queue (h : s.Queue now) (hru : s.entries.lookup key = some (.inFlight fp id))
    (fingerprint : F) (bs : Nat) (oc : Outcome) : (s.record now key fingerprint bs oc).Queue now := by
  have hn : ∀ r ∈ s.completed, r.key ≠ key := by
    rintro r hr rfl
    obtain ⟨fp', o', hl⟩ := h.described r hr
    rw [hru] at hl
    cases hl
  refine ⟨?_, ?_, ?_, ?_, ?_⟩
  · refine pairwise_append.mpr ⟨h.sorted, pairwise_singleton _ _, ?_⟩
    intro a ha b hb
    rw [mem_singleton.mp hb]
    exact h.past a ha
  · intro r hr
    rcases mem_append.mp hr with hr | hr
    · exact h.past r hr
    · rw [mem_singleton.mp hr]
  · rw [record, map_append, nodup_append]
    refine ⟨h.keys_nodup, by simp, ?_⟩
    intro a ha b hb
    obtain ⟨r, hr, rfl⟩ := mem_map.mp ha
    simp only [map_cons, map_nil, mem_singleton] at hb
    rw [hb]
    exact hn r hr
  · intro r hr
    rcases mem_append.mp hr with hr | hr
    · obtain ⟨fp', o', hl⟩ := h.described r hr
      exact ⟨fp', o', by rw [record, lookup_insert_ne (hn r hr), hl]⟩
    · rw [mem_singleton.mp hr]
      exact ⟨fingerprint, oc, lookup_insert _⟩
  · intro k fp' o' q t hk
    by_cases hke : k = key
    · subst hke
      rw [record, lookup_insert] at hk
      cases hk
      exact mem_append_right _ (mem_singleton.mpr rfl)
    · rw [record, lookup_insert_ne hke] at hk
      exact mem_append_left _ (h.recorded k fp' o' q t hk)

/-- What a settlement leaves of the entries: the new record unless it expired at once, and every
other entry unless it was a completed one. -/
lemma settle_spec (ret : Retention) (h : s.Queue now)
    (hru : s.entries.lookup key = some (.inFlight fp id)) (fingerprint : F) (bs : Nat)
    (oc : Outcome) : (s.settle ret now key fingerprint bs oc).Queue now ∧
      ((s.settle ret now key fingerprint bs oc).entries.lookup key = none ∨
        (s.settle ret now key fingerprint bs oc).entries.lookup key =
          some (.completed fingerprint oc s.nextSequence now)) ∧ ∀ k, k ≠ key →
        (s.settle ret now key fingerprint bs oc).entries.lookup k = s.entries.lookup k ∨
          ((s.settle ret now key fingerprint bs oc).entries.lookup k = none ∧
            ∃ fp o q t, s.entries.lookup k = some (.completed fp o q t)) := by
  obtain ⟨hq₁, hlook₁⟩ := expire_spec now ret.age _ (record_queue h hru fingerprint bs oc)
  obtain ⟨hq₂, hlook₂⟩ := shrinkTo_spec ret now _ hq₁
  refine ⟨hq₂, ?_, fun k hk => ?_⟩
  · rcases hlook₂ key with he | ⟨he, -⟩
    · rw [settle, he, hlook₁, record, lookup_insert]
      by_cases ha : now - now < ret.age
      · exact .inr (if_pos ha)
      · exact .inl (if_neg ha)
    · exact .inl he
  · have hr : (s.record now key fingerprint bs oc).entries.lookup k =
        s.entries.lookup k := lookup_insert_ne hk
    have h₁ := hlook₁ k
    rw [hr] at h₁
    rcases hc : s.entries.lookup k with _ | e
    · rw [hc] at h₁
      rcases hlook₂ k with he | ⟨he, -⟩
      · exact .inl (he.trans h₁)
      · exact .inl he
    · rcases e with ⟨fp', id'⟩ | ⟨fp', o', q', t'⟩
      · rw [hc] at h₁
        rcases hlook₂ k with he | ⟨-, fp'', o'', q'', t'', hab⟩
        · exact .inl (he.trans h₁)
        · rw [h₁] at hab
          cases hab
      · rw [hc] at h₁
        simp only [unexpired] at h₁
        rcases hlook₂ k with he | ⟨he, -⟩
        · rw [settle, he, h₁]
          split
          · exact .inl rfl
          · exact .inr ⟨rfl, fp', o', q', t', rfl⟩
        · exact .inr ⟨he, fp', o', q', t', rfl⟩

end StoreInner

end Hypercolor.Idempotency
