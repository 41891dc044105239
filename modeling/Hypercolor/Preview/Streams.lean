import Hypercolor.Preview.Reassembler

/-!
# What a call does to the other streams

How the entries of the stream table before and after an eviction, a marking or an expiry sweep are
related. Eviction takes tombstones only, marking changes generations only, a sweep drops partials
that were idle for too long, and none of them touches a high-water mark.
-/

set_option linter.unusedSectionVars false

namespace Hypercolor.Preview

open Lib List Option AList StreamState

variable [Platform]

/-! ## Eviction -/

variable {str : PreviewStreamId} {st : StreamState}

namespace Reassembler

variable {r r' : Reassembler}

/-- What an eviction removes is a tombstone. -/
lemma evictOldest_eq_some (h : r.evictOldest = some r') :
    ∃ str st, r.streams.lookup str = some st ∧ st.isTombstone ∧ r' = { r with
        streams := r.streams.erase str
        tombstones := r.tombstones - 1
        tombstoneBytes := r.tombstoneBytes - stateSize str } := by
  obtain ⟨oldest, hm, h⟩ := bind_eq_some_iff.mp h
  obtain ⟨e, hf, h⟩ := bind_eq_some_iff.mp h
  -- The oldest generation belongs to a tombstone, so it is not 0.
  obtain ⟨fd, hfn, hg⟩ := mem_map.mp (min?_mem hm)
  have hp := (of_decide_eq_true (mem_filter.mp hfn).2).2
  have he : e.2.partialPub.isNone ∧ e.2.tombstoneGeneration = oldest := by
    simpa using find?_some hf
  refine ⟨e.1, e.2, ?_, ?_, (some.inj h).symm⟩
  · exact mem_lookup_iff.mpr (mem_of_find?_eq_some hf)
  · exact decide_eq_true ⟨he.1, by rw [he.2, ← hg]; exact hp⟩

/-- An eviction that finds nothing leaves no tombstone. -/
lemma evictOldest_eq_none (h : r.evictOldest = none) (hs : r.streams.lookup str = some st) :
    ¬ st.isTombstone := by
  intro ht
  have hme : st.tombstoneGeneration ∈ (r.streams.values.filter isTombstone).map tombstoneGeneration :=
    mem_map.mpr ⟨st, mem_filter.mpr ⟨Table.mem_values_of_lookup hs, ht⟩, rfl⟩
  cases hm : ((r.streams.values.filter isTombstone).map
      tombstoneGeneration).min? with
  | none =>
    rw [min?_eq_none_iff.mp hm] at hme
    exact absurd hme (by simp)
  | some oldest =>
    obtain ⟨fd, hfn, hg⟩ := mem_map.mp (min?_mem hm)
    obtain ⟨hv, hto⟩ := mem_filter.mp hfn
    obtain ⟨entry, he, rfl⟩ := mem_map.mp hv
    have hn := bind_eq_none_iff.mp h oldest hm
    cases hf : r.streams.entries.find? fun e =>
        decide (e.2.partialPub.isNone ∧ e.2.tombstoneGeneration = oldest) with
    | some e => exact nomatch bind_eq_none_iff.mp hn e hf
    | none =>
      have := find?_eq_none.mp hf entry he
      exact this (decide_eq_true ⟨(of_decide_eq_true hto).1, hg⟩)

/-- What an eviction leaves alone: everything but tombstones and their two counters. -/
structure Evicted (r r' : Reassembler) : Prop where
  limits_eq : r'.limits = r.limits
  tombstoneBytes_le : r'.tombstoneBytes ≤ r.tombstoneBytes
  lookup_of_lookup : ∀ stream state, r'.streams.lookup stream = some state →
    r.streams.lookup stream = some state
  lookup_eq : ∀ stream state, r.streams.lookup stream = some state → ¬ state.isTombstone →
    r'.streams.lookup stream = some state

lemma Evicted.refl (r : Reassembler) : Evicted r r := ⟨rfl, le_rfl, fun _ _ h => h, fun _ _ h _ => h⟩

lemma Evicted.trans {r'' : Reassembler} (h : Evicted r r') (h' : Evicted r' r'') : Evicted r r'' where
  limits_eq := h'.limits_eq.trans h.limits_eq
  tombstoneBytes_le := h'.tombstoneBytes_le.trans h.tombstoneBytes_le
  lookup_of_lookup _ _ hs := h.lookup_of_lookup _ _ (h'.lookup_of_lookup _ _ hs)
  lookup_eq _ _ hs ht := h'.lookup_eq _ _ (h.lookup_eq _ _ hs ht) ht

lemma evicted_evictOldest (h : r.evictOldest = some r') : Evicted r r' := by
  obtain ⟨victim, gone, hv, hto, rfl⟩ := evictOldest_eq_some h
  refine ⟨rfl, Nat.sub_le _ _, fun str st hs => ?_, fun str st hs ht => ?_⟩
  · by_cases hk : str = victim
    · subst hk
      simp [lookup_erase] at hs
    · rwa [lookup_erase_ne hk] at hs
  · have hk : str ≠ victim := by
      rintro rfl
      rw [hs] at hv
      cases hv
      exact ht hto
    show (r.streams.erase victim).lookup str = some st
    rwa [lookup_erase_ne hk]

variable (exceeds : Reassembler → Bool) (fuel : Nat)

lemma evictWhile_evicted (r : Reassembler) : Evicted r (evictWhile exceeds fuel r) := by
  induction fuel generalizing r with
  | zero => exact .refl r
  | succ fuel ih =>
    unfold evictWhile
    split
    · cases h : r.evictOldest with
      | none => exact .refl r
      | some r' => exact (evicted_evictOldest h).trans (ih r')
    · exact .refl r

/-- The fuel is enough: the loop ends because its condition does or because no tombstone is left. -/
lemma evictWhile_ends (hf : r.streams.entries.length ≤ fuel) :
    ¬ exceeds (evictWhile exceeds fuel r) ∨ (evictWhile exceeds fuel r).evictOldest = none := by
  induction fuel generalizing r with
  | zero =>
    have hn : r.streams.entries = [] := length_eq_zero_iff.mp (by omega)
    simp [evictWhile, Reassembler.evictOldest, Table.values, hn]
  | succ fuel ih =>
    unfold evictWhile
    split
    · cases h : r.evictOldest with
      | none => exact .inr h
      | some r' =>
        obtain ⟨victim, gone, hv, -, rfl⟩ := evictOldest_eq_some h
        refine ih ?_
        have hl := (Table.perm_kerase hv).length_eq
        rw [length_cons] at hl
        show (r.streams.entries.kerase victim).length ≤ fuel
        omega
    · rename_i hx
      exact .inl hx

lemma makeTombstoneRoom_evicted (r : Reassembler) (additionalBytes : Nat) :
    Evicted r (r.makeTombstoneRoom additionalBytes) :=
  evictWhile_evicted _ _ r

lemma pruneTombstones_evicted (r : Reassembler) : Evicted r r.pruneTombstones := evictWhile_evicted _ _ r

end Reassembler

/-! ## One stream's call -/

namespace Reassembler

variable {str : PreviewStreamId} {r r' r'' : Reassembler}

/-- What a call about one stream does to the others: of their entries only tombstones go, and none
changes. -/
structure Spares (stream : PreviewStreamId) (r r' : Reassembler) : Prop where
  limits_eq : r'.limits = r.limits
  lookup_of_lookup : ∀ k state, k ≠ stream → r'.streams.lookup k = some state →
    r.streams.lookup k = some state
  lookup_eq : ∀ k state, k ≠ stream → r.streams.lookup k = some state → ¬ state.isTombstone →
    r'.streams.lookup k = some state

lemma Spares.refl (str : PreviewStreamId) (r : Reassembler) : Spares str r r :=
  ⟨rfl, fun _ _ _ h => h, fun _ _ _ h _ => h⟩

lemma Spares.trans (h : Spares str r r') (h' : Spares str r' r'') : Spares str r r'' where
  limits_eq := h'.limits_eq.trans h.limits_eq
  lookup_of_lookup k st hn hk := h.lookup_of_lookup k st hn (h'.lookup_of_lookup k st hn hk)
  lookup_eq k st hn hk ht := h'.lookup_eq k st hn (h.lookup_eq k st hn hk ht) ht

lemma Evicted.spares (h : Evicted r r') (str : PreviewStreamId) : Spares str r r' :=
  ⟨h.limits_eq, fun k st _ hk => h.lookup_of_lookup k st hk,
    fun k st _ hk ht => h.lookup_eq k st hk ht⟩

/-- Storing an entry for the stream. -/
lemma Spares.of_insert (hl : r'.limits = r.limits)
    (hs : r'.streams = r.streams.insert str st) : Spares str r r' where
  limits_eq := hl
  lookup_of_lookup k st' hn hk := by
    rwa [hs, lookup_insert_ne hn] at hk
  lookup_eq k st' hn hk _ := by
    rwa [hs, lookup_insert_ne hn]

lemma Spares.of_erase (hl : r'.limits = r.limits)
    (hs : r'.streams = r.streams.erase str) : Spares str r r' where
  limits_eq := hl
  lookup_of_lookup k st' hn hk := by
    rwa [hs, lookup_erase_ne hn] at hk
  lookup_eq k st' hn hk _ := by
    rwa [hs, lookup_erase_ne hn]

/-! ## Marking -/

/-- What marking a stream leaves of it: the entry with another generation, if any. -/
structure Marked (stream : PreviewStreamId) (r r' : Reassembler) : Prop extends
    Spares stream r r' where
  own : ∀ state', r'.streams.lookup stream = some state' →
    ∃ state, r.streams.lookup stream = some state ∧
      state' = { state with tombstoneGeneration := state'.tombstoneGeneration }

lemma Evicted.marked (h : Evicted r r') (str : PreviewStreamId) : Marked str r r' :=
  ⟨h.spares str, fun st' hk => ⟨st', h.lookup_of_lookup str st' hk, rfl⟩⟩

lemma Marked.trans (h : Marked str r r') (h' : Marked str r' r'') : Marked str r r'' where
  toSpares := h.toSpares.trans h'.toSpares
  own st'' hk := by
    obtain ⟨st', hk', he'⟩ := h'.own st'' hk
    obtain ⟨st, hk, he⟩ := h.own st' hk'
    exact ⟨st, hk, by rw [he', he]⟩

lemma forget_marked (r : Reassembler) (str : PreviewStreamId) (wasActive : Bool) :
    Marked str r (r.forget str wasActive) where
  toSpares := .of_erase rfl rfl
  own st' hk := by
    change (r.streams.erase str).lookup str = some st' at hk
    simp [lookup_erase] at hk

lemma entomb_marked (hs : r.streams.lookup str = some st) (wasActive : Bool) :
    Marked str r (r.entomb str st wasActive) where
  toSpares := .of_insert rfl rfl
  own st' hk := by
    change (r.streams.insert str _).lookup str = some st' at hk
    rw [lookup_insert] at hk
    cases hk
    exact ⟨st, hs, rfl⟩

lemma markTombstone_marked (r : Reassembler) (str : PreviewStreamId) (wasActive : Bool) :
    Marked str r (r.markTombstone str wasActive) := by
  unfold markTombstone
  simp only
  generalize hr : (if (Option.any (fun st => decide (st.tombstoneGeneration = 0))
    (r.streams.lookup str)) then r.makeTombstoneRoom (stateSize str) else r) = room
  have hm : Marked str r room := by
    rw [← hr]
    split
    · exact (makeTombstoneRoom_evicted r _).marked str
    · exact (Evicted.refl r).marked str
  split
  · exact hm.trans (forget_marked room str wasActive)
  · split
    · exact hm
    · rename_i st hs
      exact (hm.trans (entomb_marked hs wasActive)).trans ((pruneTombstones_evicted _).marked str)

/-! ## Expiry -/

/-- What an expiry sweep leaves: high-water marks stay, a partial stays or goes, and one that was
not idle for too long stays with all of its entry. -/
structure Swept (nowMs : Nat) (r r' : Reassembler) : Prop where
  limits_eq : r'.limits = r.limits
  lookup_of_lookup : ∀ k state', r'.streams.lookup k = some state' →
    ∃ state, r.streams.lookup k = some state ∧
      state'.highWaterPublicationId = state.highWaterPublicationId ∧
      (state'.partialPub = state.partialPub ∨ state'.partialPub = none)
  lookup_eq : ∀ k state, r.streams.lookup k = some state → state.partialPub.isSome →
    nowMs - state.lastActivityMs < r.limits.maxIdleMs → r'.streams.lookup k = some state

lemma sweepEntry_fields (ms nowMs : Nat) (sweep : Sweep) (str : PreviewStreamId) (st : StreamState) :
    (sweepEntry ms nowMs sweep str st).1.highWaterPublicationId = st.highWaterPublicationId ∧
      ((sweepEntry ms nowMs sweep str st).1.partialPub = st.partialPub ∨
        (sweepEntry ms nowMs sweep str st).1.partialPub = none) := by
  unfold sweepEntry
  split
  · exact ⟨rfl, .inl rfl⟩
  · split
    · exact ⟨rfl, .inr rfl⟩
    · exact ⟨rfl, .inl rfl⟩

lemma sweepEntry_of_fresh {ms nowMs : Nat} {sweep : Sweep} (h : nowMs - st.lastActivityMs < ms) :
    (sweepEntry ms nowMs sweep str st).1 = st := by
  unfold sweepEntry
  split
  · rfl
  · rw [if_neg (Nat.not_le.mpr h)]

lemma expireAt_swept (r : Reassembler) (nowMs : Nat) : Swept nowMs r (r.expireAt nowMs) := by
  have hp := fun swept : Reassembler => pruneTombstones_evicted swept
  unfold expireAt
  constructor
  · exact (hp _).limits_eq
  · intro k st' hk
    obtain ⟨sweep, hl⟩ := Table.lookup_mapAccum (sweepEntry r.limits.maxIdleMs nowMs)
      ⟨0, 0, 0, r.nextTombstoneGeneration, r.tombstones⟩ r.streams k
    have hk' := (hp _).lookup_of_lookup k st' hk
    rw [hl] at hk'
    obtain ⟨st, hs, rfl⟩ := map_eq_some_iff.mp hk'
    exact ⟨st, hs, sweepEntry_fields _ _ _ _ _⟩
  · intro k st hs ha hf
    obtain ⟨sweep, hl⟩ := Table.lookup_mapAccum (sweepEntry r.limits.maxIdleMs nowMs)
      ⟨0, 0, 0, r.nextTombstoneGeneration, r.tombstones⟩ r.streams k
    refine (hp _).lookup_eq k st ?_ ?_
    · exact hl.trans (by rw [hs, map_some, sweepEntry_of_fresh hf])
    · simp [isTombstone, isSome_iff_ne_none.mp ha]

end Reassembler

/-! ## Placing a chunk -/

namespace Reassembler

lemma takePartial_spares (r : Reassembler) (str : PreviewStreamId) (pid : UInt64) :
    Spares str r (r.takePartial str pid) := by
  unfold takePartial
  split
  · exact .refl str r
  · exact .of_insert rfl rfl

variable (r : Reassembler) (al : Alloc) (c : PreviewChunkHeader) (p : List UInt8)

lemma admitPartial_spares (total nowMs : Nat) : Spares c.metadata.stream r
      (r.admitPartial al c p total nowMs).1 := by
  have ht := takePartial_spares r c.metadata.stream c.metadata.publicationId
  unfold admitPartial
  split
  · exact .refl _ r
  · simp only
    split
    · split
      · refine (ht.trans ?_).trans (markTombstone_marked _ _ true).toSpares
        exact ⟨rfl, fun _ _ _ h => h, fun _ _ _ h _ => h⟩
      · exact ht
    · split
      · exact ht
      · exact ht.trans (.of_insert rfl rfl)

lemma appendChunk_spares (r : Reassembler) (al : Alloc) (str : PreviewStreamId)
    (c : PreviewChunkHeader) (p : List UInt8) (total nowMs : Nat) :
    Spares str r (r.appendChunk al str c p total nowMs).1 := by
  unfold appendChunk
  split
  · exact .refl str r
  · split
    · exact .refl str r
    · split
      · exact .refl str r
      · simp only
        split
        · exact .of_insert rfl rfl
        · split
          · exact .of_insert rfl rfl
          · split
            · exact .of_insert rfl rfl
            · unfold completePublication
              split
              · exact .of_insert rfl rfl
              · refine Spares.trans ?_ (markTombstone_marked _ str true).toSpares
                exact .of_insert rfl rfl

/-- Where a chunk goes: it is refused outright, its publication is not admitted, or it is appended
to the partial that was just admitted or to the one already there. -/
inductive Placement (r : Reassembler) (alloc : Alloc) (chunk : PreviewChunkHeader)
    (payload : List UInt8) (nowMs : Nat) : Prop where
  | refused (error : PreviewChunkError)
      (h : r.pushParts alloc chunk payload nowMs = (r, .error error))
      (hne : error ≠ .lengthOverflow .sub)
  | notAdmitted (r' : Reassembler) (error : PreviewChunkError)
      (hfresh : ∀ state, r.streams.lookup chunk.metadata.stream = some state →
        state.highWaterPublicationId < chunk.metadata.publicationId)
      (hadmitted : r.admitPartial alloc chunk payload chunk.totalEncodedBytes.toNat nowMs =
        (r', .error error))
      (h : r.pushParts alloc chunk payload nowMs = (r', .error error))
  | admitted (r' : Reassembler)
      (hfresh : ∀ state, r.streams.lookup chunk.metadata.stream = some state →
        state.highWaterPublicationId < chunk.metadata.publicationId)
      (hadmitted : r.admitPartial alloc chunk payload chunk.totalEncodedBytes.toNat nowMs =
        (r', .ok ()))
      (h : r.pushParts alloc chunk payload nowMs =
        r'.appendChunk alloc chunk.metadata.stream chunk payload chunk.totalEncodedBytes.toNat nowMs)
  | continued (state : StreamState)
      (hs : r.streams.lookup chunk.metadata.stream = some state)
      (hmark : state.highWaterPublicationId = chunk.metadata.publicationId)
      (hactive : state.partialPub.isSome)
      (h : r.pushParts alloc chunk payload nowMs =
        r.appendChunk alloc chunk.metadata.stream chunk payload chunk.totalEncodedBytes.toNat nowMs)

lemma placement (nowMs : Nat) : Placement r al c p nowMs := by
  generalize hp : r.pushParts al c p nowMs = pushed
  have hps := hp
  unfold pushParts at hp
  simp only at hp
  split at hp
  · exact .refused _ (hps.trans hp.symm) (by nofun)
  · split at hp
    · exact .refused _ (hps.trans hp.symm) (by nofun)
    · rename_i total ht
      obtain rfl : total = c.totalEncodedBytes.toNat := by
        unfold checked at ht
        split at ht <;> cases ht
        rfl
      split at hp
      · exact .refused _ (hps.trans hp.symm) (by nofun)
      · split at hp
        · exact .refused _ (hps.trans hp.symm) (by nofun)
        · rename_i hst
          split at hp
          · rename_i hf
            have hf : ∀ st, r.streams.lookup c.metadata.stream = some st →
                st.highWaterPublicationId < c.metadata.publicationId := by
              intro st hs
              simpa [hs] using hf
            split at hp <;> rename_i ha
            · exact .notAdmitted _ _ hf ha (hps.trans hp.symm)
            · exact .admitted _ hf ha (hps.trans hp.symm)
          · rename_i hf
            cases hs : r.streams.lookup c.metadata.stream with
            | none => simp [hs] at hf
            | some st =>
              -- Neither stale nor new: the publication being received.
              simp only [hs, filter_eq_none_iff, some.injEq, forall_eq',
                decide_eq_true_eq, not_or, not_and, all_some] at hst hf
              have hm : st.highWaterPublicationId = c.metadata.publicationId :=
                UInt64.le_antisymm (UInt64.not_lt.mp hst.1) (UInt64.not_lt.mp hf)
              refine .continued st hs hm ?_ (hps.trans hp.symm)
              simpa [isSome_iff_ne_none] using hst.2 hm.symm

lemma pushParts_spares (nowMs : Nat) : Spares c.metadata.stream r (r.pushParts al c p nowMs).1 := by
  unfold pushParts
  simp only
  split
  · exact .refl _ r
  · split
    · exact .refl _ r
    · split
      · exact .refl _ r
      · split
        · exact .refl _ r
        · split
          · rename_i total _ _ _ _ _
            have ha := admitPartial_spares r al c p total nowMs
            split <;> rename_i hk <;> rw [hk] at ha
            · exact ha
            · exact ha.trans (appendChunk_spares _ al _ c p _ nowMs)
          · exact appendChunk_spares r al _ c p _ nowMs

end Reassembler

end Hypercolor.Preview
