import Hypercolor.Preview.ChunkCodec
import Hypercolor.Preview.Ledger

/-!
# The counters are exact

**In every reachable state of the reassembler every counter is the total it stands for**
(`counters_exact`): active streams, tombstones, reserved bytes, state bytes and tombstone bytes, the
last three within their limits. Every partial still waits for chunks, and no checked subtraction
fails.

The steps of `Ledger` are put together per call: admission (`admitPartial_books`), appending
(`appendChunk_books`), cancelling and expiry, each for every outcome of its allocations.
-/

set_option linter.unusedSectionVars false

namespace Hypercolor.Preview

open Lib Option AList Nat Reassembler Platform

variable [Platform]

/-! ## Admission -/

variable {pub : PartialPublication} {state' state : StreamState}

namespace Reassembler

variable {r : Reassembler} {str : PreviewStreamId}

/-- A settled stream without a partial is a tombstone. -/
lemma isTombstone_of_settled (hst : state.Settled) (hn : state.partialPub = none) :
    state.isTombstone := by
  simp only [StreamState.Settled, hn] at hst
  exact decide_eq_true ⟨by simp [hn], hst⟩

section

variable (hr : Books r) (hs : r.streams.lookup str = some state)
  (hpub : state.partialPub = some pub)
include hr hs hpub

/-- An active stream loses its partial and becomes a tombstone: superseded without memory,
completed or cancelled. -/
lemma markTombstone_taken (hn : state'.partialPub = none) (hg : state'.tombstoneGeneration = 0) :
    Books ({ r with
      streams := r.streams.insert str state'
      reservedBytes := r.reservedBytes - pub.totalEncodedBytes
      activeStreams := r.activeStreams - 1 }.markTombstone str true) := by
  refine markTombstone_new ⟨fun a => ?_, ?_, fun k st hk hm => ?_, hr.generation_pos, ?_, ?_,
    hr.state_le⟩ hr.tombstone_le (lookup_insert _) hn hg
  · have hb := hr.balanced a
    have hh := held_insert hs state' a
    rw [charge_of_partialOf hpub, charge_of_moving hn hg] at hh
    cases a <;> simp only [counter, held, owedFor, if_true] at * <;> omega
  · exact (liveBytes_insert hs state').trans_le hr.live_le
  · have hk' : k ≠ str := fun h => hm (by rw [h])
    rw [lookup_insert_ne hk'] at hk
    exact hr.settled k st hk (by simp)
  · exact (sub_le _ _).trans hr.reserved_le
  · exact (sub_le _ _).trans hr.reserved_le_max

/-- An active stream's generation is 0. -/
lemma generation_of_partialOf : state.tombstoneGeneration = 0 ∧ pub.Growing := by
  have hst : state.Settled := hr.settled str state hs nofun
  simpa only [StreamState.Settled, hpub] using hst

/-- The same through `takePartial`. -/
lemma markTombstone_takePartial (pid : UInt64) :
    Books ({ r.takePartial str pid with
      activeStreams := (r.takePartial str pid).activeStreams - 1
      }.markTombstone str true) := by
  have ht : r.takePartial str pid = { r with
        streams := r.streams.insert str { state with highWaterPublicationId := pid, partialPub := none }
        reservedBytes := r.reservedBytes - pub.totalEncodedBytes } := by
    simp [takePartial, hs, hpub]
  rw [ht]
  exact markTombstone_taken hr hs hpub rfl (generation_of_partialOf hr hs hpub).1

end

/-- Without a partial only the high-water mark moves. -/
lemma takePartial_tombstone (hr : Books r) (hs : r.streams.lookup str = some state)
    (hn : state.partialPub = none) (pid : UInt64) : Books (r.takePartial str pid) := by
  have hst : state.Settled := hr.settled str state hs nofun
  have ht : r.takePartial str pid = { r with
        streams := r.streams.insert str
          { state with highWaterPublicationId := pid } } := by
    simp [takePartial, hs, hn]
  rw [ht]
  refine ⟨(hr.moving str).settle hs _ ?_ rfl (fun a => ?_) hr.generation_pos hr.reserved_le
    hr.reserved_le_max hr.state_le, hr.tombstone_le⟩
  · simpa [StreamState.Settled, hn] using hst
  · cases a <;> simp [counter, charge, StreamState.isTombstone, hn]

end Reassembler

lemma checkedSub_eq_some {a b c : Nat} : checkedSub a b = some c ↔ b ≤ a ∧ c = a - b := by
  unfold checkedSub
  split_ifs with h
  · simp [h, eq_comm]
  · simp [h]

/-- When an admission's checks pass, and with what. -/
structure Admits (r : Reassembler) (chunk : PreviewChunkHeader) (payload : List UInt8)
    (totalEncodedBytes : Nat) (admission : Reassembler.Admission) : Prop where
  starts : chunk.chunkIndex = 0 ∧ chunk.chunkOffset = 0
  validated : validateReassemblyAdmission chunk.metadata payload totalEncodedBytes r.limits =
    .ok admission.screenZonesHeaderValidated
  size_le : streamStateBase + chunk.metadata.stream.identityBytes ≤ usizeMax
  state_eq : admission.requestedStateBytes = r.stateBytes +
    if (r.partialOf chunk.metadata.stream).isSome then 0 else stateSize chunk.metadata.stream
  state_le_max : admission.requestedStateBytes ≤ usizeMax
  state_le : admission.requestedStateBytes ≤ r.limits.maxReassemblyStateBytes
  replaced_le : (r.partialOf chunk.metadata.stream).elim 0 (·.totalEncodedBytes) ≤ r.reservedBytes
  requested_eq : admission.requested = r.reservedBytes -
    (r.partialOf chunk.metadata.stream).elim 0 (·.totalEncodedBytes) + totalEncodedBytes
  requested_le_max : admission.requested ≤ usizeMax
  requested_le : admission.requested ≤ r.limits.maxConnectionBytes

variable {str : PreviewStreamId}

lemma stateSize_of_le (h : streamStateBase + str.identityBytes ≤ usizeMax) :
    previewStreamStateBytes str = some (stateSize str) := by
  unfold stateSize previewStreamStateBytes
  rw [checked_of_le h, getD_some]

variable {r r' : Reassembler} {c : PreviewChunkHeader} {p : List UInt8} {total nowMs : Nat}

lemma checkAdmission_eq_ok {ad : Reassembler.Admission} : r.checkAdmission c p total = .ok ad ↔
      Admits r c p total ad := by
  constructor
  · intro h
    obtain ⟨hstt, h⟩ := ensure_bind.mp h
    obtain ⟨validated, hv, h⟩ := bind_eq_ok.mp h
    obtain ⟨size, hsi, h⟩ := bind_eq_ok.mp h
    obtain ⟨state, hst, h⟩ := bind_eq_ok.mp h
    obtain ⟨hsl, h⟩ := ensure_bind.mp h
    obtain ⟨retained, hrt, h⟩ := bind_eq_ok.mp h
    obtain ⟨requested, hre, h⟩ := bind_eq_ok.mp h
    obtain ⟨hrl, h⟩ := ensure_bind.mp h
    obtain rfl : ad = ⟨validated, state, requested⟩ := by cases h; rfl
    obtain ⟨hsE, hsL⟩ := checked_eq_some.mp (okOr_eq_ok.mp hsi)
    have hsi' := stateSize_of_le hsL
    obtain rfl : size = stateSize _ := some.inj ((okOr_eq_ok.mp hsi).symm.trans hsi')
    obtain ⟨hse, hsm⟩ := checked_eq_some.mp (okOr_eq_ok.mp hst)
    obtain ⟨hrp, rfl⟩ := checkedSub_eq_some.mp (okOr_eq_ok.mp hrt)
    obtain ⟨hrE, hrm⟩ := checked_eq_some.mp (okOr_eq_ok.mp hre)
    exact ⟨hstt, hv, hsL, hse.symm,
      hse ▸ hsm, hsl, hrp,
      hrE.symm, hrE ▸ hrm,
      hrl⟩
  · rintro ⟨hstt, hv, hsi, hst, hsm, hsl, hrp, hre, hrm, hrl⟩
    refine ensure_bind.mpr ⟨hstt, ?_⟩
    refine bind_eq_ok.mpr ⟨_, hv, ?_⟩
    refine bind_eq_ok.mpr ⟨_, okOr_eq_ok.mpr (stateSize_of_le hsi), ?_⟩
    refine bind_eq_ok.mpr ⟨_, okOr_eq_ok.mpr (checked_eq_some.mpr ⟨hst.symm, ?_⟩), ?_⟩
    · exact hst ▸ hsm
    refine ensure_bind.mpr ⟨hsl, ?_⟩
    refine bind_eq_ok.mpr ⟨_, okOr_eq_ok.mpr (checkedSub_eq_some.mpr ⟨hrp, rfl⟩), ?_⟩
    refine bind_eq_ok.mpr ⟨_, okOr_eq_ok.mpr (checked_eq_some.mpr ⟨hre.symm, ?_⟩), ?_⟩
    · exact hre ▸ hrm
    exact ensure_bind.mpr ⟨hrl, rfl⟩

namespace Reassembler

section

variable (r : Reassembler) (str : PreviewStreamId) (pid : UInt64)

lemma insert_takePartial (state : StreamState) : (r.takePartial str pid).streams.insert str state =
      r.streams.insert str state := by
  unfold takePartial
  split
  · rfl
  · exact insert_insert _

/-- The counters that taking a partial leaves alone. -/
lemma takePartial_counter {a : Account} (ha : a ≠ .reservedBytes) :
    (r.takePartial str pid).counter a = r.counter a := by
  unfold takePartial
  split
  · rfl
  · cases a with
    | reservedBytes => exact absurd rfl ha
    | activeStreams | tombstones | stateBytes | tombstoneBytes => rfl

lemma takePartial_limits : (r.takePartial str pid).limits = r.limits ∧
      (r.takePartial str pid).nextTombstoneGeneration = r.nextTombstoneGeneration := by
  unfold takePartial
  split <;> exact ⟨rfl, rfl⟩

end

lemma partialOf_of_lookup (hs : r.streams.lookup str = some state) :
    r.partialOf str = state.partialPub := by
  rw [partialOf, hs, bind_some]

end Reassembler

namespace Ledger

/-- Store a settled state for a stream that has none, when there is memory for it. -/
lemma add (hr : Ledger none (fun _ => 0) r) (hs : r.streams.lookup str = none)
    {moving : Option PreviewStreamId} {owed : Account → Nat} (hst : moving ≠ some str → state'.Settled)
    (hsr : r'.streams = r.streams.insert str state') (hro : r.liveBytes + stateSize str ≤ usizeMax)
    (hb : ∀ a, r'.counter a = r.counter a + charge a str state' + owed a)
    (hg : 0 < r'.nextTombstoneGeneration) (hre : r'.reservedBytes ≤ r'.limits.maxConnectionBytes)
    (hma : r'.reservedBytes ≤ usizeMax)
    (hstt : r'.stateBytes ≤ r'.limits.maxReassemblyStateBytes) : Ledger moving owed r' := by
  refine ⟨fun a => ?_, ?_, fun k st hk hm => ?_, hg, hre, hma, hstt⟩
  · have h := hb a
    have hold := hr.balanced a
    have hh := held_insert_new hs state' a
    have hn : r'.held a = Table.total (charge a) (r.streams.insert str state') := by
      rw [held, hsr]
    omega
  · have hold := Table.total_of_lookup_eq_none (fun str _ => stateSize str) hs
    have hn := Table.total_insert (fun str _ => stateSize str) r.streams str state'
    rw [liveBytes, hsr, hn, ← hold, add_comm]
    exact hro
  · rw [hsr] at hk
    by_cases h : k = str
    · subst h
      rw [lookup_insert] at hk
      cases hk
      exact hst hm
    · rw [lookup_insert_ne h] at hk
      exact hr.settled k st hk (by simp)

end Ledger

namespace Reassembler

variable {ad : Admission}

/-- **Admission keeps the books**, for a new stream, a tombstone and a superseded publication. -/
theorem admitState_spec (hr : Books r) (hco : 0 < c.chunkCount.toNat) (had : Admits r c p total ad)
    (hro : r.streams.lookup c.metadata.stream = none →
      r.liveBytes + stateSize c.metadata.stream ≤ usizeMax) :
    Books ((r.takePartial c.metadata.stream c.metadata.publicationId).admitState
      (r.streams.lookup c.metadata.stream) c.metadata.stream (admittedState c ad total nowMs) ad) := by
  obtain ⟨hl, hg⟩ := takePartial_limits r c.metadata.stream c.metadata.publicationId
  have hi := insert_takePartial r c.metadata.stream c.metadata.publicationId
    (admittedState c ad total nowMs)
  have hc := @takePartial_counter _ r c.metadata.stream c.metadata.publicationId
  have ha := hc (a := .activeStreams) nofun
  have ht := hc (a := .tombstones) nofun
  have hstt := hc (a := .stateBytes) nofun
  have htb := hc (a := .tombstoneBytes) nofun
  have hch := charge_of_partialOf (show (admittedState c ad total nowMs).partialPub = some _ from rfl)
  have hst : (admittedState c ad total nowMs).Settled := ⟨rfl, hco, zero_le _⟩
  obtain ⟨-, -, -, hse, -, hsl, hrp, hre, hm, hle⟩ := had
  generalize hs : r.streams.lookup c.metadata.stream = existing at hro ⊢
  simp only [counter] at ha ht hstt htb
  cases existing with
  | none =>
    have hn : r.partialOf c.metadata.stream = none := by rw [partialOf, hs, bind_none]
    have hf := held_le_liveBytes (a := .activeStreams) (by simp) r
    have hb := hr.balanced .activeStreams
    have hp := stateSize_pos c.metadata.stream
    have hro := hro rfl
    simp only [counter] at hb
    simp only [hn, isSome_none, Bool.false_eq_true, if_false, elim_none] at hse hre
    refine ⟨hr.add hs (fun _ => hst) hi hro (fun a => ?_) ?_ ?_ hm ?_, ?_⟩
    · rw [hch]
      cases a <;> simp [admitState, counter, ha, ht, htb, hse, hre]
      rw [satAdd_of_le (by omega)]
    · exact hg ▸ hr.generation_pos
    · exact hl ▸ hle
    · simpa [admitState, hl] using hsl
    · simpa [admitState, hl, htb] using hr.tombstone_le
  | some state =>
    have hk := partialOf_of_lookup hs
    rw [hk] at hse hre hrp
    cases hpub : state.partialPub with
    | none =>
      have hd := charge_of_isTombstone (isTombstone_of_settled (hr.settled _ state hs (by simp)) hpub)
      have hon := hr.charge_le hs .tombstones
      have hby := hr.charge_le hs .tombstoneBytes
      have hf := hr.room hs (a := .activeStreams) (by simp) (admittedState c ad total nowMs)
      have hb := hr.balanced .activeStreams
      simp only [hd, hch, counter] at hon hby hf hb
      refine ⟨(hr.moving _).settle hs _ hst hi (fun a => ?_) ?_ ?_ hm ?_, ?_⟩
      · rw [hch, hd]
        cases a <;>
          simp [admitState, counter, hpub, ha, ht, htb, hse, hre]
        · exact satAdd_of_le (by omega)
        · omega
        · omega
      · exact hg ▸ hr.generation_pos
      · exact hl ▸ hle
      · simpa [admitState, hl, hpub] using hsl
      · have := hr.tombstone_le
        simp only [admitState, hl, htb]
        split <;> omega
    | some pub =>
      have hli := charge_of_partialOf hpub
      simp only [hpub, isSome_some, if_true, elim_some] at hse hre hrp
      refine ⟨(hr.moving _).settle hs _ hst hi (fun a => ?_) ?_ ?_ hm ?_, ?_⟩
      · rw [hch, hli]
        cases a <;>
          simp [admitState, counter, hpub, ha, hstt, ht, htb, hre]
        omega
      · exact hg ▸ hr.generation_pos
      · exact hl ▸ hle
      · simpa [admitState, hl, hpub, hstt] using hr.state_le
      · simpa [admitState, hl, hpub, htb] using hr.tombstone_le

end Reassembler

namespace Reassembler

lemma takePartial_none (hs : r.streams.lookup str = none) (pid : UInt64) : r.takePartial str pid = r := by
  simp [takePartial, hs]

theorem admitPartial_books (al : Alloc) (p : List UInt8) (total nowMs : Nat)
    (hr : Books r) (hcn : 0 < c.chunkCount.toNat) : Books (r.admitPartial al c p total nowMs).1 := by
  cases ha : r.checkAdmission c p total with
  | error e => simpa [admitPartial, ha] using hr
  | ok ad =>
    have had := checkAdmission_eq_ok.mp ha
    unfold admitPartial
    simp only [ha]
    by_cases hc : al.capacity
    · rw [if_neg (not_not.mpr hc)]
      split
      · rename_i hre
        rw [takePartial_none (isNone_iff_eq_none.mp hre.1)]
        exact hr
      · rename_i hre
        refine admitState_spec hr hcn had fun hs => ?_
        rw [hs, takePartial_none hs] at hre
        by_contra hro
        exact hre ⟨rfl, fun h => hro (of_decide_eq_true h).2⟩
    · -- No storage: whatever partial was taken is gone.
      rw [if_pos hc]
      cases hs : r.streams.lookup c.metadata.stream with
      | none =>
        rw [takePartial_none hs]
        simpa using hr
      | some state =>
        cases hpub : state.partialPub with
        | none => simpa [hpub] using takePartial_tombstone hr hs hpub _
        | some pub => simpa [hpub] using markTombstone_takePartial hr hs hpub _

end Reassembler

/-! ## Appending -/

/-- When a chunk continues a partial. -/
structure Appends (limits : PreviewLimits) (alloc : Alloc) (pub : PartialPublication)
    (chunk : PreviewChunkHeader) (payload : List UInt8) (totalEncodedBytes : Nat)
    (screenZonesHeaderValidated : Bool) : Prop where
  metadata_eq : pub.metadata = chunk.metadata
  total_eq : pub.totalEncodedBytes = totalEncodedBytes
  count_eq : pub.chunkCount = chunk.chunkCount.toNat
  index_eq : chunk.chunkIndex.toNat = pub.nextChunkIndex
  offset_eq : chunk.chunkOffset.toNat = pub.bytes.length
  validated : validateAppended limits alloc pub payload = .ok screenZonesHeaderValidated

variable {limits : PreviewLimits}

lemma checkAppend_eq_ok {al : Alloc} {validated : Bool} :
    checkAppend limits al pub c p total = .ok validated ↔ Appends limits al pub c p total validated := by
  constructor
  · intro h
    obtain ⟨hsa, h⟩ := ensure_bind.mp h
    obtain ⟨⟨⟩, -, h⟩ := bind_eq_ok.mp h
    obtain ⟨offset, hof, h⟩ := bind_eq_ok.mp h
    obtain ⟨hn, hv⟩ := ensure_bind.mp h
    obtain ⟨hm, ht, hc⟩ := hsa
    obtain ⟨hi, rfl⟩ := hn
    exact ⟨hm, ht, hc, hi, (tryU64_eq_ok.mp hof).symm, hv⟩
  · rintro ⟨hm, ht, hc, hi, hof, hv⟩
    refine ensure_bind.mpr ⟨⟨hm, ht, hc⟩, ?_⟩
    refine ensure_bind.mpr ⟨hi.ge, ?_⟩
    refine bind_eq_ok.mpr ⟨_, tryU64_eq_ok.mpr hof.symm, ?_⟩
    exact ensure_bind.mpr ⟨⟨hi, rfl⟩, hv⟩

namespace Reassembler

variable {al : Alloc} {validated : Bool}

/-- A chunk that continues a growing partial completes it or is stored; the two other outcomes do
not occur. -/
lemma appendChunk_eq (hs : r.streams.lookup str = some state) (hpub : state.partialPub = some pub)
    (ha : Appends r.limits al pub c p total validated)
    (hla : ChunkLayout c p.length)
    (ht : total = c.totalEncodedBytes.toNat) :
    r.appendChunk al str c p total nowMs =
      let grown := grow pub validated p
      let state := { state with partialPub := some grown, lastActivityMs := nowMs }
      if grown.nextChunkIndex = grown.chunkCount then r.completePublication str state grown
      else ({ r with streams := r.streams.insert str state }, .ok none) := by
  have hc := c.chunkCount.toNat_lt
  have hlt := hla.index_lt
  have hl := hla.last_iff
  have hi := ha.index_eq
  have hof := ha.offset_eq
  have hsm : ¬ 2 ^ 32 ≤ (grow pub validated p).nextChunkIndex := by
    simp only [grow]
    omega
  simp only [appendChunk, hs, hpub, checkAppend_eq_ok.mpr ha]
  rw [if_neg hsm]
  by_cases hd : (grow pub validated p).nextChunkIndex = (grow pub validated p).chunkCount
  · have hf : (grow pub validated p).bytes.length = (grow pub validated p).totalEncodedBytes := by
      have he : c.chunkIndex.toNat + 1 = c.chunkCount.toNat := by
        rw [hi, ← ha.count_eq]
        exact hd
      simp only [grow, List.length_append, ha.total_eq, ht]
      omega
    rw [if_neg (not_not.mpr hd), if_neg (not_not.mpr hf), if_pos hd]
  · rw [if_pos hd, if_neg hd]

end Reassembler

namespace Reassembler

variable {al : Alloc} {validated : Bool}

/-- Completing an active stream's publication, whatever its last state. -/
lemma completePublication_eq (hr : Books r) (hs : r.streams.lookup str = some state)
    (hpub : state.partialPub = some pub) (state' : StreamState) (grown : PartialPublication)
    (ht : grown.totalEncodedBytes = pub.totalEncodedBytes) :
    r.completePublication str state' grown = ({ r with
          streams := r.streams.insert str { state' with partialPub := none }
          reservedBytes := r.reservedBytes - pub.totalEncodedBytes
          activeStreams := r.activeStreams - 1 }.markTombstone str true,
        .ok (some (grown.metadata, grown.bytes))) := by
  have hl := hr.charge_le hs .reservedBytes
  rw [charge_of_partialOf hpub] at hl
  have hsu : checkedSub r.reservedBytes grown.totalEncodedBytes =
      some (r.reservedBytes - pub.totalEncodedBytes) := by
    rw [ht]
    exact checkedSub_eq_some.mpr ⟨hl, rfl⟩
  simp only [completePublication, hsu]

/-- **Appending keeps the books**: the chunk is refused, stored, or completes the publication. -/
theorem appendChunk_books (hr : Books r) (hla : ChunkLayout c p.length)
    (ht : total = c.totalEncodedBytes.toNat) : Books (r.appendChunk al str c p total nowMs).1 := by
  cases hs : r.streams.lookup str with
  | none => simpa [appendChunk, hs] using hr
  | some state =>
    cases hpub : state.partialPub with
    | none => simpa [appendChunk, hs, hpub] using hr
    | some pub =>
      cases hc : checkAppend r.limits al pub c p total with
      | error e => simpa [appendChunk, hs, hpub, hc] using hr
      | ok validated =>
        have ha := checkAppend_eq_ok.mp hc
        obtain ⟨hg, hn, hl⟩ := generation_of_partialOf hr hs hpub
        rw [appendChunk_eq hs hpub ha hla ht]
        simp only
        split
        · rw [completePublication_eq hr hs hpub _ (grow pub validated p) rfl]
          exact markTombstone_taken hr hs hpub rfl hg
        · rename_i hm
          have hgr : (grow pub validated p).Growing := by
            have hst := hla.stop_le
            have hof := ha.offset_eq
            have ht' := ha.total_eq
            simp only [PartialPublication.Growing, grow, List.length_append] at hm ⊢
            omega
          have hch := charge_of_partialOf (show StreamState.partialPub
            { state with partialPub := some (grow pub validated p), lastActivityMs := nowMs } =
              some (grow pub validated p) from rfl)
          refine ⟨(hr.moving str).settle hs
            { state with partialPub := some (grow pub validated p), lastActivityMs := nowMs }
            ⟨hg, hgr⟩ rfl (fun a => ?_) hr.generation_pos
            hr.reserved_le hr.reserved_le_max hr.state_le, hr.tombstone_le⟩
          rw [charge_of_partialOf hpub, hch]
          cases a <;> rfl

end Reassembler

/-! ## Calls -/

namespace Reassembler

variable {al : Alloc}

lemma pushParts_books (hr : Books r) (hl : ChunkLayout c p.length) :
    Books (r.pushParts al c p nowMs).1 := by
  have hc : 0 < c.chunkCount.toNat := zero_lt_of_lt hl.index_lt
  unfold pushParts
  simp only
  split
  · exact hr
  · split
    · exact hr
    · rename_i total ht
      obtain ⟨ht, -⟩ := checked_eq_some.mp ht
      split
      · exact hr
      · split
        · exact hr
        · split
          · have ha :=
              admitPartial_books al p total nowMs hr hc
            split <;> rename_i hk
            · rwa [hk] at ha
            · rw [hk] at ha
              exact appendChunk_books ha hl ht.symm
          · exact appendChunk_books hr hl ht.symm

end Reassembler

namespace Reassembler

lemma beginPush_books (hr : Books r) (messageLen nowMs : Nat) : Books (r.beginPush messageLen nowMs).1 :=
  expireAt_spec (hr.setClock (max r.logicalNowMs nowMs)) nowMs

lemma pushAt_books (hr : Books r) (al : Alloc) (enc : List UInt8) (nowMs : Nat) :
    Books (r.pushAt al enc nowMs).1 := by
  have hb := beginPush_books hr enc.length nowMs
  unfold pushAt
  split <;> rename_i hbe <;> rw [hbe] at hb
  · exact hb
  · split
    · exact hb
    · rename_i header offset hh
      exact pushParts_books hb (decodePrefix_layout hh)

lemma push_books (hr : Books r) (al : Alloc) (enc : List UInt8) : Books (r.push al enc).1 :=
  pushAt_books (hr.setClock (satAddU64 r.logicalNowMs 1)) al enc _

/-- **Cancelling keeps the books**, also for a stream never seen before. -/
theorem cancelPublication_books (hr : Books r) (al : Alloc) (canc : PreviewCancelFrame) :
    Books (r.cancelPublication al canc).1 := by
  unfold cancelPublication
  cases hs : r.streams.lookup canc.stream with
  | none =>
    simp only
    split
    · exact hr
    · rename_i hre
      have hro := (of_decide_eq_true (not_not.mp hre)).2
      refine markTombstone_new (hr.add hs (fun h => absurd rfl h) rfl hro (fun a => ?_)
        hr.generation_pos hr.reserved_le hr.reserved_le_max hr.state_le) hr.tombstone_le
        (lookup_insert _) rfl rfl
      cases a <;> rfl
  | some state =>
    simp only
    split
    · exact hr
    · cases hpub : state.partialPub with
      | some pub => simpa using markTombstone_takePartial hr hs hpub _
      | none =>
        have ht := takePartial_tombstone hr hs hpub canc.publicationId
        have hs' : (r.takePartial canc.stream canc.publicationId).streams.lookup canc.stream =
              some { state with highWaterPublicationId := canc.publicationId } := by
          simp [takePartial, hs, hpub]
        refine markTombstone_again (ht.moving _) hs' (isTombstone_of_settled ?_ hpub)
        exact ht.settled _ _ hs' nofun

end Reassembler

/-! ## The checked subtractions -/

section Avoids

/-- The failure of a checked subtraction. -/
def subFailed : PreviewChunkError := .lengthOverflow .sub

variable {α : Type} {e : PreviewChunkError}

lemma avoids_okOr (o : Option α) (h : e ≠ subFailed) : Avoids subFailed (okOr o e) := by
  cases o with
  | none => exact fun he => h (Except.error.inj he)
  | some a => exact .ok a

lemma avoids_ensure (cond : Bool) (h : e ≠ subFailed) : Avoids subFailed (ensure cond e) := by
  cases cond with
  | false => exact fun he => h (Except.error.inj he)
  | true => exact .ok ()

lemma avoids_frameError (x : Except PreviewFrameDecodeError α) : Avoids subFailed (frameError x) := by
  cases x <;> exact nofun

lemma avoids_tryU64 (n : Nat) : Avoids subFailed (tryU64 n) := by
  unfold tryU64
  split <;> exact nofun

/-- The end of a screen-zones payload does not lie before its start. -/
lemma endOffset_ge {header : ScreenZonesFrameHeader} {inputLen stop : Nat}
    (h : header.endOffset inputLen = .ok stop) : header.payload ≤ stop := by
  obtain ⟨len, -, h⟩ := bind_eq_ok.mp h
  obtain ⟨stop', hst, h⟩ := bind_eq_ok.mp h
  obtain ⟨⟨⟩, -, h⟩ := bind_eq_ok.mp h
  obtain ⟨hst, -⟩ := checked_eq_some.mp (okOr_eq_ok.mp hst)
  cases h
  omega

section

variable (md : PreviewPublicationMetadata)

lemma avoids_validateScreenZonesHeaderPrefix (total : Nat) (head : List UInt8) (limits : PreviewLimits) :
    Avoids subFailed (validateScreenZonesHeaderPrefix md total head limits) := by
  refine (avoids_okOr _ (by nofun)).bind fun tag _ =>
    (avoids_okOr _ (by nofun)).bind fun headerLen _ => ?_
  split
  · exact .ok false
  · refine (avoids_frameError _).bind fun header _ => (avoids_frameError _).bind fun stop hst => ?_
    refine Avoids.bind ?_ fun decodedBytes _ => ?_
    · have hg : header.payload ≤ stop := endOffset_ge (frameError_eq_ok.mp hst)
      rw [checkedSub_eq_some.mpr ⟨hg, rfl⟩]
      exact .ok _
    · refine (avoids_ensure _ (by nofun)).bind fun _ _ => (avoids_ensure _ (by nofun)).bind fun _ _ => ?_
      exact .ok true

lemma avoids_validateTotal (headerLen total : Nat) :
    Avoids subFailed (validateTotal md headerLen total) := by
  unfold validateTotal
  split
  · exact (avoids_frameError _).bind fun _ _ => (avoids_okOr _ (by nofun)).bind fun _ _ =>
      avoids_ensure _ (by nofun)
  · exact avoids_ensure _ (by nofun)

lemma avoids_publicationHeaderLen : Avoids subFailed (publicationHeaderLen md) := by
  unfold publicationHeaderLen identityPublicationHeaderLen
  split
  · exact .ok _
  · exact .ok _
  iterate 2 exact (avoids_frameError _).bind fun _ _ => avoids_okOr _ (by nofun)
  · split
    · exact nofun
    · exact .ok _

lemma avoids_validateReassemblyAdmission (p : List UInt8) (total : Nat) (limits : PreviewLimits) :
    Avoids subFailed (validateReassemblyAdmission md p total limits) := by
  refine (avoids_ensure _ (by nofun)).bind fun _ _ => ?_
  split
  · refine (avoids_ensure _ (by nofun)).bind fun _ _ => (avoids_ensure _ (by nofun)).bind fun _ _ => ?_
    exact avoids_validateScreenZonesHeaderPrefix md total _ limits
  · refine (avoids_publicationHeaderLen md).bind fun _ _ => ?_
    refine (avoids_frameError _).bind fun _ _ => (avoids_ensure _ (by nofun)).bind fun _ _ => ?_
    exact (avoids_validateTotal md _ total).bind fun _ _ => .ok true

lemma avoids_validateCompletedPublication (enc : List UInt8) (limits : PreviewLimits) :
    Avoids subFailed (validateCompletedPublication md enc limits) := by
  unfold validateCompletedPublication
  split
  case h_5 =>
    exact (avoids_validateScreenZonesHeaderPrefix md _ enc limits).bind fun _ _ =>
      avoids_ensure _ (by nofun)
  all_goals exact (avoids_frameError _).bind fun _ _ => avoids_ensure _ (by nofun)

end

end Avoids

lemma avoids_decodeStream (kind ch : UInt8) (ident : List UInt8) :
    Avoids subFailed (PreviewStreamId.decode kind ch ident) := by
  have hi : Avoids subFailed (PreviewStreamId.decodeStreamIdentity ident previewIdMaxBytes) :=
    (avoids_okOr _ (by nofun)).bind fun _ _ => (avoids_frameError _).bind fun _ _ => .ok _
  unfold PreviewStreamId.decode
  split_ifs
  · exact (avoids_frameError _).bind fun _ _ => .ok _
  · exact .ok _
  · exact hi.bind fun _ _ => .ok _
  · exact .ok _
  · exact hi.bind fun _ _ => .ok _
  · exact nofun

lemma avoids_validateChunkLayout (c : PreviewChunkHeader) (len : Nat) :
    Avoids subFailed (validateChunkLayout c len) := by
  refine (avoids_ensure _ (by nofun)).bind fun _ _ => (avoids_ensure _ (by nofun)).bind fun _ _ => ?_
  refine (avoids_ensure _ (by nofun)).bind fun _ _ => (avoids_tryU64 _).bind fun _ _ => ?_
  refine (avoids_ensure _ (by nofun)).bind fun _ _ => (avoids_ensure _ (by nofun)).bind fun _ _ => ?_
  split <;> exact avoids_ensure _ (by nofun)

lemma avoids_decodePrefix (inp : List UInt8) (messageLen : Nat) :
    Avoids subFailed (PreviewChunkHeader.decodePrefix inp messageLen) := by
  refine (avoids_ensure _ (by nofun)).bind fun _ _ => (avoids_ensure _ (by nofun)).bind fun _ _ => ?_
  refine (avoids_ensure _ (by nofun)).bind fun _ _ => (avoids_okOr _ (by nofun)).bind fun _ _ => ?_
  refine (avoids_ensure _ (by nofun)).bind fun _ _ => (avoids_decodeStream _ _ _).bind fun _ _ => ?_
  refine (avoids_frameError _).bind fun _ _ => ?_
  exact (avoids_validateChunkLayout _ _).bind fun _ _ => .ok _

namespace Reassembler

variable {al : Alloc}

/-- What an active stream has reserved is part of the counter. -/
lemma replaced_le (hr : Books r) (str : PreviewStreamId) :
    (r.partialOf str).elim 0 (·.totalEncodedBytes) ≤ r.reservedBytes := by
  cases hs : r.streams.lookup str with
  | none => simp [partialOf, hs]
  | some state =>
    rw [partialOf_of_lookup hs]
    exact hr.charge_le hs .reservedBytes

lemma avoids_checkAdmission (hr : Books r) (c : PreviewChunkHeader) (p : List UInt8) (total : Nat) :
    Avoids subFailed (r.checkAdmission c p total) := by
  refine (avoids_ensure _ (by nofun)).bind fun _ _ => ?_
  refine (avoids_validateReassemblyAdmission _ _ _ _).bind fun _ _ => ?_
  refine (avoids_okOr _ (by nofun)).bind fun _ _ => (avoids_okOr _ (by nofun)).bind fun _ _ => ?_
  refine (avoids_ensure _ (by nofun)).bind fun _ _ => Avoids.bind ?_ fun _ _ => ?_
  · rw [checkedSub_eq_some.mpr ⟨replaced_le hr _, rfl⟩]
    exact .ok _
  · exact (avoids_okOr _ (by nofun)).bind fun _ _ =>
      (avoids_ensure _ (by nofun)).bind fun _ _ => .ok _

lemma avoids_checkAppend (limits : PreviewLimits) (al : Alloc) (pub : PartialPublication)
    (c : PreviewChunkHeader) (p : List UInt8) (total : Nat) :
    Avoids subFailed (checkAppend limits al pub c p total) := by
  unfold checkAppend validateAppended
  refine (avoids_ensure _ (by nofun)).bind fun _ _ => (avoids_ensure _ (by nofun)).bind fun _ _ => ?_
  refine (avoids_tryU64 _).bind fun _ _ => (avoids_ensure _ (by nofun)).bind fun _ _ => ?_
  split
  · exact .ok true
  · refine (avoids_okOr _ (by nofun)).bind fun _ _ => ?_
    refine (avoids_validateScreenZonesHeaderPrefix _ _ _ _).bind fun complete _ => ?_
    split
    · exact (avoids_ensure _ (by nofun)).bind fun _ _ =>
        (avoids_ensure _ (by nofun)).bind fun _ _ => .ok true
    · exact .ok false

lemma avoids_admitPartial (hr : Books r) (total nowMs : Nat) :
    Avoids subFailed (r.admitPartial al c p total nowMs).2 := by
  have hc := avoids_checkAdmission hr c p total
  unfold admitPartial
  split <;> rename_i ha
  · rw [ha] at hc
    exact hc.cast
  · simp only
    split_ifs <;> exact nofun

lemma avoids_appendChunk (hr : Books r) (str : PreviewStreamId) (hl : ChunkLayout c p.length)
    (ht : total = c.totalEncodedBytes.toNat) (nowMs : Nat) :
    Avoids subFailed (r.appendChunk al str c p total nowMs).2 := by
  cases hs : r.streams.lookup str with
  | none => simp only [appendChunk, hs]; exact nofun
  | some state =>
    cases hpub : state.partialPub with
    | none => simp only [appendChunk, hs, hpub]; exact nofun
    | some pub =>
      have hc := avoids_checkAppend r.limits al pub c p total
      cases ha : checkAppend r.limits al pub c p total with
      | error e =>
        rw [ha] at hc
        simp only [appendChunk, hs, hpub, ha]
        exact hc.cast
      | ok validated =>
        rw [appendChunk_eq hs hpub (checkAppend_eq_ok.mp ha) hl ht]
        simp only
        split
        · rw [completePublication_eq hr hs hpub _ (grow pub validated p) rfl]
          exact .ok _
        · exact .ok _

end Reassembler

namespace Reassembler

variable {al : Alloc}

lemma avoids_pushParts (hr : Books r) (hl : ChunkLayout c p.length) (nowMs : Nat) :
    Avoids subFailed (r.pushParts al c p nowMs).2 := by
  have hc : 0 < c.chunkCount.toNat := zero_lt_of_lt hl.index_lt
  unfold pushParts
  simp only
  split
  · exact nofun
  · split
    · exact nofun
    · rename_i total ht
      obtain ⟨ht, -⟩ := checked_eq_some.mp ht
      split
      · exact nofun
      · split
        · exact nofun
        · split
          · have ha := admitPartial_books al p total nowMs hr hc
            have hav : Avoids subFailed (r.admitPartial al c p total nowMs).2 :=
              avoids_admitPartial hr total nowMs
            split <;> rename_i hk <;> rw [hk] at ha hav
            · exact hav.cast
            · exact avoids_appendChunk ha _ hl ht.symm nowMs
          · exact avoids_appendChunk hr _ hl ht.symm nowMs

lemma avoids_validateResult (limits : PreviewLimits)
    {res : Except PreviewChunkError (Option (PreviewPublicationMetadata × List UInt8))}
    (h : Avoids subFailed res) : Avoids subFailed (validateResult limits res) := by
  unfold validateResult
  split
  · exact h.cast
  · exact .ok none
  · exact (avoids_validateCompletedPublication _ _ limits).bind fun _ _ => .ok _

lemma avoids_pushAt (hr : Books r) (enc : List UInt8) (nowMs : Nat) :
    Avoids subFailed (r.pushAt al enc nowMs).2 := by
  have hb := beginPush_books hr enc.length nowMs
  have hm : Avoids subFailed (r.beginPush enc.length nowMs).2 := avoids_ensure _ (by nofun)
  unfold pushAt
  split <;> rename_i hbe <;> rw [hbe] at hb hm
  · exact hm.cast
  · have hd := avoids_decodePrefix enc enc.length
    split <;> rename_i hh <;> rw [hh] at hd
    · exact hd.cast
    · exact avoids_validateResult _ (avoids_pushParts hb (decodePrefix_layout hh) nowMs)

end Reassembler

/-! ## Every run -/

namespace Reassembler

lemma withLimits_books (limits : PreviewLimits) : Books (withLimits limits) where
  balanced a := by cases a <;> rfl
  live_le := zero_le _
  settled _ _ h _ := by simp [withLimits] at h
  generation_pos := one_pos
  reserved_le := zero_le _
  reserved_le_max := zero_le _
  state_le := zero_le _
  tombstone_le := zero_le _

lemma clear_books (hr : Books r) : Books r.clear where
  balanced a := by cases a <;> rfl
  live_le := zero_le _
  settled _ _ h _ := by simp [clear] at h
  generation_pos := hr.generation_pos
  reserved_le := zero_le _
  reserved_le_max := zero_le _
  state_le := zero_le _
  tombstone_le := zero_le _

lemma apply_books (hr : Books r) (op : Op) : Books (r.apply op) := by
  cases op with
  | push enc al => exact push_books hr al enc
  | pushAt enc nowMs al => exact pushAt_books hr al enc nowMs
  | expireAt nowMs => exact expireAt_spec hr nowMs
  | cancelPublication canc al => exact cancelPublication_books hr al canc
  | clear => exact clear_books hr

lemma reachable_books (h : (machine limits).Reachable r) : Books r := by
  refine Machine.Reachable.invariant (fun r hi => ?_) (fun r label r' hr hst => ?_) h
  · rw [show r = withLimits limits from hi]
    exact withLimits_books limits
  · cases label with
    | some op =>
      rw [show r' = r.apply op from hst]
      exact apply_books hr op
    | none =>
      obtain ⟨streams, hp, rfl⟩ := hst
      exact hr.reorder hp

end Reassembler

/-- Every counter is the total it stands for, within its limit, and every partial is incomplete. -/
structure Accounted (r : Reassembler) : Prop where
  activeStreams_eq : r.activeStreams = r.streams.values.countP (·.partialPub.isSome)
  tombstones_eq : r.tombstones = r.streams.values.countP (·.partialPub.isNone)
  reservedBytes_eq : r.reservedBytes =
    r.streams.total fun _ state => state.partialPub.elim 0 (·.totalEncodedBytes)
  reservedBytes_le : r.reservedBytes ≤ r.limits.maxConnectionBytes
  stateBytes_eq : r.stateBytes =
    r.streams.total fun stream state => if state.partialPub.isSome then stateSize stream else 0
  stateBytes_le : r.stateBytes ≤ r.limits.maxReassemblyStateBytes
  tombstoneBytes_eq : r.tombstoneBytes =
    r.streams.total fun stream state => if state.partialPub.isNone then stateSize stream else 0
  tombstoneBytes_le : r.tombstoneBytes ≤ r.limits.maxTombstoneBytes
  partial_incomplete : ∀ stream pub, r.partialOf stream = some pub →
    pub.nextChunkIndex < pub.chunkCount ∧ pub.bytes.length ≤ pub.totalEncodedBytes

/-- In settled books a tombstone is a stream without a partial. -/
lemma Books.isTombstone_eq (hr : Books r) {state : StreamState}
    (hs : r.streams.lookup str = some state) : state.isTombstone = state.partialPub.isNone := by
  cases hpub : state.partialPub with
  | none =>
    exact isTombstone_of_settled (hr.settled str state hs nofun) hpub
  | some pub => simp [StreamState.isTombstone, hpub]

lemma Books.accounted (hr : Books r) : Accounted r where
  activeStreams_eq := by
    rw [Table.countP_values]
    exact hr.balanced .activeStreams
  tombstones_eq := by
    rw [Table.countP_values]
    refine (hr.balanced .tombstones).trans (Table.total_congr fun str state hs => ?_)
    simp only [charge, hr.isTombstone_eq hs]
  reservedBytes_eq := hr.balanced .reservedBytes
  reservedBytes_le := hr.reserved_le
  stateBytes_eq := hr.balanced .stateBytes
  stateBytes_le := hr.state_le
  tombstoneBytes_eq := by
    refine (hr.balanced .tombstoneBytes).trans (Table.total_congr fun str state hs => ?_)
    simp only [charge, hr.isTombstone_eq hs]
  tombstoneBytes_le := hr.tombstone_le
  partial_incomplete str pub h := by
    obtain ⟨state, hs, hpub⟩ := bind_eq_some_iff.mp h
    exact (generation_of_partialOf hr hs hpub).2

/-- **The counters are exact in every reachable state**, and no push from one fails at a checked
subtraction. -/
theorem counters_exact {limits : PreviewLimits} {r : Reassembler}
    (h : (machine limits).Reachable r) : Accounted r ∧ ∀ alloc encodedChunk,
      (r.push alloc encodedChunk).2 ≠ .error (.lengthOverflow .sub) ∧
        ∀ nowMs, (r.pushAt alloc encodedChunk nowMs).2 ≠ .error (.lengthOverflow .sub) := by
  have hr := reachable_books h
  refine ⟨hr.accounted, fun alloc encodedChunk => ⟨?_, fun nowMs => ?_⟩⟩
  · exact avoids_pushAt (hr.setClock (satAddU64 r.logicalNowMs 1)) encodedChunk _
  · exact avoids_pushAt hr encodedChunk nowMs

end Hypercolor.Preview

namespace Hypercolor.Preview

open Lib

local instance : Platform := Platform.desktop

/-- The first of two chunks of a canvas frame of one pixel. -/
def firstChunk : List UInt8 :=
  [0x0F, 1, 0, 3, 0, 0, 0, 7, 0, 0, 0, 0, 0, 0, 0, 3, 0, 0, 0, 4, 0, 0, 0, 1, 0, 0, 0, 1, 0, 0, 0,
    17, 0, 0, 0, 0, 0, 0, 0, 0, 0, 0, 0, 0, 0, 0, 0, 0, 0, 0, 0, 2, 0, 0, 0, 3, 3, 0, 0, 0, 4, 0, 0]

/-- A new reassembler that has received it. -/
def afterFirstChunk : Reassembler :=
  (Reassembler.withLimits default).apply (.pushAt firstChunk 5 ⟨true, true, true⟩)

theorem counters_exact_first_chunk : afterFirstChunk.activeStreams = 1 ∧
    afterFirstChunk.reservedBytes = 17 ∧ Accounted afterFirstChunk :=
  ⟨by decide +kernel, by decide +kernel, (counters_exact (Machine.Reachable.step (.init rfl)
      (show (Reassembler.machine default).step _ (some (.pushAt firstChunk 5 ⟨true, true, true⟩)) _
        from rfl))).1⟩

end Hypercolor.Preview
