import Hypercolor.Preview.Order
import Hypercolor.Preview.Splitter
import Hypercolor.Preview.Publications

/-!
# Split and reassembled

**What the splitter sends comes back whole at the last chunk, and not before** (`split_reassembles`),
whatever the receiver does for other streams in between.

The splitter and the reassembler meet at `InTransit`: the chunks are slices of the publication, and
the receiver's checks pass on it. From there the proof is about the receiver alone. With `i` chunks
in, the stream's partial holds the first `i` slices (`Holding`); a call elsewhere leaves it
(`Holding.elsewhere`), the next chunk makes it `i + 1` slices (`holding_append`) or completes it.
-/

set_option linter.unusedSectionVars false

namespace Hypercolor.Preview

open Lib List AList Nat

variable [Platform]

/-- The limits leave room for the publication and for each of its messages. -/
structure Fits (limits : PreviewLimits) (encoded : List UInt8) (chunks : List (List UInt8)) :
    Prop where
  encoded_le : encoded.length ≤ limits.maxEncodedPublicationBytes
  count_le : chunks.length ≤ limits.effectiveMaxChunkCount
  message_le : ∀ message ∈ chunks, message.length ≤ limits.maxMessageBytes

/-- A publication on its way: its slices, to a receiver whose checks it passes. -/
structure InTransit (limits : PreviewLimits) (metadata : PreviewPublicationMetadata)
    (encoded : List UInt8) (capacity need : Nat) (chunks : List (List UInt8)) : Prop extends
    SplitInto encoded metadata capacity chunks, Reassembles limits metadata encoded need,
    Fits limits encoded chunks

namespace InTransit

variable {limits : PreviewLimits} {metadata : PreviewPublicationMetadata} {encoded : List UInt8}
  {capacity need i : Nat} {chunks : List (List UInt8)}

/-- A slice that is sent starts within the publication. -/
lemma start_lt (h : InTransit limits metadata encoded capacity need chunks)
    (hi : i < chunks.length) : i * capacity < encoded.length :=
  (mul_le_mul_right capacity (le_sub_one_of_lt hi)).trans_lt h.before_last

lemma length_take (h : InTransit limits metadata encoded capacity need chunks)
    (hi : i < chunks.length) : (encoded.take (i * capacity)).length = i * capacity := by
  rw [List.length_take, min_eq_left (h.start_lt hi).le]

lemma take_append (encoded : List UInt8) (i capacity : Nat) :
    encoded.take (i * capacity) ++ (encoded.drop (i * capacity)).take capacity =
      encoded.take ((i + 1) * capacity) := by
  rw [succ_mul, take_add]

end InTransit

/-! ## The partial -/

/-- The partial with `i` chunks in it. -/
structure PartialPublication.HoldsChunks (pub : PartialPublication)
    (metadata : PreviewPublicationMetadata) (encoded : List UInt8)
    (capacity need count i : Nat) : Prop where
  metadata_eq : pub.metadata = metadata
  total_eq : pub.totalEncodedBytes = encoded.length
  count_eq : pub.chunkCount = count
  index_eq : pub.nextChunkIndex = i
  bytes_eq : pub.bytes = encoded.take (i * capacity)
  -- The first chunk is looked at before it is in.
  need_le : pub.screenZonesHeaderValidated → need ≤ (i + 1) * capacity
  need_pos : pub.screenZonesHeaderValidated = false → 0 < need

namespace Reassembler

/-- The calls that bring this message, with every allocation succeeding. -/
inductive Op.Sends (message : List UInt8) : Op → Prop where
  | push : Sends message (.push message ⟨true, true, true⟩)
  | pushAt (nowMs : Nat) : Sends message (.pushAt message nowMs ⟨true, true, true⟩)

/-- The stream's publications so far are older than this one. -/
def New (metadata : PreviewPublicationMetadata) (r : Reassembler) : Prop :=
  ∀ state, r.streams.lookup metadata.stream = some state →
    state.highWaterPublicationId < metadata.publicationId

/-- The first `i` chunks of the publication are in. -/
def Holding (metadata : PreviewPublicationMetadata) (encoded : List UInt8)
    (capacity need count i : Nat) (r : Reassembler) : Prop :=
  ∃ state pub, r.streams.lookup metadata.stream = some state ∧
    state.highWaterPublicationId = metadata.publicationId ∧ state.partialPub = some pub ∧
    pub.HoldsChunks metadata encoded capacity need count i

/-- The budgets and the memory suffice for the publication. -/
structure Affords (metadata : PreviewPublicationMetadata) (totalEncodedBytes : Nat)
    (r : Reassembler) : Prop where
  size_le : Platform.streamStateBase + metadata.stream.identityBytes ≤ Platform.usizeMax
  state_le : (r.stateBytes + if (r.partialOf metadata.stream).isSome then 0
    else stateSize metadata.stream) ≤ min r.limits.maxReassemblyStateBytes Platform.usizeMax
  requested_le : r.reservedBytes - (r.partialOf metadata.stream).elim 0 (·.totalEncodedBytes) +
    totalEncodedBytes ≤ min r.limits.maxConnectionBytes Platform.usizeMax
  live_le : r.streams.lookup metadata.stream = none →
    r.liveBytes + stateSize metadata.stream ≤ Platform.usizeMax

variable {limits : PreviewLimits} {metadata : PreviewPublicationMetadata} {encoded : List UInt8}
  {capacity need i ct : Nat} {chunks messages : List (List UInt8)} {r r' : Reassembler}
  {nowMs : Nat} {header : PreviewChunkHeader} {payload msg : List UInt8} {op : Op}

/-! ## Appending the next chunk -/

variable {pub : PartialPublication}

lemma validateAppended_next (h : InTransit limits metadata encoded capacity need chunks)
    (hpu : pub.HoldsChunks metadata encoded capacity need chunks.length i) (hi : i < chunks.length) :
    validateAppended limits ⟨true, true, true⟩ pub ((encoded.drop (i * capacity)).take capacity) =
      .ok (decide (need ≤ (i + 1) * capacity)) := by
  unfold validateAppended
  cases hv : pub.screenZonesHeaderValidated with
  | true => rw [if_pos rfl, decide_eq_true (hpu.need_le hv)]
  | false =>
    have hst := h.start_lt hi
    have hb : pub.bytes ++ (encoded.drop (i * capacity)).take capacity =
        encoded.take ((i + 1) * capacity) := by
      rw [hpu.bytes_eq, InTransit.take_append]
    have hs : pub.bytes.length + ((encoded.drop (i * capacity)).take capacity).length =
        min ((i + 1) * capacity) encoded.length := by
      rw [← length_append, hb, length_take]
    have hp : 0 < (i + 1) * capacity := mul_pos i.succ_pos h.capacity_pos
    have hm := h.need_le
    have hl : 0 < extendedScreenZonesFrameHeaderLen := by decide
    rw [if_neg Bool.false_ne_true, hpu.metadata_eq, hpu.total_eq, hb, hs]
    refine checked_bind.mpr ⟨?_, ?_⟩
    · exact (min_le_right _ _).trans h.length_le
    rw [take_take]
    refine bind_eq_ok.mpr ⟨_, h.recognised (hpu.need_pos hv) _ (by omega), ?_⟩
    have hn : need ≤ min (min (min ((i + 1) * capacity) encoded.length)
        extendedScreenZonesFrameHeaderLen) ((i + 1) * capacity) ↔ need ≤ (i + 1) * capacity := by
      have := h.need_le_length
      omega
    by_cases hc : need ≤ (i + 1) * capacity
    · rw [decide_eq_true (hn.mpr hc), decide_eq_true hc, if_pos rfl]
      refine ensure_bind.mpr ⟨?_, rfl⟩
      rw [hpu.bytes_eq, length_take]
      exact min_le_right _ _
    · rw [decide_eq_false (hn.not.mpr hc), decide_eq_false hc, if_neg Bool.false_ne_true]
      rfl

/-- The partial after the next chunk. -/
lemma holdsChunks_grow (hp : pub.HoldsChunks metadata encoded capacity need chunks.length i) :
    (grow pub (decide (need ≤ (i + 1) * capacity))
      ((encoded.drop (i * capacity)).take capacity)).HoldsChunks metadata encoded capacity need
        chunks.length (i + 1) where
  metadata_eq := hp.metadata_eq
  total_eq := hp.total_eq
  count_eq := hp.count_eq
  index_eq := congrArg (· + 1) hp.index_eq
  bytes_eq := by
    simp only [grow]
    rw [hp.bytes_eq, InTransit.take_append]
  need_le hv := by
    have hn : need ≤ (i + 1) * capacity := of_decide_eq_true hv
    exact hn.trans (mul_le_mul_right capacity (le_succ _))
  need_pos hv := by
    have hn : ¬ need ≤ (i + 1) * capacity := of_decide_eq_false hv
    omega

/-- What the next chunk finds when it is appended. -/
lemma appends_next (h : InTransit limits metadata encoded capacity need chunks)
    (hp : pub.HoldsChunks metadata encoded capacity need chunks.length i) (hi : i < chunks.length)
    (hpl : Placed header metadata encoded.length chunks.length capacity i) :
    Appends limits ⟨true, true, true⟩ pub header ((encoded.drop (i * capacity)).take capacity)
      header.totalEncodedBytes.toNat (decide (need ≤ (i + 1) * capacity)) where
  metadata_eq := hp.metadata_eq.trans hpl.metadata_eq.symm
  total_eq := hp.total_eq.trans hpl.total_eq.symm
  count_eq := hp.count_eq.trans hpl.count_eq.symm
  index_eq := hpl.index_eq.trans hp.index_eq.symm
  offset_eq := by rw [hpl.offset_eq, hp.bytes_eq, h.length_take hi]
  validated := validateAppended_next h hp hi

/-- The next chunk, appended: all but the last are stored, and the last gives the publication. -/
lemma holding_append (nowMs : Nat) (h : InTransit limits metadata encoded capacity need chunks)
    (hr : Books r) (hli : r.limits = limits)
    (hho : Holding metadata encoded capacity need chunks.length i r) (hi : i < chunks.length)
    (hpl : Placed header metadata encoded.length chunks.length capacity i)
    (hla : ChunkLayout header ((encoded.drop (i * capacity)).take capacity).length) :
    (i + 1 < chunks.length → Holding metadata encoded capacity need chunks.length (i + 1)
          (r.appendChunk ⟨true, true, true⟩ metadata.stream header
            ((encoded.drop (i * capacity)).take capacity) header.totalEncodedBytes.toNat nowMs).1 ∧
        (r.appendChunk ⟨true, true, true⟩ metadata.stream header
          ((encoded.drop (i * capacity)).take capacity) header.totalEncodedBytes.toNat nowMs).2 =
            .ok none) ∧ (i + 1 = chunks.length → (r.appendChunk ⟨true, true, true⟩ metadata.stream header
        ((encoded.drop (i * capacity)).take capacity) header.totalEncodedBytes.toNat nowMs).2 =
          .ok (some (metadata, encoded))) := by
  obtain ⟨state, pub, hs, hm, hp, hh⟩ := hho
  have hg := holdsChunks_grow hh
  have ha := appends_next h hh hi hpl
  rw [appendChunk_eq hs hp (hli ▸ ha) hla rfl]
  constructor
  · intro hmo
    rw [if_neg (by rw [hg.index_eq, hg.count_eq]; exact hmo.ne)]
    exact ⟨⟨_, _, lookup_insert _, hm, rfl, hg⟩, rfl⟩
  · intro hl
    rw [if_pos (by rw [hg.index_eq, hg.count_eq]; exact hl)]
    rw [completePublication_eq hr hs hp _ (grow pub _ _) rfl, hg.metadata_eq, hg.bytes_eq, hl,
      take_of_length_le h.covers]

/-! ## Admitting the first chunk -/

lemma admits_first (h : InTransit limits metadata encoded capacity need chunks)
    (hr : Books r) (hl : r.limits = limits) (ha : Affords metadata encoded.length r)
    (hp : Placed header metadata encoded.length chunks.length capacity 0) :
    ∃ admission, Admits r header (encoded.take capacity) encoded.length admission ∧
      admission.screenZonesHeaderValidated = decide (need ≤ capacity) := by
  obtain rfl := hp.metadata_eq
  obtain ⟨hs, hsm⟩ := Nat.le_min.mp ha.state_le
  obtain ⟨hrl, hrm⟩ := Nat.le_min.mp ha.requested_le
  have hi : header.chunkIndex = 0 := UInt32.toNat_inj.mp hp.index_eq
  have hof : header.chunkOffset = 0 := UInt64.toNat_inj.mp (hp.offset_eq.trans (zero_mul capacity))
  exact ⟨⟨decide (need ≤ capacity), _, _⟩, {
      starts := ⟨hi, hof⟩
      validated := hl ▸ h.admitted capacity h.capacity_pos
      size_le := ha.size_le
      state_eq := rfl
      state_le_max := hsm
      state_le := hs
      replaced_le := replaced_le hr _
      requested_eq := rfl
      requested_le_max := hrm
      requested_le := hrl }, rfl⟩

/-- **The first chunk is admitted.** -/
theorem admitPartial_first (nowMs : Nat) (h : InTransit limits metadata encoded capacity need chunks)
    (hr : Books r) (hl : r.limits = limits) (haf : Affords metadata encoded.length r)
    (hp : Placed header metadata encoded.length chunks.length capacity 0) :
    ∃ r', r.admitPartial ⟨true, true, true⟩ header (encoded.take capacity) encoded.length nowMs =
        (r', .ok ()) ∧ r'.limits = limits ∧
            Holding metadata encoded capacity need chunks.length 0 r' := by
  obtain ⟨adm, ha, hv⟩ := admits_first h hr hl haf hp
  obtain rfl := hp.metadata_eq
  have hre : ¬ ((r.streams.lookup header.metadata.stream).isNone ∧
      ¬ (r.takePartial header.metadata.stream header.metadata.publicationId).canReserve
        header.metadata.stream ⟨true, true, true⟩) := by
    rintro ⟨hn, hro⟩
    have hs := Option.isNone_iff_eq_none.mp hn
    rw [takePartial_none hs] at hro
    exact hro (decide_eq_true ⟨rfl, haf.live_le hs⟩)
  unfold admitPartial
  rw [checkAdmission_eq_ok.mpr ha]
  simp only
  rw [if_neg (not_not.mpr trivial), if_neg hre]
  refine ⟨_, rfl, (takePartial_limits r _ _).1.trans hl, ?_⟩
  refine ⟨_, _, lookup_insert _, rfl, rfl, ?_⟩
  exact {
      metadata_eq := rfl
      total_eq := rfl
      count_eq := hp.count_eq
      index_eq := rfl
      bytes_eq := by rw [zero_mul, take_zero]
      need_le := fun hse => by
        have hne := of_decide_eq_true (hv.symm.trans hse)
        rwa [zero_add, one_mul]
      need_pos := fun hu => by
        have hne := of_decide_eq_false (hv.symm.trans hu)
        omega }

/-! ## Placing the next chunk -/

/-- The checks before a chunk is placed pass. -/
lemma pushParts_of_fits (payload : List UInt8) (nowMs : Nat)
    (h : InTransit limits metadata encoded capacity need chunks) (hl : r.limits = limits)
    (hpl : Placed header metadata encoded.length chunks.length capacity i) :
    (New metadata r → ∀ r', r.admitPartial ⟨true, true, true⟩ header payload encoded.length nowMs =
        (r', .ok ()) → r.pushParts ⟨true, true, true⟩ header payload nowMs =
        r'.appendChunk ⟨true, true, true⟩ metadata.stream header payload encoded.length nowMs) ∧
    (Holding metadata encoded capacity need chunks.length i r →
      r.pushParts ⟨true, true, true⟩ header payload nowMs =
        r.appendChunk ⟨true, true, true⟩ metadata.stream header payload encoded.length nowMs) := by
  obtain rfl := hpl.metadata_eq
  have hc : ¬ r.limits.effectiveMaxChunkCount < header.chunkCount.toNat := by
    rw [hpl.count_eq, hl]
    exact not_lt.mpr h.count_le
  have ht : checked header.totalEncodedBytes.toNat = some encoded.length := by
    rw [hpl.total_eq]
    exact checked_of_le h.length_le
  have he : ¬ r.limits.maxEncodedPublicationBytes < encoded.length := by
    rw [hl]
    exact not_lt.mpr h.encoded_le
  unfold pushParts
  simp only [if_neg hc, ht, if_neg he]
  constructor
  · intro hn r' ha
    cases hs : r.streams.lookup header.metadata.stream with
    | none => simp [ha]
    | some state =>
      have hlt := hn state hs
      have hst : ¬ (header.metadata.publicationId < state.highWaterPublicationId ∨
          header.metadata.publicationId = state.highWaterPublicationId ∧
            state.partialPub.isNone) := by
        rintro (hold | ⟨hsa, -⟩)
        · exact UInt64.lt_asymm hlt hold
        · exact UInt64.ne_of_lt hlt hsa.symm
      rw [Option.filter_some_neg (by simpa using hst)]
      simp [hlt, ha]
  · rintro ⟨state, pub, hs, hm, hp, -⟩
    rw [hs, Option.filter_some_neg (by simp [hm, hp])]
    simp [hm]

/-! ## The call that brings it -/

/-- A message within the budget that carries a chunk has it placed after the sweep. -/
lemma delivered_of_carries (hop : op.Sends msg) (hc : Carries msg header payload)
    (hl : msg.length ≤ r.limits.maxMessageBytes) :
    ∃ nowMs, r.apply op = ((r.swept op).pushParts ⟨true, true, true⟩ header payload nowMs).1 ∧
      r.result op = validateResult r.limits
        ((r.swept op).pushParts ⟨true, true, true⟩ header payload nowMs).2 := by
  obtain ⟨offset, hd, rfl⟩ := hc.decodes
  have hs : ∀ r' : Reassembler, ∀ nowMs, (r'.beginPush msg.length nowMs).1.limits =
      r'.limits := fun r' nowMs => (expireAt_swept _ nowMs).limits_eq
  have hf : ∀ nowMs, (r.beginPush msg.length nowMs).2 = .ok () := fun nowMs =>
    ensure_iff.mpr hl
  have hpa : ∀ r' : Reassembler, ∀ nowMs, (r'.beginPush msg.length nowMs).2 = .ok () →
      r'.pushAt ⟨true, true, true⟩ msg nowMs =
        let pushed := (r'.beginPush msg.length nowMs).1.pushParts ⟨true, true, true⟩ header
          (msg.drop offset) nowMs
        (pushed.1, validateResult r'.limits pushed.2) := by
    intro r' nowMs hb
    unfold pushAt
    rw [show r'.beginPush msg.length nowMs =
      ((r'.beginPush msg.length nowMs).1, .ok ()) from Prod.ext rfl hb]
    simp only [hd, hs]
  cases hop with
  | push =>
    refine ⟨satAddU64 r.logicalNowMs 1, ?_⟩
    have hp := hpa { r with logicalNowMs := satAddU64 r.logicalNowMs 1 }
      (satAddU64 r.logicalNowMs 1) (ensure_iff.mpr hl)
    exact ⟨congrArg Prod.fst hp, congrArg Prod.snd hp⟩
  | pushAt nowMs =>
    have hp := hpa r nowMs (hf nowMs)
    exact ⟨nowMs, congrArg Prod.fst hp, congrArg Prod.snd hp⟩

lemma swept_books (hr : Books r) (op : Op) : Books (r.swept op) := by
  cases op with
  | push enc al => exact beginPush_books (hr.setClock _) _ _
  | pushAt enc nowMs al => exact beginPush_books hr _ nowMs
  | expireAt nowMs => exact expireAt_spec hr nowMs
  | cancelPublication canc al | clear => exact hr

/-- The next message finds the publication new, or its partial with the chunks before it. -/
def Awaits (metadata : PreviewPublicationMetadata) (encoded : List UInt8)
    (capacity need count : Nat) : Nat → Reassembler → Prop
  | 0, r => New metadata r
  | i + 1, r => Holding metadata encoded capacity need count (i + 1) r

/-- **The next message.** All but the last are stored, and the last gives the publication. -/
theorem awaits_send (h : InTransit limits metadata encoded capacity need chunks)
    (hr : Books (r.swept op)) (hli : r.limits = limits) (hs : (r.swept op).limits = limits)
    (haw : Awaits metadata encoded capacity need chunks.length i (r.swept op))
    (haf : New metadata (r.swept op) → Affords metadata encoded.length (r.swept op))
    (hop : op.Sends msg) (hme : chunks[i]? = some msg) : (i + 1 < chunks.length →
      Awaits metadata encoded capacity need chunks.length (i + 1) (r.apply op) ∧ r.result op = .ok none) ∧
    (i + 1 = chunks.length → r.result op = .ok (some ⟨metadata, encoded⟩)) := by
  obtain ⟨hi, -⟩ := List.getElem?_eq_some_iff.mp hme
  obtain ⟨header, hc, hp⟩ := h.chunk i msg hme
  obtain ⟨nowMs, hap, hre⟩ := delivered_of_carries hop hc (hli ▸ h.message_le msg (mem_of_getElem? hme))
  obtain ⟨r', hb, hli', hh, hpu⟩ : ∃ r', Books r' ∧ r'.limits = limits ∧
      Holding metadata encoded capacity need chunks.length i r' ∧
      (r.swept op).pushParts ⟨true, true, true⟩ header
          ((encoded.drop (i * capacity)).take capacity) nowMs =
        r'.appendChunk ⟨true, true, true⟩ metadata.stream header
          ((encoded.drop (i * capacity)).take capacity) encoded.length nowMs := by
    have hpl := pushParts_of_fits ((encoded.drop (i * capacity)).take capacity) nowMs h hs hp
    cases i with
    | zero =>
      have hf : (encoded.drop (0 * capacity)).take capacity = encoded.take capacity := by
        rw [zero_mul, drop_zero]
      rw [hf] at hpl ⊢
      obtain ⟨r', hac, hli', hh⟩ := admitPartial_first nowMs h hr hs (haf haw) hp
      have hb := admitPartial_books ⟨true, true, true⟩ (encoded.take capacity)
        encoded.length nowMs hr (hp.count_eq ▸ hi)
      rw [hac] at hb
      exact ⟨r', hb, hli', hh, hpl.1 haw r' hac⟩
    | succ i => exact ⟨_, hr, hs, haw, hpl.2 haw⟩
  have ha := holding_append nowMs h hb hli' hh hi hp hc.layout
  rw [hp.total_eq, ← hpu] at ha
  constructor
  · intro hm
    obtain ⟨hn, hno⟩ := ha.1 hm
    rw [hap, hre, hno]
    exact ⟨hn, rfl⟩
  · intro hl
    rw [hre, ha.2 hl]
    exact bind_eq_ok.mpr ⟨(), hli ▸ h.completed, rfl⟩

/-! ## Calls elsewhere -/

/-- The time a call's expiry sweep is for. -/
def time (r : Reassembler) : Op → Option Nat
  | .push _ _ => some (satAddU64 r.logicalNowMs 1)
  | .pushAt _ nowMs _ | .expireAt nowMs => some nowMs
  | _ => none

/-- If the publication is being received, the call's time has not passed its deadline. -/
def Timely (metadata : PreviewPublicationMetadata) (r : Reassembler) (op : Op) : Prop :=
  ∀ state nowMs, r.streams.lookup metadata.stream = some state → state.partialPub.isSome →
    state.highWaterPublicationId = metadata.publicationId → r.time op = some nowMs →
      nowMs - state.lastActivityMs < r.limits.maxIdleMs

/-- The calls that are not about the stream. -/
def Op.Elsewhere (stream : PreviewStreamId) (op : Op) : Prop :=
  match op with
  | .push _ _ | .pushAt _ _ _ => ∀ chunk, op.chunk = some chunk → chunk.metadata.stream ≠ stream
  | .expireAt _ => True
  | .cancelPublication cancellation _ => cancellation.stream ≠ stream
  | .clear => False

/-- The stream's entry is the same, or was a tombstone that is gone. -/
structure Leaves (stream : PreviewStreamId) (r r' : Reassembler) : Prop where
  limits_eq : r'.limits = r.limits
  lookup_of_lookup : ∀ state, r'.streams.lookup stream = some state →
    r.streams.lookup stream = some state
  lookup_eq : ∀ state, r.streams.lookup stream = some state → ¬ state.isTombstone →
    r'.streams.lookup stream = some state

lemma Leaves.refl (st : PreviewStreamId) (r : Reassembler) : Leaves st r r :=
  ⟨rfl, fun _ => id, fun _ h _ => h⟩

variable {st : PreviewStreamId}

lemma Spares.leaves {o : PreviewStreamId} (h : Spares o r r') (hn : o ≠ st) : Leaves st r r' where
  limits_eq := h.limits_eq
  lookup_of_lookup state := h.lookup_of_lookup st state hn.symm
  lookup_eq state := h.lookup_eq st state hn.symm

lemma Delivery.leaves (h : r.Delivery op) (hc : ∀ c, op.chunk = some c → c.metadata.stream ≠ st) :
    Leaves st (r.swept op) (r.apply op) := by
  cases h with
  | refused e ha hr =>
    rw [ha]
    exact .refl st _
  | placed c al payload nowMs hop ha hr =>
    rw [ha]
    exact (pushParts_spares _ al c payload nowMs).leaves (hc c hop)

lemma apply_leaves (hop : op.Elsewhere st) : Leaves st (r.swept op) (r.apply op) := by
  cases op with
  | push enc al => exact (delivery_push r enc al).leaves hop
  | pushAt enc nowMs al => exact (delivery_pushAt r enc nowMs al).leaves hop
  | expireAt nowMs => exact .refl st _
  | cancelPublication canc al =>
    exact (cancelPublication_spares r al canc).leaves hop
  | clear => exact hop.elim

/-- A sweep at the call's time, or none. -/
lemma swept_time (r : Reassembler) (op : Op) : r.swept op = r ∧ r.time op = none ∨
      ∃ r' nowMs, r.time op = some nowMs ∧ r'.streams = r.streams ∧ r'.limits = r.limits ∧
        Swept nowMs r' (r.swept op) := by
  cases op with
  | push enc al =>
    refine .inr ⟨_, _, rfl, ?_, ?_, expireAt_swept _ _⟩ <;> rfl
  | pushAt enc nowMs al =>
    refine .inr ⟨_, nowMs, rfl, ?_, ?_, expireAt_swept _ nowMs⟩ <;> rfl
  | expireAt nowMs => exact .inr ⟨r, nowMs, rfl, rfl, rfl, expireAt_swept r nowMs⟩
  | cancelPublication canc al | clear => exact .inl ⟨rfl, rfl⟩

lemma swept_limits (r : Reassembler) (op : Op) : (r.swept op).limits = r.limits := by
  rcases swept_time r op with ⟨he, -⟩ | ⟨r', nowMs, -, -, hl, hs⟩
  · rw [he]
  · exact hs.limits_eq.trans hl

/-- A timely sweep leaves what the next message waits for. -/
lemma awaits_swept (haw : Awaits metadata encoded capacity need ct i r) (hti : Timely metadata r op) :
    Awaits metadata encoded capacity need ct i (r.swept op) := by
  rcases swept_time r op with ⟨he, -⟩ | ⟨r', nowMs, ht, hst, hl, hsw⟩
  · rwa [he]
  · cases i with
    | zero =>
      intro state' hs'
      obtain ⟨state, hs, hm, -⟩ := hsw.lookup_of_lookup _ state' hs'
      rw [hm]
      exact haw state (hst ▸ hs)
    | succ i =>
      obtain ⟨state, pub, hs, hm, hp, hh⟩ := haw
      have ha : state.partialPub.isSome := by
        rw [hp]
        rfl
      refine ⟨state, pub, hsw.lookup_eq _ state (hst ▸ hs) ha ?_, hm, hp, hh⟩
      rw [hl]
      exact hti state nowMs hs ha hm ht

lemma Leaves.awaits (h : Leaves metadata.stream r r')
    (ha : Awaits metadata encoded capacity need ct i r) :
    Awaits metadata encoded capacity need ct i r' := by
  cases i with
  | zero => exact fun state hs => ha state (h.lookup_of_lookup state hs)
  | succ i =>
    obtain ⟨state, pub, hs, hm, hp, hh⟩ := ha
    refine ⟨state, pub, h.lookup_eq state hs ?_, hm, hp, hh⟩
    simp [StreamState.isTombstone, hp]

/-! ## Whole runs -/

/-- The messages are pushed in order, with these results. In between come calls that are not about
the stream, and the table may show its entries in another order. No call passes the publication's
deadline, no allocation fails, and the budgets suffice when its first chunk comes. -/
inductive Interleaved (metadata : PreviewPublicationMetadata) (totalEncodedBytes : Nat) :
    Reassembler → List (List UInt8) →
      List (Except PreviewChunkError (Option ReassembledPreviewPublication)) → Prop where
  | done (r : Reassembler) : Interleaved metadata totalEncodedBytes r [] []
  | sends {r : Reassembler} {op : Op} {message : List UInt8} {messages : List (List UInt8)}
      {results : List (Except PreviewChunkError (Option ReassembledPreviewPublication))}
      (hop : op.Sends message) (htimely : Timely metadata r op)
      (hafford : New metadata (r.swept op) → Affords metadata totalEncodedBytes (r.swept op))
      (hrest : Interleaved metadata totalEncodedBytes (r.apply op) messages results) :
      Interleaved metadata totalEncodedBytes r (message :: messages) (r.result op :: results)
  | elsewhere {r : Reassembler} {op : Op} {messages : List (List UInt8)}
      {results : List (Except PreviewChunkError (Option ReassembledPreviewPublication))}
      (hop : op.Elsewhere metadata.stream) (htimely : Timely metadata r op)
      (hrest : Interleaved metadata totalEncodedBytes (r.apply op) messages results) :
      Interleaved metadata totalEncodedBytes r messages results
  | reordered {r : Reassembler} {streams : Table PreviewStreamId StreamState}
      {messages : List (List UInt8)}
      {results : List (Except PreviewChunkError (Option ReassembledPreviewPublication))}
      (hperm : streams.entries.Perm r.streams.entries)
      (hrest : Interleaved metadata totalEncodedBytes { r with streams := streams } messages
        results) :
      Interleaved metadata totalEncodedBytes r messages results

variable {results : List (Except PreviewChunkError (Option ReassembledPreviewPublication))}

/-- Without messages there are no results. -/
lemma Interleaved.results_nil {total : Nat}
    (h : Interleaved metadata total r messages results) (hn : messages = []) : results = [] := by
  induction h with
  | done r => rfl
  | sends hop ht ha hr ih => cases hn
  | elsewhere hop ht hr ih | reordered hp hr ih => exact ih hn

lemma apply_limits (r : Reassembler) (op : Op) : (r.apply op).limits = r.limits := by
  have hd : r.Delivery op → (r.apply op).limits = r.limits := by
    intro h
    cases h with
    | refused e ha hr =>
      rw [ha]
      exact swept_limits r op
    | placed c al payload nowMs hop ha hr =>
      rw [ha]
      exact (pushParts_spares _ al c payload nowMs).limits_eq.trans (swept_limits r op)
  cases op with
  | push enc al => exact hd (delivery_push r enc al)
  | pushAt enc nowMs al => exact hd (delivery_pushAt r enc nowMs al)
  | expireAt nowMs => exact (expireAt_swept r nowMs).limits_eq
  | cancelPublication canc al =>
    exact (cancelPublication_spares r al canc).limits_eq
  | clear => rfl

lemma reachable_limits (h : (machine limits).Reachable r) : r.limits = limits := by
  refine h.invariant (I := fun r => r.limits = limits) ?_ ?_
  · rintro r rfl
    rfl
  · intro r label r' hr hs
    cases label with
    | some op =>
      cases hs
      exact (apply_limits r op).trans hr
    | none =>
      obtain ⟨streams, -, rfl⟩ := hs
      exact hr

/-- **Receiving.** From `i` chunks on, the rest of the messages give nothing until the last. -/
theorem interleaved_results (h : InTransit limits metadata encoded capacity need chunks)
    (hru : Interleaved metadata encoded.length r messages results) (hr : Books r)
    (hli : r.limits = limits) (hi : i < chunks.length)
    (haw : Awaits metadata encoded capacity need chunks.length i r) (hms : messages = chunks.drop i) :
    results = replicate (chunks.length - 1 - i) (.ok none) ++ [.ok (some ⟨metadata, encoded⟩)] := by
  induction hru generalizing i with
  | done r =>
    have hd := drop_eq_nil_iff.mp hms.symm
    omega
  | @sends r op msg messages results hop ht ha hre ih =>
    rw [drop_eq_getElem_cons hi, cons.injEq] at hms
    obtain ⟨hme, hms⟩ := hms
    have hst := awaits_send h (swept_books hr op) hli ((swept_limits r op).trans hli)
      (awaits_swept haw ht) ha hop
      (hme ▸ getElem?_eq_getElem hi)
    by_cases hm : i + 1 < chunks.length
    · obtain ⟨hn, hno⟩ := hst.1 hm
      rw [ih (apply_books hr op) ((apply_limits r op).trans hli) hm hn hms, hno,
        ← cons_append, ← replicate_succ]
      congr 2
      omega
    · -- Nothing is left to send.
      have hl : i + 1 = chunks.length := by omega
      have hni : messages = [] := by
        rw [hms, hl, drop_length]
      rw [hre.results_nil hni, hst.2 hl, show chunks.length - 1 - i = 0 by omega]
      rfl
  | @elsewhere r op messages results hop ht hre ih =>
    exact ih (apply_books hr op) ((apply_limits r op).trans hli) hi
      ((apply_leaves hop).awaits (awaits_swept haw ht)) hms
  | @reordered r streams messages results hp hre ih =>
    have hlv : Leaves metadata.stream r { r with streams := streams } :=
      ⟨rfl, fun state hs => (perm_lookup hp).symm.trans hs,
        fun state hs _ => (perm_lookup hp).trans hs⟩
    exact ih (hr.reorder hp) hli hi (hlv.awaits haw) hms

/-- **Split and reassembled.** Pushing what the splitter made of an encoded frame, in order and with
any calls about other streams in between, gives nothing until the last chunk and the frame's bytes
and metadata with it. -/
theorem split_reassembles {sender : PreviewLimits} {maxMessageBytes decodedBytes : Nat}
    {results : List (Except PreviewChunkError (Option ReassembledPreviewPublication))}
    (hpublishes : Publishes metadata encoded decodedBytes)
    (hgeometry : metadata.width ≠ 0 ∧ metadata.height ≠ 0)
    (hsplit : splitPreviewPublicationWithLimits encoded metadata maxMessageBytes sender = .ok chunks)
    (hdecoded : decodedBytes ≤ min limits.maxDecodedPublicationBytes Platform.usizeMax)
    (hfits : Fits limits encoded chunks) (hr : (machine limits).Reachable r)
    (hnew : New metadata r) (hrun : Interleaved metadata encoded.length r chunks results) :
    results = replicate (chunks.length - 1) (.ok none) ++ [.ok (some ⟨metadata, encoded⟩)] := by
  obtain ⟨capacity, hs⟩ := splitInto_of_ok hsplit
  obtain ⟨hd, hdf⟩ := Nat.le_min.mp hdecoded
  obtain ⟨need, hrs⟩ := hpublishes.reassembles hgeometry hdf hd
  have ht : InTransit limits metadata encoded capacity need chunks :=
    { toSplitInto := hs, toReassembles := hrs, toFits := hfits }
  have hp : 0 < chunks.length := by
    refine pos_of_ne_zero fun hz => hs.nonempty ?_
    have hc := hs.covers
    rw [hz, zero_mul] at hc
    exact length_eq_zero_iff.mp (le_zero.mp hc)
  exact interleaved_results ht hrun (reachable_books hr) (reachable_limits hr) hp hnew rfl

end Reassembler

end Hypercolor.Preview

namespace Hypercolor.Preview

open Lib

attribute [local instance] instPlatform

/-- A canvas frame of one pixel. -/
def pixel : PreviewFrame where
  channel := .canvas
  frameNumber := 3
  timestampMs := 4
  width := 1
  height := 1
  format := .rgb
  payload := [10, 20, 30]

def pixelBytes : List UInt8 := [3, 3, 0, 0, 0, 4, 0, 0, 0, 1, 0, 1, 0, 0, 10, 20, 30]

def pixelMetadata : PreviewPublicationMetadata :=
  { stream := .passive .canvas, publicationId := 7, frameNumber := 3, timestampMs := 4, width := 1,
    height := 1, format := .rgb }

/-- What the splitter makes of it with room for 10 bytes in a message. -/
def pixelChunks : List (List UInt8) :=
  (splitPreviewPublicationWithLimits pixelBytes pixelMetadata 65 default).toOption.getD []

def pixelFirst : List UInt8 := pixelChunks.getD 0 []
def pixelSecond : List UInt8 := pixelChunks.getD 1 []

/-- A new reassembler that has received the first chunk, and a cancellation for another stream. -/
def pixelReceiver : Reassembler :=
  ((Reassembler.withLimits default).apply (.pushAt pixelFirst 5 ⟨true, true, true⟩)).apply
    (.cancelPublication ⟨.screenZones, 9⟩ ⟨true, true, true⟩)

/-- Two chunks, and another stream cancelled between them. -/
theorem split_reassembles_pixel :
    [(Reassembler.withLimits default).result (.pushAt pixelFirst 5 ⟨true, true, true⟩),
      pixelReceiver.result (.push pixelSecond ⟨true, true, true⟩)] =
    [.ok none, .ok (some ⟨pixelMetadata, pixelBytes⟩)] := by
  have he : (Reassembler.Op.cancelPublication ⟨.screenZones, 9⟩
      ⟨true, true, true⟩).Elsewhere (.passive .canvas) := by
    show PreviewStreamId.screenZones ≠ .passive .canvas
    decide
  refine (Reassembler.split_reassembles (Publishes.passive pixel 7 (by decide +kernel))
    ⟨by decide, by decide⟩ (by decide +kernel :
      splitPreviewPublicationWithLimits pixelBytes pixelMetadata 65 default = .ok
        [pixelFirst, pixelSecond])
    (by decide +kernel : _ ≤ min (default : PreviewLimits).maxDecodedPublicationBytes _)
    ⟨by decide +kernel, by decide +kernel, by decide +kernel⟩ (.init rfl) ?_ ?_).trans rfl
  · intro state hs
    simp [Reassembler.withLimits] at hs
  · refine .sends (.pushAt 5) ?_ (fun _ => ?_) ?_
    · intro state nowMs hs
      simp [Reassembler.withLimits] at hs
    · exact ⟨by decide +kernel, by decide +kernel, by decide +kernel, fun _ => by decide +kernel⟩
    · refine .elsewhere he ?_ ?_
      · exact fun state nowMs _ _ _ ht => nomatch ht
      · refine .sends .push ?_ (fun _ => ?_) (.done _)
        · rintro state nowMs _ _ _ ⟨⟩
          exact (Nat.sub_le _ _).trans_lt (by decide +kernel)
        · exact ⟨by decide +kernel, by decide +kernel, by decide +kernel, fun _ => by decide +kernel⟩

end Hypercolor.Preview
