import Hypercolor.Preview.Chunks
import Hypercolor.Preview.FrameCodec

/-!
# Chunk envelopes

When a chunk's layout is valid, as a proposition about its numbers (`ChunkLayout`).
-/

set_option linter.unusedSectionVars false

namespace Hypercolor.Preview

open Lib List Nat PreviewStreamId PreviewChunkHeader

variable [Platform]

@[simp] theorem frameError_eq_ok {α : Type} {x : Except PreviewFrameDecodeError α} {a : α} :
    frameError x = .ok a ↔ x = .ok a := by
  cases x <;> simp [frameError]

/-! ## Layout -/

lemma tryU64_eq_ok {n : Nat} {m : UInt64} : tryU64 n = .ok m ↔ n = m.toNat := by
  unfold tryU64
  split_ifs with h
  · rw [Except.ok.injEq]
    constructor
    · rintro rfl
      exact (UInt64.toNat_ofNat_of_lt' h).symm
    · rintro rfl
      exact UInt64.ofNat_toNat
  · refine iff_of_false nofun fun hn => h ?_
    rw [hn]
    exact m.toNat_lt

/-- What `validate_chunk_layout` accepts: a nonempty payload inside the publication, which ends it
exactly when the chunk is the last. -/
structure ChunkLayout (chunk : PreviewChunkHeader) (payloadLen : Nat) : Prop where
  total_pos : 0 < chunk.totalEncodedBytes.toNat
  count_le : chunk.chunkCount.toNat ≤ chunk.totalEncodedBytes.toNat
  index_lt : chunk.chunkIndex.toNat < chunk.chunkCount.toNat
  payload_pos : 0 < payloadLen
  stop_le : chunk.chunkOffset.toNat + payloadLen ≤ chunk.totalEncodedBytes.toNat
  last_iff : chunk.chunkIndex.toNat + 1 = chunk.chunkCount.toNat ↔
    chunk.chunkOffset.toNat + payloadLen = chunk.totalEncodedBytes.toNat

variable {c : PreviewChunkHeader}

lemma validateChunkLayout_eq_ok {payloadLen : Nat} :
    validateChunkLayout c payloadLen = .ok () ↔ ChunkLayout c payloadLen := by
  have ht := c.totalEncodedBytes.toNat_lt
  constructor
  · intro h
    obtain ⟨⟨htn, -⟩, h⟩ := ensure_bind.mp h
    obtain ⟨hc, h⟩ := ensure_bind.mp h
    obtain ⟨⟨hlt, hp⟩, h⟩ := ensure_bind.mp h
    obtain ⟨len, hln, h⟩ := bind_eq_ok.mp h
    obtain ⟨-, h⟩ := ensure_bind.mp h
    obtain ⟨hs, he⟩ := ensure_bind.mp h
    obtain rfl := tryU64_eq_ok.mp hln
    refine ⟨pos_of_ne_zero fun h0 => htn (UInt64.toNat.inj h0), hc, UInt32.lt_iff_toNat_lt.mp hlt,
      pos_of_ne_zero hp, hs, ?_⟩
    by_cases hl : c.chunkIndex.toNat + 1 = c.chunkCount.toNat
    · rw [if_pos hl] at he
      exact iff_of_true hl (ensure_iff.mp he)
    · rw [if_neg hl] at he
      exact iff_of_false hl (Nat.ne_of_lt (ensure_iff.mp he))
  · rintro ⟨hpo, hc, hi, hp, hs, hl⟩
    have hln : tryU64 payloadLen = .ok (UInt64.ofNat payloadLen) :=
      tryU64_eq_ok.mpr (UInt64.toNat_ofNat_of_lt' (by show payloadLen < 2 ^ 64; omega)).symm
    have hln' := tryU64_eq_ok.mp hln
    refine ensure_bind.mpr ⟨⟨?_, ?_⟩, ?_⟩
    · rintro h0
      simp [h0] at hpo
    · rintro h0
      simp [h0] at hi
    refine ensure_bind.mpr ⟨hc, ?_⟩
    refine ensure_bind.mpr ⟨⟨UInt32.lt_iff_toNat_lt.mpr hi, hp.ne'⟩, ?_⟩
    refine bind_eq_ok.mpr ⟨_, hln, ?_⟩
    simp only [← hln']
    refine ensure_bind.mpr ⟨by omega, ?_⟩
    refine ensure_bind.mpr ⟨hs, ?_⟩
    split
    · rename_i h
      exact ensure_iff.mpr (hl.mp h)
    · rename_i h
      exact ensure_iff.mpr (by omega)

/-- An envelope that decodes has a valid layout for the payload behind it. -/
lemma decodePrefix_layout {inp : List UInt8} {header : PreviewChunkHeader} {off : Nat}
    (h : decodePrefix inp inp.length = .ok (header, off)) : ChunkLayout header (inp.drop off).length := by
  obtain ⟨⟨⟩, -, h⟩ := bind_eq_ok.mp h
  obtain ⟨⟨⟩, -, h⟩ := bind_eq_ok.mp h
  obtain ⟨⟨⟩, -, h⟩ := bind_eq_ok.mp h
  obtain ⟨offset, -, h⟩ := bind_eq_ok.mp h
  obtain ⟨⟨⟩, -, h⟩ := bind_eq_ok.mp h
  obtain ⟨st, -, h⟩ := bind_eq_ok.mp h
  obtain ⟨format, -, h⟩ := bind_eq_ok.mp h
  obtain ⟨⟨⟩, hl, ⟨⟩⟩ := bind_eq_ok.mp h
  rw [length_drop]
  exact validateChunkLayout_eq_ok.mp hl

/-! ## Stream identities -/

lemma channel_tag_of_tryFrom {v : UInt8} {ch : PreviewFrameChannel}
    (h : PreviewFrameChannel.tryFrom v = .ok ch) : ch.tag = v := by
  unfold PreviewFrameChannel.tryFrom at h
  split_ifs at h with h₁ h₂ h₃ <;> cases h <;> simp_all [PreviewFrameChannel.tag]

variable {idy enc : List UInt8}

lemma decodeStreamIdentity_eq_ok {maximum : Nat} {id : String} :
    decodeStreamIdentity idy maximum = .ok id ↔
      utf8 id = idy ∧ validatePreviewStreamId id maximum = .ok () := by
  constructor
  · intro h
    obtain ⟨decoded, hd, h⟩ := bind_eq_ok.mp h
    obtain ⟨⟨⟩, hv, ⟨⟩⟩ := bind_eq_ok.mp h
    exact ⟨utf8_of_ofUtf8 (okOr_eq_ok.mp hd), frameError_eq_ok.mp hv⟩
  · rintro ⟨rfl, hv⟩
    refine bind_eq_ok.mpr ⟨id, okOr_eq_ok.mpr (ofUtf8_utf8 id), ?_⟩
    exact bind_eq_ok.mpr ⟨(), frameError_eq_ok.mpr hv, rfl⟩

lemma ofFn_bytes16At (head bs rest : List UInt8) (h : bs.length = 16) :
    List.ofFn (bytes16At (head ++ bs ++ rest) head.length) = bs := by
  refine ext_getElem (by rw [length_ofFn, h]) fun i hi hi' => ?_
  rw [List.getElem_ofFn]
  unfold bytes16At
  rw [append_assoc, getD_append_right _ _ _ _ (le_add_right _ _),
    Nat.add_sub_cancel_left, List.getD_append _ _ _ _ hi', List.getD_eq_getElem _ _ hi']

variable {kind ch : UInt8} {st : PreviewStreamId}

/-- **A stream identity reads back**, and is written as it was read. -/
theorem streamId_decode_eq_ok : decode kind ch idy = .ok st ↔ st.wireParts = .ok (kind, ch, idy) := by
  constructor
  · intro h
    unfold decode at h
    split_ifs at h with h₀ h₁ h₂ h₃ h₄
    · obtain ⟨ch', hc, ⟨⟩⟩ := bind_eq_ok.mp h
      obtain ⟨rfl, rfl⟩ := h₀
      rw [← channel_tag_of_tryFrom (frameError_eq_ok.mp hc)]
      rfl
    · obtain ⟨rfl, rfl, hl⟩ := h₁
      cases h
      have hs := ofFn_bytes16At [] (idy.take 16) (idy.drop 16) (by simp [hl])
      have hz := ofFn_bytes16At (idy.take 16) (idy.drop 16) [] (by simp [hl])
      rw [length_take, hl] at hz
      simp only [append_nil, nil_append, take_append_drop] at hs hz
      have hp : ofFn (bytes16At idy 0) ++ ofFn (bytes16At idy 16) = idy :=
        (congrArg₂ _ hs hz).trans (take_append_drop 16 idy)
      exact congrArg (fun parts => Except.ok (1, zonePreviewFrameTag, parts)) hp
    · obtain ⟨id, hi, ⟨⟩⟩ := bind_eq_ok.mp h
      obtain ⟨rfl, hv⟩ := decodeStreamIdentity_eq_ok.mp hi
      obtain ⟨rfl, rfl⟩ := h₂
      exact bind_eq_ok.mpr ⟨(), hv, rfl⟩
    · obtain ⟨rfl, rfl, rfl⟩ := h₃
      cases h
      rfl
    · obtain ⟨id, hi, ⟨⟩⟩ := bind_eq_ok.mp h
      obtain ⟨rfl, hv⟩ := decodeStreamIdentity_eq_ok.mp hi
      obtain ⟨rfl, rfl⟩ := h₄
      exact bind_eq_ok.mpr ⟨(), hv, rfl⟩
  · intro h
    cases st with
    | passive ch =>
      cases h
      exact bind_eq_ok.mpr ⟨ch, frameError_eq_ok.mpr (channel_tryFrom_tag ch), rfl⟩
    | zone sid z =>
      cases h
      have hs := bytes16At_append [] sid (ofFn z)
      have hz := bytes16At_append (ofFn sid) z []
      rw [length_ofFn] at hz
      simp only [nil_append, append_nil, length_nil] at hs hz
      unfold decode
      rw [if_neg fun h => absurd h.1 (by decide), if_pos ⟨rfl, rfl, by simp⟩, hs, hz]
    | interactive previewId | display d =>
      obtain ⟨⟨⟩, hv, ⟨⟩⟩ := bind_eq_ok.mp h
      unfold decode
      exact bind_eq_ok.mpr ⟨_, decodeStreamIdentity_eq_ok.mpr ⟨rfl, hv⟩, rfl⟩
    | screenZones =>
      cases h
      rfl

lemma wireParts_length (h : st.wireParts = .ok (kind, ch, idy)) :
    idy.length = st.identityBytes ∧ idy.length ≤ previewIdMaxBytes := by
  cases st with
  | passive ch | screenZones =>
    cases h
    exact ⟨rfl, zero_le _⟩
  | zone sid z =>
    cases h
    simp [identityBytes, previewIdMaxBytes]
  | interactive previewId | display previewId =>
    obtain ⟨⟨⟩, hv, ⟨⟩⟩ := bind_eq_ok.mp h
    exact ⟨length_utf8 previewId, (validatePreviewStreamId_eq_ok hv).2⟩

/-! ## Envelopes -/

section

variable (c : PreviewChunkHeader) (kind ch : UInt8) (identityLen : Nat)

lemma length_fixedBytes : (c.fixedBytes kind ch identityLen).length = previewChunkFixedHeaderLen := by
  simp [fixedBytes, previewChunkFixedHeaderLen]

/-- The fixed header of a chunk, field by field. -/
def PreviewChunkHeader.fixedFields (chunk : PreviewChunkHeader) (kind channel : UInt8)
    (identityLen : Nat) : List (List UInt8) :=
  [[previewChunkFrameTag, previewChunkSchema, kind, channel, chunk.metadata.format.tag],
    leBytes 2 identityLen, leBytes 8 chunk.metadata.publicationId.toNat,
    leBytes 4 chunk.metadata.frameNumber.toNat, leBytes 4 chunk.metadata.timestampMs.toNat,
    leBytes 4 chunk.metadata.width.toNat, leBytes 4 chunk.metadata.height.toNat,
    leBytes 8 chunk.totalEncodedBytes.toNat, leBytes 8 chunk.chunkOffset.toNat,
    leBytes 4 chunk.chunkIndex.toNat, leBytes 4 chunk.chunkCount.toNat]

lemma flatten_fixedFields : (c.fixedFields kind ch identityLen).flatten =
      c.fixedBytes kind ch identityLen := by
  simp [fixedFields, fixedBytes]

end

lemma chunk_tryEncode_eq_ok {c : PreviewChunkFrame} : c.tryEncode = .ok enc ↔ ∃ kind ch idy,
      c.metadata.stream.wireParts = .ok (kind, ch, idy) ∧
      ChunkLayout c.toPreviewChunkHeader c.payload.length ∧
      previewChunkFixedHeaderLen + idy.length + c.payload.length ≤ Platform.usizeMax ∧
      enc = c.fixedBytes kind ch idy.length ++ idy ++ c.payload := by
  constructor
  · intro h
    obtain ⟨⟨kind, ch, idy⟩, hp, h⟩ := bind_eq_ok.mp h
    obtain ⟨⟨⟩, -, h⟩ := bind_eq_ok.mp h
    obtain ⟨⟨⟩, hl, h⟩ := bind_eq_ok.mp h
    obtain ⟨hf, h⟩ := checked_bind.mp h
    exact ⟨kind, ch, idy, frameError_eq_ok.mp hp, validateChunkLayout_eq_ok.mp hl, hf,
      (Except.ok.inj h).symm⟩
  · rintro ⟨kind, ch, idy, hp, hl, hf, rfl⟩
    refine bind_eq_ok.mpr ⟨_, frameError_eq_ok.mpr hp, ?_⟩
    have hs : idy.length < 2 ^ 16 := (wireParts_length hp).2.trans_lt (by decide)
    refine ensure_bind.mpr ⟨hs, ?_⟩
    refine bind_eq_ok.mpr ⟨(), validateChunkLayout_eq_ok.mpr hl, ?_⟩
    exact checked_bind.mpr ⟨hf, rfl⟩

lemma ofNat_ofLe_eight (x : UInt64) : UInt64.ofNat (ofLe (leBytes 8 x.toNat)) = x := by
  rw [ofLe_leBytes_of_lt x.toNat_lt, UInt64.ofNat_toNat]

/-- **The envelope of a chunk reads back**, with the payload behind it. -/
theorem decodePrefix_fixedBytes {p : List UInt8} (hp : c.metadata.stream.wireParts = .ok (kind, ch, idy))
    (hla : ChunkLayout c p.length)
    (hf : previewChunkFixedHeaderLen + idy.length ≤ Platform.usizeMax) :
    let input := c.fixedBytes kind ch idy.length ++ idy ++ p
    decodePrefix input input.length =
      .ok (c, previewChunkFixedHeaderLen + idy.length) := by
  intro input
  have hl : input.length = previewChunkFixedHeaderLen + idy.length + p.length := by
    rw [length_append, length_append, length_fixedBytes]
  have hfd (i start stop : Nat) (f : List UInt8) (hi : (c.fixedFields kind ch idy.length)[i]? = some f)
      (hst : (((c.fixedFields kind ch idy.length).take i).map length).sum = start)
      (hs : start + f.length = stop) : slice input start stop = f := by
    have hin : input = (c.fixedFields kind ch idy.length).flatten ++ (idy ++ p) := by
      rw [flatten_fixedFields, ← append_assoc]
    rw [hin]
    exact slice_flatten i _ hi hst hs
  have hid : ofLe (slice input 5 7) = idy.length := by
    rw [hfd 1 5 7 _ rfl rfl rfl]
    refine ofLe_leBytes_of_lt ?_
    exact (wireParts_length hp).2.trans_lt (by decide)
  have hsl : slice input previewChunkFixedHeaderLen (previewChunkFixedHeaderLen + idy.length) = idy :=
    slice_append p (length_fixedBytes _ _ _ _) rfl
  refine ensure_bind.mpr ⟨?_, ?_⟩
  · omega
  refine bind_eq_ok.mpr ⟨(), rfl, bind_eq_ok.mpr ⟨(), rfl, ?_⟩⟩
  simp only [hid]
  refine checked_bind.mpr ⟨hf, ?_⟩
  refine ensure_bind.mpr ⟨?_, ?_⟩
  · omega
  rw [hsl]
  refine bind_eq_ok.mpr ⟨_, streamId_decode_eq_ok.mpr hp, ?_⟩
  refine bind_eq_ok.mpr ⟨_, frameError_eq_ok.mpr (format_tryFrom_tag c.metadata.format), ?_⟩
  have hh : PreviewChunkHeader.mk {
        stream := c.metadata.stream
        publicationId := u64At input 7 15
        frameNumber := u32At input 15 19
        timestampMs := u32At input 19 23
        width := u32At input 23 27
        height := u32At input 27 31
        format := c.metadata.format }
      (u64At input 31 39) (u64At input 39 47) (u32At input 47 51) (u32At input 51 55) = c := by
    unfold u64At u32At
    rw [hfd 2 7 15 _ rfl rfl rfl, hfd 3 15 19 _ rfl rfl rfl, hfd 4 19 23 _ rfl rfl rfl,
      hfd 5 23 27 _ rfl rfl rfl, hfd 6 27 31 _ rfl rfl rfl, hfd 7 31 39 _ rfl rfl rfl,
      hfd 8 39 47 _ rfl rfl rfl, hfd 9 47 51 _ rfl rfl rfl, hfd 10 51 55 _ rfl rfl rfl]
    simp only [ofNat_ofLe_four, ofNat_ofLe_eight]
  rw [hh]
  refine bind_eq_ok.mpr ⟨(), validateChunkLayout_eq_ok.mpr ?_, rfl⟩
  rw [hl, Nat.add_sub_cancel_left]
  exact hla

lemma PreviewChunkFrame.decode_encode {c : PreviewChunkFrame}
    (h : c.tryEncode = .ok enc) : decodeBytes enc = .ok c := by
  obtain ⟨kind, ch, idy, hp, hl, hf, rfl⟩ := chunk_tryEncode_eq_ok.mp h
  refine bind_eq_ok.mpr ⟨_, decodePrefix_fixedBytes hp hl (by omega), ?_⟩
  have hd : (c.fixedBytes kind ch idy.length ++ idy ++ c.payload).drop
      (previewChunkFixedHeaderLen + idy.length) = c.payload := by
    refine drop_left' ?_
    rw [length_append, length_fixedBytes]
  exact congrArg (fun p => Except.ok { c with payload := p }) hd

end Hypercolor.Preview
