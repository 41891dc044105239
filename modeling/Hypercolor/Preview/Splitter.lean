import Hypercolor.Preview.ChunkCodec

/-!
# What the splitter sends

**A split publication is its slices at multiples of one capacity**, each in an envelope that reads
back to its place in the publication (`splitInto_of_ok`).
-/

set_option linter.unusedSectionVars false

namespace Hypercolor.Preview

open Lib List

variable [Platform]

/-- A message reads as this envelope around this payload. -/
structure Carries (message : List UInt8) (header : PreviewChunkHeader) (payload : List UInt8) :
    Prop where
  layout : ChunkLayout header payload.length
  decodes : ∃ payloadOffset,
    PreviewChunkHeader.decodePrefix message message.length = .ok (header, payloadOffset) ∧
      message.drop payloadOffset = payload

/-- The envelope says where in the publication its payload belongs. -/
structure Placed (header : PreviewChunkHeader) (metadata : PreviewPublicationMetadata)
    (total count capacity index : Nat) : Prop where
  metadata_eq : header.metadata = metadata
  total_eq : header.totalEncodedBytes.toNat = total
  count_eq : header.chunkCount.toNat = count
  offset_eq : header.chunkOffset.toNat = index * capacity
  index_eq : header.chunkIndex.toNat = index

/-- The messages are the publication's slices of `capacity` bytes, in order. -/
structure SplitInto (encoded : List UInt8) (metadata : PreviewPublicationMetadata) (capacity : Nat)
    (chunks : List (List UInt8)) : Prop where
  nonempty : encoded ≠ []
  capacity_pos : 0 < capacity
  covers : encoded.length ≤ chunks.length * capacity
  before_last : (chunks.length - 1) * capacity < encoded.length
  chunk : ∀ i message, chunks[i]? = some message → ∃ header,
    Carries message header ((encoded.drop (i * capacity)).take capacity) ∧
      Placed header metadata encoded.length chunks.length capacity i

lemma tryU32_eq_ok {n : Nat} {m : UInt32} : tryU32 n = .ok m ↔ n = m.toNat := by
  unfold tryU32
  split_ifs with h
  · rw [Except.ok.injEq]
    constructor
    · rintro rfl
      exact (UInt32.toNat_ofNat_of_lt' h).symm
    · rintro rfl
      exact UInt32.ofNat_toNat
  · refine ⟨nofun, ?_⟩
    rintro rfl
    exact absurd m.toNat_lt h

variable {msg : List UInt8}

/-- An encoded chunk reads back. -/
lemma carries_of_tryEncode {c : PreviewChunkFrame} (h : c.tryEncode = .ok msg) :
    Carries msg c.toPreviewChunkHeader c.payload := by
  obtain ⟨kind, channel, ident, hp, hl, hf, rfl⟩ := chunk_tryEncode_eq_ok.mp h
  refine ⟨hl, _, decodePrefix_fixedBytes hp hl (by omega), ?_⟩
  refine drop_left' ?_
  rw [length_append, length_fixedBytes]

variable {enc : List UInt8} {md : PreviewPublicationMetadata} {cap : Nat}

lemma chunkAt_eq_ok {i : Nat} {chunkCount : UInt32} {total : UInt64}
    (h : chunkAt enc md cap chunkCount total i = .ok msg) :
    ∃ header, Carries msg header ((enc.drop (i * cap)).take cap) ∧
      Placed header md total.toNat chunkCount.toNat cap i := by
  obtain ⟨-, h⟩ := checked_bind.mp h
  obtain ⟨chunkOffset, hc, h⟩ := bind_eq_ok.mp h
  obtain ⟨chunkIndex, hci, h⟩ := bind_eq_ok.mp h
  refine ⟨_, carries_of_tryEncode h, rfl, rfl, rfl, ?_, ?_⟩
  · exact (tryU64_eq_ok.mp hc).symm
  · exact (tryU32_eq_ok.mp hci).symm

/-- The number of slices is the length divided by the capacity, rounded up. -/
lemma ceil_div {len : Nat} (hl : 0 < len) (hc : 0 < cap) : len ≤ (len + cap - 1) / cap * cap ∧
      ((len + cap - 1) / cap - 1) * cap < len := by
  have hm := Nat.mod_lt (len + cap - 1) hc
  have hd := Nat.div_add_mod' (len + cap - 1) cap
  have hs : ((len + cap - 1) / cap - 1) * cap = (len + cap - 1) / cap * cap - cap := by
    rw [Nat.sub_mul, Nat.one_mul]
  constructor
  · omega
  · omega

/-- **What a successful split sends.** -/
theorem splitInto_of_ok {maxMessageBytes : Nat} {limits : PreviewLimits} {chunks : List (List UInt8)}
    (h : splitPreviewPublicationWithLimits enc md maxMessageBytes limits = .ok chunks) :
    ∃ cap, SplitInto enc md cap chunks := by
  obtain ⟨⟨⟩, -, h⟩ := bind_eq_ok.mp h
  obtain ⟨⟨⟩, -, h⟩ := bind_eq_ok.mp h
  obtain ⟨⟨kind, channel, ident⟩, -, h⟩ := bind_eq_ok.mp h
  obtain ⟨envelopeBytes, -, h⟩ := bind_eq_ok.mp h
  obtain ⟨hr, h⟩ := ensure_bind.mp h
  obtain ⟨hn, h⟩ := ensure_bind.mp h
  obtain ⟨chunkCount, hcn, h⟩ := bind_eq_ok.mp h
  obtain ⟨⟨⟩, -, h⟩ := bind_eq_ok.mp h
  obtain ⟨total, ht, h⟩ := bind_eq_ok.mp h
  obtain ⟨-, -, h⟩ := bind_eq_ok.mp h
  have hca : 0 < maxMessageBytes - envelopeBytes := by omega
  obtain ⟨hco, hla⟩ := ceil_div (length_pos_of_ne_nil hn) hca
  have hc := mapM_eq_ok.mp h
  have hl : chunks.length =
      (enc.length + (maxMessageBytes - envelopeBytes) - 1) / (maxMessageBytes - envelopeBytes) := by
    have hm := congrArg length hc
    rw [length_map, length_map, length_range] at hm
    exact hm.symm
  refine ⟨maxMessageBytes - envelopeBytes, hn, hca, ?_, ?_, ?_⟩
  · rwa [hl]
  · rwa [hl]
  · intro i msg hi
    have hg := congrArg (fun l => l[i]?) hc
    simp only [getElem?_map, hi, Option.map_some] at hg
    obtain ⟨ix, hid, hch⟩ := Option.map_eq_some_iff.mp hg
    have hii : ix = i := by
      obtain ⟨hlt, he⟩ := List.getElem?_eq_some_iff.mp hid
      rw [← he, getElem_range]
    rw [hii] at hch
    obtain ⟨header, hcr, hp⟩ := chunkAt_eq_ok hch
    refine ⟨header, hcr, ?_⟩
    rwa [← tryU64_eq_ok.mp ht, ← tryU32_eq_ok.mp hcn, ← hl] at hp

end Hypercolor.Preview
