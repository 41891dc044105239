import Hypercolor.Preview.ChunkCodec

/-!
# The wire types and their codecs

Seven types travel on the preview socket: the five frame kinds, chunks and cancellations. With
`WireType` they are one family, and **`wire_codecs`** says of it:

* a value that encodes is what its encoding decodes to;
* a value that was decoded encodes again, and that encoding decodes to it as well;
* no bytes are decoded as two types.

An accepted input need not be the encoding of its value: the decoders take a wide header for
dimensions that fit the compact one. So the second part goes through the values: what a decoder lets
through is what the encoder asks for, in a header that is no longer than the one that was read.
-/

set_option linter.unusedSectionVars false

namespace Hypercolor.Preview

open Lib List Nat PreviewChunkFrame

variable [Platform]

/-! ## Cancellations -/

variable {cancel : PreviewCancelFrame} {inp enc p : List UInt8}

namespace PreviewCancelFrame

/-- The fixed part of a cancellation. -/
def fixedBytes (cancel : PreviewCancelFrame) (kind channel : UInt8) (identityLen : Nat) : List UInt8 :=
  [previewCancelFrameTag, previewCancelSchema, kind, channel] ++ leBytes 2 identityLen ++
    leBytes 8 cancel.publicationId.toNat

lemma length_fixedBytes (cancel : PreviewCancelFrame) (kind ch : UInt8) (identityLen : Nat) :
    (cancel.fixedBytes kind ch identityLen).length = previewCancelFixedHeaderLen := by
  simp [fixedBytes, previewCancelFixedHeaderLen]

lemma tryEncode_eq_ok : cancel.tryEncode = .ok enc ↔ ∃ kind channel identity,
      cancel.stream.wireParts = .ok (kind, channel, identity) ∧
      previewCancelFixedHeaderLen + identity.length ≤ Platform.usizeMax ∧
      enc = cancel.fixedBytes kind channel identity.length ++ identity := by
  constructor
  · intro h
    obtain ⟨⟨kind, channel, identity⟩, hp, h⟩ := bind_eq_ok.mp h
    obtain ⟨⟨⟩, -, h⟩ := bind_eq_ok.mp h
    obtain ⟨hf, h⟩ := checked_bind.mp h
    exact ⟨kind, channel, identity, frameError_eq_ok.mp hp,
      hf, (Except.ok.inj h).symm⟩
  · rintro ⟨kind, channel, identity, hp, hf, rfl⟩
    refine bind_eq_ok.mpr ⟨_, frameError_eq_ok.mpr hp, ?_⟩
    have hs : identity.length < 2 ^ 16 := (wireParts_length hp).2.trans_lt (by decide)
    refine ensure_bind.mpr ⟨hs, ?_⟩
    exact checked_bind.mpr ⟨hf, rfl⟩

lemma decode_encode (h : cancel.tryEncode = .ok enc) : decodeBytes enc = .ok cancel := by
  obtain ⟨kind, channel, ident, hp, hf, rfl⟩ := tryEncode_eq_ok.mp h
  have hl : (cancel.fixedBytes kind channel ident.length ++ ident).length =
      previewCancelFixedHeaderLen + ident.length := by
    rw [length_append, length_fixedBytes]
  have hi : ofLe (slice (cancel.fixedBytes kind channel ident.length ++ ident) 4 6) = ident.length := by
    have hfd : slice (cancel.fixedBytes kind channel ident.length ++ ident) 4 6 =
        leBytes 2 ident.length := rfl
    rw [hfd]
    exact ofLe_leBytes_of_lt ((wireParts_length hp).2.trans_lt (by decide))
  refine ensure_bind.mpr ⟨?_, ?_⟩
  · rw [hl]
    exact le_add_right _ _
  refine bind_eq_ok.mpr ⟨(), rfl, bind_eq_ok.mpr ⟨(), rfl, ?_⟩⟩
  rw [hi, hl]
  refine checked_bind.mpr ⟨hf, ?_⟩
  refine ensure_bind.mpr ⟨rfl, ?_⟩
  refine bind_eq_ok.mpr ⟨_, streamId_decode_eq_ok.mpr hp, ?_⟩
  have hpu : u64At (cancel.fixedBytes kind channel ident.length ++ ident) 6 14 =
      cancel.publicationId := ofNat_ofLe_eight cancel.publicationId
  rw [hpu]
  rfl

/-- A cancellation is accepted only as it would be written. -/
lemma encode_decode (h : decodeBytes inp = .ok cancel) : ∃ enc, cancel.tryEncode = .ok enc := by
  obtain ⟨-, h⟩ := ensure_bind.mp h
  obtain ⟨-, h⟩ := ensure_bind.mp h
  obtain ⟨-, h⟩ := ensure_bind.mp h
  obtain ⟨hf, h⟩ := checked_bind.mp h
  obtain ⟨hl, h⟩ := ensure_bind.mp h
  obtain ⟨st, hs, ⟨⟩⟩ := bind_eq_ok.mp h
  refine ⟨_, tryEncode_eq_ok.mpr ⟨_, _, _, streamId_decode_eq_ok.mp hs, ?_, rfl⟩⟩
  rw [length_drop]
  omega

end PreviewCancelFrame

variable {c : PreviewChunkFrame}

/-- A chunk that was decoded encodes again: its parts are those of the message. -/
lemma PreviewChunkFrame.encode_decode (hi : inp.length ≤ Platform.usizeMax)
    (h : decodeBytes inp = .ok c) : ∃ enc, c.tryEncode = .ok enc := by
  obtain ⟨⟨header, payloadOffset⟩, hp, ⟨⟩⟩ := bind_eq_ok.mp h
  have hl := decodePrefix_layout hp
  obtain ⟨⟨⟩, -, h⟩ := bind_eq_ok.mp hp
  obtain ⟨⟨⟩, -, h⟩ := bind_eq_ok.mp h
  obtain ⟨⟨⟩, -, h⟩ := bind_eq_ok.mp h
  obtain ⟨-, h⟩ := checked_bind.mp h
  obtain ⟨⟨hw, -⟩, h⟩ := ensure_bind.mp h
  obtain ⟨st, hs, h⟩ := bind_eq_ok.mp h
  obtain ⟨format, -, h⟩ := bind_eq_ok.mp h
  obtain ⟨⟨⟩, -, ⟨⟩⟩ := bind_eq_ok.mp h
  refine ⟨_, chunk_tryEncode_eq_ok.mpr ⟨_, _, _, streamId_decode_eq_ok.mp hs, hl, ?_, rfl⟩⟩
  rw [length_slice hw, length_drop]
  omega

/-! ## Frames that were decoded encode again -/

lemma u32At_lt (inp : List UInt8) (w : Nat) {st stop : Nat} (h : stop ≤ st + w) :
    (u32At inp st stop).toNat < 256 ^ w := by
  have hl : (slice inp st stop).length ≤ w := by
    rw [slice, length_take]
    omega
  calc (u32At inp st stop).toNat ≤ ofLe (slice inp st stop) := by
        exact mod_le _ _
    _ < 256 ^ (slice inp st stop).length := ofLe_lt _
    _ ≤ 256 ^ w := Nat.pow_le_pow_right (by decide) hl

/-- Dimensions read from 16-bit fields are compact. -/
lemma compactDimensions_u32At (inp : List UInt8) (st : Nat) :
    compactDimensions (u32At inp st (st + 2)) (u32At inp (st + 2) (st + 2 * 2)) :=
  decide_eq_true ⟨le_of_lt_succ (u32At_lt inp 2 (by omega)), le_of_lt_succ (u32At_lt inp 2 (by omega))⟩

lemma FrameHeader.payload_eq_ok {I : Type} {header : FrameHeader I} (h : header.payload inp = .ok p) :
    validatePayload header.width header.height header.format p = .ok () ∧
      header.payloadOffset + p.length ≤ Platform.usizeMax := by
  obtain ⟨stop, hs, h⟩ := bind_eq_ok.mp h
  obtain ⟨⟨⟩, hv, ⟨⟩⟩ := bind_eq_ok.mp h
  refine ⟨hv, ?_⟩
  obtain ⟨len, -, h⟩ := bind_eq_ok.mp hs
  obtain ⟨hf, h⟩ := checked_bind.mp h
  obtain ⟨hw, h⟩ := ensure_bind.mp h
  obtain ⟨⟨⟩, -, ⟨⟩⟩ := bind_eq_ok.mp h
  rw [length_slice hw, Nat.add_sub_cancel_left]
  exact hf

variable {f : PreviewFrame}

namespace PreviewFrame

lemma headerLen_le {header : FrameHeader PreviewFrameChannel} (h : decodeHeader inp = .ok header) :
    (if compactDimensions header.width header.height then previewFrameHeaderLen
      else widePreviewFrameHeaderLen) ≤ header.payloadOffset := by
  unfold decodeHeader at h
  generalize decide (inp.head? = some widePreviewFrameTag) = wide at h
  obtain ⟨⟨⟩, -, h⟩ := bind_eq_ok.mp h
  obtain ⟨ch, -, h⟩ := bind_eq_ok.mp h
  obtain ⟨format, -, ⟨⟩⟩ := bind_eq_ok.mp h
  cases wide with
  | true =>
    show (if compactDimensions _ _ then _ else _) ≤ widePreviewFrameHeaderLen
    split_ifs <;> decide
  | false => exact (if_pos (compactDimensions_u32At inp 9)).le

lemma encode_decode (h : decode inp = .ok f) : ∃ enc, f.tryEncode = .ok enc := by
  obtain ⟨header, hh, h⟩ := bind_eq_ok.mp h
  obtain ⟨p, hp, ⟨⟩⟩ := bind_eq_ok.mp h
  obtain ⟨hv, hf⟩ := FrameHeader.payload_eq_ok hp
  have hl := headerLen_le hh
  refine ⟨_, bind_eq_ok.mpr ⟨(), hv, checked_bind.mpr ⟨?_, rfl⟩⟩⟩
  exact (Nat.add_le_add_right hl _).trans hf

end PreviewFrame

namespace ZonePreviewFrame

lemma headerLen_le {header : FrameHeader (Bytes16 × Bytes16)} (h : decodeHeader inp = .ok header) :
    (if compactDimensions header.width header.height then zonePreviewFrameHeaderLen
      else wideZonePreviewFrameHeaderLen) ≤ header.payloadOffset := by
  unfold decodeHeader at h
  generalize decide (inp.head? = some wideZonePreviewFrameTag) = wide at h
  obtain ⟨⟨⟩, -, h⟩ := bind_eq_ok.mp h
  obtain ⟨⟨⟩, -, h⟩ := bind_eq_ok.mp h
  obtain ⟨format, -, ⟨⟩⟩ := bind_eq_ok.mp h
  cases wide with
  | true =>
    show (if compactDimensions _ _ then _ else _) ≤ wideZonePreviewFrameHeaderLen
    split_ifs <;> decide
  | false => exact (if_pos (compactDimensions_u32At inp 41)).le

lemma encode_decode {f : ZonePreviewFrame} (h : decode inp = .ok f) : ∃ enc, f.tryEncode = .ok enc := by
  obtain ⟨header, hh, h⟩ := bind_eq_ok.mp h
  obtain ⟨p, hp, ⟨⟩⟩ := bind_eq_ok.mp h
  obtain ⟨hv, hf⟩ := FrameHeader.payload_eq_ok hp
  have hl := headerLen_le hh
  refine ⟨_, bind_eq_ok.mpr ⟨(), hv, checked_bind.mpr ⟨?_, rfl⟩⟩⟩
  exact (Nat.add_le_add_right hl _).trans hf

end ZonePreviewFrame

variable {header : FrameHeader String}

namespace IdentityFrameLayout

variable {l : IdentityFrameLayout}

/-- What a decoded header says about the identity and its length. -/
lemma decodeHeader_eq_ok (hr : l.Regular) (h : l.decodeHeader inp = .ok header) :
    validatePreviewStreamId header.identity l.maxIdentityBytes = .ok () ∧
      l.lenFor header.width header.height + header.identity.utf8ByteSize ≤ header.payloadOffset := by
  unfold decodeHeader at h
  generalize decide (inp.head? = some l.wideTag) = wide at h
  obtain ⟨⟨⟩, -, h⟩ := bind_eq_ok.mp h
  obtain ⟨⟨⟩, -, h⟩ := bind_eq_ok.mp h
  obtain ⟨⟨⟩, -, h⟩ := bind_eq_ok.mp h
  obtain ⟨⟨⟩, -, h⟩ := bind_eq_ok.mp h
  obtain ⟨offset, hof, h⟩ := bind_eq_ok.mp h
  obtain ⟨hw, h⟩ := ensure_bind.mp h
  obtain ⟨ident, hi, h⟩ := bind_eq_ok.mp h
  obtain ⟨⟨⟩, hv, h⟩ := bind_eq_ok.mp h
  obtain ⟨format, -, ⟨⟩⟩ := bind_eq_ok.mp h
  refine ⟨hv, ?_⟩
  obtain ⟨hof, -⟩ := checked_eq_some.mp (okOr_eq_ok.mp hof)
  have hs : ident.utf8ByteSize = offset - (if wide then l.widePrefixLen else l.prefixLen) := by
    rw [← length_utf8, utf8_of_ofUtf8 (okOr_eq_ok.mp hi)]
    exact length_slice hw
  have hp : l.lenFor (u32At inp 10 (10 + if wide then 4 else 2))
      (u32At inp (10 + if wide then 4 else 2) (10 + 2 * if wide then 4 else 2)) ≤
        if wide then l.widePrefixLen else l.prefixLen := by
    cases wide with
    | true =>
      show (if compactDimensions _ _ then _ else _) ≤ l.widePrefixLen
      rw [hr.compact, hr.wide]
      split_ifs <;> decide
    | false => exact (if_pos (compactDimensions_u32At inp 10)).le
  dsimp only
  omega

lemma encode_decode (hr : l.Regular) (hh : l.decodeHeader inp = .ok header)
    (hp : header.payload inp = .ok p) :
    ∃ enc, l.encode header.identity header.frameNumber header.timestampMs header.width
      header.height header.format p = .ok enc := by
  obtain ⟨hi, hl⟩ := decodeHeader_eq_ok hr hh
  obtain ⟨hv, hf⟩ := FrameHeader.payload_eq_ok hp
  have hs : header.identity.utf8ByteSize < 256 :=
      (validatePreviewStreamId_eq_ok hi).2.trans_lt hr.identity
  refine ⟨_, bind_eq_ok.mpr ⟨(), hi, bind_eq_ok.mpr
    ⟨(), ensure_iff.mpr hs, bind_eq_ok.mpr ⟨(), hv, bind_eq_ok.mpr
      ⟨_, okOr_eq_ok.mpr (checked_of_le ?_), rfl⟩⟩⟩⟩⟩
  exact (Nat.add_le_add_right hl _).trans hf

end IdentityFrameLayout

lemma InteractivePreviewFrame.encode_decode {f : InteractivePreviewFrame}
    (h : decode inp = .ok f) : ∃ enc, f.encode = .ok enc := by
  obtain ⟨header, hh, h⟩ := bind_eq_ok.mp h
  obtain ⟨p, hp, ⟨⟩⟩ := bind_eq_ok.mp h
  exact IdentityFrameLayout.encode_decode interactivePreviewLayout_regular hh hp

lemma DisplayPreviewFrame.encode_decode {f : DisplayPreviewFrame}
    (h : decode inp = .ok f) : ∃ enc, f.encode = .ok enc := by
  obtain ⟨header, hh, h⟩ := bind_eq_ok.mp h
  obtain ⟨p, hp, ⟨⟩⟩ := bind_eq_ok.mp h
  exact IdentityFrameLayout.encode_decode displayPreviewLayout_regular hh hp

namespace ScreenZonesFrameOf

lemma headerLen_le_of_grid {P : Type} {f : ScreenZonesFrameOf P}
    (h : f.usesCompactGridLayout) : f.headerLen ≤ wideScreenZonesFrameHeaderLen := by
  unfold headerLen
  split_ifs <;> decide

/-- The layout that is chosen for decoded fields is no longer than the one they were read from. -/
lemma headerLen_le_payload {header : ScreenZonesFrameHeader}
    (h : decodeHeader inp = .ok header) : header.headerLen ≤ header.payload := by
  obtain ⟨headerLen, hl, h⟩ := bind_eq_ok.mp h
  obtain ⟨⟨⟩, -, h⟩ := bind_eq_ok.mp h
  have hl := okOr_eq_ok.mp hl
  generalize inp.head?.getD 0 = tag at h hl
  have hg (hce : (if tag = extendedScreenZonesFrameTag then 4 else 1) = 1) :
      header.usesCompactGridLayout := by
    rw [hce] at h
    cases h
    -- Each of the six fields is one byte long.
    refine decide_eq_true ⟨le_of_lt_succ (u32At_lt inp 1 ?_),
      le_of_lt_succ (u32At_lt inp 1 ?_), fun bar => le_of_lt_succ (u32At_lt inp 1 ?_)⟩
    all_goals omega
  unfold headerLenOf at hl
  split_ifs at hl with hco hw he
  · have hs : header.usesCompactLayout := by
      have hc := hg (by rw [hco]; rfl)
      rw [if_pos hco] at h
      cases h
      exact decide_eq_true ⟨compactDimensions_u32At inp 9, hc⟩
    cases h
    cases hl
    exact (if_pos hs).le
  · have hc := hg (by rw [hw]; rfl)
    cases h
    cases hl
    exact headerLen_le_of_grid hc
  · cases h
    cases hl
    exact headerLen_le _

lemma encode_decode {f : ScreenZonesFrame} (h : decode inp = .ok f) : ∃ enc, f.tryEncode = .ok enc := by
  obtain ⟨header, hh, h⟩ := bind_eq_ok.mp h
  obtain ⟨stop, hst, ⟨⟩⟩ := bind_eq_ok.mp h
  obtain ⟨len, hp, h⟩ := bind_eq_ok.mp hst
  obtain ⟨hf, h⟩ := checked_bind.mp h
  obtain ⟨hl, ⟨⟩⟩ := ensure_bind.mp h
  have hs : (slice inp header.payload (header.payload + len)).length = len := by
    rw [length_slice hl.ge, Nat.add_sub_cancel_left]
  refine ⟨_, bind_eq_ok.mpr ⟨len, hp, bind_eq_ok.mpr
    ⟨(), ensure_iff.mpr hs, checked_bind.mpr ⟨?_, rfl⟩⟩⟩⟩
  have hle := headerLen_le_payload hh
  refine le_trans ?_ hf
  rw [hs]
  exact Nat.add_le_add_right hle _

end ScreenZonesFrameOf

/-! ## Tags -/

lemma head?_eq_getD {len : Nat} (hp : 0 < len) (h : len ≤ inp.length) :
    inp.head? = some (inp.getD 0 0) := by
  cases inp with
  | nil => exact absurd h (not_le.mpr hp)
  | cons byte rest => rfl

lemma PreviewFrame.head?_of_decode (h : decode inp = .ok f) :
    ∃ tag ∈ [0x03, 0x05, 0x06, widePreviewFrameTag], inp.head? = some tag := by
  unfold decode decodeHeader at h
  obtain ⟨header, hh, -⟩ := bind_eq_ok.mp h
  by_cases hw : inp.head? = some widePreviewFrameTag
  · exact ⟨_, by decide, hw⟩
  · rw [decide_eq_false hw] at hh
    obtain ⟨hl, hh⟩ := ensure_bind.mp hh
    obtain ⟨ch, hc, -⟩ := bind_eq_ok.mp hh
    refine ⟨_, ?_, head?_eq_getD (by decide) hl⟩
    have ht : ch.tag = inp.getD 0 0 := channel_tag_of_tryFrom hc
    rw [← ht]
    cases ch <;> decide

lemma ZonePreviewFrame.head?_of_decode {f : ZonePreviewFrame} (h : decode inp = .ok f) :
    ∃ tag ∈ [zonePreviewFrameTag, wideZonePreviewFrameTag], inp.head? = some tag := by
  unfold decode decodeHeader at h
  obtain ⟨header, hh, -⟩ := bind_eq_ok.mp h
  by_cases hw : inp.head? = some wideZonePreviewFrameTag
  · exact ⟨_, by decide, hw⟩
  · rw [decide_eq_false hw] at hh
    obtain ⟨hl, hh⟩ := ensure_bind.mp hh
    obtain ⟨ht, -⟩ := ensure_bind.mp hh
    have ht : inp.getD 0 0 = zonePreviewFrameTag := by simpa using ht
    exact ⟨_, mem_cons_self, (head?_eq_getD (by decide) hl).trans (congrArg some ht)⟩

lemma IdentityFrameLayout.head?_of_decodeHeader {l : IdentityFrameLayout}
    (hr : l.Regular) (h : l.decodeHeader inp = .ok header) :
    ∃ tag ∈ [l.tag, l.wideTag], inp.head? = some tag := by
  unfold decodeHeader at h
  by_cases hw : inp.head? = some l.wideTag
  · exact ⟨_, by simp, hw⟩
  · rw [decide_eq_false hw] at h
    obtain ⟨hl, h⟩ := ensure_bind.mp h
    obtain ⟨ht, -⟩ := ensure_bind.mp h
    have hl : l.prefixLen ≤ inp.length := hl
    have ht : inp.getD 0 0 = l.tag := by simpa using ht
    rw [hr.compact] at hl
    exact ⟨_, mem_cons_self, (head?_eq_getD (by decide) hl).trans (congrArg some ht)⟩

lemma ScreenZonesFrameOf.head?_of_decode {f : ScreenZonesFrame} (h : decode inp = .ok f) :
    ∃ tag ∈ [screenZonesFrameTag, wideScreenZonesFrameTag, extendedScreenZonesFrameTag],
      inp.head? = some tag := by
  obtain ⟨header, hh, -⟩ := bind_eq_ok.mp h
  obtain ⟨headerLen, hl, -⟩ := bind_eq_ok.mp hh
  cases inp with
  | nil => cases hl
  | cons byte rest =>
    have hl : headerLenOf byte = some headerLen := okOr_eq_ok.mp hl
    unfold headerLenOf at hl
    split_ifs at hl with h₁ h₂ h₃
    · simp [h₁]
    · simp [h₂]
    · simp [h₃]

lemma PreviewChunkFrame.head?_of_decode (h : decodeBytes inp = .ok c) :
    inp.head? = some previewChunkFrameTag := by
  obtain ⟨_, h, -⟩ := bind_eq_ok.mp h
  obtain ⟨hl, h⟩ := ensure_bind.mp h
  obtain ⟨ht, -⟩ := ensure_bind.mp h
  have hl := hl.1
  rw [head?_eq_getD (by decide) hl, ht]

lemma PreviewCancelFrame.head?_of_decode (h : decodeBytes inp = .ok cancel) :
    inp.head? = some previewCancelFrameTag := by
  obtain ⟨hl, h⟩ := ensure_bind.mp h
  obtain ⟨ht, -⟩ := ensure_bind.mp h
  rw [head?_eq_getD (by decide) hl, ht]

/-! ## The family -/

/-- The types of the preview wire. -/
inductive WireType where
  | display
  | preview
  | zonePreview
  | interactive
  | screenZones
  | chunk
  | cancel

namespace WireType

def Value : WireType → Type
  | .display => DisplayPreviewFrame
  | .preview => PreviewFrame
  | .zonePreview => ZonePreviewFrame
  | .interactive => InteractivePreviewFrame
  | .screenZones => ScreenZonesFrame
  | .chunk => PreviewChunkFrame
  | .cancel => PreviewCancelFrame

/-- The encoding of a value, if it has one. -/
def encode : (type : WireType) → type.Value → Option (List UInt8)
  | .display, frame => (DisplayPreviewFrame.encode frame).toOption
  | .preview, frame => (PreviewFrame.tryEncode frame).toOption
  | .zonePreview, frame => (ZonePreviewFrame.tryEncode frame).toOption
  | .interactive, frame => (InteractivePreviewFrame.encode frame).toOption
  | .screenZones, frame => (ScreenZonesFrameOf.tryEncode frame).toOption
  | .chunk, frame => (tryEncode frame).toOption
  | .cancel, frame => (PreviewCancelFrame.tryEncode frame).toOption

/-- The value some bytes are accepted as, if they are. -/
def decode : (type : WireType) → List UInt8 → Option type.Value
  | .display, input => (DisplayPreviewFrame.decode input).toOption
  | .preview, input => (PreviewFrame.decode input).toOption
  | .zonePreview, input => (ZonePreviewFrame.decode input).toOption
  | .interactive, input => (InteractivePreviewFrame.decode input).toOption
  | .screenZones, input => (ScreenZonesFrameOf.decode input).toOption
  | .chunk, input => (decodeBytes input).toOption
  | .cancel, input => (PreviewCancelFrame.decodeBytes input).toOption

/-- The bytes a message of the type starts with. -/
def tags : WireType → List UInt8
  | .display => [displayPreviewFrameTag, wideDisplayPreviewFrameTag]
  | .preview => [0x03, 0x05, 0x06, widePreviewFrameTag]
  | .zonePreview => [zonePreviewFrameTag, wideZonePreviewFrameTag]
  | .interactive => [interactivePreviewFrameTag, wideInteractivePreviewFrameTag]
  | .screenZones => [screenZonesFrameTag, wideScreenZonesFrameTag, extendedScreenZonesFrameTag]
  | .chunk => [previewChunkFrameTag]
  | .cancel => [previewCancelFrameTag]

end WireType

lemma toOption_eq_some {ε α : Type} {x : Except ε α} {a : α} : x.toOption = some a ↔ x = .ok a := by
  cases x <;> simp [Except.toOption]

/-- What one result says of another, both without their errors. -/
lemma toOption_imp {ε ε' α β : Type} {x : Except ε α} {y : Except ε' β} {a : α} {b : β}
    (hi : x = .ok a → y = .ok b) (h : x.toOption = some a) : y.toOption = some b :=
  toOption_eq_some.mpr (hi (toOption_eq_some.mp h))

lemma toOption_exists {ε ε' α β : Type} {x : Except ε α} {y : Except ε' β} {a : α}
    (hi : x = .ok a → ∃ b, y = .ok b) (h : x.toOption = some a) : ∃ b, y.toOption = some b :=
  (hi (toOption_eq_some.mp h)).imp fun _ => toOption_eq_some.mpr

namespace WireType

lemma decode_of_encode (type : WireType) (v : type.Value) (enc : List UInt8)
    (h : type.encode v = some enc) : type.decode enc = some v := by
  cases type with
  | display => exact toOption_imp DisplayPreviewFrame.decode_encode h
  | preview => exact toOption_imp PreviewFrame.decode_encode h
  | zonePreview => exact toOption_imp ZonePreviewFrame.decode_encode h
  | interactive => exact toOption_imp InteractivePreviewFrame.decode_encode h
  | screenZones => exact toOption_imp ScreenZonesFrameOf.decode_encode h
  | chunk => exact toOption_imp decode_encode h
  | cancel => exact toOption_imp PreviewCancelFrame.decode_encode h

lemma encode_of_decode (type : WireType) {v : type.Value}
    (hi : inp.length ≤ Platform.usizeMax) (h : type.decode inp = some v) :
    ∃ enc, type.encode v = some enc := by
  cases type with
  | display => exact toOption_exists DisplayPreviewFrame.encode_decode h
  | preview => exact toOption_exists PreviewFrame.encode_decode h
  | zonePreview => exact toOption_exists ZonePreviewFrame.encode_decode h
  | interactive => exact toOption_exists InteractivePreviewFrame.encode_decode h
  | screenZones => exact toOption_exists ScreenZonesFrameOf.encode_decode h
  | chunk => exact toOption_exists (encode_decode hi) h
  | cancel => exact toOption_exists PreviewCancelFrame.encode_decode h

lemma head?_of_decode (type : WireType) {v : type.Value}
    (h : type.decode inp = some v) : ∃ tag ∈ type.tags, inp.head? = some tag := by
  cases type with
  | display =>
    obtain ⟨header, hh, -⟩ := bind_eq_ok.mp (toOption_eq_some.mp h)
    exact IdentityFrameLayout.head?_of_decodeHeader displayPreviewLayout_regular hh
  | preview => exact PreviewFrame.head?_of_decode (toOption_eq_some.mp h)
  | zonePreview => exact ZonePreviewFrame.head?_of_decode (toOption_eq_some.mp h)
  | interactive =>
    obtain ⟨header, hh, -⟩ := bind_eq_ok.mp (toOption_eq_some.mp h)
    exact IdentityFrameLayout.head?_of_decodeHeader interactivePreviewLayout_regular hh
  | screenZones => exact ScreenZonesFrameOf.head?_of_decode (toOption_eq_some.mp h)
  | chunk =>
    exact ⟨_, mem_singleton_self _, PreviewChunkFrame.head?_of_decode (toOption_eq_some.mp h)⟩
  | cancel =>
    exact ⟨_, mem_singleton_self _, PreviewCancelFrame.head?_of_decode (toOption_eq_some.mp h)⟩

lemma eq_of_mem_tags {type type' : WireType} {tag : UInt8} (h : tag ∈ type.tags)
    (h' : tag ∈ type'.tags) : type = type' := by
  have hd : ∀ tag ∈ type.tags, tag ∈ type'.tags → type = type' := by
    cases type <;> cases type' <;> simp [tags, displayPreviewFrameTag, wideDisplayPreviewFrameTag,
      widePreviewFrameTag, zonePreviewFrameTag, wideZonePreviewFrameTag, interactivePreviewFrameTag,
      wideInteractivePreviewFrameTag, screenZonesFrameTag, wideScreenZonesFrameTag,
      extendedScreenZonesFrameTag, previewChunkFrameTag, previewCancelFrameTag]
  exact hd tag h h'

/-- **The codecs of the preview wire.** A byte string of the code is a slice, whose length is a
`usize`. -/
theorem wire_codecs : (∀ (type : WireType) (value : type.Value) (encoded : List UInt8),
      type.encode value = some encoded → type.decode encoded = some value) ∧
    (∀ (type : WireType) (input : List UInt8) (value : type.Value),
      input.length ≤ Platform.usizeMax → type.decode input = some value →
        ∃ encoded, type.encode value = some encoded ∧ type.decode encoded = some value) ∧
    (∀ (type type' : WireType) (input : List UInt8) (value : type.Value) (value' : type'.Value),
      type.decode input = some value → type'.decode input = some value' → type = type') := by
  refine ⟨decode_of_encode, fun type input value hi h => ?_, fun type type' input _ _ h h' => ?_⟩
  · obtain ⟨encoded, he⟩ := encode_of_decode type hi h
    exact ⟨encoded, he, decode_of_encode type value encoded he⟩
  · obtain ⟨tag, ht, hh⟩ := head?_of_decode type h
    obtain ⟨tag', ht', hh'⟩ := head?_of_decode type' h'
    cases hh.symm.trans hh'
    exact eq_of_mem_tags ht ht'

end WireType

end Hypercolor.Preview

namespace Hypercolor.Preview

attribute [local instance] Platform.desktop

/-- One pixel of the canvas under a wide header, which the encoder would not write. -/
def widePixel : List UInt8 :=
  [0x0B, 0x03, 7, 0, 0, 0, 9, 0, 0, 0, 1, 0, 0, 0, 1, 0, 0, 0, 0, 10, 20, 30]

/-- The pixel is accepted, and is written with a compact header. -/
theorem wire_codecs_pixel : ∃ frame : PreviewFrame, WireType.preview.decode widePixel = some frame ∧
      WireType.preview.encode frame = some [0x03, 7, 0, 0, 0, 9, 0, 0, 0, 1, 0, 1, 0, 0, 10, 20, 30] ∧
      (∃ encoded, WireType.preview.encode frame = some encoded ∧
        WireType.preview.decode encoded = some frame) ∧
      WireType.preview.decode [0x03, 7, 0, 0, 0, 9, 0, 0, 0, 1, 0, 1, 0, 0, 10, 20, 30] = some frame ∧
      ∀ type value, WireType.decode type widePixel = some value → type = .preview := by
  have hd : WireType.preview.decode widePixel = some ⟨.canvas, 7, 9, 1, 1, .rgb, [10, 20, 30]⟩ := rfl
  have he : WireType.preview.encode ⟨.canvas, 7, 9, 1, 1, .rgb, [10, 20, 30]⟩ =
      some [0x03, 7, 0, 0, 0, 9, 0, 0, 0, 1, 0, 1, 0, 0, 10, 20, 30] := rfl
  obtain ⟨hr, ha, hon⟩ := WireType.wire_codecs
  refine ⟨_, hd, he, ha _ _ _ (by decide) hd, hr _ _ _ he,
    fun type value h => hon type .preview widePixel value _ h hd⟩

end Hypercolor.Preview
