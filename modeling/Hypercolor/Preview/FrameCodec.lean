import Mathlib.Data.List.GetD
import Hypercolor.Preview.Frames

/-!
# Every frame reads back

For each of the five kinds, **decoding what a frame encodes to gives the frame**. A header's fields
sit at literal offsets, so each is read back by computation; what is left is that the layout chosen
by the dimensions is the one the tag announces, and that the payload ends where the decoder expects.
-/

set_option linter.unusedSectionVars false

namespace Hypercolor.Preview

open Lib List Nat Platform FrameHeader

variable [Platform]

/-! ## Checked steps -/

variable {ε I P : Type} {error : ε}

@[simp] theorem okOr_eq_ok {α : Type} {o : Option α} {a : α} : okOr o error = .ok a ↔ o = some a := by
  cases o <;> simp [okOr]

@[simp] theorem ensure_eq_ok {cond : Bool} : ensure cond error = .ok () ↔ cond := by
  cases cond <;> simp [ensure]

variable {n side : Nat}

@[simp] theorem checked_eq_some {m : Nat} : checked n = some m ↔ n = m ∧ n ≤ usizeMax := by
  unfold checked
  split_ifs with h
  · simp [h]
  · simp [h]

lemma checked_of_le (h : n ≤ usizeMax) : checked n = some n := checked_eq_some.mpr ⟨rfl, h⟩

variable {β : Type} {b : β} {c : Prop} [Decidable c]

lemma ensure_iff : ensure (decide c) error = .ok () ↔ c := by simp

/-- A passed check and what follows it. -/
lemma ensure_bind {g : Unit → Except ε β} :
    (ensure (decide c) error >>= g) = .ok b ↔ c ∧ g () = .ok b := by
  rw [bind_eq_ok]
  constructor
  · rintro ⟨⟨⟩, hc, hg⟩
    exact ⟨by simpa using hc, hg⟩
  · intro ⟨hc, hg⟩
    exact ⟨(), by simpa using hc, hg⟩

/-- A checked size and what follows it. -/
lemma checked_bind {g : Nat → Except ε β} :
    (okOr (checked n) error >>= g) = .ok b ↔ n ≤ usizeMax ∧ g n = .ok b := by
  simp [bind_eq_ok, and_assoc]

/-! ## Fields -/

/-- A dimension that fits the width of its field reads back. -/
lemma ofNat_ofLe_leBytes {x : UInt32} {width : Nat} (h : x.toNat < 256 ^ width) :
    UInt32.ofNat (ofLe (leBytes width x.toNat)) = x := by
  rw [ofLe_leBytes_of_lt h, UInt32.ofNat_toNat]

lemma toNat_lt_four (x : UInt32) : x.toNat < 256 ^ 4 := x.toNat_lt

lemma ofNat_ofLe_four (x : UInt32) : UInt32.ofNat (ofLe (leBytes 4 x.toNat)) = x :=
  ofNat_ofLe_leBytes x.toNat_lt

lemma channel_tryFrom_tag (ch : PreviewFrameChannel) : PreviewFrameChannel.tryFrom ch.tag = .ok ch := by
  cases ch <;> rfl

lemma format_tryFrom_tag (format : PreviewPixelFormat) :
    PreviewPixelFormat.tryFrom format.tag = .ok format := by
  cases format <;> rfl

variable {width height : UInt32}

lemma compact_width (h : compactDimensions width height) :
    width.toNat < 256 ^ 2 ∧ height.toNat < 256 ^ 2 := by
  obtain ⟨hw, hh⟩ := of_decide_eq_true h
  exact ⟨lt_succ_of_le hw, lt_succ_of_le hh⟩

variable {format : PreviewPixelFormat}

/-- The fields of a header read back. -/
lemma ok_header {identity read : I} {frameNumber timestampMs : UInt32} {off : Nat}
    (hr : read = identity) (hw : width.toNat < 256 ^ side) (hh : height.toNat < 256 ^ side) : (Except.ok {
        identity := read
        frameNumber := UInt32.ofNat (ofLe (leBytes 4 frameNumber.toNat))
        timestampMs := UInt32.ofNat (ofLe (leBytes 4 timestampMs.toNat))
        width := UInt32.ofNat (ofLe (leBytes side width.toNat))
        height := UInt32.ofNat (ofLe (leBytes side height.toNat))
        format, payloadOffset := off } : Except ε (FrameHeader I)) =
      .ok { identity, frameNumber, timestampMs, width, height, format, payloadOffset := off } := by
  rw [hr, ofNat_ofLe_four, ofNat_ofLe_four, ofNat_ofLe_leBytes hw, ofNat_ofLe_leBytes hh]

/-! ## Payloads -/

variable {p enc : List UInt8}

/-- A raw payload that validates has the length its dimensions say. -/
lemma validatePayload_raw (h : validatePayload width height format p = .ok ()) {bpp : Nat}
    (hr : format.bytesPerPixel = some bpp) : rawPayloadLen width height bpp = .ok p.length := by
  rw [validatePayload, hr, bind_eq_ok] at h
  obtain ⟨exp, he, hl⟩ := h
  rw [ensure_eq_ok, decide_eq_true_eq] at hl
  rw [he, hl]

/-- The payload after a header is the payload that was put there. -/
lemma FrameHeader.payload_append {header : FrameHeader I} {head : List UInt8}
    (hof : head.length = header.payloadOffset)
    (hv : validatePayload header.width header.height header.format p = .ok ())
    (hf : header.payloadOffset + p.length ≤ usizeMax) : header.payload (head ++ p) = .ok p := by
  have hl : (head ++ p).length = header.payloadOffset + p.length := by
    rw [length_append, hof]
  have hs : slice (head ++ p) header.payloadOffset (header.payloadOffset + p.length) = p := by
    rw [slice, ← hof, drop_left, Nat.add_sub_cancel_left, take_length]
  have hp : header.payloadLen (head ++ p).length = .ok p.length := by
    unfold payloadLen
    split
    · rename_i hr
      exact validatePayload_raw hv hr
    · rw [hl, Nat.add_sub_cancel_left]
  refine bind_eq_ok.mpr ⟨header.payloadOffset + p.length, ?_, ?_⟩
  · refine bind_eq_ok.mpr ⟨p.length, hp, ?_⟩
    refine checked_bind.mpr ⟨hf, ?_⟩
    refine ensure_bind.mpr ⟨hl.ge, ?_⟩
    exact ensure_bind.mpr ⟨.inr hl, rfl⟩
  · rw [hs]
    exact bind_eq_ok.mpr ⟨(), hv, rfl⟩

/-! ## The five kinds -/

namespace PreviewFrame

/-- The bytes before the payload. -/
def headerBytes (frame : PreviewFrame) : List UInt8 :=
  (if compactDimensions frame.width frame.height then [frame.channel.tag]
    else [widePreviewFrameTag, frame.channel.tag]) ++
    leBytes 4 frame.frameNumber.toNat ++ leBytes 4 frame.timestampMs.toNat ++
    dimensionBytes frame.width frame.height ++ [frame.format.tag]

lemma length_headerBytes (f : PreviewFrame) : f.headerBytes.length = f.headerLen := by
  unfold headerBytes headerLen dimensionBytes
  split_ifs <;> simp [previewFrameHeaderLen, widePreviewFrameHeaderLen]

variable {f : PreviewFrame}

lemma tryEncode_eq_ok (h : f.tryEncode = .ok enc) : enc = f.headerBytes ++ f.payload ∧
      validatePayload f.width f.height f.format f.payload = .ok () ∧
      f.headerLen + f.payload.length ≤ usizeMax := by
  obtain ⟨⟨⟩, hv, h⟩ := bind_eq_ok.mp h
  obtain ⟨hf, h⟩ := checked_bind.mp h
  exact ⟨(Except.ok.inj h).symm, hv, hf⟩

lemma decodeHeader_headerBytes (f : PreviewFrame) (rest : List UInt8) :
    decodeHeader (f.headerBytes ++ rest) = .ok {
        identity := f.channel
        frameNumber := f.frameNumber
        timestampMs := f.timestampMs
        width := f.width
        height := f.height
        format := f.format
        payloadOffset := f.headerLen } := by
  unfold headerBytes headerLen dimensionBytes decodeHeader
  by_cases hc : compactDimensions f.width f.height
  · obtain ⟨hw, hh⟩ := compact_width hc
    simp only [if_pos hc]
    have hn : some f.channel.tag ≠ some widePreviewFrameTag := by
      cases f.channel <;> decide
    show decodeLayout (decide (some f.channel.tag = some widePreviewFrameTag)) _ = _
    rw [decide_eq_false hn]
    refine bind_eq_ok.mpr ⟨(), ensure_eq_ok.mpr ?_, ?_⟩
    · simp [previewFrameHeaderLen]
      omega
    · refine bind_eq_ok.mpr ⟨_, channel_tryFrom_tag f.channel, ?_⟩
      refine bind_eq_ok.mpr ⟨_, format_tryFrom_tag f.format, ?_⟩
      exact ok_header rfl hw hh
  · simp only [if_neg hc]
    show decodeLayout (decide (some widePreviewFrameTag = some widePreviewFrameTag)) _ = _
    refine bind_eq_ok.mpr ⟨(), ensure_eq_ok.mpr ?_, ?_⟩
    · simp [widePreviewFrameHeaderLen]
      omega
    · refine bind_eq_ok.mpr ⟨_, channel_tryFrom_tag f.channel, ?_⟩
      refine bind_eq_ok.mpr ⟨_, format_tryFrom_tag f.format, ?_⟩
      exact ok_header rfl (toNat_lt_four f.width) (toNat_lt_four f.height)

lemma decode_encode (h : f.tryEncode = .ok enc) : decode enc = .ok f := by
  obtain ⟨rfl, hv, hf⟩ := tryEncode_eq_ok h
  refine bind_eq_ok.mpr ⟨_, decodeHeader_headerBytes f f.payload, ?_⟩
  refine bind_eq_ok.mpr ⟨_, payload_append ?_ hv hf, rfl⟩
  exact f.length_headerBytes

end PreviewFrame

lemma bytes16At_append (head : List UInt8) (bs : Bytes16) (rest : List UInt8) :
    bytes16At (head ++ ofFn bs ++ rest) head.length = bs := by
  funext i
  have hi : (i : Nat) < (ofFn bs).length := by
    exact i.isLt
  unfold bytes16At
  rw [append_assoc, getD_append_right _ _ _ _ (le_add_right _ _),
    Nat.add_sub_cancel_left, List.getD_append _ _ _ _ hi, List.getD_eq_getElem _ _ hi]
  exact List.getElem_ofFn hi

namespace ZonePreviewFrame

/-- The bytes before the payload. -/
def headerBytes (frame : ZonePreviewFrame) : List UInt8 :=
  [if compactDimensions frame.width frame.height then zonePreviewFrameTag
    else wideZonePreviewFrameTag] ++
    leBytes 4 frame.frameNumber.toNat ++ leBytes 4 frame.timestampMs.toNat ++
    ofFn frame.sceneId ++ ofFn frame.zoneId ++
    dimensionBytes frame.width frame.height ++ [frame.format.tag]

lemma length_headerBytes (f : ZonePreviewFrame) : f.headerBytes.length = f.headerLen := by
  unfold headerBytes headerLen dimensionBytes
  split_ifs <;> simp [zonePreviewFrameHeaderLen, wideZonePreviewFrameHeaderLen]

variable {f : ZonePreviewFrame}

lemma tryEncode_eq_ok (h : f.tryEncode = .ok enc) :
    enc = f.headerBytes ++ f.payload ∧ validatePayload f.width f.height f.format f.payload = .ok () ∧
      f.headerLen + f.payload.length ≤ usizeMax := by
  obtain ⟨⟨⟩, hv, h⟩ := bind_eq_ok.mp h
  obtain ⟨hf, h⟩ := checked_bind.mp h
  exact ⟨(Except.ok.inj h).symm, hv, hf⟩

lemma decodeHeader_headerBytes (f : ZonePreviewFrame) (rest : List UInt8) :
    decodeHeader (f.headerBytes ++ rest) = .ok {
        identity := (f.sceneId, f.zoneId)
        frameNumber := f.frameNumber
        timestampMs := f.timestampMs
        width := f.width
        height := f.height
        format := f.format
        payloadOffset := f.headerLen } := by
  have hi : (bytes16At (f.headerBytes ++ rest) 9, bytes16At (f.headerBytes ++ rest) 25) =
      (f.sceneId, f.zoneId) := by
    have hs := bytes16At_append ([if compactDimensions f.width f.height then zonePreviewFrameTag
        else wideZonePreviewFrameTag] ++ leBytes 4 f.frameNumber.toNat ++
        leBytes 4 f.timestampMs.toNat) f.sceneId
      (ofFn f.zoneId ++ dimensionBytes f.width f.height ++ [f.format.tag] ++ rest)
    have hz := bytes16At_append ([if compactDimensions f.width f.height then zonePreviewFrameTag
        else wideZonePreviewFrameTag] ++ leBytes 4 f.frameNumber.toNat ++
        leBytes 4 f.timestampMs.toNat ++ ofFn f.sceneId) f.zoneId
      (dimensionBytes f.width f.height ++ [f.format.tag] ++ rest)
    simp only [append_assoc, length_append, length_cons, length_nil, length_leBytes, length_ofFn] at hs hz
    simp only [headerBytes, append_assoc, hs, hz]
  unfold headerBytes headerLen dimensionBytes decodeHeader at *
  by_cases hc : compactDimensions f.width f.height
  · obtain ⟨hw, hh⟩ := compact_width hc
    simp only [if_pos hc] at *
    show decodeLayout (decide (some zonePreviewFrameTag = some wideZonePreviewFrameTag)) _ = _
    rw [decide_eq_false (by decide)]
    refine bind_eq_ok.mpr ⟨(), ensure_eq_ok.mpr ?_, ?_⟩
    · simp [zonePreviewFrameHeaderLen]
      omega
    · refine bind_eq_ok.mpr ⟨(), rfl, ?_⟩
      refine bind_eq_ok.mpr ⟨_, format_tryFrom_tag f.format, ?_⟩
      exact ok_header hi hw hh
  · simp only [if_neg hc] at *
    show decodeLayout (decide (some wideZonePreviewFrameTag = some wideZonePreviewFrameTag)) _ = _
    refine bind_eq_ok.mpr ⟨(), ensure_eq_ok.mpr ?_, ?_⟩
    · simp [wideZonePreviewFrameHeaderLen]
      omega
    · refine bind_eq_ok.mpr ⟨(), rfl, ?_⟩
      refine bind_eq_ok.mpr ⟨_, format_tryFrom_tag f.format, ?_⟩
      exact ok_header hi (toNat_lt_four f.width) (toNat_lt_four f.height)

lemma decode_encode (h : f.tryEncode = .ok enc) : decode enc = .ok f := by
  obtain ⟨rfl, hv, hf⟩ := tryEncode_eq_ok h
  refine bind_eq_ok.mpr ⟨_, decodeHeader_headerBytes f f.payload, ?_⟩
  refine bind_eq_ok.mpr ⟨_, payload_append ?_ hv hf, rfl⟩
  exact f.length_headerBytes

end ZonePreviewFrame

/-! ## Interactive and display previews -/

lemma validatePreviewStreamId_eq_ok {id : String} {maximum : Nat}
    (h : validatePreviewStreamId id maximum = .ok ()) :
    0 < id.utf8ByteSize ∧ id.utf8ByteSize ≤ maximum := by
  unfold validatePreviewStreamId at h
  split_ifs at h with he hl hc
  refine ⟨Nat.pos_of_ne_zero ?_, Nat.le_of_not_lt hl⟩
  intro hz
  exact he (by simpa using hz)

namespace IdentityFrameLayout

variable (layout : IdentityFrameLayout) (identity : String)
  (frameNumber timestampMs width height : UInt32) (format : PreviewPixelFormat)

/-- The bytes before the payload. -/
def headerBytes : List UInt8 :=
  [if compactDimensions width height then layout.tag else layout.wideTag,
    UInt8.ofNat identity.utf8ByteSize] ++ leBytes 4 frameNumber.toNat ++
    leBytes 4 timestampMs.toNat ++ dimensionBytes width height ++ [format.tag] ++ utf8 identity

/-- What the decoder of a family relies on: its own tags and a fixed part that fits. -/
structure Regular : Prop where
  tags : layout.tag ≠ layout.wideTag
  compact : layout.prefixLen = 15
  wide : layout.widePrefixLen = 19
  identity : layout.maxIdentityBytes < 256

variable {layout} {identity frameNumber timestampMs width height format}

lemma length_headerBytes (hr : layout.Regular) :
    (layout.headerBytes identity frameNumber timestampMs width height format).length =
      layout.lenFor width height + identity.utf8ByteSize := by
  unfold headerBytes lenFor dimensionBytes
  split_ifs
  · simp [hr.compact, length_utf8]
    omega
  · simp [hr.wide, length_utf8]
    omega

lemma encode_eq_ok (h : layout.encode identity frameNumber timestampMs width height format p = .ok enc) :
    enc = layout.headerBytes identity frameNumber timestampMs width height format ++ p ∧
      validatePreviewStreamId identity layout.maxIdentityBytes = .ok () ∧
      validatePayload width height format p = .ok () ∧
      layout.lenFor width height + identity.utf8ByteSize + p.length ≤ usizeMax := by
  obtain ⟨⟨⟩, hi, h⟩ := bind_eq_ok.mp h
  obtain ⟨⟨⟩, -, h⟩ := bind_eq_ok.mp h
  obtain ⟨⟨⟩, hv, h⟩ := bind_eq_ok.mp h
  obtain ⟨hf, h⟩ := checked_bind.mp h
  exact ⟨(Except.ok.inj h).symm, hi, hv, hf⟩

/-- The checks of the decoder, where the tag, the identity and the format are in place. -/
lemma decodeLayout_eq_ok (wide : Bool) {inp : List UInt8} {prefixLen : Nat}
    (hst : (if wide then layout.widePrefixLen else layout.prefixLen) = prefixLen)
    (hs : (if wide then 4 else 2) = side) (hr : layout.Regular)
    (hta : inp.getD 0 0 = layout.tag ∨ wide)
    (hil : inp.getD 1 0 = UInt8.ofNat identity.utf8ByteSize)
    (hi : validatePreviewStreamId identity layout.maxIdentityBytes = .ok ())
    (hl : prefixLen + identity.utf8ByteSize ≤ inp.length)
    (hf : prefixLen + identity.utf8ByteSize ≤ usizeMax)
    (ht : slice inp prefixLen (prefixLen + identity.utf8ByteSize) = utf8 identity)
    (hfo : inp.getD (10 + 2 * side) 0 = format.tag) :
    layout.decodeLayout wide inp = .ok {
        identity := identity
        frameNumber := u32At inp 2 6
        timestampMs := u32At inp 6 10
        width := u32At inp 10 (10 + side)
        height := u32At inp (10 + side) (10 + 2 * side)
        format := format
        payloadOffset := prefixLen + identity.utf8ByteSize } := by
  obtain ⟨hp, hm⟩ := validatePreviewStreamId_eq_ok hi
  have hle : (inp.getD 1 0).toNat = identity.utf8ByteSize := by
    rw [hil, UInt8.toNat_ofNat']
    exact mod_eq_of_lt (lt_of_le_of_lt hm hr.identity)
  unfold decodeLayout
  simp only [hst, hs, hle, hfo]
  refine ensure_bind.mpr ⟨?_, ?_⟩
  · exact (le_add_right _ _).trans hl
  refine ensure_bind.mpr ⟨hta, ?_⟩
  refine ensure_bind.mpr ⟨hp.ne', ?_⟩
  refine ensure_bind.mpr ⟨hm, ?_⟩
  refine checked_bind.mpr ⟨hf, ?_⟩
  refine ensure_bind.mpr ⟨hl, ?_⟩
  rw [ht]
  refine bind_eq_ok.mpr ⟨identity, okOr_eq_ok.mpr (ofUtf8_utf8 identity), ?_⟩
  refine bind_eq_ok.mpr ⟨(), hi, ?_⟩
  exact bind_eq_ok.mpr ⟨_, format_tryFrom_tag format, rfl⟩

lemma decodeHeader_headerBytes (hr : layout.Regular)
    (hi : validatePreviewStreamId identity layout.maxIdentityBytes = .ok ())
    (hf : layout.lenFor width height + identity.utf8ByteSize ≤ usizeMax) (rest : List UInt8) :
    layout.decodeHeader
      (layout.headerBytes identity frameNumber timestampMs width height format ++ rest) = .ok
      { identity := identity
        frameNumber := frameNumber
        timestampMs := timestampMs
        width := width
        height := height
        format := format
        payloadOffset := layout.lenFor width height + identity.utf8ByteSize } := by
  have hl : layout.lenFor width height + identity.utf8ByteSize ≤
      (layout.headerBytes identity frameNumber timestampMs width height format ++ rest).length := by
    rw [length_append, length_headerBytes hr]
    exact le_add_right _ _
  unfold headerBytes lenFor dimensionBytes decodeHeader at *
  by_cases hc : compactDimensions width height
  · obtain ⟨hw, hh⟩ := compact_width hc
    simp only [if_pos hc, hr.compact] at hl hf ⊢
    show layout.decodeLayout (decide (some layout.tag = some layout.wideTag)) _ = _
    rw [decide_eq_false fun ht => hr.tags (Option.some.inj ht),
      decodeLayout_eq_ok false hr.compact rfl hr (.inl rfl) rfl hi hl hf
        (slice_append _ (by simp) (by simp [length_utf8])) rfl]
    exact ok_header rfl hw hh
  · simp only [if_neg hc, hr.wide] at hl hf ⊢
    show layout.decodeLayout (decide (some layout.wideTag = some layout.wideTag)) _ = _
    rw [decide_eq_true rfl, decodeLayout_eq_ok true hr.wide rfl hr (.inr rfl) rfl hi hl hf
        (slice_append _ (by simp) (by simp [length_utf8])) rfl]
    exact ok_header rfl (toNat_lt_four width) (toNat_lt_four height)

lemma payload_encode (hr : layout.Regular)
    (h : layout.encode identity frameNumber timestampMs width height format p = .ok enc) :
    ∃ header : FrameHeader String, layout.decodeHeader enc = .ok header ∧
      header.payload enc = .ok p ∧ header.identity = identity ∧
      header.frameNumber = frameNumber ∧ header.timestampMs = timestampMs ∧
      header.width = width ∧ header.height = height ∧ header.format = format := by
  obtain ⟨rfl, hi, hv, hf⟩ := encode_eq_ok h
  refine ⟨_, decodeHeader_headerBytes hr hi ?_ p, ?_, rfl, rfl, rfl, rfl, rfl, rfl⟩
  · exact (le_add_right _ _).trans hf
  · exact payload_append (length_headerBytes hr) hv hf

end IdentityFrameLayout

lemma interactivePreviewLayout_regular : interactivePreviewLayout.Regular :=
  ⟨by decide, rfl, rfl, by decide⟩

lemma displayPreviewLayout_regular : displayPreviewLayout.Regular := ⟨by decide, rfl, rfl, by decide⟩

lemma InteractivePreviewFrame.decode_encode {f : InteractivePreviewFrame}
    (h : f.encode = .ok enc) : decode enc = .ok f := by
  obtain ⟨header, hh, hp, hi, hf, ht, hw, hhg, hfo⟩ :=
    IdentityFrameLayout.payload_encode interactivePreviewLayout_regular h
  refine bind_eq_ok.mpr ⟨header, hh, bind_eq_ok.mpr ⟨_, hp, ?_⟩⟩
  rw [hi, hf, ht, hw, hhg, hfo]
  rfl

lemma DisplayPreviewFrame.decode_encode {f : DisplayPreviewFrame}
    (h : f.encode = .ok enc) : decode enc = .ok f := by
  obtain ⟨header, hh, hp, hi, hf, ht, hw, hhg, hfo⟩ :=
    IdentityFrameLayout.payload_encode displayPreviewLayout_regular h
  refine bind_eq_ok.mpr ⟨header, hh, bind_eq_ok.mpr ⟨_, hp, ?_⟩⟩
  rw [hi, hf, ht, hw, hhg, hfo]
  rfl

/-! ## Screen zones -/

namespace ScreenZonesFrameOf

/-- The header in a layout with `side` bytes for a source dimension and `cell` bytes for a grid
dimension. -/
def layoutBytes (frame : ScreenZonesFrameOf P) (tag : UInt8) (side cell : Nat) : List UInt8 :=
  [tag] ++ leBytes 4 frame.frameNumber.toNat ++ leBytes 4 frame.timestampMs.toNat ++
    leBytes side frame.sourceWidth.toNat ++ leBytes side frame.sourceHeight.toNat ++
    leBytes cell frame.gridCols.toNat ++ leBytes cell frame.gridRows.toNat ++
    (ofFn frame.letterbox).flatMap fun bar => leBytes cell bar.toNat

section

variable (f : ScreenZonesFrameOf P)

lemma length_layoutBytes (tag : UInt8) (side cell : Nat) :
    (f.layoutBytes tag side cell).length = 9 + 2 * side + 6 * cell := by
  simp [layoutBytes]
  ring

/-- The layout a frame is written in, with what fits it. -/
lemma headerBytes_layout : ∃ tag side cell, f.headerBytes = f.layoutBytes tag side cell ∧
      headerLenOf tag = some f.headerLen ∧ f.headerLen = 9 + 2 * side + 6 * cell ∧
      (if tag = screenZonesFrameTag then 2 else 4) = side ∧
      (if tag = extendedScreenZonesFrameTag then 4 else 1) = cell ∧
      (f.sourceWidth.toNat < 256 ^ side ∧ f.sourceHeight.toNat < 256 ^ side) ∧
      (f.gridCols.toNat < 256 ^ cell ∧ f.gridRows.toNat < 256 ^ cell ∧
        ∀ bar, (f.letterbox bar).toNat < 256 ^ cell) := by
  unfold headerBytes headerLen
  by_cases hg : f.usesCompactGridLayout
  · obtain ⟨hco, hr, hb⟩ := of_decide_eq_true hg
    have hc : f.gridCols.toNat < 256 ^ 1 ∧ f.gridRows.toNat < 256 ^ 1 ∧
        ∀ bar, (f.letterbox bar).toNat < 256 ^ 1 :=
      ⟨lt_succ_of_le hco, lt_succ_of_le hr, fun bar => lt_succ_of_le (hb bar)⟩
    by_cases hs : compactDimensions f.sourceWidth f.sourceHeight
    · have hl : f.usesCompactLayout := by simp [usesCompactLayout, hs, hg]
      simp only [if_pos hl, if_pos hg]
      exact ⟨_, _, _, rfl, rfl, rfl, rfl, rfl, compact_width hs, hc⟩
    · have hl : ¬ f.usesCompactLayout := by simp [usesCompactLayout, hs]
      simp only [if_neg hl, if_pos hg]
      exact ⟨_, _, _, rfl, rfl, rfl, rfl, rfl, ⟨f.sourceWidth.toNat_lt, f.sourceHeight.toNat_lt⟩, hc⟩
  · have hl : ¬ f.usesCompactLayout := by simp [usesCompactLayout, hg]
    simp only [if_neg hl, if_neg hg]
    exact ⟨_, _, _, rfl, rfl, rfl, rfl, rfl, ⟨f.sourceWidth.toNat_lt, f.sourceHeight.toNat_lt⟩,
      f.gridCols.toNat_lt, f.gridRows.toNat_lt, fun bar => (f.letterbox bar).toNat_lt⟩

lemma length_headerBytes : f.headerBytes.length = f.headerLen := by
  obtain ⟨tag, side, cell, hb, -, hl, -⟩ := f.headerBytes_layout
  rw [hb, length_layoutBytes, hl]

lemma headerLen_le : f.headerLen ≤ extendedScreenZonesFrameHeaderLen := by
  unfold headerLen
  split_ifs <;> decide

end

variable {f : ScreenZonesFrame}

lemma tryEncode_eq_ok (h : f.tryEncode = .ok enc) :
    enc = f.headerBytes ++ f.payload ∧ f.payloadLen = some f.payload.length ∧
      f.headerLen + f.payload.length ≤ usizeMax := by
  obtain ⟨len, hp, h⟩ := bind_eq_ok.mp h
  obtain ⟨hl, h⟩ := ensure_bind.mp h
  obtain ⟨hf, h⟩ := checked_bind.mp h
  refine ⟨(Except.ok.inj h).symm, ?_, hf⟩
  rw [hl]
  exact okOr_eq_ok.mp hp

/-- The fields of a layout, from the front. -/
lemma slice_layoutBytes (f : ScreenZonesFrameOf P) (tag : UInt8) (side cell : Nat) (rest : List UInt8) :
    let input := f.layoutBytes tag side cell ++ rest
    let grid := 9 + 2 * side
    slice input 1 5 = leBytes 4 f.frameNumber.toNat ∧ slice input 5 9 = leBytes 4 f.timestampMs.toNat ∧
      slice input 9 (9 + side) = leBytes side f.sourceWidth.toNat ∧
      slice input (9 + side) grid = leBytes side f.sourceHeight.toNat ∧
      slice input grid (grid + cell) = leBytes cell f.gridCols.toNat ∧
      slice input (grid + cell) (grid + 2 * cell) = leBytes cell f.gridRows.toNat ∧
      ∀ bar : Fin 4, slice input (grid + (2 + bar) * cell) (grid + (3 + bar) * cell) =
        leBytes cell (f.letterbox bar).toNat := by
  intro input grid
  let head₁ := [tag] ++ leBytes 4 f.frameNumber.toNat ++ leBytes 4 f.timestampMs.toNat
  let head₂ := head₁ ++ leBytes side f.sourceWidth.toNat
  let head₃ := head₂ ++ leBytes side f.sourceHeight.toNat
  let head₄ := head₃ ++ leBytes cell f.gridCols.toNat
  let head₅ := head₄ ++ leBytes cell f.gridRows.toNat
  have hhead₁ : head₁.length = 9 := by simp [head₁]
  have hhead₂ : head₂.length = 9 + side := by simp [head₂, hhead₁]
  have hhead₃ : head₃.length = 9 + 2 * side := by
    simp [head₃, hhead₂]
    ring
  have hhead₄ : head₄.length = 9 + 2 * side + cell := by simp [head₄, hhead₃]
  have hhead₅ : head₅.length = 9 + 2 * side + 2 * cell := by
    simp [head₅, hhead₄]
    ring
  let bars := (ofFn f.letterbox).flatMap fun bar => leBytes cell bar.toNat
  have hr : input = head₄ ++ leBytes cell f.gridRows.toNat ++ (bars ++ rest) := append_assoc ..
  have hc : input = head₃ ++ leBytes cell f.gridCols.toNat ++
      (leBytes cell f.gridRows.toNat ++ (bars ++ rest)) := by
    rw [hr, append_assoc head₄]
  have hh : input = head₂ ++ leBytes side f.sourceHeight.toNat ++ (leBytes cell f.gridCols.toNat ++
        (leBytes cell f.gridRows.toNat ++ (bars ++ rest))) := by
    rw [hc, append_assoc head₃]
  have hw : input = head₁ ++ leBytes side f.sourceWidth.toNat ++
      (leBytes side f.sourceHeight.toNat ++ (leBytes cell f.gridCols.toNat ++
        (leBytes cell f.gridRows.toNat ++ (bars ++ rest)))) := by
    rw [hh, append_assoc head₂]
  refine ⟨rfl, rfl, ?_, ?_, ?_, ?_, ?_⟩
  · rw [hw]
    exact slice_append _ hhead₁ (by simp)
  · rw [hh]
    exact slice_append _ hhead₂ (by simp [grid]; ring)
  · rw [hc]
    exact slice_append _ hhead₃ (by simp [grid])
  · rw [hr]
    exact slice_append _ hhead₄ (by simp [grid]; ring)
  · intro bar
    have hb : (ofFn f.letterbox)[(bar : Nat)]? = some (f.letterbox bar) := by
      rw [List.getElem?_ofFn]
      exact dif_pos bar.isLt
    have h := slice_flatMap (fun b : UInt32 => length_leBytes cell b.toNat) head₅ rest hb
    rw [hhead₅] at h
    rw [show grid + (2 + bar) * cell = 9 + 2 * side + 2 * cell + bar * cell by ring,
      show grid + (3 + bar) * cell = 9 + 2 * side + 2 * cell + (bar + 1) * cell by ring]
    exact h

lemma decodeHeader_headerBytes (f : ScreenZonesFrameOf P) (rest : List UInt8) :
    decodeHeader (f.headerBytes ++ rest) = .ok { f with payload := f.headerLen } := by
  obtain ⟨tag, side, cell, hby, hlo, hle, hs, hc, ⟨hw, hh⟩, hco, hr, hb⟩ := f.headerBytes_layout
  obtain ⟨h₁, h₂, h₃, h₄, h₅, h₆, h₇⟩ := f.slice_layoutBytes tag side cell rest
  have hl : f.headerLen ≤ (f.layoutBytes tag side cell ++ rest).length := by
    rw [length_append, length_layoutBytes, hle]
    exact le_add_right _ _
  rw [hby]
  refine bind_eq_ok.mpr ⟨_, okOr_eq_ok.mpr hlo, ?_⟩
  refine ensure_bind.mpr ⟨hl, ?_⟩
  have ht : (f.layoutBytes tag side cell ++ rest).head?.getD 0 = tag := rfl
  simp only [ht, hs, hc, u32At, h₁, h₂, h₃, h₄, h₅, h₆, h₇]
  simp only [ofNat_ofLe_four, ofNat_ofLe_leBytes hw, ofNat_ofLe_leBytes hh,
    ofNat_ofLe_leBytes hco, ofNat_ofLe_leBytes hr, ofNat_ofLe_leBytes (hb _)]
  rfl

lemma endOffset_headerBytes (hp : f.payloadLen = some f.payload.length)
    (hf : f.headerLen + f.payload.length ≤ usizeMax) :
    endOffset { f with payload := f.headerLen } (f.headerLen + f.payload.length) =
      .ok (f.headerLen + f.payload.length) := by
  refine bind_eq_ok.mpr ⟨f.payload.length, okOr_eq_ok.mpr hp, ?_⟩
  refine checked_bind.mpr ⟨hf, ?_⟩
  exact ensure_bind.mpr ⟨rfl, rfl⟩

lemma decode_encode (h : f.tryEncode = .ok enc) : decode enc = .ok f := by
  obtain ⟨rfl, hp, hf⟩ := tryEncode_eq_ok h
  have hl : (f.headerBytes ++ f.payload).length = f.headerLen + f.payload.length := by
    rw [length_append, length_headerBytes]
  have hs : slice (f.headerBytes ++ f.payload) f.headerLen
      (f.headerLen + f.payload.length) = f.payload := by
    have h := slice_append [] f.length_headerBytes (rfl : f.headerLen + f.payload.length = _)
    rwa [append_nil] at h
  refine bind_eq_ok.mpr ⟨_, decodeHeader_headerBytes f f.payload, ?_⟩
  rw [hl]
  refine bind_eq_ok.mpr ⟨_, endOffset_headerBytes hp hf, ?_⟩
  exact congrArg (fun p => Except.ok { f with payload := p }) hs

end ScreenZonesFrameOf

end Hypercolor.Preview
