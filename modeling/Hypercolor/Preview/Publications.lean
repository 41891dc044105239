import Hypercolor.Preview.Accounting

/-!
# What the receiver's validators say about an encoded frame

**An encoded frame passes every check the reassembler runs on its publication**
(`Publishes.reassembles`): its admission on the first chunk, however long that is, the second look
at a header that came in pieces, and the validation at the end.

Only screen zones have a header that the first chunk may not hold yet. `need` is its length there,
and 0 for the other four kinds, whose header the metadata determine.
-/

namespace Hypercolor.Preview

open Lib List Nat Platform IdentityFrameLayout

variable [Platform]

/-- A frame's encoding, published under its own fields, and the bytes it decodes to. -/
inductive Publishes : PreviewPublicationMetadata → List UInt8 → Nat → Prop where
  | passive (frame : PreviewFrame) (publicationId : UInt64) {encoded : List UInt8}
      (hencoded : frame.tryEncode = .ok encoded) :
      Publishes
        { stream := .passive frame.channel
          publicationId := publicationId
          frameNumber := frame.frameNumber
          timestampMs := frame.timestampMs
          width := frame.width
          height := frame.height
          format := frame.format }
        encoded (frame.width.toNat * frame.height.toNat * 4)
  | zone (frame : ZonePreviewFrame) (publicationId : UInt64) {encoded : List UInt8}
      (hencoded : frame.tryEncode = .ok encoded) :
      Publishes
        { stream := .zone frame.sceneId frame.zoneId
          publicationId := publicationId
          frameNumber := frame.frameNumber
          timestampMs := frame.timestampMs
          width := frame.width
          height := frame.height
          format := frame.format }
        encoded (frame.width.toNat * frame.height.toNat * 4)
  | interactive (frame : InteractivePreviewFrame) (publicationId : UInt64) {encoded : List UInt8}
      (hencoded : frame.encode = .ok encoded) :
      Publishes
        { stream := .interactive frame.previewId
          publicationId := publicationId
          frameNumber := frame.frameNumber
          timestampMs := frame.timestampMs
          width := frame.width
          height := frame.height
          format := frame.format }
        encoded (frame.width.toNat * frame.height.toNat * 4)
  | display (frame : DisplayPreviewFrame) (publicationId : UInt64) {encoded : List UInt8}
      (hencoded : frame.encode = .ok encoded) :
      Publishes
        { stream := .display frame.deviceId
          publicationId := publicationId
          frameNumber := frame.frameNumber
          timestampMs := frame.timestampMs
          width := frame.width
          height := frame.height
          format := frame.format }
        encoded (frame.width.toNat * frame.height.toNat * 4)
  | screenZones (frame : ScreenZonesFrame) (publicationId : UInt64) {encoded : List UInt8}
      (hencoded : frame.tryEncode = .ok encoded) :
      Publishes
        { stream := .screenZones
          publicationId := publicationId
          frameNumber := frame.frameNumber
          timestampMs := frame.timestampMs
          width := frame.sourceWidth
          height := frame.sourceHeight
          format := .rgb }
        encoded frame.payload.length

/-- A publication the reassembler takes: its first `need` bytes show a header that agrees. -/
structure Reassembles (limits : PreviewLimits) (metadata : PreviewPublicationMetadata)
    (encoded : List UInt8) (need : Nat) : Prop where
  length_le : encoded.length ≤ usizeMax
  need_le : need ≤ extendedScreenZonesFrameHeaderLen
  need_le_length : need ≤ encoded.length
  admitted : ∀ n, 0 < n →
    validateReassemblyAdmission metadata (encoded.take n) encoded.length limits =
      .ok (decide (need ≤ n))
  recognised : 0 < need → ∀ n, 0 < n →
    validateScreenZonesHeaderPrefix metadata encoded.length (encoded.take n) limits =
      .ok (decide (need ≤ n))
  completed : validateCompletedPublication metadata encoded limits = .ok ()

variable {limits : PreviewLimits} {md : PreviewPublicationMetadata}

/-! ## Frames whose metadata determine the header -/

variable {w height : UInt32}

lemma rawPayloadLen_eq_ok {bpp : Nat} (hwi : w ≠ 0) (hhg : height ≠ 0) (hpi : 0 < bpp)
    (hf : w.toNat * height.toNat * bpp ≤ usizeMax) : rawPayloadLen w height bpp =
      .ok (w.toNat * height.toNat * bpp) := by
  have hw : 0 < w.toNat := Nat.pos_of_ne_zero fun h => hwi (UInt32.toNat_inj.mp h)
  have hh : 0 < height.toNat := Nat.pos_of_ne_zero fun h => hhg (UInt32.toNat_inj.mp h)
  have hp := (Nat.le_mul_of_pos_right (w.toNat * height.toNat) hpi).trans hf
  have hwf := (Nat.le_mul_of_pos_right w.toNat hh).trans hp
  have hhf := (Nat.le_mul_of_pos_left height.toNat hw).trans hp
  refine checked_bind.mpr ⟨hwf, ?_⟩
  refine checked_bind.mpr ⟨hhf, ?_⟩
  refine checked_bind.mpr ⟨hp, ?_⟩
  exact okOr_eq_ok.mpr (checked_of_le hf)

variable {p enc : List UInt8}

/-- A JPEG that validates starts with its marker. -/
lemma payload_ne_nil_of_jpeg {format : PreviewPixelFormat}
    (h : validatePayload w height format p = .ok ())
    (hj : format.bytesPerPixel = none) : p ≠ [] := by
  rintro rfl
  rw [validatePayload, hj] at h
  obtain ⟨dimensions, hd, -⟩ := bind_eq_ok.mp h
  simp [jpegDimensions] at hd

variable {headerLen decodedBytes : Nat}

/-- The total the receiver expects is the header with the validated payload. -/
lemma validateTotal_of_validatePayload (hv : validatePayload md.width md.height md.format p = .ok ())
    (hfi : headerLen + p.length ≤ usizeMax) :
    validateTotal md headerLen (headerLen + p.length) = .ok () := by
  unfold validateTotal
  cases hf : md.format.bytesPerPixel with
  | none =>
    have hp := length_pos_of_ne_nil (payload_ne_nil_of_jpeg hv hf)
    exact ensure_iff.mpr (by omega)
  | some bpp =>
    have hr := validatePayload_raw hv hf
    refine bind_eq_ok.mpr ⟨_, frameError_eq_ok.mpr hr, ?_⟩
    refine checked_bind.mpr ⟨hfi, ?_⟩
    exact ensure_iff.mpr rfl

/-- The four kinds of frame whose header the metadata determine. -/
lemma reassembles_of_header {header : List UInt8} (hs : md.stream ≠ .screenZones)
    (hw : md.width ≠ 0) (hh : md.height ≠ 0) (hd : decodedBytes = md.width.toNat * md.height.toNat * 4)
    (hdf : decodedBytes ≤ usizeMax) (hdl : decodedBytes ≤ limits.maxDecodedPublicationBytes)
    (hhl : publicationHeaderLen md = .ok headerLen) (hhd : header.length = headerLen)
    (hv : validatePayload md.width md.height md.format p = .ok ()) (hf : headerLen + p.length ≤ usizeMax)
    (hc : validateCompletedPublication md (header ++ p) limits = .ok ()) :
    Reassembles limits md (header ++ p) 0 := by
  have hl : (header ++ p).length = headerLen + p.length := by
    rw [length_append, hhd]
  subst hd
  have hr := rawPayloadLen_eq_ok hw hh (by decide) hdf
  refine ⟨hl ▸ hf, zero_le _, zero_le _, fun n _ => ?_, nofun, hc⟩
  rw [hl]
  refine ensure_bind.mpr ⟨⟨hw, hh⟩, ?_⟩
  rw [if_neg hs]
  refine bind_eq_ok.mpr ⟨_, hhl, ?_⟩
  refine bind_eq_ok.mpr ⟨_, frameError_eq_ok.mpr hr, ?_⟩
  refine ensure_bind.mpr ⟨hdl, ?_⟩
  exact bind_eq_ok.mpr ⟨(), validateTotal_of_validatePayload hv hf, rfl⟩

lemma identityPublicationHeaderLen_eq_ok {l : IdentityFrameLayout} {ident : String}
    (hi : validatePreviewStreamId ident l.maxIdentityBytes = .ok ())
    (hf : l.lenFor w height + ident.utf8ByteSize ≤ usizeMax) :
    identityPublicationHeaderLen ident l (!compactDimensions w height) =
      .ok (l.lenFor w height + ident.utf8ByteSize) := by
  have hl : (if !compactDimensions w height then l.widePrefixLen
      else l.prefixLen) = l.lenFor w height := by
    unfold lenFor
    cases compactDimensions w height <;> rfl
  refine bind_eq_ok.mpr ⟨(), frameError_eq_ok.mpr hi, okOr_eq_ok.mpr ?_⟩
  rw [hl]
  exact checked_of_le hf

/-! ## Screen zones -/

variable {f : ScreenZonesFrame}

/-- A prefix of encoded screen zones holds the header or does not. -/
lemma validateScreenZonesHeaderPrefix_take (hm : md.frameNumber = f.frameNumber ∧ md.timestampMs =
      f.timestampMs ∧ md.width = f.sourceWidth ∧ md.height =
      f.sourceHeight) (hp : f.payloadLen = some f.payload.length)
    (hf : f.headerLen + f.payload.length ≤ usizeMax)
    (hd : f.payload.length ≤ limits.maxDecodedPublicationBytes) {n : Nat} (hn : 0 < n) :
    validateScreenZonesHeaderPrefix md (f.headerLen + f.payload.length)
      ((f.headerBytes ++ f.payload).take n) limits = .ok (decide (f.headerLen ≤ n)) := by
  obtain ⟨tag, side, cell, hb, hta, -⟩ := f.headerBytes_layout
  have hh : ((f.headerBytes ++ f.payload).take n).head? = some tag := by
    obtain ⟨m, rfl⟩ := exists_eq_succ_of_ne_zero hn.ne'
    rw [hb]
    rfl
  have hle := f.length_headerBytes
  refine bind_eq_ok.mpr ⟨tag, okOr_eq_ok.mpr hh, ?_⟩
  refine bind_eq_ok.mpr ⟨f.headerLen, okOr_eq_ok.mpr hta, ?_⟩
  by_cases hc : f.headerLen ≤ n
  · have hl : ¬ ((f.headerBytes ++ f.payload).take n).length < f.headerLen := by
      rw [length_take, length_append]
      omega
    have ht : ((f.headerBytes ++ f.payload).take n).take f.headerLen = f.headerBytes ++ [] := by
      rw [take_take, min_eq_left hc, append_nil]
      exact take_left' hle
    rw [if_neg hl, ht]
    refine bind_eq_ok.mpr ⟨_, frameError_eq_ok.mpr (f.decodeHeader_headerBytes []), ?_⟩
    refine bind_eq_ok.mpr ⟨_, frameError_eq_ok.mpr (ScreenZonesFrameOf.endOffset_headerBytes hp hf), ?_⟩
    refine bind_eq_ok.mpr ⟨f.payload.length, okOr_eq_ok.mpr
      (checkedSub_eq_some.mpr ⟨Nat.le_add_right _ _, (Nat.add_sub_cancel_left _ _).symm⟩), ?_⟩
    refine ensure_bind.mpr ⟨hd, ?_⟩
    obtain ⟨hnu, hti, hw, hhg⟩ := hm
    refine ensure_bind.mpr ⟨?_, ?_⟩
    · exact ⟨hnu.symm, hti.symm, hw.symm, hhg.symm⟩
    · rw [decide_eq_true hc]
      rfl
  · have hs : ((f.headerBytes ++ f.payload).take n).length < f.headerLen := by
      rw [length_take]
      omega
    rw [if_pos hs, decide_eq_false hc]
    rfl

/-- Encoded screen zones, published as such. -/
lemma reassembles_screenZones (he : f.tryEncode = .ok enc)
    (hst : md.stream = .screenZones) (hfo : md.format = .rgb) (hg : md.width ≠ 0 ∧ md.height ≠ 0)
    (hm : md.frameNumber = f.frameNumber ∧ md.timestampMs =
      f.timestampMs ∧ md.width = f.sourceWidth ∧ md.height =
      f.sourceHeight) (hd : f.payload.length ≤ limits.maxDecodedPublicationBytes) :
    Reassembles limits md enc f.headerLen := by
  obtain ⟨rfl, hp, hf⟩ := ScreenZonesFrameOf.tryEncode_eq_ok he
  have hl : (f.headerBytes ++ f.payload).length = f.headerLen + f.payload.length := by
    rw [length_append, ScreenZonesFrameOf.length_headerBytes]
  have hne := f.headerLen_le
  have hpo : 0 < f.headerLen := by
    unfold ScreenZonesFrameOf.headerLen
    split_ifs <;> decide
  have hs : ∀ n, 0 < n → validateScreenZonesHeaderPrefix md
      (f.headerLen + f.payload.length) ((f.headerBytes ++ f.payload).take n) limits =
        .ok (decide (f.headerLen ≤ n)) :=
    fun n hn => validateScreenZonesHeaderPrefix_take hm hp hf hd hn
  refine ⟨hl ▸ hf, hne, hl ▸ le_add_right _ _, fun n hn => ?_,
    fun _ n hn => hl ▸ hs n hn, ?_⟩
  · rw [hl]
    refine ensure_bind.mpr ⟨hg, ?_⟩
    rw [if_pos hst]
    refine ensure_bind.mpr ⟨⟨hfo, by omega⟩, ?_⟩
    refine ensure_bind.mpr ⟨by omega, ?_⟩
    rw [take_take]
    refine (hs _ (by omega)).trans ?_
    congr 1
    rw [decide_eq_decide]
    omega
  · have hw := hs _ (Nat.add_pos_left hpo f.payload.length)
    rw [take_of_length_le hl.le, decide_eq_true (le_add_right _ _)] at hw
    unfold validateCompletedPublication
    rw [hst]
    exact bind_eq_ok.mpr ⟨true, hl.symm ▸ hw, rfl⟩

/-! ## The five kinds -/

/-- **An encoded frame passes every check of its reassembly**, if the dimensions are not zero and
what it decodes to is within the limits. -/
theorem Publishes.reassembles (h : Publishes md enc decodedBytes) (hg : md.width ≠ 0 ∧ md.height ≠ 0)
    (hdf : decodedBytes ≤ usizeMax) (hd : decodedBytes ≤ limits.maxDecodedPublicationBytes) :
    ∃ need, Reassembles limits md enc need := by
  cases h with
  | passive f pid he =>
    obtain ⟨rfl, hv, hf⟩ := PreviewFrame.tryEncode_eq_ok he
    refine ⟨0, reassembles_of_header nofun hg.1 hg.2 rfl hdf hd ?_ f.length_headerBytes hv hf ?_⟩
    · unfold publicationHeaderLen PreviewFrame.headerLen
      cases compactDimensions f.width f.height <;> rfl
    · refine bind_eq_ok.mpr ⟨f, frameError_eq_ok.mpr (PreviewFrame.decode_encode he), ?_⟩
      simp
  | zone f pid he =>
    obtain ⟨rfl, hv, hf⟩ := ZonePreviewFrame.tryEncode_eq_ok he
    refine ⟨0, reassembles_of_header nofun hg.1 hg.2 rfl hdf hd ?_ f.length_headerBytes hv hf ?_⟩
    · unfold publicationHeaderLen ZonePreviewFrame.headerLen
      cases compactDimensions f.width f.height <;> rfl
    · refine bind_eq_ok.mpr ⟨f, frameError_eq_ok.mpr (ZonePreviewFrame.decode_encode he), ?_⟩
      simp
  | interactive f pid he =>
    obtain ⟨rfl, hi, hv, hf⟩ := encode_eq_ok he
    refine ⟨0, reassembles_of_header nofun hg.1 hg.2 rfl hdf hd ?_
      (length_headerBytes interactivePreviewLayout_regular) hv hf ?_⟩
    · exact identityPublicationHeaderLen_eq_ok hi ((le_add_right _ _).trans hf)
    · refine bind_eq_ok.mpr ⟨f, frameError_eq_ok.mpr (InteractivePreviewFrame.decode_encode he), ?_⟩
      simp
  | display f pid he =>
    obtain ⟨rfl, hi, hv, hf⟩ := encode_eq_ok he
    refine ⟨0, reassembles_of_header nofun hg.1 hg.2 rfl hdf hd ?_
      (length_headerBytes displayPreviewLayout_regular) hv hf ?_⟩
    · exact identityPublicationHeaderLen_eq_ok hi ((le_add_right _ _).trans hf)
    · refine bind_eq_ok.mpr ⟨f, frameError_eq_ok.mpr (DisplayPreviewFrame.decode_encode he), ?_⟩
      simp
  | screenZones f pid he =>
    exact ⟨_, reassembles_screenZones he rfl rfl hg ⟨rfl, rfl, rfl, rfl⟩ hd⟩

end Hypercolor.Preview
