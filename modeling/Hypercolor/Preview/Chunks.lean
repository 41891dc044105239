import Hypercolor.Preview.Frames

/-!
# Chunks and the splitter

`ws/preview.rs`: stream identities, publication metadata, the chunk and cancel envelopes with their
codecs, and `split_preview_publication_with_limits`.

* The source's `LengthOverflow` does not say which checked operation failed. Here it carries that
  (`CheckedOp`), so that a theorem can speak of the subtractions alone.
* The two limit records of the source are one; the sender's and the cursor's budgets are left out.
-/

namespace Hypercolor.Preview

open Lib

variable [Platform]

def previewChunkFrameTag : UInt8 := 0x0F
def previewChunkFixedHeaderLen : Nat := 55
def previewChunkSchema : UInt8 := 1
def previewCancelFrameTag : UInt8 := 0x10
def previewCancelFixedHeaderLen : Nat := 14
def previewCancelSchema : UInt8 := 1
def previewIdMaxBytes : Nat := 128

/-- The checks that end in `LengthOverflow`. -/
inductive CheckedOp where
  | add
  | sub
  | mul
  | convert
  | bound
deriving DecidableEq

/-- `PreviewChunkError` -/
inductive PreviewChunkError where
  | frame (error : PreviewFrameDecodeError)
  | tooShort (expected actual : Nat)
  | unknownTag (actual : UInt8)
  | unknownSchema (actual : UInt8)
  | invalidStreamIdentity
  | invalidLayout
  | lengthOverflow (op : CheckedOp)
  | allocationFailed (bytes : Nat)
  | messageBudgetTooSmall (required actual : Nat)
  | messageBudgetExceeded (requested limit : Nat)
  | chunkCountBudgetExceeded (requested limit : Nat)
  | messageLengthMismatch (expected actual : Nat)
  | publicationBudgetExceeded (requested limit : Nat)
  | decodedPublicationBudgetExceeded (requested limit : Nat)
  | connectionBudgetExceeded (requested limit : Nat)
  | reassemblyStateBudgetExceeded (requested limit : Nat)
  | missingPublicationStart
  | duplicateChunk
  | nonContiguousChunk
  | metadataChanged
  | invalidGeometry (width height : UInt32)
  | rawPublicationLengthMismatch (expected actual : Nat)
  | stalePublication (publicationId highWater : UInt64)
  | impossibleChunkCount (chunks : UInt32) (totalBytes : UInt64)
deriving DecidableEq

/-- `map_err(PreviewChunkError::Frame)` -/
def frameError {α : Type} : Except PreviewFrameDecodeError α → Except PreviewChunkError α
  | .ok a => .ok a
  | .error error => .error (.frame error)

/-! ## Streams and publications -/

/-- `PreviewStreamId` -/
inductive PreviewStreamId where
  | passive (channel : PreviewFrameChannel)
  | zone (sceneId zoneId : Bytes16)
  | interactive (previewId : String)
  | display (deviceId : String)
  | screenZones
deriving DecidableEq

namespace PreviewStreamId

/-- `identity_bytes` -/
def identityBytes : PreviewStreamId → Nat
  | .passive _ | .screenZones => 0
  | .zone _ _ => 32
  | .interactive previewId => previewId.utf8ByteSize
  | .display deviceId => deviceId.utf8ByteSize

/-- `wire_parts` -/
def wireParts : PreviewStreamId → Except PreviewFrameDecodeError (UInt8 × UInt8 × List UInt8)
  | .passive channel => .ok (0, channel.tag, [])
  | .zone sceneId zoneId => .ok (1, zonePreviewFrameTag, List.ofFn sceneId ++ List.ofFn zoneId)
  | .interactive previewId => do
      validatePreviewStreamId previewId previewIdMaxBytes
      pure (2, interactivePreviewFrameTag, utf8 previewId)
  | .screenZones => .ok (3, screenZonesFrameTag, [])
  | .display deviceId => do
      validatePreviewStreamId deviceId previewIdMaxBytes
      pure (4, displayPreviewFrameTag, utf8 deviceId)

/-- `decode_stream_identity` -/
def decodeStreamIdentity (identity : List UInt8) (maximum : Nat) : Except PreviewChunkError String := do
  let decoded ← okOr (ofUtf8 identity) (.frame .invalidPreviewIdUtf8)
  frameError (validatePreviewStreamId decoded maximum)
  pure decoded

/-- `decode` -/
def decode (kind channel : UInt8) (identity : List UInt8) : Except PreviewChunkError PreviewStreamId :=
  if kind = 0 ∧ identity = [] then do
    let channel ← frameError (PreviewFrameChannel.tryFrom channel)
    pure (.passive channel)
  else if kind = 1 ∧ channel = zonePreviewFrameTag ∧ identity.length = 32 then
    .ok (.zone (bytes16At identity 0) (bytes16At identity 16))
  else if kind = 2 ∧ channel = interactivePreviewFrameTag then do
    let previewId ← decodeStreamIdentity identity previewIdMaxBytes
    pure (.interactive previewId)
  else if kind = 3 ∧ channel = screenZonesFrameTag ∧ identity = [] then .ok .screenZones
  else if kind = 4 ∧ channel = displayPreviewFrameTag then do
    let deviceId ← decodeStreamIdentity identity previewIdMaxBytes
    pure (.display deviceId)
  else .error .invalidStreamIdentity

end PreviewStreamId

/-- `PreviewPublicationMetadata` -/
structure PreviewPublicationMetadata where
  stream : PreviewStreamId
  publicationId : UInt64
  frameNumber : UInt32
  timestampMs : UInt32
  width : UInt32
  height : UInt32
  format : PreviewPixelFormat
deriving DecidableEq

/-- `PreviewChunkHeader` -/
structure PreviewChunkHeader where
  metadata : PreviewPublicationMetadata
  totalEncodedBytes : UInt64
  chunkOffset : UInt64
  chunkIndex : UInt32
  chunkCount : UInt32

/-- `PreviewChunkFrame`: a chunk's envelope and its payload. -/
structure PreviewChunkFrame extends PreviewChunkHeader where
  payload : List UInt8

/-- `u64::try_from(usize)` -/
def tryU64 (n : Nat) : Except PreviewChunkError UInt64 :=
  if n < 2 ^ 64 then .ok (UInt64.ofNat n) else .error (.lengthOverflow .convert)

/-- `u32::try_from(usize)` -/
def tryU32 (n : Nat) : Except PreviewChunkError UInt32 :=
  if n < 2 ^ 32 then .ok (UInt32.ofNat n) else .error (.lengthOverflow .convert)

/-- `validate_chunk_layout` -/
def validateChunkLayout (chunk : PreviewChunkHeader) (payloadLen : Nat) :
    Except PreviewChunkError Unit := do
  ensure (chunk.totalEncodedBytes ≠ 0 ∧ chunk.chunkCount ≠ 0) .invalidLayout
  ensure (chunk.chunkCount.toNat ≤ chunk.totalEncodedBytes.toNat)
    (.impossibleChunkCount chunk.chunkCount chunk.totalEncodedBytes)
  ensure (chunk.chunkIndex < chunk.chunkCount ∧ payloadLen ≠ 0) .invalidLayout
  let payloadLen ← tryU64 payloadLen
  let stop := chunk.chunkOffset.toNat + payloadLen.toNat
  ensure (stop < 2 ^ 64) (.lengthOverflow .add)
  ensure (stop ≤ chunk.totalEncodedBytes.toNat) .invalidLayout
  if chunk.chunkIndex.toNat + 1 = chunk.chunkCount.toNat then
    ensure (stop = chunk.totalEncodedBytes.toNat) .invalidLayout
  else ensure (stop < chunk.totalEncodedBytes.toNat) .invalidLayout

/-! ## Envelopes -/

/-- The fixed header of a chunk, up to the identity. -/
def PreviewChunkHeader.fixedBytes (chunk : PreviewChunkHeader) (kind channel : UInt8)
    (identityLen : Nat) : List UInt8 :=
  [previewChunkFrameTag, previewChunkSchema, kind, channel, chunk.metadata.format.tag] ++
    leBytes 2 identityLen ++ leBytes 8 chunk.metadata.publicationId.toNat ++
    leBytes 4 chunk.metadata.frameNumber.toNat ++ leBytes 4 chunk.metadata.timestampMs.toNat ++
    leBytes 4 chunk.metadata.width.toNat ++ leBytes 4 chunk.metadata.height.toNat ++
    leBytes 8 chunk.totalEncodedBytes.toNat ++ leBytes 8 chunk.chunkOffset.toNat ++
    leBytes 4 chunk.chunkIndex.toNat ++ leBytes 4 chunk.chunkCount.toNat

/-- `try_encode` -/
def PreviewChunkFrame.tryEncode (chunk : PreviewChunkFrame) : Except PreviewChunkError (List UInt8) := do
  let (kind, channel, identity) ← frameError chunk.metadata.stream.wireParts
  ensure (identity.length < 2 ^ 16) .invalidStreamIdentity
  validateChunkLayout chunk.toPreviewChunkHeader chunk.payload.length
  let _ ← okOr (checked (previewChunkFixedHeaderLen + identity.length + chunk.payload.length))
    (.lengthOverflow .add)
  pure (chunk.fixedBytes kind channel identity.length ++ identity ++ chunk.payload)

variable (input : List UInt8)

/-- `u64::from_le_bytes` of `input[start..stop]`. -/
def u64At (start stop : Nat) : UInt64 :=
  UInt64.ofNat (ofLe (slice input start stop))

/-- `decode_prefix`: the envelope of a chunk message of `messageLen` bytes, and where its payload
starts. -/
def PreviewChunkHeader.decodePrefix (messageLen : Nat) :
    Except PreviewChunkError (PreviewChunkHeader × Nat) := do
  ensure (previewChunkFixedHeaderLen ≤ messageLen ∧ previewChunkFixedHeaderLen ≤ input.length)
    (.tooShort previewChunkFixedHeaderLen (min messageLen input.length))
  ensure (input.getD 0 0 = previewChunkFrameTag) (.unknownTag (input.getD 0 0))
  ensure (input.getD 1 0 = previewChunkSchema) (.unknownSchema (input.getD 1 0))
  let identityLen := ofLe (slice input 5 7)
  let payloadOffset ← okOr (checked (previewChunkFixedHeaderLen + identityLen)) (.lengthOverflow .add)
  ensure (payloadOffset ≤ messageLen ∧ payloadOffset ≤ input.length)
    (.tooShort payloadOffset (min messageLen input.length))
  let stream ← PreviewStreamId.decode (input.getD 2 0) (input.getD 3 0)
    (slice input previewChunkFixedHeaderLen payloadOffset)
  let format ← frameError (PreviewPixelFormat.tryFrom (input.getD 4 0))
  let header : PreviewChunkHeader :=
    { metadata :=
        { stream := stream
          publicationId := u64At input 7 15
          frameNumber := u32At input 15 19
          timestampMs := u32At input 19 23
          width := u32At input 23 27
          height := u32At input 27 31
          format := format }
      totalEncodedBytes := u64At input 31 39
      chunkOffset := u64At input 39 47
      chunkIndex := u32At input 47 51
      chunkCount := u32At input 51 55 }
  validateChunkLayout header (messageLen - payloadOffset)
  pure (header, payloadOffset)

/-- `decode_bytes` -/
def PreviewChunkFrame.decodeBytes : Except PreviewChunkError PreviewChunkFrame := do
  let (header, payloadOffset) ← PreviewChunkHeader.decodePrefix input input.length
  pure { header with payload := input.drop payloadOffset }

/-- `PreviewCancelFrame` -/
structure PreviewCancelFrame where
  stream : PreviewStreamId
  publicationId : UInt64

/-- `try_encode` -/
def PreviewCancelFrame.tryEncode (cancel : PreviewCancelFrame) :
    Except PreviewChunkError (List UInt8) := do
  let (kind, channel, identity) ← frameError cancel.stream.wireParts
  ensure (identity.length < 2 ^ 16) .invalidStreamIdentity
  let _ ← okOr (checked (previewCancelFixedHeaderLen + identity.length)) (.lengthOverflow .add)
  pure ([previewCancelFrameTag, previewCancelSchema, kind, channel] ++
    leBytes 2 identity.length ++ leBytes 8 cancel.publicationId.toNat ++ identity)

/-- `decode_bytes` -/
def PreviewCancelFrame.decodeBytes : Except PreviewChunkError PreviewCancelFrame := do
  ensure (previewCancelFixedHeaderLen ≤ input.length) (.tooShort previewCancelFixedHeaderLen input.length)
  ensure (input.getD 0 0 = previewCancelFrameTag) (.unknownTag (input.getD 0 0))
  ensure (input.getD 1 0 = previewCancelSchema) (.unknownSchema (input.getD 1 0))
  let identityLen := ofLe (slice input 4 6)
  let expected ← okOr (checked (previewCancelFixedHeaderLen + identityLen)) (.lengthOverflow .add)
  ensure (input.length = expected) (.messageLengthMismatch expected input.length)
  let stream ← PreviewStreamId.decode (input.getD 2 0) (input.getD 3 0)
    (input.drop previewCancelFixedHeaderLen)
  pure { stream := stream, publicationId := u64At input 6 14 }

/-! ## The splitter -/

/-- `PreviewReassemblyLimits`, and `PreviewTransportLimits` as far as the splitter reads it -/
structure PreviewLimits where
  maxDecodedPublicationBytes : Nat
  maxEncodedPublicationBytes : Nat
  maxConnectionBytes : Nat
  maxIdleMs : Nat
  maxMessageBytes : Nat
  maxReassemblyStateBytes : Nat
  maxTombstoneBytes : Nat

/-- `PreviewReassemblyLimits::default` -/
instance : Inhabited PreviewLimits where
  default :=
    { maxDecodedPublicationBytes := 512 * 1024 * 1024
      maxEncodedPublicationBytes := 512 * 1024 * 1024 + 64 * 1024
      maxConnectionBytes := (512 * 1024 * 1024 + 64 * 1024) * 2
      maxIdleMs := 5000
      maxMessageBytes := 1024 * 1024
      maxReassemblyStateBytes := 8 * 1024 * 1024
      maxTombstoneBytes := 4 * 1024 * 1024 }

/-- `effective_max_chunk_count`: `u32::try_from(..).unwrap_or(u32::MAX)`. -/
def PreviewLimits.effectiveMaxChunkCount (limits : PreviewLimits) : Nat :=
  min limits.maxEncodedPublicationBytes (2 ^ 32 - 1)

variable (encoded : List UInt8) (metadata : PreviewPublicationMetadata)

/-- The chunk at `index`: `encoded.chunks(capacity)` are the slices at multiples of the capacity. -/
def chunkAt (capacity : Nat) (chunkCount : UInt32) (totalEncodedBytes : UInt64) (index : Nat) :
    Except PreviewChunkError (List UInt8) := do
  let offset ← okOr (checked (index * capacity)) (.lengthOverflow .mul)
  let chunkOffset ← tryU64 offset
  let chunkIndex ← tryU32 index
  PreviewChunkFrame.tryEncode
    { metadata := metadata
      totalEncodedBytes := totalEncodedBytes
      chunkOffset := chunkOffset
      chunkIndex := chunkIndex
      chunkCount := chunkCount
      payload := (encoded.drop (index * capacity)).take capacity }

/-- `split_preview_publication_with_limits` -/
def splitPreviewPublicationWithLimits (maxMessageBytes : Nat) (limits : PreviewLimits) :
    Except PreviewChunkError (List (List UInt8)) := do
  ensure (encoded.length ≤ limits.maxEncodedPublicationBytes)
    (.publicationBudgetExceeded encoded.length limits.maxEncodedPublicationBytes)
  ensure (maxMessageBytes ≤ limits.maxMessageBytes)
    (.messageBudgetExceeded maxMessageBytes limits.maxMessageBytes)
  let (_, _, identity) ← frameError metadata.stream.wireParts
  let envelopeBytes ← okOr (checked (previewChunkFixedHeaderLen + identity.length)) (.lengthOverflow .add)
  ensure (envelopeBytes < maxMessageBytes)
    (.messageBudgetTooSmall (min (envelopeBytes + 1) Platform.usizeMax) maxMessageBytes)
  let capacity := maxMessageBytes - envelopeBytes
  ensure (encoded ≠ []) .invalidLayout
  let chunkCount := (encoded.length + capacity - 1) / capacity
  let chunkCountU32 ← tryU32 chunkCount
  ensure (chunkCountU32.toNat ≤ limits.effectiveMaxChunkCount)
    (.chunkCountBudgetExceeded chunkCountU32.toNat limits.effectiveMaxChunkCount)
  let totalEncodedBytes ← tryU64 encoded.length
  let _ ← okOr (checked (chunkCount * Platform.bytesSize)) (.lengthOverflow .mul)
  (List.range chunkCount).mapM (chunkAt encoded metadata capacity chunkCountU32 totalEncodedBytes)

end Hypercolor.Preview
