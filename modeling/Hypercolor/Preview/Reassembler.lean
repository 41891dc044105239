import Hypercolor.Preview.Chunks
import Hypercolor.Lib.Table
import Hypercolor.Lib.Machine

/-!
# The preview reassembler

`ws/preview.rs`: `PreviewChunkReassembler` over its native storage `Vec<u8>`, the validators it runs
on the first chunk and on a completed publication, and every operation on it.

* An operation returns the state it leaves with its result, since the source updates its counters
  before and between its early returns.
* The outcomes of the fallible allocations are an argument (`Alloc`). A stream entry cannot be
  reserved when the states of all streams would no longer fit the address space, so the saturating
  counters that add them up do not saturate.
* A `HashMap` is walked in the order of its entries, and a run may reorder them between two calls
  (`machine`).
* The source word `partial` is `partialPub` here.
-/

namespace Hypercolor.Preview

open Lib

variable [Platform]

/-! ## Validators -/

/-- `usize::checked_sub` -/
def checkedSub (a b : Nat) : Option Nat := if b ≤ a then some (a - b) else none

/-- `validate_screen_zones_header_prefix`: whether a prefix of the publication already holds the
whole header, and if it does that the header agrees with the metadata. -/
def validateScreenZonesHeaderPrefix (metadata : PreviewPublicationMetadata)
    (totalEncodedBytes : Nat) (head : List UInt8) (limits : PreviewLimits) :
    Except PreviewChunkError Bool := do
  let tag ← okOr head.head? .invalidLayout
  let headerLen ← okOr (ScreenZonesFrameOf.headerLenOf tag) (.frame (.unknownChannel tag))
  if head.length < headerLen then pure false
  else do
    let header ← frameError (ScreenZonesFrameOf.decodeHeader (head.take headerLen))
    let stop ← frameError (header.endOffset totalEncodedBytes)
    let decodedBytes ← okOr (checkedSub stop header.payload) (.lengthOverflow .sub)
    ensure (decodedBytes ≤ limits.maxDecodedPublicationBytes)
      (.decodedPublicationBudgetExceeded decodedBytes limits.maxDecodedPublicationBytes)
    ensure (header.frameNumber = metadata.frameNumber ∧ header.timestampMs = metadata.timestampMs ∧
      header.sourceWidth = metadata.width ∧ header.sourceHeight = metadata.height) .metadataChanged
    pure true

/-- `identity_publication_header_len` -/
def identityPublicationHeaderLen (identity : String) (layout : IdentityFrameLayout) (wide : Bool) :
    Except PreviewChunkError Nat := do
  frameError (validatePreviewStreamId identity layout.maxIdentityBytes)
  okOr (checked ((if wide then layout.widePrefixLen else layout.prefixLen) + identity.utf8ByteSize))
    (.lengthOverflow .add)

/-- `publication_header_len` -/
def publicationHeaderLen (metadata : PreviewPublicationMetadata) : Except PreviewChunkError Nat :=
  let wide := !compactDimensions metadata.width metadata.height
  match metadata.stream with
  | .passive _ => .ok (if wide then widePreviewFrameHeaderLen else previewFrameHeaderLen)
  | .zone _ _ => .ok (if wide then wideZonePreviewFrameHeaderLen else zonePreviewFrameHeaderLen)
  | .interactive previewId => identityPublicationHeaderLen previewId interactivePreviewLayout wide
  | .display deviceId => identityPublicationHeaderLen deviceId displayPreviewLayout wide
  | .screenZones =>
      if metadata.format ≠ .rgb then .error .metadataChanged
      else .ok (if wide then wideScreenZonesFrameHeaderLen else screenZonesFrameHeaderLen)

/-- The last part of `validate_reassembly_admission`: the length a publication must have, given its
header. -/
def validateTotal (metadata : PreviewPublicationMetadata) (headerLen totalEncodedBytes : Nat) :
    Except PreviewChunkError Unit :=
  match metadata.format.bytesPerPixel with
  | some bytesPerPixel => do
      let payloadLen ← frameError (rawPayloadLen metadata.width metadata.height bytesPerPixel)
      let expected ← okOr (checked (headerLen + payloadLen)) (.lengthOverflow .add)
      ensure (totalEncodedBytes = expected) (.rawPublicationLengthMismatch expected totalEncodedBytes)
  | none => ensure (headerLen < totalEncodedBytes) .invalidLayout

/-- `validate_reassembly_admission`: whether the publication's header needs no further look. -/
def validateReassemblyAdmission (metadata : PreviewPublicationMetadata) (payload : List UInt8)
    (totalEncodedBytes : Nat) (limits : PreviewLimits) : Except PreviewChunkError Bool := do
  ensure (metadata.width ≠ 0 ∧ metadata.height ≠ 0) (.invalidGeometry metadata.width metadata.height)
  if metadata.stream = .screenZones then do
    ensure (metadata.format = .rgb ∧ totalEncodedBytes ≠ 0) .invalidLayout
    let minimumDecodedBytes := totalEncodedBytes - extendedScreenZonesFrameHeaderLen
    ensure (minimumDecodedBytes ≤ limits.maxDecodedPublicationBytes)
      (.decodedPublicationBudgetExceeded minimumDecodedBytes limits.maxDecodedPublicationBytes)
    validateScreenZonesHeaderPrefix metadata totalEncodedBytes
      (payload.take extendedScreenZonesFrameHeaderLen) limits
  else do
    let headerLen ← publicationHeaderLen metadata
    let decodedBytes ← frameError (rawPayloadLen metadata.width metadata.height 4)
    ensure (decodedBytes ≤ limits.maxDecodedPublicationBytes)
      (.decodedPublicationBudgetExceeded decodedBytes limits.maxDecodedPublicationBytes)
    validateTotal metadata headerLen totalEncodedBytes
    pure true

/-- `validate_completed_publication` -/
def validateCompletedPublication (metadata : PreviewPublicationMetadata) (encoded : List UInt8)
    (limits : PreviewLimits) : Except PreviewChunkError Unit := do
  let agrees (frameNumber timestampMs width height : UInt32) (format : PreviewPixelFormat) : Bool :=
    frameNumber = metadata.frameNumber ∧ timestampMs = metadata.timestampMs ∧
      width = metadata.width ∧ height = metadata.height ∧ format = metadata.format
  match metadata.stream with
  | .passive channel => do
      let frame ← frameError (PreviewFrame.decode encoded)
      ensure (frame.channel = channel ∧ agrees frame.frameNumber frame.timestampMs frame.width
        frame.height frame.format) .metadataChanged
  | .zone sceneId zoneId => do
      let frame ← frameError (ZonePreviewFrame.decode encoded)
      ensure (frame.sceneId = sceneId ∧ frame.zoneId = zoneId ∧ agrees frame.frameNumber
        frame.timestampMs frame.width frame.height frame.format) .metadataChanged
  | .interactive previewId => do
      let frame ← frameError (InteractivePreviewFrame.decode encoded)
      ensure (frame.previewId = previewId ∧ agrees frame.frameNumber frame.timestampMs frame.width
        frame.height frame.format) .metadataChanged
  | .display deviceId => do
      let frame ← frameError (DisplayPreviewFrame.decode encoded)
      ensure (frame.deviceId = deviceId ∧ agrees frame.frameNumber frame.timestampMs frame.width
        frame.height frame.format) .metadataChanged
  | .screenZones => do
      let complete ← validateScreenZonesHeaderPrefix metadata encoded.length encoded limits
      ensure complete .metadataChanged

/-! ## State -/

/-- `PartialPreviewPublication` -/
structure PartialPublication where
  metadata : PreviewPublicationMetadata
  totalEncodedBytes : Nat
  chunkCount : Nat
  nextChunkIndex : Nat
  screenZonesHeaderValidated : Bool
  bytes : List UInt8

/-- `PreviewStreamState` -/
structure StreamState where
  highWaterPublicationId : UInt64
  partialPub : Option PartialPublication
  lastActivityMs : Nat
  tombstoneGeneration : Nat

/-- The filter of the source's eviction loops. -/
def StreamState.isTombstone (state : StreamState) : Bool :=
  state.partialPub.isNone ∧ state.tombstoneGeneration ≠ 0

/-- `PreviewChunkReassembler` -/
structure Reassembler where
  limits : PreviewLimits
  streams : Table PreviewStreamId StreamState
  activeStreams : Nat
  tombstones : Nat
  reservedBytes : Nat
  stateBytes : Nat
  tombstoneBytes : Nat
  logicalNowMs : Nat
  nextTombstoneGeneration : Nat
  supersededPublications : Nat
  expiredPublications : Nat

/-- Which of the fallible allocations of an operation succeed: the publication's first storage, room
for a stream entry, and the growth to the publication's full size. -/
structure Alloc where
  capacity : Bool
  streams : Bool
  total : Bool

/-- `usize::saturating_add` -/
def satAdd (a b : Nat) : Nat := min (a + b) Platform.usizeMax

def u64Max : Nat := 2 ^ 64 - 1

/-- `u64::saturating_add` -/
def satAddU64 (a b : Nat) : Nat := min (a + b) u64Max

/-- `preview_stream_state_bytes` -/
def previewStreamStateBytes (stream : PreviewStreamId) : Option Nat :=
  checked (Platform.streamStateBase + stream.identityBytes)

/-- `preview_stream_state_bytes(stream).unwrap_or(usize::MAX)` -/
def stateSize (stream : PreviewStreamId) : Nat :=
  (previewStreamStateBytes stream).getD Platform.usizeMax

namespace Reassembler

/-- `PreviewChunkReassembler::with_limits` -/
def withLimits (limits : PreviewLimits) : Reassembler where
  limits := limits
  streams := ∅
  activeStreams := 0
  tombstones := 0
  reservedBytes := 0
  stateBytes := 0
  tombstoneBytes := 0
  logicalNowMs := 0
  nextTombstoneGeneration := 1
  supersededPublications := 0
  expiredPublications := 0

/-! ## Tombstones -/

/-- The body of `prune_tombstones` and `make_tombstone_room`: the oldest tombstone goes. The
source's two loops share this body; that the generation is not 0 follows from its being the
oldest. -/
def evictOldest (r : Reassembler) : Option Reassembler := do
  let oldest ← ((r.streams.values.filter StreamState.isTombstone).map
    StreamState.tombstoneGeneration).min?
  let entry ← r.streams.entries.find? fun e =>
    e.2.partialPub.isNone ∧ e.2.tombstoneGeneration = oldest
  pure { r with
    streams := r.streams.erase entry.1
    tombstones := r.tombstones - 1
    tombstoneBytes := r.tombstoneBytes - stateSize entry.1 }

/-- Evict while `exceeds` says so. Each turn removes an entry, so the number of entries is enough fuel
and without entries there is nothing left to evict. -/
def evictWhile (exceeds : Reassembler → Bool) : Nat → Reassembler → Reassembler
  | 0, r => r
  | fuel + 1, r =>
      if exceeds r then
        match r.evictOldest with
        | none => r
        | some r' => evictWhile exceeds fuel r'
      else r

/-- `prune_tombstones` -/
def pruneTombstones (r : Reassembler) : Reassembler :=
  evictWhile (fun r => r.limits.maxTombstoneBytes < r.tombstoneBytes) r.streams.entries.length r

/-- `make_tombstone_room` -/
def makeTombstoneRoom (r : Reassembler) (additionalBytes : Nat) : Reassembler :=
  evictWhile (fun r => (checked (r.tombstoneBytes + additionalBytes)).all
      (fun bytes => r.limits.maxTombstoneBytes < bytes) ∧ 0 < r.tombstones)
    r.streams.entries.length r

/-- The early return of `mark_tombstone`: no tombstone of this size is kept. -/
def forget (r : Reassembler) (stream : PreviewStreamId) (wasActive : Bool) : Reassembler :=
  { r with
    stateBytes := if wasActive then r.stateBytes - stateSize stream else r.stateBytes
    streams := r.streams.erase stream }

/-- The last part of `mark_tombstone`, before the pruning -/
def entomb (r : Reassembler) (stream : PreviewStreamId) (state : StreamState) (wasActive : Bool) :
    Reassembler :=
  let isNew := state.tombstoneGeneration = 0
  { r with
    tombstones := if isNew then satAdd r.tombstones 1 else r.tombstones
    stateBytes := if isNew ∧ wasActive then r.stateBytes - stateSize stream else r.stateBytes
    tombstoneBytes :=
      if isNew then satAdd r.tombstoneBytes (stateSize stream) else r.tombstoneBytes
    streams := r.streams.insert stream { state with tombstoneGeneration := r.nextTombstoneGeneration }
    nextTombstoneGeneration := satAddU64 r.nextTombstoneGeneration 1 }

/-- `mark_tombstone`: the stream exists whenever this is called, which the source asserts. -/
def markTombstone (r : Reassembler) (stream : PreviewStreamId) (wasActive : Bool) : Reassembler :=
  let isNew := (r.streams.lookup stream).any fun state => state.tombstoneGeneration = 0
  let r := if isNew then r.makeTombstoneRoom (stateSize stream) else r
  if isNew ∧ r.limits.maxTombstoneBytes < stateSize stream then r.forget stream wasActive
  else
    match r.streams.lookup stream with
    | none => r
    | some state => (r.entomb stream state wasActive).pruneTombstones

/-! ## Expiry -/

/-- What the sweep of `expire_at` counts as it goes. -/
structure Sweep where
  expiredBytes : Nat
  expiredStateBytes : Nat
  expiredPublications : Nat
  nextTombstoneGeneration : Nat
  tombstones : Nat

/-- The loop body of `expire_at` -/
def sweepEntry (maxIdleMs nowMs : Nat) (sweep : Sweep) (stream : PreviewStreamId)
    (state : StreamState) : StreamState × Sweep :=
  match state.partialPub with
  | none => (state, sweep)
  | some pub =>
      if maxIdleMs ≤ nowMs - state.lastActivityMs then
        ({ state with partialPub := none, tombstoneGeneration := sweep.nextTombstoneGeneration },
          { expiredBytes := satAdd sweep.expiredBytes pub.totalEncodedBytes
            expiredStateBytes := satAdd sweep.expiredStateBytes (stateSize stream)
            expiredPublications := satAddU64 sweep.expiredPublications 1
            nextTombstoneGeneration := satAddU64 sweep.nextTombstoneGeneration 1
            tombstones := satAdd sweep.tombstones 1 })
      else (state, sweep)

/-- `expire_at` -/
def expireAt (r : Reassembler) (nowMs : Nat) : Reassembler :=
  let swept := r.streams.mapAccum (sweepEntry r.limits.maxIdleMs nowMs)
    ⟨0, 0, 0, r.nextTombstoneGeneration, r.tombstones⟩
  { r with
    streams := swept.1
    nextTombstoneGeneration := swept.2.nextTombstoneGeneration
    tombstones := swept.2.tombstones
    activeStreams := r.activeStreams - min swept.2.expiredPublications Platform.usizeMax
    reservedBytes := r.reservedBytes - swept.2.expiredBytes
    stateBytes := r.stateBytes - swept.2.expiredStateBytes
    tombstoneBytes := satAdd r.tombstoneBytes swept.2.expiredStateBytes
    expiredPublications := satAddU64 r.expiredPublications swept.2.expiredPublications
  }.pruneTombstones

/-! ## Admission -/

/-- The bytes of all stream states held. -/
def liveBytes (r : Reassembler) : Nat := r.streams.total fun stream _ => stateSize stream

/-- `streams.try_reserve(1)` and the allocation of the entry itself. -/
def canReserve (r : Reassembler) (stream : PreviewStreamId) (alloc : Alloc) : Bool :=
  alloc.streams ∧ r.liveBytes + stateSize stream ≤ Platform.usizeMax

def partialOf (r : Reassembler) (stream : PreviewStreamId) : Option PartialPublication :=
  (r.streams.lookup stream).bind StreamState.partialPub

/-- What an admission has worked out before it changes anything. -/
structure Admission where
  screenZonesHeaderValidated : Bool
  requestedStateBytes : Nat
  requested : Nat

/-- The checks of `admit_partial` -/
def checkAdmission (r : Reassembler) (chunk : PreviewChunkHeader) (payload : List UInt8)
    (totalEncodedBytes : Nat) : Except PreviewChunkError Admission := do
  ensure (chunk.chunkIndex = 0 ∧ chunk.chunkOffset = 0) .missingPublicationStart
  let screenZonesHeaderValidated ←
    validateReassemblyAdmission chunk.metadata payload totalEncodedBytes r.limits
  let existing := r.partialOf chunk.metadata.stream
  let streamStateBytes ← okOr (previewStreamStateBytes chunk.metadata.stream) (.lengthOverflow .add)
  let requestedStateBytes ← okOr
    (checked (r.stateBytes + if existing.isSome then 0 else streamStateBytes))
      (.lengthOverflow .add)
  ensure (requestedStateBytes ≤ r.limits.maxReassemblyStateBytes)
    (.reassemblyStateBudgetExceeded requestedStateBytes r.limits.maxReassemblyStateBytes)
  let retainedBytes ← okOr (checkedSub r.reservedBytes (existing.elim 0 (·.totalEncodedBytes)))
    (.lengthOverflow .sub)
  let requested ← okOr (checked (retainedBytes + totalEncodedBytes)) (.lengthOverflow .add)
  ensure (requested ≤ r.limits.maxConnectionBytes)
    (.connectionBudgetExceeded requested r.limits.maxConnectionBytes)
  pure ⟨screenZonesHeaderValidated, requestedStateBytes, requested⟩

/-- Shared by `admit_partial` and `cancel_publication`: raise the stream's high-water mark and give
back what its partial reserved. -/
def takePartial (r : Reassembler) (stream : PreviewStreamId) (publicationId : UInt64) : Reassembler :=
  match r.streams.lookup stream with
  | none => r
  | some state =>
      { r with
        streams := r.streams.insert stream
          { state with highWaterPublicationId := publicationId, partialPub := none }
        reservedBytes := r.reservedBytes - state.partialPub.elim 0 (·.totalEncodedBytes) }

/-- `initial_reservation` of `admit_partial`: the first storage of a publication whose header is not
known yet is the longest header. -/
def initialReservation (screenZonesHeaderValidated : Bool) (totalEncodedBytes : Nat) : Nat :=
  if screenZonesHeaderValidated then totalEncodedBytes
  else min totalEncodedBytes extendedScreenZonesFrameHeaderLen

/-- The state of a stream whose publication is admitted. -/
def admittedState (chunk : PreviewChunkHeader) (admission : Admission)
    (totalEncodedBytes nowMs : Nat) : StreamState where
  highWaterPublicationId := chunk.metadata.publicationId
  partialPub := some
    { metadata := chunk.metadata
      totalEncodedBytes := totalEncodedBytes
      chunkCount := chunk.chunkCount.toNat
      nextChunkIndex := 0
      screenZonesHeaderValidated := admission.screenZonesHeaderValidated
      bytes := [] }
  lastActivityMs := nowMs
  tombstoneGeneration := 0

/-- The last part of `admit_partial`, where nothing fails any more -/
def admitState (r : Reassembler) (existing : Option StreamState) (stream : PreviewStreamId)
    (state : StreamState) (admission : Admission) : Reassembler :=
  let existingIsActive := existing.any (·.partialPub.isSome)
  let existingIsTombstone := existing.any (·.partialPub.isNone)
  { r with
    tombstones := if existingIsTombstone then r.tombstones - 1 else r.tombstones
    tombstoneBytes :=
      if existingIsTombstone then r.tombstoneBytes - stateSize stream else r.tombstoneBytes
    streams := r.streams.insert stream state
    supersededPublications :=
      if existingIsActive then satAddU64 r.supersededPublications 1 else r.supersededPublications
    activeStreams := if existingIsActive then r.activeStreams else satAdd r.activeStreams 1
    stateBytes := if existingIsActive then r.stateBytes else admission.requestedStateBytes
    reservedBytes := admission.requested }

variable (r : Reassembler) (alloc : Alloc) (chunk : PreviewChunkHeader) (payload : List UInt8)

/-- `admit_partial` -/
def admitPartial (totalEncodedBytes nowMs : Nat) : Reassembler × Except PreviewChunkError Unit :=
  match r.checkAdmission chunk payload totalEncodedBytes with
  | .error error => (r, .error error)
  | .ok admission =>
      let stream := chunk.metadata.stream
      let existing := r.streams.lookup stream
      let r := r.takePartial stream chunk.metadata.publicationId
      if ¬ alloc.capacity then
        (if existing.any (·.partialPub.isSome) then
            { r with activeStreams := r.activeStreams - 1 }.markTombstone stream true
          else r,
          .error (.allocationFailed
            (initialReservation admission.screenZonesHeaderValidated totalEncodedBytes)))
      else if existing.isNone ∧ ¬ r.canReserve stream alloc then
        (r, .error (.allocationFailed 0))
      else
        (r.admitState existing stream (admittedState chunk admission totalEncodedBytes nowMs) admission,
          .ok ())

/-! ## Appending -/

/-- The middle part of `append_chunk`: whether the header of a screen-zones publication is validated
once the payload is there. -/
def validateAppended (limits : PreviewLimits) (alloc : Alloc) (pub : PartialPublication)
    (payload : List UInt8) : Except PreviewChunkError Bool :=
  if pub.screenZonesHeaderValidated then .ok true
  else do
    let available ← okOr (checked (pub.bytes.length + payload.length)) (.lengthOverflow .add)
    let complete ← validateScreenZonesHeaderPrefix pub.metadata pub.totalEncodedBytes
      ((pub.bytes ++ payload).take (min available extendedScreenZonesFrameHeaderLen)) limits
    if complete then do
      ensure (pub.bytes.length ≤ pub.totalEncodedBytes) (.lengthOverflow .bound)
      ensure alloc.total (.allocationFailed pub.totalEncodedBytes)
      pure true
    else pure false

/-- The checks of `append_chunk` -/
def checkAppend (limits : PreviewLimits) (alloc : Alloc) (pub : PartialPublication)
    (chunk : PreviewChunkHeader) (payload : List UInt8) (totalEncodedBytes : Nat) :
    Except PreviewChunkError Bool := do
  ensure (pub.metadata = chunk.metadata ∧ pub.totalEncodedBytes = totalEncodedBytes ∧
    pub.chunkCount = chunk.chunkCount.toNat) .metadataChanged
  ensure (pub.nextChunkIndex ≤ chunk.chunkIndex.toNat) .duplicateChunk
  let expectedOffset ← tryU64 pub.bytes.length
  ensure (chunk.chunkIndex.toNat = pub.nextChunkIndex ∧ chunk.chunkOffset = expectedOffset)
    .nonContiguousChunk
  validateAppended limits alloc pub payload

/-- The last part of `append_chunk`: the publication is complete: its stream becomes a tombstone. -/
def completePublication (r : Reassembler) (stream : PreviewStreamId) (state : StreamState)
    (pub : PartialPublication) :
    Reassembler × Except PreviewChunkError (Option (PreviewPublicationMetadata × List UInt8)) :=
  let taken := { r with streams := r.streams.insert stream { state with partialPub := none } }
  match checkedSub r.reservedBytes pub.totalEncodedBytes with
  | none => (taken, .error (.lengthOverflow .sub))
  | some reservedBytes =>
      ({ taken with
          reservedBytes := reservedBytes
          activeStreams := r.activeStreams - 1 }.markTombstone stream true,
        .ok (some (pub.metadata, pub.bytes)))

/-- The partial after one more chunk. -/
def grow (pub : PartialPublication) (screenZonesHeaderValidated : Bool) (payload : List UInt8) :
    PartialPublication :=
  { pub with
    screenZonesHeaderValidated := screenZonesHeaderValidated
    bytes := pub.bytes ++ payload
    nextChunkIndex := pub.nextChunkIndex + 1 }

/-- `append_chunk` -/
def appendChunk (r : Reassembler) (alloc : Alloc) (stream : PreviewStreamId)
    (chunk : PreviewChunkHeader) (payload : List UInt8) (totalEncodedBytes nowMs : Nat) :
    Reassembler × Except PreviewChunkError (Option (PreviewPublicationMetadata × List UInt8)) :=
  match r.streams.lookup stream with
  | none => (r, .error .missingPublicationStart)
  | some state =>
    match state.partialPub with
    | none => (r, .error .duplicateChunk)
    | some pub =>
      match checkAppend r.limits alloc pub chunk payload totalEncodedBytes with
      | .error error => (r, .error error)
      | .ok screenZonesHeaderValidated =>
        let grown := grow pub screenZonesHeaderValidated payload
        if 2 ^ 32 ≤ grown.nextChunkIndex then
          -- The bytes are appended before the index overflows.
          let grown := { grown with nextChunkIndex := pub.nextChunkIndex }
          ({ r with streams := r.streams.insert stream { state with partialPub := some grown } },
            .error (.lengthOverflow .add))
        else
          let state := { state with partialPub := some grown, lastActivityMs := nowMs }
          let stored := { r with streams := r.streams.insert stream state }
          if grown.nextChunkIndex ≠ grown.chunkCount then (stored, .ok none)
          else if grown.bytes.length ≠ grown.totalEncodedBytes then
            (stored, .error .nonContiguousChunk)
          else r.completePublication stream state grown

/-! ## Operations -/

/-- `push_parts` -/
def pushParts (nowMs : Nat) :
    Reassembler × Except PreviewChunkError (Option (PreviewPublicationMetadata × List UInt8)) :=
  let maxChunkCount := r.limits.effectiveMaxChunkCount
  if maxChunkCount < chunk.chunkCount.toNat then
    (r, .error (.chunkCountBudgetExceeded chunk.chunkCount.toNat maxChunkCount))
  else
    match checked chunk.totalEncodedBytes.toNat with
    | none => (r, .error (.lengthOverflow .convert))
    | some totalEncodedBytes =>
      if r.limits.maxEncodedPublicationBytes < totalEncodedBytes then
        (r, .error (.publicationBudgetExceeded totalEncodedBytes r.limits.maxEncodedPublicationBytes))
      else
        let stream := chunk.metadata.stream
        let publicationId := chunk.metadata.publicationId
        let state := r.streams.lookup stream
        match state.filter fun state => publicationId < state.highWaterPublicationId ∨
            (publicationId = state.highWaterPublicationId ∧ state.partialPub.isNone) with
        | some state =>
            (r, .error (.stalePublication publicationId state.highWaterPublicationId))
        | none =>
          if state.all fun state => state.highWaterPublicationId < publicationId then
            match r.admitPartial alloc chunk payload totalEncodedBytes nowMs with
            | (r, .error error) => (r, .error error)
            | (r, .ok ()) => r.appendChunk alloc stream chunk payload totalEncodedBytes nowMs
          else r.appendChunk alloc stream chunk payload totalEncodedBytes nowMs

/-- `begin_push` -/
def beginPush (r : Reassembler) (messageLen nowMs : Nat) : Reassembler × Except PreviewChunkError Unit :=
  ({ r with logicalNowMs := max r.logicalNowMs nowMs }.expireAt nowMs,
    ensure (messageLen ≤ r.limits.maxMessageBytes)
      (.messageBudgetExceeded messageLen r.limits.maxMessageBytes))

end Reassembler

/-- `ReassembledPreviewPublication` -/
structure ReassembledPreviewPublication where
  metadata : PreviewPublicationMetadata
  encoded : List UInt8
deriving DecidableEq

namespace Reassembler

/-- The caller's part of `push_at`, after `push_parts` -/
def validateResult (limits : PreviewLimits) :
    Except PreviewChunkError (Option (PreviewPublicationMetadata × List UInt8)) →
      Except PreviewChunkError (Option ReassembledPreviewPublication)
  | .error error => .error error
  | .ok none => .ok none
  | .ok (some (metadata, encoded)) => do
      validateCompletedPublication metadata encoded limits
      pure (some ⟨metadata, encoded⟩)

variable (r : Reassembler)

/-- `push_at` -/
def pushAt (alloc : Alloc) (encodedChunk : List UInt8) (nowMs : Nat) :
    Reassembler × Except PreviewChunkError (Option ReassembledPreviewPublication) :=
  match r.beginPush encodedChunk.length nowMs with
  | (r, .error error) => (r, .error error)
  | (r, .ok ()) =>
    match PreviewChunkHeader.decodePrefix encodedChunk encodedChunk.length with
    | .error error => (r, .error error)
    | .ok (header, payloadOffset) =>
      let pushed := r.pushParts alloc header (encodedChunk.drop payloadOffset) nowMs
      (pushed.1, validateResult r.limits pushed.2)

/-- `push` -/
def push (alloc : Alloc) (encodedChunk : List UInt8) :
    Reassembler × Except PreviewChunkError (Option ReassembledPreviewPublication) :=
  let nowMs := satAddU64 r.logicalNowMs 1
  { r with logicalNowMs := nowMs }.pushAt alloc encodedChunk nowMs

/-- `cancel_publication` -/
def cancelPublication (alloc : Alloc) (cancellation : PreviewCancelFrame) :
    Reassembler × Except PreviewChunkError Bool :=
  match r.streams.lookup cancellation.stream with
  | none =>
      if ¬ r.canReserve cancellation.stream alloc then (r, .error (.allocationFailed 0))
      else
        ({ r with
          streams := r.streams.insert cancellation.stream
            { highWaterPublicationId := cancellation.publicationId
              partialPub := none
              lastActivityMs := r.logicalNowMs
              tombstoneGeneration := 0 } }.markTombstone cancellation.stream false, .ok false)
  | some state =>
      if cancellation.publicationId < state.highWaterPublicationId then (r, .ok false)
      else
        let cancelled := state.partialPub.isSome
        let r := r.takePartial cancellation.stream cancellation.publicationId
        ({ r with
          activeStreams := if cancelled then r.activeStreams - 1 else r.activeStreams
          }.markTombstone cancellation.stream cancelled, .ok cancelled)

/-- `clear` -/
def clear : Reassembler :=
  { r with
    streams := ∅
    activeStreams := 0
    tombstones := 0
    reservedBytes := 0
    stateBytes := 0
    tombstoneBytes := 0 }

/-! ## Runs -/

/-- A call, with the outcomes of its allocations. -/
inductive Op where
  | push (encodedChunk : List UInt8) (alloc : Alloc)
  | pushAt (encodedChunk : List UInt8) (nowMs : Nat) (alloc : Alloc)
  | expireAt (nowMs : Nat)
  | cancelPublication (cancellation : PreviewCancelFrame) (alloc : Alloc)
  | clear

/-- The state a call leaves. -/
def apply : Op → Reassembler
  | .push encodedChunk alloc => (r.push alloc encodedChunk).1
  | .pushAt encodedChunk nowMs alloc => (r.pushAt alloc encodedChunk nowMs).1
  | .expireAt nowMs => r.expireAt nowMs
  | .cancelPublication cancellation alloc => (r.cancelPublication alloc cancellation).1
  | .clear => r.clear

/-- A new reassembler and any sequence of calls. The label `none` is no call: the table shows its
entries in another order from here on. -/
def machine (limits : PreviewLimits) : Machine Reassembler (Option Op) where
  init r := r = withLimits limits
  step r label r' :=
    match label with
    | some op => r' = r.apply op
    | none => ∃ streams : Table PreviewStreamId StreamState,
        streams.entries.Perm r.streams.entries ∧ r' = { r with streams := streams }

end Reassembler

end Hypercolor.Preview
