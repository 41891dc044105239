import Hypercolor.Lib.Bytes
import Hypercolor.Lib.Fallible

/-!
# Preview frames on the wire

`hypercolor-leptos-ext`: the five frame kinds of `ws/preview.rs` with their encoders and decoders.

* Each kind has a compact layout with 16-bit dimensions and a wide one with 32-bit dimensions under
  a tag of its own; the screen zones have a third. A header is a fixed run of little-endian fields,
  the identity and the payload follow it.
* `usize` is a parameter (`Platform`): sizes are naturals, and every checked operation of the source
  is a comparison with `usizeMax`. The allocations of the encoders succeed.
* `decode` and `decode_bytes` differ in whether the payload is copied and are one function here. The
  browser's array views are left out.
-/

namespace Hypercolor.Preview

open Lib

/-- The target the crate is built for. -/
class Platform where
  /-- `usize::MAX`. -/
  usizeMax : Nat
  usizeMax_lt : usizeMax < 2 ^ 64
  /-- `size_of::<Bytes>()`. -/
  bytesSize : Nat
  /-- `size_of` of a stream table entry, of a pair of counters and of a `PreviewStreamId`. -/
  streamStateBase : Nat
  streamStateBase_pos : 0 < streamStateBase
  streamStateBase_le : streamStateBase ≤ usizeMax

/-- A 64-bit desktop. -/
@[reducible]
def Platform.desktop : Platform where
  usizeMax := 2 ^ 64 - 1
  usizeMax_lt := by decide
  bytesSize := 32
  streamStateBase := 208
  streamStateBase_pos := by decide
  streamStateBase_le := by decide

variable [Platform]

/-- `usize::checked_add` and `usize::checked_mul`: the exact result if it is a `usize`. -/
def checked (n : Nat) : Option Nat := if n ≤ Platform.usizeMax then some n else none

/-- `Option::ok_or` -/
def okOr {α ε : Type} (o : Option α) (error : ε) : Except ε α := o.elim (.error error) .ok

/-- `if !condition { return Err(error) }` -/
def ensure {ε : Type} (condition : Bool) (error : ε) : Except ε Unit :=
  if condition then .ok () else .error error

/-! ## Tags and lengths -/

def previewFrameHeaderLen : Nat := 14
def widePreviewFrameHeaderLen : Nat := 19
def widePreviewFrameTag : UInt8 := 0x0B
def zonePreviewFrameHeaderLen : Nat := 46
def zonePreviewFrameTag : UInt8 := 0x08
def wideZonePreviewFrameHeaderLen : Nat := 50
def wideZonePreviewFrameTag : UInt8 := 0x0C
def screenZonesFrameHeaderLen : Nat := 19
def screenZonesFrameTag : UInt8 := 0x09
def wideScreenZonesFrameHeaderLen : Nat := 23
def wideScreenZonesFrameTag : UInt8 := 0x0E
def extendedScreenZonesFrameHeaderLen : Nat := 41
def extendedScreenZonesFrameTag : UInt8 := 0x11
def interactivePreviewFrameTag : UInt8 := 0x0A
def wideInteractivePreviewFrameTag : UInt8 := 0x0D
def displayPreviewFrameTag : UInt8 := 0x07
def wideDisplayPreviewFrameTag : UInt8 := 0x12

/-- `PreviewFrameChannel` -/
inductive PreviewFrameChannel where
  | canvas
  | screenCanvas
  | webViewportCanvas
deriving DecidableEq

/-- `PreviewPixelFormat` -/
inductive PreviewPixelFormat where
  | rgb
  | rgba
  | jpeg
deriving DecidableEq

/-- `PreviewFrameDecodeError` -/
inductive PreviewFrameDecodeError where
  | tooShort (expected actual : Nat)
  | unknownChannel (actual : UInt8)
  | unknownPixelFormat (actual : UInt8)
  | dimensionsOverflow
  | payloadTooShort (expected actual : Nat)
  | payloadLengthMismatch (expected actual : Nat)
  | jpegDimensionsUnavailable
  | jpegDimensionsMismatch (expectedWidth expectedHeight actualWidth actualHeight : UInt32)
  | emptyPreviewId
  | previewIdTooLong (maximum actual : Nat)
  | invalidPreviewIdUtf8
  | invalidPreviewIdCharacter
deriving DecidableEq

/-- `tag` -/
def PreviewFrameChannel.tag : PreviewFrameChannel → UInt8
  | .canvas => 0x03
  | .screenCanvas => 0x05
  | .webViewportCanvas => 0x06

/-- `try_from` -/
def PreviewFrameChannel.tryFrom (value : UInt8) : Except PreviewFrameDecodeError PreviewFrameChannel :=
  if value = 0x03 then .ok .canvas
  else if value = 0x05 then .ok .screenCanvas
  else if value = 0x06 then .ok .webViewportCanvas
  else .error (.unknownChannel value)

/-- `tag` -/
def PreviewPixelFormat.tag : PreviewPixelFormat → UInt8
  | .rgb => 0
  | .rgba => 1
  | .jpeg => 2

/-- `try_from` -/
def PreviewPixelFormat.tryFrom (value : UInt8) : Except PreviewFrameDecodeError PreviewPixelFormat :=
  if value = 0 then .ok .rgb
  else if value = 1 then .ok .rgba
  else if value = 2 then .ok .jpeg
  else .error (.unknownPixelFormat value)

/-- `bytes_per_pixel` -/
def PreviewPixelFormat.bytesPerPixel : PreviewPixelFormat → Option Nat
  | .rgb => some 3
  | .rgba => some 4
  | .jpeg => none

/-! ## Payloads -/

variable (width height : UInt32)

/-- `raw_payload_len` -/
def rawPayloadLen (bytesPerPixel : Nat) : Except PreviewFrameDecodeError Nat := do
  let width ← okOr (checked width.toNat) .dimensionsOverflow
  let height ← okOr (checked height.toNat) .dimensionsOverflow
  let pixels ← okOr (checked (width * height)) .dimensionsOverflow
  okOr (checked (pixels * bytesPerPixel)) .dimensionsOverflow

/-- `u16::from_be_bytes` of the two bytes at `offset`, if they are there. -/
def be16At (payload : List UInt8) (offset : Nat) : Option Nat := do
  let hi ← payload[offset]?
  let lo ← payload[offset + 1]?
  pure (256 * hi.toNat + lo.toNat)

/-- The markers that carry the frame's dimensions. -/
def isStartOfFrame (marker : UInt8) : Bool :=
  marker ∈ [0xC0, 0xC1, 0xC2, 0xC3, 0xC5, 0xC6, 0xC7, 0xC9, 0xCA, 0xCB, 0xCD, 0xCE, 0xCF]

/-- `jpeg_dimensions_from_reader`: the loop over the segments of a JPEG from `offset` on. Every turn
moves `offset` forward, so the length of the payload is enough fuel and running out of it is the
loop's own end. -/
def jpegSegments (payload : List UInt8) : Nat → Nat → Except PreviewFrameDecodeError (UInt32 × UInt32)
  | 0, _ => .error .jpegDimensionsUnavailable
  | fuel + 1, offset =>
      if payload.length ≤ offset then .error .jpegDimensionsUnavailable
      else do
        let offset := offset + ((payload.drop offset).takeWhile (· = 0xFF)).length
        let marker ← okOr payload[offset]? .jpegDimensionsUnavailable
        let offset := offset + 1
        if marker = 0x00 ∨ marker = 0xD8 ∨ marker = 0xD9 ∨ (0xD0 ≤ marker ∧ marker ≤ 0xD7) then
          jpegSegments payload fuel offset
        else do
          ensure (marker ≠ 0xDA) .jpegDimensionsUnavailable
          let segmentLen ← okOr (be16At payload offset) .jpegDimensionsUnavailable
          ensure (2 ≤ segmentLen) .jpegDimensionsUnavailable
          let segmentEnd ← okOr (checked (offset + segmentLen)) .dimensionsOverflow
          ensure (segmentEnd ≤ payload.length) .jpegDimensionsUnavailable
          if isStartOfFrame marker then do
            ensure (7 ≤ segmentLen) .jpegDimensionsUnavailable
            let height ← okOr (be16At payload (offset + 3)) .jpegDimensionsUnavailable
            let width ← okOr (be16At payload (offset + 5)) .jpegDimensionsUnavailable
            ensure (width ≠ 0 ∧ height ≠ 0) .jpegDimensionsUnavailable
            pure (UInt32.ofNat width, UInt32.ofNat height)
          else jpegSegments payload fuel segmentEnd

/-- `jpeg_dimensions` -/
def jpegDimensions (payload : List UInt8) : Except PreviewFrameDecodeError (UInt32 × UInt32) :=
  if payload[0]? ≠ some 0xFF ∨ payload[1]? ≠ some 0xD8 then .error .jpegDimensionsUnavailable
  else jpegSegments payload payload.length 2

/-- `validate_payload` -/
def validatePayload (format : PreviewPixelFormat) (payload : List UInt8) :
    Except PreviewFrameDecodeError Unit :=
  match format.bytesPerPixel with
  | some bytesPerPixel => do
      let expected ← rawPayloadLen width height bytesPerPixel
      ensure (payload.length = expected) (.payloadLengthMismatch expected payload.length)
  | none => do
      let actual ← jpegDimensions payload
      ensure (actual.1 = width ∧ actual.2 = height)
        (.jpegDimensionsMismatch width height actual.1 actual.2)

/-- `char::is_control`: the Unicode category `Cc`. -/
def isControl (c : Char) : Bool := c.toNat < 32 ∨ (127 ≤ c.toNat ∧ c.toNat < 160)

/-- `validate_preview_stream_id` -/
def validatePreviewStreamId (id : String) (maximum : Nat) : Except PreviewFrameDecodeError Unit :=
  if id.isEmpty then .error .emptyPreviewId
  else if maximum < id.utf8ByteSize then .error (.previewIdTooLong maximum id.utf8ByteSize)
  else if id.toList.any isControl then .error .invalidPreviewIdCharacter
  else .ok ()

/-! ## Headers -/

/-- Dimensions that fit the compact layouts. -/
def compactDimensions : Bool :=
  width.toNat ≤ 0xFFFF ∧ height.toNat ≤ 0xFFFF

/-- `put_u16_le` or `put_u32_le` of both dimensions. -/
def dimensionBytes : List UInt8 :=
  if compactDimensions width height then leBytes 2 width.toNat ++ leBytes 2 height.toNat
  else leBytes 4 width.toNat ++ leBytes 4 height.toNat

/-- `u32::from_le_bytes` or `u32::from(u16::from_le_bytes(..))` of `input[start..stop]`. -/
def u32At (input : List UInt8) (start stop : Nat) : UInt32 := UInt32.ofNat (ofLe (slice input start stop))

/-- `PreviewFrameHeader`, `ZonePreviewFrameHeader`, `IdentityFrameHeader`: a decoded header;
`identity` is what the frame kind is identified by. -/
structure FrameHeader (I : Type) where
  identity : I
  frameNumber : UInt32
  timestampMs : UInt32
  width : UInt32
  height : UInt32
  format : PreviewPixelFormat
  payloadOffset : Nat

/-- The payload a header announces: raw pixels have their exact size, a JPEG is what is there. -/
def FrameHeader.payloadLen {I : Type} (header : FrameHeader I) (inputLen : Nat) :
    Except PreviewFrameDecodeError Nat :=
  match header.format.bytesPerPixel with
  | some bytesPerPixel => rawPayloadLen header.width header.height bytesPerPixel
  | none => .ok (inputLen - header.payloadOffset)

/-- The `end_offset` of the three headers -/
def FrameHeader.endOffset {I : Type} (header : FrameHeader I) (inputLen : Nat) :
    Except PreviewFrameDecodeError Nat := do
  let payloadLen ← header.payloadLen inputLen
  let stop ← okOr (checked (header.payloadOffset + payloadLen)) .dimensionsOverflow
  ensure (stop ≤ inputLen) (.payloadTooShort payloadLen (inputLen - header.payloadOffset))
  ensure (header.format.bytesPerPixel.isNone ∨ inputLen = stop)
    (.payloadLengthMismatch payloadLen (inputLen - header.payloadOffset))
  pure stop

/-- The common part of the four `decode` functions: the payload a header delimits, validated. -/
def FrameHeader.payload {I : Type} (header : FrameHeader I) (input : List UInt8) :
    Except PreviewFrameDecodeError (List UInt8) := do
  let stop ← header.endOffset input.length
  let payload := slice input header.payloadOffset stop
  validatePayload header.width header.height header.format payload
  pure payload

/-! ## Passive previews -/

/-- `PreviewFrame` -/
structure PreviewFrame where
  channel : PreviewFrameChannel
  frameNumber : UInt32
  timestampMs : UInt32
  width : UInt32
  height : UInt32
  format : PreviewPixelFormat
  payload : List UInt8

namespace PreviewFrame

/-- `header_len` -/
def headerLen (frame : PreviewFrame) : Nat :=
  if compactDimensions frame.width frame.height then previewFrameHeaderLen
  else widePreviewFrameHeaderLen

/-- `try_encode` -/
def tryEncode (frame : PreviewFrame) : Except PreviewFrameDecodeError (List UInt8) := do
  validatePayload frame.width frame.height frame.format frame.payload
  let _ ← okOr (checked (frame.headerLen + frame.payload.length)) .dimensionsOverflow
  let tag := if compactDimensions frame.width frame.height then [frame.channel.tag]
    else [widePreviewFrameTag, frame.channel.tag]
  pure (tag ++ leBytes 4 frame.frameNumber.toNat ++ leBytes 4 frame.timestampMs.toNat ++
    dimensionBytes frame.width frame.height ++ [frame.format.tag] ++ frame.payload)

/-- `PreviewFrameHeader::decode`: the header in the compact or the wide layout. -/
def decodeLayout (wide : Bool) (input : List UInt8) :
    Except PreviewFrameDecodeError (FrameHeader PreviewFrameChannel) := do
  let headerLen := if wide then widePreviewFrameHeaderLen else previewFrameHeaderLen
  ensure (headerLen ≤ input.length) (.tooShort headerLen input.length)
  let metadataOffset := if wide then 1 else 0
  let dimensionsOffset := 9 + metadataOffset
  let side := if wide then 4 else 2
  let channel ← PreviewFrameChannel.tryFrom (input.getD metadataOffset 0)
  let format ← PreviewPixelFormat.tryFrom (input.getD (dimensionsOffset + 2 * side) 0)
  pure
    { identity := channel
      frameNumber := u32At input (1 + metadataOffset) (5 + metadataOffset)
      timestampMs := u32At input (5 + metadataOffset) (9 + metadataOffset)
      width := u32At input dimensionsOffset (dimensionsOffset + side)
      height := u32At input (dimensionsOffset + side) (dimensionsOffset + 2 * side)
      format := format
      payloadOffset := headerLen }

/-- `PreviewFrameHeader::decode` -/
def decodeHeader (input : List UInt8) :
    Except PreviewFrameDecodeError (FrameHeader PreviewFrameChannel) :=
  decodeLayout (input.head? = some widePreviewFrameTag) input

/-- `decode` -/
def decode (input : List UInt8) : Except PreviewFrameDecodeError PreviewFrame := do
  let header ← decodeHeader input
  let payload ← header.payload input
  pure
    { channel := header.identity
      frameNumber := header.frameNumber
      timestampMs := header.timestampMs
      width := header.width
      height := header.height
      format := header.format
      payload := payload }

end PreviewFrame

/-! ## Zone previews -/

/-- `[u8; 16]` -/
abbrev Bytes16 := Fin 16 → UInt8

/-- `ZonePreviewFrame` -/
structure ZonePreviewFrame where
  sceneId : Bytes16
  zoneId : Bytes16
  frameNumber : UInt32
  timestampMs : UInt32
  width : UInt32
  height : UInt32
  format : PreviewPixelFormat
  payload : List UInt8

/-- The sixteen bytes of a list from `start` on. -/
def bytes16At (input : List UInt8) (start : Nat) : Bytes16 := fun i => input.getD (start + i) 0

namespace ZonePreviewFrame

/-- `header_len` -/
def headerLen (frame : ZonePreviewFrame) : Nat :=
  if compactDimensions frame.width frame.height then zonePreviewFrameHeaderLen
  else wideZonePreviewFrameHeaderLen

/-- `try_encode` -/
def tryEncode (frame : ZonePreviewFrame) : Except PreviewFrameDecodeError (List UInt8) := do
  validatePayload frame.width frame.height frame.format frame.payload
  let _ ← okOr (checked (frame.headerLen + frame.payload.length)) .dimensionsOverflow
  let tag := if compactDimensions frame.width frame.height then zonePreviewFrameTag
    else wideZonePreviewFrameTag
  pure ([tag] ++ leBytes 4 frame.frameNumber.toNat ++ leBytes 4 frame.timestampMs.toNat ++
    List.ofFn frame.sceneId ++ List.ofFn frame.zoneId ++
    dimensionBytes frame.width frame.height ++ [frame.format.tag] ++ frame.payload)

/-- `ZonePreviewFrameHeader::decode`: the header in the compact or the wide layout. -/
def decodeLayout (wide : Bool) (input : List UInt8) :
    Except PreviewFrameDecodeError (FrameHeader (Bytes16 × Bytes16)) := do
  let headerLen := if wide then wideZonePreviewFrameHeaderLen else zonePreviewFrameHeaderLen
  ensure (headerLen ≤ input.length) (.tooShort headerLen input.length)
  ensure (input.getD 0 0 = zonePreviewFrameTag ∨ wide) (.unknownChannel (input.getD 0 0))
  let side := if wide then 4 else 2
  let format ← PreviewPixelFormat.tryFrom (input.getD (41 + 2 * side) 0)
  pure
    { identity := (bytes16At input 9, bytes16At input 25)
      frameNumber := u32At input 1 5
      timestampMs := u32At input 5 9
      width := u32At input 41 (41 + side)
      height := u32At input (41 + side) (41 + 2 * side)
      format := format
      payloadOffset := headerLen }

/-- `ZonePreviewFrameHeader::decode` -/
def decodeHeader (input : List UInt8) :
    Except PreviewFrameDecodeError (FrameHeader (Bytes16 × Bytes16)) :=
  decodeLayout (input.head? = some wideZonePreviewFrameTag) input

/-- `decode` -/
def decode (input : List UInt8) : Except PreviewFrameDecodeError ZonePreviewFrame := do
  let header ← decodeHeader input
  let payload ← header.payload input
  pure
    { sceneId := header.identity.1
      zoneId := header.identity.2
      frameNumber := header.frameNumber
      timestampMs := header.timestampMs
      width := header.width
      height := header.height
      format := header.format
      payload := payload }

end ZonePreviewFrame

/-! ## Interactive and display previews -/

/-- `IdentityFrameLayout`: what distinguishes one identity-prefixed family. -/
structure IdentityFrameLayout where
  tag : UInt8
  wideTag : UInt8
  prefixLen : Nat
  widePrefixLen : Nat
  maxIdentityBytes : Nat

/-- `INTERACTIVE_PREVIEW_LAYOUT` -/
def interactivePreviewLayout : IdentityFrameLayout where
  tag := interactivePreviewFrameTag
  wideTag := wideInteractivePreviewFrameTag
  prefixLen := 15
  widePrefixLen := 19
  maxIdentityBytes := 128

/-- `DISPLAY_PREVIEW_LAYOUT` -/
def displayPreviewLayout : IdentityFrameLayout where
  tag := displayPreviewFrameTag
  wideTag := wideDisplayPreviewFrameTag
  prefixLen := 15
  widePrefixLen := 19
  maxIdentityBytes := 128

variable (layout : IdentityFrameLayout)

/-- The `prefix_len` of both families -/
def IdentityFrameLayout.lenFor (width height : UInt32) : Nat :=
  if compactDimensions width height then layout.prefixLen else layout.widePrefixLen

/-- `IdentityFrameHeader::decode`: the header in the compact or the wide layout. -/
def IdentityFrameLayout.decodeLayout (wide : Bool)
    (input : List UInt8) : Except PreviewFrameDecodeError (FrameHeader String) := do
  let prefixLen := if wide then layout.widePrefixLen else layout.prefixLen
  ensure (prefixLen ≤ input.length) (.tooShort prefixLen input.length)
  ensure (input.getD 0 0 = layout.tag ∨ wide) (.unknownChannel (input.getD 0 0))
  let idLen := (input.getD 1 0).toNat
  ensure (idLen ≠ 0) .emptyPreviewId
  ensure (idLen ≤ layout.maxIdentityBytes) (.previewIdTooLong layout.maxIdentityBytes idLen)
  let payloadOffset ← okOr (checked (prefixLen + idLen)) .dimensionsOverflow
  ensure (payloadOffset ≤ input.length) (.tooShort payloadOffset input.length)
  let identity ← okOr (ofUtf8 (slice input prefixLen payloadOffset)) .invalidPreviewIdUtf8
  validatePreviewStreamId identity layout.maxIdentityBytes
  let side := if wide then 4 else 2
  let format ← PreviewPixelFormat.tryFrom (input.getD (10 + 2 * side) 0)
  pure
    { identity := identity
      frameNumber := u32At input 2 6
      timestampMs := u32At input 6 10
      width := u32At input 10 (10 + side)
      height := u32At input (10 + side) (10 + 2 * side)
      format := format
      payloadOffset := payloadOffset }

/-- `IdentityFrameHeader::decode` -/
def IdentityFrameLayout.decodeHeader (input : List UInt8) :
    Except PreviewFrameDecodeError (FrameHeader String) :=
  layout.decodeLayout (input.head? = some layout.wideTag) input

/-- `InteractivePreviewFrame` -/
structure InteractivePreviewFrame where
  previewId : String
  frameNumber : UInt32
  timestampMs : UInt32
  width : UInt32
  height : UInt32
  format : PreviewPixelFormat
  payload : List UInt8

/-- `DisplayPreviewFrame` -/
structure DisplayPreviewFrame where
  deviceId : String
  frameNumber : UInt32
  timestampMs : UInt32
  width : UInt32
  height : UInt32
  format : PreviewPixelFormat
  payload : List UInt8

/-- `InteractivePreviewFrame::encode`, `DisplayPreviewFrame::encode`: the encoder both families
share. -/
def IdentityFrameLayout.encode (identity : String)
    (frameNumber timestampMs width height : UInt32) (format : PreviewPixelFormat)
    (payload : List UInt8) : Except PreviewFrameDecodeError (List UInt8) := do
  validatePreviewStreamId identity layout.maxIdentityBytes
  ensure (identity.utf8ByteSize < 256) (.previewIdTooLong layout.maxIdentityBytes identity.utf8ByteSize)
  validatePayload width height format payload
  let _ ← okOr (checked (layout.lenFor width height + identity.utf8ByteSize + payload.length))
    .dimensionsOverflow
  let tag := if compactDimensions width height then layout.tag else layout.wideTag
  pure ([tag, UInt8.ofNat identity.utf8ByteSize] ++ leBytes 4 frameNumber.toNat ++
    leBytes 4 timestampMs.toNat ++ dimensionBytes width height ++ [format.tag] ++ utf8 identity ++
    payload)

namespace InteractivePreviewFrame

/-- `encode` -/
def encode (frame : InteractivePreviewFrame) : Except PreviewFrameDecodeError (List UInt8) :=
  interactivePreviewLayout.encode frame.previewId frame.frameNumber frame.timestampMs frame.width
    frame.height frame.format frame.payload

/-- `decode` -/
def decode (input : List UInt8) : Except PreviewFrameDecodeError InteractivePreviewFrame := do
  let header ← interactivePreviewLayout.decodeHeader input
  let payload ← header.payload input
  pure
    { previewId := header.identity
      frameNumber := header.frameNumber
      timestampMs := header.timestampMs
      width := header.width
      height := header.height
      format := header.format
      payload := payload }

end InteractivePreviewFrame

namespace DisplayPreviewFrame

/-- `encode` -/
def encode (frame : DisplayPreviewFrame) : Except PreviewFrameDecodeError (List UInt8) :=
  displayPreviewLayout.encode frame.deviceId frame.frameNumber frame.timestampMs frame.width
    frame.height frame.format frame.payload

/-- `decode` -/
def decode (input : List UInt8) : Except PreviewFrameDecodeError DisplayPreviewFrame := do
  let header ← displayPreviewLayout.decodeHeader input
  let payload ← header.payload input
  pure
    { deviceId := header.identity
      frameNumber := header.frameNumber
      timestampMs := header.timestampMs
      width := header.width
      height := header.height
      format := header.format
      payload := payload }

end DisplayPreviewFrame

/-! ## Screen zones -/

/-- `ScreenZonesFrame`, and `ScreenZonesFrameHeader` with an offset for its payload -/
structure ScreenZonesFrameOf (P : Type) where
  frameNumber : UInt32
  timestampMs : UInt32
  sourceWidth : UInt32
  sourceHeight : UInt32
  gridCols : UInt32
  gridRows : UInt32
  /-- Letterbox bars in grid units: top, bottom, left, right. -/
  letterbox : Fin 4 → UInt32
  payload : P

abbrev ScreenZonesFrame := ScreenZonesFrameOf (List UInt8)
abbrev ScreenZonesFrameHeader := ScreenZonesFrameOf Nat

namespace ScreenZonesFrameOf

variable {P : Type}

variable (frame : ScreenZonesFrameOf P)

/-- `ScreenZonesFrame::uses_compact_grid_layout` -/
def usesCompactGridLayout : Bool :=
  frame.gridCols.toNat ≤ 0xFF ∧ frame.gridRows.toNat ≤ 0xFF ∧ ∀ bar, (frame.letterbox bar).toNat ≤ 0xFF

/-- `ScreenZonesFrame::uses_compact_layout` -/
def usesCompactLayout : Bool :=
  compactDimensions frame.sourceWidth frame.sourceHeight ∧ frame.usesCompactGridLayout

/-- `ScreenZonesFrame::header_len` -/
def headerLen : Nat :=
  if frame.usesCompactLayout then screenZonesFrameHeaderLen
  else if frame.usesCompactGridLayout then wideScreenZonesFrameHeaderLen
  else extendedScreenZonesFrameHeaderLen

/-- The size computed by `ScreenZonesFrame::try_encode` and
`ScreenZonesFrameHeader::end_offset` -/
def payloadLen : Option Nat := do
  let cols ← checked frame.gridCols.toNat
  let rows ← checked frame.gridRows.toNat
  let zones ← checked (cols * rows)
  checked (zones * 3)

/-- The header bytes of the frame's layout. -/
def headerBytes : List UInt8 :=
  let tag := if frame.usesCompactLayout then screenZonesFrameTag
    else if frame.usesCompactGridLayout then wideScreenZonesFrameTag
    else extendedScreenZonesFrameTag
  let side := if frame.usesCompactLayout then 2 else 4
  let cell := if frame.usesCompactGridLayout then 1 else 4
  [tag] ++ leBytes 4 frame.frameNumber.toNat ++ leBytes 4 frame.timestampMs.toNat ++
    leBytes side frame.sourceWidth.toNat ++ leBytes side frame.sourceHeight.toNat ++
    leBytes cell frame.gridCols.toNat ++ leBytes cell frame.gridRows.toNat ++
    (List.ofFn frame.letterbox).flatMap fun bar => leBytes cell bar.toNat

/-- `ScreenZonesFrame::try_encode` -/
def tryEncode (frame : ScreenZonesFrame) : Except PreviewFrameDecodeError (List UInt8) := do
  let payloadLen ← okOr frame.payloadLen .dimensionsOverflow
  ensure (frame.payload.length = payloadLen) (.payloadLengthMismatch payloadLen frame.payload.length)
  let _ ← okOr (checked (frame.headerLen + frame.payload.length)) .dimensionsOverflow
  pure (frame.headerBytes ++ frame.payload)

/-- The length of the header a tag announces. -/
def headerLenOf (tag : UInt8) : Option Nat :=
  if tag = screenZonesFrameTag then some screenZonesFrameHeaderLen
  else if tag = wideScreenZonesFrameTag then some wideScreenZonesFrameHeaderLen
  else if tag = extendedScreenZonesFrameTag then some extendedScreenZonesFrameHeaderLen
  else none

/-- `ScreenZonesFrameHeader::decode` -/
def decodeHeader (input : List UInt8) : Except PreviewFrameDecodeError ScreenZonesFrameHeader := do
  let tag := input.head?.getD 0
  let headerLen ← okOr (headerLenOf tag) (.unknownChannel tag)
  ensure (headerLen ≤ input.length) (.tooShort headerLen input.length)
  let side := if tag = screenZonesFrameTag then 2 else 4
  let cell := if tag = extendedScreenZonesFrameTag then 4 else 1
  let grid := 9 + 2 * side
  pure
    { frameNumber := u32At input 1 5
      timestampMs := u32At input 5 9
      sourceWidth := u32At input 9 (9 + side)
      sourceHeight := u32At input (9 + side) grid
      gridCols := u32At input grid (grid + cell)
      gridRows := u32At input (grid + cell) (grid + 2 * cell)
      letterbox := fun bar =>
        u32At input (grid + (2 + bar) * cell) (grid + (3 + bar) * cell)
      payload := headerLen }

/-- `ScreenZonesFrameHeader::end_offset` -/
def endOffset (header : ScreenZonesFrameHeader) (inputLen : Nat) :
    Except PreviewFrameDecodeError Nat := do
  let payloadLen ← okOr header.payloadLen .dimensionsOverflow
  let stop ← okOr (checked (header.payload + payloadLen)) .dimensionsOverflow
  ensure (inputLen = stop) (.payloadLengthMismatch payloadLen (inputLen - header.payload))
  pure stop

/-- `ScreenZonesFrame::decode` -/
def decode (input : List UInt8) : Except PreviewFrameDecodeError ScreenZonesFrame := do
  let header ← decodeHeader input
  let stop ← endOffset header input.length
  pure { header with payload := slice input header.payload stop }

end ScreenZonesFrameOf

end Hypercolor.Preview
