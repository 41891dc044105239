import Hypercolor.FrameRouting.Plan

/-!
# Staging a frame

What `route_zone_colors` does with the colors of one zone and a route: it picks the segment, remaps the
colors, writes them into the staging buffer of the target device and scales the range written by the
brightness of the zone.

**`routeOrdered_eq`**: a frame routed by the ordered routes of a plan is the frame routed by looking up
its zone ids, for the zones in any order and any selection of them.

The product of a channel and a brightness is a parameter; the rate limit of the segment warnings, which
reads the clock, is left out.
-/

namespace Hypercolor.FrameRouting

open Lib Registry

/-- An 8-bit colour. -/
structure Rgb where
  red : UInt8
  green : UInt8
  blue : UInt8

def Rgb.black : Rgb := ⟨0, 0, 0⟩

/-- `ZoneColors` -/
structure ZoneColors where
  zoneId : String
  colors : List Rgb

/-! ## Colors -/

/-- `Vec::resize` of a vector that is too short -/
def growTo (output : List Rgb) (len : Nat) : List Rgb :=
  output ++ List.replicate (len - output.length) .black

/-- `zone_brightness >= 0.999` -/
def isFullBrightness (brightness : F32) : Bool :=
  !brightness.isNaN && !brightness.isNegative && 0x3F7FBE77 ≤ brightness.magnitude

/-- `zone_brightness <= 0.0` -/
def isDark (brightness : F32) : Bool :=
  !brightness.isNaN && (brightness.isNegative || brightness.magnitude == 0)

/-- `apply_zone_brightness`: `scaleChannel brightness channel` is
`(f32::from(channel) * brightness) as u8`. -/
def applyZoneBrightness (scaleChannel : F32 → UInt8 → UInt8) (brightness : F32)
    (colors : List Rgb) : List Rgb :=
  if isFullBrightness brightness then colors
  else if isDark brightness then colors.map fun _ => .black
  else colors.map fun color =>
    ⟨scaleChannel brightness color.red, scaleChannel brightness color.green,
      scaleChannel brightness color.blue⟩

/-- Change the LEDs from `start` to `stop`. -/
def onRange (f : List Rgb → List Rgb) (output : List Rgb) (start stop : Nat) : List Rgb :=
  output.take start ++ f ((output.take stop).drop start) ++ output.drop stop

/-- `remap_zone_colors`, its loop: write the colors to their physical places; `false` at the first
place that is out of bounds. -/
def scatter (colors : List Rgb) : List Rgb → List (UInt32 × Nat) → Bool × List Rgb
  | scratch, [] => (true, scratch)
  | scratch, (physicalIndex, spatialIndex) :: rest =>
      if scratch.length ≤ physicalIndex.toNat then (false, scratch)
      else scatter colors (scratch.set physicalIndex.toNat (colors.getD spatialIndex .black)) rest

/-- `remap_zone_colors`: the remapped colors and the scratch left behind. -/
def remapZoneColors (colors : List Rgb) (ledMapping : Option Indices) (scratch : List Rgb) :
    List Rgb × List Rgb :=
  match ledMapping with
  | none => (colors, scratch)
  | some ledMapping =>
    if ledMapping.1.length ≠ colors.length then (colors, scratch)
    else
      let (inBounds, scratch) :=
        scatter colors (List.replicate colors.length .black) ledMapping.1.zipIdx
      (if inBounds then scratch else colors, scratch)

/-- `write_segment_colors`, its match: the colors of a segment of another length than the colors
given. -/
def stretch (colors : List Rgb) (targetLen : Nat) : List Rgb :=
  if colors.length = 1 then List.replicate targetLen (colors.getD 0 .black)
  else (List.range targetLen).map fun index =>
    let sourceIndex := min (index * colors.length) usizeMax / targetLen
    colors.getD (min sourceIndex (colors.length - 1)) .black

/-- `write_segment_colors`: whether the segment was written, and the output. -/
def writeSegmentColors (output : List Rgb) (segment : SegmentRange) (colors : List Rgb) :
    Bool × List Rgb :=
  if segment.length = 0 then (true, output)
  else if colors.isEmpty then (false, output)
  else
    let output := growTo output segment.stop
    let target := if colors.length = segment.length then colors
      else stretch colors (segment.stop - segment.start)
    (true, onRange (fun _ => target) output segment.start segment.stop)

/-! ## Staging buffers -/

/-- `Range<usize>` -/
structure LedRange where
  start : Nat
  stop : Nat

/-- `DeviceStagingBuffer` -/
structure DeviceStagingBuffer where
  output : List Rgb := []
  remapScratch : List Rgb := []
  writtenRanges : List LedRange := []
  hasSegmentedWrite : Bool := false
  requiredLen : Nat := 0
  frameGeneration : Nat := 0

/-- `mark_written_range`, its loop: insert a range, merged with the ranges it touches. -/
def insertRange (start stop : Nat) : List LedRange → List LedRange
  | [] => [⟨start, stop⟩]
  | existing :: rest =>
      if existing.stop < start then existing :: insertRange start stop rest
      else if stop < existing.start then ⟨start, stop⟩ :: existing :: rest
      else insertRange (min start existing.start) (max stop existing.stop) rest

/-- `mark_written_range` -/
def DeviceStagingBuffer.markWrittenRange (staging : DeviceStagingBuffer) (start stop : Nat) :
    DeviceStagingBuffer :=
  if stop ≤ start then staging
  else match staging.writtenRanges.getLast? with
    | none => { staging with writtenRanges := insertRange start stop staging.writtenRanges }
    | some last =>
      if last.start ≤ start ∧ start ≤ last.stop then
        { staging with
          writtenRanges := staging.writtenRanges.dropLast ++ [⟨last.start, max last.stop stop⟩] }
      else if last.stop ≤ start then
        { staging with writtenRanges := staging.writtenRanges ++ [⟨start, stop⟩] }
      else { staging with writtenRanges := insertRange start stop staging.writtenRanges }

/-- `DeviceOutputCoordinator`, the staging of frames -/
structure DeviceOutputCoordinator where
  staging : Table BackendDeviceKey DeviceStagingBuffer := ∅
  activeStagingKeys : List BackendDeviceKey := []
  activeStagingLen : Nat := 0
  stagingGeneration : Nat := 0
  warnedInactiveLayoutDevices : Finset BackendDeviceKey := ∅

namespace DeviceOutputCoordinator

/-- `begin_staging_frame` -/
def beginStagingFrame (output : DeviceOutputCoordinator) : DeviceOutputCoordinator :=
  { output with stagingGeneration := satAdd output.stagingGeneration 1, activeStagingLen := 0 }

variable (output : DeviceOutputCoordinator) (key : BackendDeviceKey)

/-- `remove_target_state` -/
def removeTargetState : DeviceOutputCoordinator :=
  { output with
    staging := output.staging.erase key
    warnedInactiveLayoutDevices := output.warnedInactiveLayoutDevices.erase key }

/-- `staging_buffer`, the slot a device that became active takes -/
def activate : DeviceOutputCoordinator :=
  { output with
    activeStagingKeys :=
      if output.activeStagingLen < output.activeStagingKeys.length then
        output.activeStagingKeys.set output.activeStagingLen key
      else output.activeStagingKeys ++ [key]
    activeStagingLen := output.activeStagingLen + 1 }

/-- `staging_buffer`: the buffer of a device, emptied when the frame first reaches it. -/
def stagingBuffer : DeviceOutputCoordinator × DeviceStagingBuffer :=
  let old := (output.staging.lookup key).getD {}
  if (output.staging.lookup key).any fun staging =>
      staging.frameGeneration == output.stagingGeneration then (output, old)
  else (output.activate key,
    { remapScratch := old.remapScratch, frameGeneration := output.stagingGeneration })

end DeviceOutputCoordinator

/-! ## Warnings -/

/-- `DeviceOutputWarnings`: `segmentMismatches` lists the keys `should_warn_segment_mismatch` is
asked about. -/
structure DeviceOutputWarnings where
  warnedUnmappedLayoutDevices : Finset String := ∅
  unmappedLayoutWarningsEnabled : Bool := false
  unmappedLayoutWarningCount : Nat := 0
  segmentMismatches : List String := []

namespace DeviceOutputWarnings

variable (warnings : DeviceOutputWarnings)

/-- `retain_active_layout_devices` -/
def retainActiveLayoutDevices (active : Finset String) : DeviceOutputWarnings :=
  { warnings with warnedUnmappedLayoutDevices :=
      warnings.warnedUnmappedLayoutDevices.filter (· ∈ active) }

/-- `clear_unmapped_layout_device` -/
def clearUnmappedLayoutDevice (layoutDeviceId : String) : DeviceOutputWarnings :=
  { warnings with warnedUnmappedLayoutDevices :=
      warnings.warnedUnmappedLayoutDevices.erase layoutDeviceId }

/-- `mark_unmapped_layout_device` -/
def markUnmappedLayoutDevice (layoutDeviceId : String) : DeviceOutputWarnings :=
  if warnings.unmappedLayoutWarningsEnabled = false ∨
      layoutDeviceId ∈ warnings.warnedUnmappedLayoutDevices then warnings
  else { warnings with
    warnedUnmappedLayoutDevices := insert layoutDeviceId warnings.warnedUnmappedLayoutDevices
    unmappedLayoutWarningCount := satAdd warnings.unmappedLayoutWarningCount 1 }

end DeviceOutputWarnings

/-! ## Routing the colors of a zone -/

/-- `attachment_segment_for_zone` -/
def attachmentSegmentForZone (baseSegment : Option SegmentRange)
    (attachment : Option OutputComponent) (sampledLedCount : Nat) : Option SegmentRange :=
  match attachment.bind (·.ledStart), attachment.bind (·.ledCount) with
  | some ledStart, some ledCount =>
    let ledStart := ledStart.toNat
    let ledCount := ledCount.toNat
    let resolvedLedCount :=
      if 0 < sampledLedCount ∧ sampledLedCount ≠ ledCount then sampledLedCount else ledCount
    let attachmentEnd := satAdd ledStart resolvedLedCount
    match baseSegment with
    | none => some ⟨ledStart, resolvedLedCount⟩
    | some base =>
      if base.start ≤ ledStart ∧ attachmentEnd ≤ base.stop then some ⟨ledStart, resolvedLedCount⟩
      else if attachmentEnd ≤ base.length then
        some ⟨satAdd base.start ledStart, resolvedLedCount⟩
      else some base
  | _, _ => baseSegment

/-- `BackendManager`, its `output` and `warnings`: what a frame changes as it routes its zones. -/
structure FrameState where
  output : DeviceOutputCoordinator := {}
  warnings : DeviceOutputWarnings := {}

/-- `route_zone_colors`, its block on the staging buffer: the buffer after a zone of a mapped route,
and whether its segment did not fit the colors. -/
def stageZone (scaleChannel : F32 → UInt8 → UInt8) (staging : DeviceStagingBuffer)
    (segment : Option SegmentRange) (route : CompiledZoneRoute) (colors : List Rgb) :
    DeviceStagingBuffer × Bool :=
  let (remapped, scratch) := remapZoneColors colors route.ledMapping staging.remapScratch
  let staging := { staging with
    requiredLen := max staging.requiredLen (route.physicalLedCount.getD 0)
    remapScratch := scratch }
  let scaled := applyZoneBrightness scaleChannel route.zoneBrightness
  match segment with
  | some segment =>
    let (wrote, output) :=
      writeSegmentColors (growTo staging.output segment.stop) segment remapped
    let staging := { staging with hasSegmentedWrite := true, output }
    if wrote then
      ({ staging with output := onRange scaled output segment.start segment.stop }.markWrittenRange
        segment.start segment.stop, false)
    else (staging, decide (0 < segment.length))
  | none =>
    let start := staging.output.length
    let output := staging.output ++ scaled remapped
    ({ staging with output }.markWrittenRange start output.length, false)

variable (scaleChannel : F32 → UInt8 → UInt8) (state : FrameState)

/-- `route_zone_colors` -/
def routeZoneColors (zone : ZoneColors) : PlannedZoneRoute → FrameState
  | .unmapped layoutDeviceId =>
      { state with warnings := state.warnings.markUnmappedLayoutDevice layoutDeviceId }
  | .mapped route =>
    let warnings := state.warnings.clearUnmappedLayoutDevice route.layoutDeviceId
    let segment := attachmentSegmentForZone route.segment route.attachment zone.colors.length
    let (output, staging) := state.output.stagingBuffer route.targetKey
    let (staging, mismatch) := stageZone scaleChannel staging segment route zone.colors
    { output := { output with staging := output.staging.insert route.targetKey staging }
      warnings :=
        if mismatch then { warnings with
          segmentMismatches :=
            warnings.segmentMismatches ++ [route.layoutDeviceId ++ ":" ++ zone.zoneId] }
        else warnings }

/-- `write_frame_with_brightness`, the loop of the ordered path: each zone of the frame by a route
of its own. -/
def routeOrdered (zoneColors : List ZoneColors) (routes : List OrderedZoneRoute) : FrameState :=
  (zoneColors.zip routes).foldl
    (fun state entry => routeZoneColors scaleChannel state entry.1 entry.2.route) state

/-- `write_frame_with_brightness`, the loop of the lookup path: each zone of the frame by the route
of its id. -/
def routeByZoneId (scaleChannel : F32 → UInt8 → UInt8) (plan : RoutingPlan) (state : FrameState)
    (zoneColors : List ZoneColors) : FrameState :=
  zoneColors.foldl (fun state zone =>
    match plan.zoneRoutes.lookup zone.zoneId with
    | none => state
    | some route => routeZoneColors scaleChannel state zone route) state

/-- Zones routed by ordered routes of the plan are routed as their ids are looked up. -/
theorem routeOrdered_eq {plan : RoutingPlan} {scaleChannel : F32 → UInt8 → UInt8}
    {cs : List ZoneColors} {routes : List OrderedZoneRoute}
    (hrt : ∀ ordered ∈ routes, plan.zoneRoutes.lookup ordered.zoneId = some ordered.route)
    (hi : cs.map (·.zoneId) = routes.map (·.zoneId)) (st : FrameState) :
    routeOrdered scaleChannel st cs routes = routeByZoneId scaleChannel plan st cs := by
  induction cs generalizing routes st with
  | nil => rfl
  | cons z cs ih =>
    rcases routes with _ | ⟨ordered, routes⟩
    · simp at hi
    · rw [List.map_cons, List.map_cons, List.cons.injEq] at hi
      obtain ⟨hid, hr⟩ := hi
      have hl := hrt ordered List.mem_cons_self
      have ht := ih (fun o hoh => hrt o (List.mem_cons_of_mem _ hoh)) hr
        (routeZoneColors scaleChannel st z ordered.route)
      rw [routeByZoneId, List.foldl_cons, hid, hl]
      exact ht

end Hypercolor.FrameRouting
