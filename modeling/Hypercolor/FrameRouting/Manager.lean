import Hypercolor.FrameRouting.Staging

/-!
# The backend manager's routing

The mapping operations of the backend manager, its cached routing plan and the frames it routes.

**`frames_route_as_compiled`**: after any calls, the plan a frame is routed by is the plan compiled from
scratch from the mappings of that moment and the layout of the frame, as long as the signatures of the
layouts seen do not collide. With distinct zone ids, the ordered routes of that plan send the zones of
a frame, in any order and any selection of them, where looking up their ids does.

The plan is kept with the generation of the mappings it was compiled from, and every operation that
changes a mapping drops it (`cached_step`), so that a plan that is found has been compiled from the
present mappings, and only the layout is left to compare.
-/

namespace Hypercolor.FrameRouting

open Lib Registry List

/-! ## Segments of a device -/

/-- `SegmentInfo` -/
structure SegmentInfo where
  name : String
  ledCount : UInt32

/-- `DeviceInfo` -/
structure DeviceInfo where
  segments : List SegmentInfo
  /-- `DeviceCapabilities::led_count` -/
  ledCount : UInt32

/-- `total_led_count` -/
def DeviceInfo.totalLedCount (info : DeviceInfo) : UInt32 := (info.segments.map (·.ledCount)).sum

/-- `device_output_len` -/
def deviceOutputLen (info : DeviceInfo) : Option Nat :=
  some (max info.totalLedCount.toNat info.ledCount.toNat)

/-- `device_segments_from_device_info`, `next_device_segment`: the segments one after the other; of
two with one name the last one stands. -/
def deviceSegmentsFromDeviceInfo (info : DeviceInfo) : Table String SegmentRange :=
  (info.segments.foldl (fun (acc : Table String SegmentRange × Nat) deviceSegment =>
      let segment : SegmentRange := ⟨acc.2, deviceSegment.ledCount.toNat⟩
      (acc.1.insert deviceSegment.name segment, segment.stop)) (∅, 0)).1

/-- `HashMap`, its seed: the order a new map comes to iterate its entries in. -/
structure Iteration where
  order : List (Sigma fun _ : String => SegmentRange) → List (Sigma fun _ : String => SegmentRange)
  perm : ∀ entries, (order entries).Perm entries

def Iteration.arrange (iteration : Iteration) (segments : Table String SegmentRange) :
    Table String SegmentRange where
  entries := iteration.order segments.entries
  nodupKeys := (perm_nodupKeys (iteration.perm _)).mpr segments.nodupKeys

/-! ## The manager -/

/-- `BackendManager` -/
structure BackendManager where
  deviceMap : Table String DeviceMapping := ∅
  routingMappingGeneration : Nat := 0
  routingPlanRebuildCount : Nat := 0
  routingPlan : Option RoutingPlan := none
  frame : FrameState := {}

namespace BackendManager

variable (m : BackendManager)

def mappings : Mappings := ⟨m.deviceMap, m.routingMappingGeneration⟩

/-- `invalidate_routing_plan` -/
def invalidateRoutingPlan : BackendManager :=
  { m with routingMappingGeneration := satAdd m.routingMappingGeneration 1, routingPlan := none }

variable (layoutDeviceId backendId : String) (deviceId : DeviceId)

/-- `map_device_with_segment` -/
def mapDeviceWithSegment (segment : Option SegmentRange) : BackendManager :=
  { m with
    frame := { m.frame with warnings := m.frame.warnings.clearUnmappedLayoutDevice layoutDeviceId }
    deviceMap := m.deviceMap.insert layoutDeviceId
      { backendId, deviceId, segment, zoneSegments := ∅, physicalLedCount := none }
    }.invalidateRoutingPlan

/-- `map_device` -/
def mapDevice : BackendManager :=
  m.mapDeviceWithSegment layoutDeviceId backendId deviceId none

/-- `set_device_zone_segments` -/
def setDeviceZoneSegments (layoutDeviceId : String) (info : DeviceInfo)
    (iteration : Iteration) : Bool × BackendManager :=
  match m.deviceMap.lookup layoutDeviceId with
  | none => (false, m)
  | some mapping =>
    (true, { m with
      deviceMap := m.deviceMap.insert layoutDeviceId { mapping with
        zoneSegments := iteration.arrange (deviceSegmentsFromDeviceInfo info)
        physicalLedCount := deviceOutputLen info }
      }.invalidateRoutingPlan)

variable (deviceMap : Table String DeviceMapping) (key : BackendDeviceKey)

/-- A mapping still leads to the device. -/
def targets : Bool :=
  deviceMap.values.any fun mapping => mapping.key == key

/-- Forget what is staged for a device. -/
def removeTargetState (m : BackendManager) (key : BackendDeviceKey) : BackendManager :=
  { m with frame := { m.frame with output := m.frame.output.removeTargetState key } }

/-- `unmap_device` -/
def unmapDevice (layoutDeviceId : String) : Bool × BackendManager :=
  match m.deviceMap.lookup layoutDeviceId with
  | none => (false, m)
  | some mapping =>
    let m := { m with deviceMap := m.deviceMap.erase layoutDeviceId }
    let m := if targets m.deviceMap mapping.key then m else m.removeTargetState mapping.key
    (true, m.invalidateRoutingPlan)

/-- `HashMap::retain` -/
def retained : Table String DeviceMapping where
  entries := deviceMap.entries.filter fun e => !(e.2.key == key)
  nodupKeys := deviceMap.nodupKeys.sublist filter_sublist

/-- The lines `clear_device_mappings_for_physical` and `remove_device_mappings_for_physical` share:
drop the mappings that lead to a device. -/
def dropMappings (key : BackendDeviceKey) : Nat × BackendManager :=
  let kept := retained m.deviceMap key
  (m.deviceMap.entries.length - kept.entries.length, { m with deviceMap := kept })

variable (backendId : String) (deviceId : DeviceId)

/-- `remove_device_mappings_for_physical` -/
def removeDeviceMappingsForPhysical : Nat × BackendManager :=
  let (removed, m) := m.dropMappings (backendId, deviceId)
  let m := if targets m.deviceMap (backendId, deviceId) then m
    else m.removeTargetState (backendId, deviceId)
  (removed, if 0 < removed then m.invalidateRoutingPlan else m)

/-- `clear_device_mappings_for_physical` -/
def clearDeviceMappingsForPhysical : Nat × BackendManager :=
  let (removed, m) := m.dropMappings (backendId, deviceId)
  (removed, if 0 < removed then m.invalidateRoutingPlan else m)

/-- `enable_unmapped_layout_warnings` -/
def enableUnmappedLayoutWarnings : BackendManager :=
  { m with frame := { m.frame with
      warnings := { m.frame.warnings with unmappedLayoutWarningsEnabled := true } } }

section Frames

variable (hash : List UInt8 → UInt64) (scaleChannel : F32 → UInt8 → UInt8)

variable (m : BackendManager)

/-- `compile_routing_plan` -/
def compile (layout : SpatialLayout) : RoutingPlan :=
  compileRoutingPlan m.mappings layout (layoutRoutingSignature hash layout)

/-- `routing_plan`: the plan for a layout, compiled if there is none for it. -/
def planFor (layout : SpatialLayout) : RoutingPlan × BackendManager :=
  match m.routingPlan.filter fun plan =>
      plan.layoutSignature == layoutRoutingSignature hash layout &&
        plan.mappingGeneration == m.routingMappingGeneration with
  | some plan => (plan, m)
  | none =>
    (m.compile hash layout, { m with
      routingPlan := some (m.compile hash layout)
      routingPlanRebuildCount := satAdd m.routingPlanRebuildCount 1 })

/-- The zones of the frame are the LED-sampled zones of the plan, in order. -/
def inOrder (plan : RoutingPlan) (zoneColors : List ZoneColors) : Bool :=
  zoneColors.length == plan.orderedZoneRoutes.length &&
    (zoneColors.zip plan.orderedZoneRoutes).all fun entry => entry.1.zoneId == entry.2.zoneId

/-- `write_frame_with_brightness`, up to the buffers it hands on: stage a frame by a plan. -/
def routeFrame (plan : RoutingPlan) (state : FrameState) (zoneColors : List ZoneColors) : FrameState :=
  if inOrder plan zoneColors then
    routeOrdered scaleChannel state zoneColors plan.orderedZoneRoutes
  else routeByZoneId scaleChannel plan state zoneColors

/-- `write_frame_with_brightness`, up to the buffers it hands on -/
def writeFrame (zoneColors : List ZoneColors) (layout : SpatialLayout) : BackendManager :=
  let (plan, m) := m.planFor hash layout
  let state : FrameState :=
    { output := { m.frame.output.beginStagingFrame with
        warnedInactiveLayoutDevices := plan.inactiveDevices.toFinset }
      warnings := m.frame.warnings.retainActiveLayoutDevices plan.activeLayoutDeviceIds }
  { m with frame := routeFrame scaleChannel plan state zoneColors }

/-! ## Runs -/

/-- A call of the manager that routing depends on, or that asks for a plan. -/
inductive Call where
  | mapDevice (layoutDeviceId backendId : String) (deviceId : DeviceId)
  | mapDeviceWithSegment (layoutDeviceId backendId : String) (deviceId : DeviceId)
      (segment : Option SegmentRange)
  | setDeviceZoneSegments (layoutDeviceId : String) (info : DeviceInfo) (iteration : Iteration)
  | unmapDevice (layoutDeviceId : String)
  | removeDeviceMappingsForPhysical (backendId : String) (deviceId : DeviceId)
  | clearDeviceMappingsForPhysical (backendId : String) (deviceId : DeviceId)
  | enableUnmappedLayoutWarnings
  /-- `ordered_routing_zone_count`, `can_reuse_routed_frame_outputs`,
  `routed_output_signature`, `reuse_routed_frame_outputs` -/
  | plan (layout : SpatialLayout)
  | writeFrame (zoneColors : List ZoneColors) (layout : SpatialLayout)

def Call.layout? : Call → Option SpatialLayout
  | .plan layout | .writeFrame _ layout => some layout
  | .mapDevice .. | .mapDeviceWithSegment .. | .setDeviceZoneSegments .. | .unmapDevice _
  | .removeDeviceMappingsForPhysical .. | .clearDeviceMappingsForPhysical ..
  | .enableUnmappedLayoutWarnings => none

def step : Call → BackendManager
  | .mapDevice layoutDeviceId backendId deviceId => m.mapDevice layoutDeviceId backendId deviceId
  | .mapDeviceWithSegment layoutDeviceId backendId deviceId segment =>
      m.mapDeviceWithSegment layoutDeviceId backendId deviceId segment
  | .setDeviceZoneSegments layoutDeviceId info iteration =>
      (m.setDeviceZoneSegments layoutDeviceId info iteration).2
  | .unmapDevice layoutDeviceId => (m.unmapDevice layoutDeviceId).2
  | .removeDeviceMappingsForPhysical backendId deviceId =>
      (m.removeDeviceMappingsForPhysical backendId deviceId).2
  | .clearDeviceMappingsForPhysical backendId deviceId =>
      (m.clearDeviceMappingsForPhysical backendId deviceId).2
  | .enableUnmappedLayoutWarnings => m.enableUnmappedLayoutWarnings
  | .plan layout => (m.planFor hash layout).2
  | .writeFrame zoneColors layout => m.writeFrame hash scaleChannel zoneColors layout

def run (calls : List Call) : BackendManager :=
  calls.foldl (step hash scaleChannel) m

/-- No two of the layouts have one signature and different bytes. -/
def CollisionFree (layouts : List SpatialLayout) : Prop :=
  ∀ layout ∈ layouts, ∀ layout' ∈ layouts,
    layoutRoutingSignature hash layout = layoutRoutingSignature hash layout' →
      layoutBytes layout = layoutBytes layout'

/-- A plan that is kept was compiled from the present mappings, for one of the layouts. -/
def Cached (layouts : List SpatialLayout) (m : BackendManager) : Prop :=
  ∀ plan, m.routingPlan = some plan → ∃ layout ∈ layouts, plan = m.compile hash layout

end Frames

/-! ## The cache -/

section Cache

variable {hash : List UInt8 → UInt64} {scaleChannel : F32 → UInt8 → UInt8}
variable {ls : List SpatialLayout} {m : BackendManager}

/-- An operation that drops the plan leaves nothing to check. -/
lemma cached_invalidate : Cached hash ls m.invalidateRoutingPlan := by
  intro plan h
  simp [invalidateRoutingPlan] at h

/-- An operation that keeps the plan keeps the mappings it was compiled from. -/
lemma Cached.of_mappings {m' : BackendManager} (h : Cached hash ls m)
    (hp : m'.routingPlan = m.routingPlan) (hm : m'.mappings = m.mappings) : Cached hash ls m' := by
  intro plan hk
  rw [hp] at hk
  obtain ⟨l, hl, hc⟩ := h plan hk
  exact ⟨l, hl, by rw [hc, compile, compile, hm]⟩

/-- Dropping no mapping changes none. -/
lemma retained_eq {dm : Table String DeviceMapping} {key : BackendDeviceKey}
    (h : ¬ 0 < dm.entries.length - (retained dm key).entries.length) : retained dm key = dm := by
  have hs : (retained dm key).entries.Sublist dm.entries := filter_sublist
  exact AList.ext (hs.eq_of_length (by have := hs.length_le; omega))

/-- Mappings that lose a device drop the plan. -/
lemma cached_dropped (h : Cached hash ls m) {key : BackendDeviceKey} {m' : BackendManager}
    (hp : m'.routingPlan = m.routingPlan)
    (hm : m'.mappings = ⟨retained m.deviceMap key, m.routingMappingGeneration⟩) :
    Cached hash ls
      (if 0 < (m.dropMappings key).1 then m'.invalidateRoutingPlan else m') := by
  split
  · exact cached_invalidate
  · rename_i hr
    exact h.of_mappings hp (by rw [hm, retained_eq hr]; rfl)

variable {l : SpatialLayout}

/-- The plan handed out is the one compiled from scratch. -/
lemma planFor_fst (h : Cached hash ls m) (hc : CollisionFree hash (l :: ls)) :
    (m.planFor hash l).1 = m.compile hash l := by
  unfold planFor
  rcases hk : m.routingPlan.filter _ with _ | plan
  · rfl
  · rw [Option.filter_eq_some_iff, Bool.and_eq_true, beq_iff_eq, beq_iff_eq] at hk
    obtain ⟨hp, hs, -⟩ := hk
    obtain ⟨l', hl', rfl⟩ := h plan hp
    -- the plan kept is that of a layout with the same signature, hence the same routing view
    have hb := hc l' (mem_cons_of_mem _ hl') l mem_cons_self hs
    change m.compile hash l' = m.compile hash l
    rw [compile, compile, show layoutRoutingSignature hash l' = layoutRoutingSignature hash l from hs]
    exact compile_congr _ _ (layoutBytes_inj hb).2

lemma planFor_mappings (l : SpatialLayout) : (m.planFor hash l).2.mappings = m.mappings := by
  unfold planFor
  split <;> rfl

lemma cached_planFor (h : Cached hash ls m) (hl : l ∈ ls) : Cached hash ls (m.planFor hash l).2 := by
  intro plan hk
  have hc : (m.planFor hash l).2.compile hash = m.compile hash := by
    funext l'
    rw [compile, compile, planFor_mappings]
  rw [hc]
  unfold planFor at hk
  split at hk
  · exact h plan hk
  · exact ⟨l, hl, (Option.some.inj hk).symm⟩

/-- **A call** keeps the cached plan that of its signature. -/
theorem cached_step (h : Cached hash ls m) {cl : Call} (hl : ∀ l ∈ cl.layout?, l ∈ ls) :
    Cached hash ls (step hash scaleChannel m cl) := by
  cases cl with
  | mapDevice lid bid d | mapDeviceWithSegment lid bid d sg => exact cached_invalidate
  | setDeviceZoneSegments lid info iteration =>
    simp only [step, setDeviceZoneSegments]
    split
    · exact h
    · exact cached_invalidate
  | unmapDevice lid =>
    simp only [step, unmapDevice]
    split
    · exact h
    · exact cached_invalidate
  | removeDeviceMappingsForPhysical bid d =>
    refine @cached_dropped _ _ _ h (bid, d) _ ?_ ?_
    · split <;> rfl
    · split <;> rfl
  | clearDeviceMappingsForPhysical bid d =>
    exact @cached_dropped _ _ _ h (bid, d) _ rfl rfl
  | enableUnmappedLayoutWarnings => exact h.of_mappings rfl rfl
  | plan l => exact cached_planFor h (hl l rfl)
  | writeFrame cs l =>
    exact (cached_planFor h (hl l rfl)).of_mappings rfl rfl

/-- So do calls one after the other. -/
lemma cached_run (h : Cached hash ls m) {cs : List Call} (hla : ∀ l ∈ cs.filterMap Call.layout?, l ∈ ls) :
    Cached hash ls (run hash scaleChannel m cs) := by
  induction cs generalizing m with
  | nil => exact h
  | cons cl cs ih =>
    have hc : ∀ l ∈ cl.layout?, l ∈ ls := fun l hl =>
      hla l (mem_filterMap.mpr ⟨cl, mem_cons_self, hl⟩)
    refine ih (cached_step h hc) fun l hl => ?_
    obtain ⟨o, hoh, hl⟩ := mem_filterMap.mp hl
    exact hla l (mem_filterMap.mpr ⟨o, mem_cons_of_mem _ hoh, hl⟩)

end Cache

/-- A frame in the order of the plan names the zones of the plan. -/
lemma ids_of_inOrder {plan : RoutingPlan} {cs : List ZoneColors} (h : inOrder plan cs) :
    cs.map (·.zoneId) = plan.orderedZoneRoutes.map (·.zoneId) := by
  rw [inOrder, Bool.and_eq_true, beq_iff_eq, all_eq_true] at h
  obtain ⟨hl, ha⟩ := h
  refine ext_getElem (by simpa using hl) fun i hi hi' => ?_
  rw [length_map] at hi hi'
  have he := ha (cs[i], plan.orderedZoneRoutes[i])
      (mem_iff_getElem.mpr ⟨i, by simp [hi, hi'], getElem_zip⟩)
  simpa using he

/-- The plan a frame is routed by is compiled from scratch, and its two ways of routing agree. -/
theorem frames_route_as_compiled (hash : List UInt8 → UInt64) (scaleChannel : F32 → UInt8 → UInt8)
    (calls : List Call) (layout : SpatialLayout)
    (hcollision : CollisionFree hash (layout :: calls.filterMap Call.layout?)) :
    let m := run hash scaleChannel {} calls
    let plan := m.compile hash layout
    (m.planFor hash layout).1 = plan ∧ ((layout.zones.map Output.id).Nodup →
        (∀ zone ∈ layout.zones, isLedSampledZone zone →
          ⟨zone.id, compileZoneRoute m.deviceMap zone⟩ ∈ plan.orderedZoneRoutes) ∧
        (∀ (state : FrameState) (zoneColors : List ZoneColors) (routes : List OrderedZoneRoute),
          (∀ ordered ∈ routes, ordered ∈ plan.orderedZoneRoutes) →
          zoneColors.map (·.zoneId) = routes.map (·.zoneId) →
          routeOrdered scaleChannel state zoneColors routes =
            routeByZoneId scaleChannel plan state zoneColors) ∧
        ∀ (state : FrameState) (zoneColors : List ZoneColors),
          routeFrame scaleChannel plan state zoneColors =
            routeByZoneId scaleChannel plan state zoneColors) := by
  intro m plan
  have hs : Cached hash (calls.filterMap Call.layout?) {} := fun plan h => nomatch h
  refine ⟨planFor_fst (cached_run hs fun _ => id) hcollision, fun hi => ?_⟩
  have ha : ∀ (state : FrameState) (zoneColors : List ZoneColors)
      (routes : List OrderedZoneRoute), (∀ ordered ∈ routes, ordered ∈ plan.orderedZoneRoutes) →
      zoneColors.map (·.zoneId) = routes.map (·.zoneId) →
      routeOrdered scaleChannel state zoneColors routes =
        routeByZoneId scaleChannel plan state zoneColors := by
    intro state zoneColors routes hr hzo
    exact routeOrdered_eq (fun ordered h => lookup_of_mem_ordered hi (hr ordered h)) hzo state
  refine ⟨fun zone hz hsa => mem_ordered_of_mem hi hz hsa, ha, ?_⟩
  intro state zoneColors
  unfold routeFrame
  split
  · rename_i hio
    exact ha state zoneColors _ (fun _ => id) (ids_of_inOrder hio)
  · rfl

/-- A hash that tells the two layouts below apart. -/
def polynomialHash (bytes : List UInt8) : UInt64 :=
  bytes.foldl (fun h byte => h * 31 + byte.toUInt64) 7

def truncatedHalf (_ : F32) (channel : UInt8) : UInt8 := channel / 2

/-- Two zones of one strip, or the first of them at half its brightness. -/
def stripLayout (brightness : Option F32) : SpatialLayout where
  id := "desk"
  zones := [⟨"left", "strip", none, none, none, brightness⟩, ⟨"right", "strip", none, none, none, none⟩]
  zones_len := by simp

/-- The strip is mapped, routed under both layouts, and mapped again to a part of it. -/
def remappedStrip : List Call :=
  [.mapDevice "strip" "usb" ⟨7⟩, .plan (stripLayout none), .plan (stripLayout (some ⟨0x3F000000⟩)),
    .mapDeviceWithSegment "strip" "usb" ⟨7⟩ (some ⟨4, 2⟩), .plan (stripLayout none)]

/-- A strip mapped again and planned again. -/
theorem frames_route_as_compiled_remappedStrip :
    let layout := stripLayout (some ⟨0x3F000000⟩)
    let m := run polynomialHash truncatedHalf {} remappedStrip
    let plan := m.compile polynomialHash layout
    let frame : List ZoneColors := [⟨"right", [⟨9, 9, 9⟩]⟩, ⟨"left", [⟨8, 8, 8⟩, ⟨6, 6, 6⟩]⟩]
    (m.planFor polynomialHash layout).1 = plan ∧
      routeOrdered truncatedHalf {} frame plan.orderedZoneRoutes.reverse =
        routeByZoneId truncatedHalf plan {} frame := by
  have ha := frames_route_as_compiled polynomialHash truncatedHalf remappedStrip
    (stripLayout (some ⟨0x3F000000⟩)) (by unfold CollisionFree; decide +kernel)
  exact ⟨ha.1, (ha.2 (by decide)).2.1 {} _ _ (fun _ h => mem_reverse.mp h) (by decide +kernel)⟩

end BackendManager

end Hypercolor.FrameRouting
