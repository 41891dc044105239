import Mathlib.Data.String.Basic
import Hypercolor.FrameRouting.Layout
import Hypercolor.Lib.Sorting

/-!
# Routing plans

The device mappings of the backend manager and `compile_routing_plan`, which turns them and a layout
into a plan: the route of every zone by its id, and the routes of the LED-sampled zones in layout
order.

**`compile_congr`**: the plan is the same for two layouts with the same routing view. With distinct
zone ids, **`lookup_of_mem_ordered`**: every ordered route is the route its zone id is looked up as.
-/

namespace Hypercolor.FrameRouting

open Lib Registry List Output

/-! ## Channel names and slot aliases -/

/-- `slugify_slot_id`, before the dashes are trimmed -/
def slugifyChars : List Char → List Char → Bool → List Char
  | out, [], _ => out
  | out, ch :: rest, previousDash =>
      if ch.isAlphanum then slugifyChars (out ++ [ch.toLower]) rest false
      else if !out.isEmpty && !previousDash then slugifyChars (out ++ ['-']) rest true
      else slugifyChars out rest previousDash

/-- `str::trim_matches` -/
def trimDashes (text : List Char) : List Char :=
  ((text.dropWhile (· == '-')).reverse.dropWhile (· == '-')).reverse

/-- `slugify_slot_id` -/
def slugifySlotId (raw : List Char) : List Char :=
  let trimmed := trimDashes (slugifyChars [] raw false)
  if trimmed.isEmpty then "slot".toList else trimmed

/-- `slot_alias_key`, one part -/
def canonicalPart (part : List Char) : List Char :=
  if part.all Char.isDigit then
    let number := part.dropWhile (· == '0')
    if number.isEmpty then ['0'] else number
  else part

/-- `slot_alias_key` -/
def slotAliasKey (raw : List Char) : List Char :=
  let parts := ((slugifySlotId raw).splitOn '-').filter fun part => !part.isEmpty
  let key := intercalate ['-'] (parts.map canonicalPart)
  if key.isEmpty then "slot".toList else key

/-- `str::eq_ignore_ascii_case` -/
def eqIgnoreAsciiCase (left right : List Char) : Bool :=
  left.map Char.toLower == right.map Char.toLower

/-- `slot_id_matches_channel_name` -/
def slotIdMatchesChannelName (slotId channelName : List Char) : Bool :=
  eqIgnoreAsciiCase slotId channelName || eqIgnoreAsciiCase slotId (slugifySlotId channelName) ||
    slotAliasKey slotId == slotAliasKey channelName

/-- `channel_name_matches_slot_alias`, of two names -/
def channelNameMatchesSlotAlias (left right : String) : Bool :=
  eqIgnoreAsciiCase left.toList right.toList || slotIdMatchesChannelName left.toList right.toList ||
    slotIdMatchesChannelName right.toList left.toList

/-! ## Device mappings -/

/-- `usize::MAX` -/
def usizeMax : Nat := 2 ^ 64 - 1

/-- `usize::saturating_add` -/
def satAdd (a b : Nat) : Nat := min (a + b) usizeMax

/-- `SegmentRange` -/
structure SegmentRange where
  start : Nat
  length : Nat
deriving DecidableEq

/-- `end` -/
def SegmentRange.stop (segment : SegmentRange) : Nat := satAdd segment.start segment.length

/-- `BackendDeviceKey` -/
abbrev BackendDeviceKey := String × DeviceId

/-- `DeviceMapping`: the entries of `zoneSegments` stand in the order the map iterates them. -/
structure DeviceMapping where
  backendId : String
  deviceId : DeviceId
  segment : Option SegmentRange
  zoneSegments : Table String SegmentRange
  physicalLedCount : Option Nat

def DeviceMapping.key (mapping : DeviceMapping) : BackendDeviceKey :=
  (mapping.backendId, mapping.deviceId)

/-- `zone_segment_for_name` -/
def zoneSegmentForName (zoneSegments : Table String SegmentRange) (zoneName : String) :
    Option SegmentRange :=
  (zoneSegments.lookup zoneName).or
    ((zoneSegments.entries.find? fun e => channelNameMatchesSlotAlias zoneName e.1).map (·.2))

/-- `mapped_segment_for_zone_name` -/
def mappedSegmentForZoneName (zoneName : Option String) (mapping : DeviceMapping) : Option SegmentRange :=
  match zoneName.bind (zoneSegmentForName mapping.zoneSegments) with
  | none => mapping.segment
  | some zoneSegment =>
    match mapping.segment with
    | none => some zoneSegment
    | some baseSegment =>
      if baseSegment.start ≤ zoneSegment.start ∧ zoneSegment.stop ≤ baseSegment.stop then
        some zoneSegment
      else if zoneSegment.start ≤ baseSegment.start ∧ baseSegment.stop ≤ zoneSegment.stop then
        some baseSegment
      else
        let overlapStart := max baseSegment.start zoneSegment.start
        let overlapEnd := min baseSegment.stop zoneSegment.stop
        if overlapStart < overlapEnd then some ⟨overlapStart, overlapEnd - overlapStart⟩
        else some baseSegment

/-- `normalized_led_mapping`: a mapping that leaves every LED where it is counts as none. -/
def normalizedLedMapping (ledMapping : Option Indices) : Option Indices :=
  ledMapping.filter fun indices =>
    !indices.1.zipIdx.all fun entry => decide (entry.2 < 2 ^ 32) && entry.1.toNat == entry.2

/-! ## Plans -/

/-- `CompiledZoneRoute` -/
structure CompiledZoneRoute where
  layoutDeviceId : String
  targetKey : BackendDeviceKey
  ledMapping : Option Indices
  segment : Option SegmentRange
  attachment : Option OutputComponent
  physicalLedCount : Option Nat
  zoneBrightness : F32

/-- `PlannedZoneRoute` -/
inductive PlannedZoneRoute where
  | mapped (route : CompiledZoneRoute)
  | unmapped (layoutDeviceId : String)

/-- `OrderedZoneRoute` -/
structure OrderedZoneRoute where
  zoneId : String
  route : PlannedZoneRoute

/-- `RoutingPlan` -/
structure RoutingPlan where
  layoutSignature : UInt64
  mappingGeneration : Nat
  activeLayoutDeviceIds : Finset String
  activeTargetKeys : List BackendDeviceKey
  zoneRoutes : Table String PlannedZoneRoute
  orderedZoneRoutes : List OrderedZoneRoute
  inactiveDevices : List BackendDeviceKey
  mappedLayoutIdsByDevice : Table BackendDeviceKey (List String)

/-- `BackendManager`, as `compile_routing_plan` reads it: the mappings and what identifies them. -/
structure Mappings where
  deviceMap : Table String DeviceMapping
  generation : Nat

/-- `compile_routing_plan`, the route of one zone -/
def compileZoneRoute (deviceMap : Table String DeviceMapping) (zone : Output) : PlannedZoneRoute :=
  match deviceMap.lookup zone.deviceId with
  | some mapping => .mapped
      { layoutDeviceId := zone.deviceId
        targetKey := mapping.key
        ledMapping := normalizedLedMapping zone.ledMapping
        segment := mappedSegmentForZoneName zone.zoneName mapping
        attachment := zone.attachment
        physicalLedCount := mapping.physicalLedCount
        zoneBrightness := normalizedZoneBrightness zone.brightness }
  | none => .unmapped zone.deviceId

/-- `compile_routing_plan`, its locals: what the loop over the zones of a layout collects. -/
structure ZonePass where
  activeLayoutDeviceIds : Finset String := ∅
  activeTargetKeys : List BackendDeviceKey := []
  zoneRoutes : Table String PlannedZoneRoute := ∅
  orderedZoneRoutes : List OrderedZoneRoute := []

/-- `compile_routing_plan`, the body of the loop over the zones -/
def ZonePass.zone (deviceMap : Table String DeviceMapping) (pass : ZonePass) (zone : Output) : ZonePass :=
  let route := compileZoneRoute deviceMap zone
  { activeLayoutDeviceIds := insert zone.deviceId pass.activeLayoutDeviceIds
    activeTargetKeys :=
      match route with
      | .mapped mapped => pass.activeTargetKeys.insert mapped.targetKey
      | .unmapped _ => pass.activeTargetKeys
    zoneRoutes := pass.zoneRoutes.insert zone.id route
    orderedZoneRoutes :=
      if shouldUseOrderedRouting zone then pass.orderedZoneRoutes ++ [⟨zone.id, route⟩]
      else pass.orderedZoneRoutes }

/-- Backends by name, then devices by the text of their id. -/
def sortKeys (keys : List BackendDeviceKey) : List BackendDeviceKey :=
  sortByKey (fun key => toLex (key.1, key.2.hyphenated)) keys

/-- `compile_routing_plan`, `mapped_layout_ids_by_device` -/
def mappedLayoutIdsByDevice (deviceMap : Table String DeviceMapping) :
    Table BackendDeviceKey (List String) :=
  let grouped := deviceMap.entries.foldl (fun (ids : Table BackendDeviceKey (List String)) e =>
      ids.insert e.2.key ((ids.lookup e.2.key).getD [] ++ [e.1])) ∅
  grouped.mapValues (sortByKey fun layoutId => layoutId)

/-- `compile_routing_plan` -/
def compileRoutingPlan (mappings : Mappings) (layout : SpatialLayout) (layoutSignature : UInt64) :
    RoutingPlan :=
  let pass := layout.zones.foldl (ZonePass.zone mappings.deviceMap) {}
  let mappedIds := mappedLayoutIdsByDevice mappings.deviceMap
  { layoutSignature
    mappingGeneration := mappings.generation
    activeLayoutDeviceIds := pass.activeLayoutDeviceIds
    activeTargetKeys := sortKeys pass.activeTargetKeys
    zoneRoutes := pass.zoneRoutes
    orderedZoneRoutes := pass.orderedZoneRoutes
    inactiveDevices := sortKeys (mappedIds.keys.filter fun key => key ∉ pass.activeTargetKeys)
    mappedLayoutIdsByDevice := mappedIds }

/-! ## What a plan depends on -/

variable {dm : Table String DeviceMapping}

variable {z z' : Output}

/-- Compiling reads no more of a zone than its view. -/
lemma compileZoneRoute_congr (h : z.view = z'.view) : compileZoneRoute dm z = compileZoneRoute dm z' := by
  obtain ⟨own', deviceId', zoneName', ledMapping', attachment', brightness'⟩ := z'
  simp only [view, ZoneView.mk.injEq] at h
  obtain ⟨-, rfl, rfl, rfl, hb, rfl⟩ := h
  simp only [compileZoneRoute, hb]

lemma ZonePass.zone_congr (pass : ZonePass) (h : z.view = z'.view) :
    pass.zone dm z = pass.zone dm z' := by
  have hr : compileZoneRoute dm z = compileZoneRoute dm z' := compileZoneRoute_congr h
  obtain ⟨own', deviceId', zoneName', ledMapping', attachment', brightness'⟩ := z'
  simp only [view, ZoneView.mk.injEq] at h
  obtain ⟨rfl, rfl, rfl, rfl, -, rfl⟩ := h
  simp only [ZonePass.zone, hr]
  rfl

variable {zs : List Output}

/-- Nor does the pass over all zones. -/
lemma ZonePass.zones_congr (pass : ZonePass) {zs' : List Output} (h : zs.map view = zs'.map view) :
    zs.foldl (ZonePass.zone dm) pass = zs'.foldl (ZonePass.zone dm) pass := by
  induction zs generalizing pass zs' with
  | nil =>
    rw [map_nil, eq_comm, map_eq_nil_iff] at h
    rw [h]
  | cons z zs ih =>
    rcases zs' with _ | ⟨z', zs'⟩
    · simp at h
    · rw [map_cons, map_cons, cons.injEq] at h
      rw [foldl_cons, foldl_cons, pass.zone_congr h.1, ih _ h.2]

variable {l : SpatialLayout}

/-- A plan is compiled from the routing view of the layout. -/
theorem compile_congr (mappings : Mappings) {l' : SpatialLayout} (signature : UInt64)
    (h : l.zones.map view = l'.zones.map view) :
    compileRoutingPlan mappings l signature = compileRoutingPlan mappings l' signature := by
  rw [compileRoutingPlan, compileRoutingPlan, ZonePass.zones_congr _ h]

/-! ## The two tables of routes -/

/-- Every ordered route is that of a zone passed, and every zone passed has its own route under its
id. -/
structure ZonePass.Agrees (deviceMap : Table String DeviceMapping) (pass : ZonePass)
    (zones : List Output) : Prop where
  lookup : ∀ zone ∈ zones, pass.zoneRoutes.lookup zone.id = some (compileZoneRoute deviceMap zone)
  ordered : pass.orderedZoneRoutes = (zones.filter shouldUseOrderedRouting).map fun zone =>
    ⟨zone.id, compileZoneRoute deviceMap zone⟩

variable {pass : ZonePass}

namespace ZonePass

/-- One zone more in the pass. -/
lemma agrees_zone (h : pass.Agrees dm zs) (hn : ∀ other ∈ zs, other.id ≠ z.id) :
    (pass.zone dm z).Agrees dm (zs ++ [z]) where
  lookup other hoh := by
    rw [mem_append, mem_singleton] at hoh
    obtain hoh | rfl := hoh
    · exact (AList.lookup_insert_ne (hn other hoh)).trans (h.lookup other hoh)
    · exact AList.lookup_insert _
  ordered := by
    by_cases hs : shouldUseOrderedRouting z
    · simp [zone, hs, h.ordered]
    · simp [zone, hs, h.ordered]

lemma agrees_zones {passed : List Output} (h : pass.Agrees dm passed)
    (hi : ((passed ++ zs).map Output.id).Nodup) : (zs.foldl (zone dm) pass).Agrees dm (passed ++ zs) := by
  induction zs generalizing pass passed with
  | nil => simpa using h
  | cons z zs ih =>
    have hn : ∀ o ∈ passed, o.id ≠ z.id := by
      intro o hoh he
      rw [map_append, nodup_append] at hi
      exact hi.2.2 _ (mem_map_of_mem hoh) _ (by simp) he
    rw [append_cons] at hi ⊢
    exact ih (agrees_zone h hn) hi

end ZonePass

/-- The plan agrees with its layout. -/
lemma agrees_compile (mappings : Mappings) (hi : (l.zones.map Output.id).Nodup) :
    (l.zones.foldl (ZonePass.zone mappings.deviceMap) {}).Agrees mappings.deviceMap l.zones :=
  have hs : ZonePass.Agrees mappings.deviceMap {} [] := ⟨forall_mem_nil _, rfl⟩
  ZonePass.agrees_zones hs hi

variable {mappings : Mappings} {signature : UInt64}

/-- Every LED-sampled zone has an ordered route. -/
lemma mem_ordered_of_mem (hi : (l.zones.map Output.id).Nodup) (hz : z ∈ l.zones)
    (hs : isLedSampledZone z) :
    ⟨z.id, compileZoneRoute mappings.deviceMap z⟩ ∈
      (compileRoutingPlan mappings l signature).orderedZoneRoutes := by
  change _ ∈ (l.zones.foldl (ZonePass.zone mappings.deviceMap) {}).orderedZoneRoutes
  rw [(agrees_compile mappings hi).ordered]
  exact mem_map.mpr ⟨z, mem_filter.mpr ⟨hz, hs⟩, rfl⟩

/-- With distinct zone ids, looking a zone up gives its ordered route. -/
theorem lookup_of_mem_ordered (hi : (l.zones.map Output.id).Nodup) {ordered : OrderedZoneRoute}
    (h : ordered ∈ (compileRoutingPlan mappings l signature).orderedZoneRoutes) :
    (compileRoutingPlan mappings l signature).zoneRoutes.lookup ordered.zoneId = some ordered.route := by
  have ha := agrees_compile mappings hi
  change ordered ∈ (l.zones.foldl (ZonePass.zone mappings.deviceMap) {}).orderedZoneRoutes at h
  rw [ha.ordered, mem_map] at h
  obtain ⟨z, hz, rfl⟩ := h
  exact ha.lookup z (mem_filter.mp hz).1

end Hypercolor.FrameRouting
