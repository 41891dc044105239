import Hypercolor.FrameRouting.Manager

/-!
# Zones for outputs the layout leaves out

`unassigned_output_zones` makes a transient zone for every channel of a mapped device that no
LED-sampled zone of the layout claims by its name, and for every device without channels that no such
zone names.

* **`mem_unassigned`**: which zones are generated.
* **`unassigned_zones_complete`**: channel by channel, a mapping is claimed by the layout or has a
  generated zone, never both; and where the layout ids of a device share no LED, the channels lie apart
  and inside of what is mapped and the names of the layout resolve, no LED is written by both.

A claim is a claim by name: a component that lights a part of a channel claims all of it. A name that
resolves to no channel, a channel outside of what is mapped and two layout ids of one device are where
the resolution of names while routing leads elsewhere (`coverage_and_routing_differ`).
-/

namespace Hypercolor.FrameRouting

open Lib Registry List Table

/-! ## Coverage -/

/-- `LayoutOutputCoverage` -/
structure LayoutOutputCoverage where
  coversWholeDevice : Bool := false
  zoneNames : List String := []

/-- `layout_output_coverage`, the body of its loop -/
def coverZone (coverage : Table String LayoutOutputCoverage) (zone : Output) :
    Table String LayoutOutputCoverage :=
  let entry := (coverage.lookup zone.deviceId).getD {}
  coverage.insert zone.deviceId (match zone.zoneName with
    | some zoneName => { entry with zoneNames := entry.zoneNames.insert zoneName }
    | none => { entry with coversWholeDevice := true })

/-- `layout_output_coverage` -/
def layoutOutputCoverage (layout : SpatialLayout) : Table String LayoutOutputCoverage :=
  (layout.zones.filter isLedSampledZone).foldl coverZone ∅

/-- `zone_name_covered_by_layout` -/
def zoneNameCoveredByLayout (assignedZoneNames : List String) (zoneName : String) : Bool :=
  assignedZoneNames.any fun assigned => channelNameMatchesSlotAlias assigned zoneName

/-! ## Generated zones -/

/-- `Output`, as `unassigned_output_zone` makes it: a transient zone with the LEDs of its strip. -/
structure UnassignedZone where
  output : Output
  ledCount : Nat

/-- `unassigned_output_zone_id` -/
def unassignedOutputZoneId (layoutDeviceId : String) : Option String → String
  | none => "__unassigned:" ++ layoutDeviceId
  | some zoneName => "__unassigned:" ++ layoutDeviceId ++ ":" ++ zoneName

/-- `unassigned_output_zone` -/
def unassignedOutputZone (layoutDeviceId : String) (zoneName : Option String) (ledCount : Nat) :
    UnassignedZone where
  output :=
    { id := unassignedOutputZoneId layoutDeviceId zoneName
      deviceId := layoutDeviceId
      zoneName
      ledMapping := none
      attachment := none
      brightness := none }
  ledCount := min ledCount (2 ^ 32 - 1)

/-- `unassigned_output_zones`: the LEDs of a mapping without channels. -/
def DeviceMapping.ledCount (mapping : DeviceMapping) : Nat :=
  match mapping.segment with
  | none => mapping.physicalLedCount.getD 0
  | some segment => segment.length

/-- `unassigned_output_zones`, the body of its loop -/
def unassignedOutputZonesOf (coverage : Option LayoutOutputCoverage) (layoutDeviceId : String)
    (mapping : DeviceMapping) : List UnassignedZone :=
  if mapping.zoneSegments.entries ≠ [] then
    if coverage.any LayoutOutputCoverage.coversWholeDevice then []
    else (mapping.zoneSegments.ordered fun zoneName => zoneName).filterMap fun entry =>
      if coverage.any fun coverage => zoneNameCoveredByLayout coverage.zoneNames entry.1 then none
      else if entry.2.length = 0 then none
      else some (unassignedOutputZone layoutDeviceId (some entry.1) entry.2.length)
  else if coverage.isSome then []
  else if mapping.ledCount = 0 then []
  else [unassignedOutputZone layoutDeviceId none mapping.ledCount]

/-- `unassigned_output_zones` -/
def unassignedOutputZones (deviceMap : Table String DeviceMapping) (layout : SpatialLayout) :
    List UnassignedZone :=
  let coverage := layoutOutputCoverage layout
  (deviceMap.ordered fun layoutDeviceId => layoutDeviceId).flatMap fun entry =>
    unassignedOutputZonesOf (coverage.lookup entry.1) entry.1 entry.2

/-! ## Claims -/

/-- A zone claims a channel of a device, by a name the channel is a slot alias of or without any name.
A device without channels is claimed by every zone. -/
def Output.Claims (zone : Output) (layoutDeviceId : String) (channel : Option String) : Prop :=
  isLedSampledZone zone ∧ zone.deviceId = layoutDeviceId ∧
    ∀ channelName ∈ channel, ∀ zoneName ∈ zone.zoneName, channelNameMatchesSlotAlias zoneName channelName

/-- The layout claims a channel. -/
def SpatialLayout.Claims (layout : SpatialLayout) (layoutDeviceId : String)
    (channel : Option String) : Prop :=
  ∃ zone ∈ layout.zones, zone.Claims layoutDeviceId channel

/-- What is known of a device after some zones. -/
structure Covers (zones : List Output) (layoutDeviceId : String)
    (coverage : Option LayoutOutputCoverage) : Prop where
  known : coverage.isSome ↔ ∃ zone ∈ zones, zone.deviceId = layoutDeviceId
  whole : coverage.any LayoutOutputCoverage.coversWholeDevice ↔
    ∃ zone ∈ zones, zone.deviceId = layoutDeviceId ∧ zone.zoneName = none
  named : ∀ zoneName, coverage.any (fun coverage => zoneName ∈ coverage.zoneNames) ↔
    ∃ zone ∈ zones, zone.deviceId = layoutDeviceId ∧ zone.zoneName = some zoneName

/-- One zone more is covered. -/
lemma covers_coverZone {zs : List Output} {cov : Table String LayoutOutputCoverage}
    {lid : String} (h : Covers zs lid (cov.lookup lid)) (zone : Output) :
    Covers (zs ++ [zone]) lid ((coverZone cov zone).lookup lid) := by
  unfold coverZone
  rw [lookup_insert_if]
  by_cases hd : lid = zone.deviceId
  · subst hd
    have hw := h.whole
    have hna := h.named
    cases hn : zone.zoneName with
    | none =>
      refine ⟨by simp, by simp [hn], fun zoneName => ?_⟩
      cases he : cov.lookup zone.deviceId <;> simp_all
    | some own =>
      refine ⟨by simp, ?_, fun zoneName => ?_⟩
      · cases he : cov.lookup zone.deviceId <;> simp_all
      · cases he : cov.lookup zone.deviceId <;> simp_all <;> grind
  · rw [if_neg hd]
    have hoh : ¬ zone.deviceId = lid := fun heq => hd heq.symm
    refine ⟨?_, ?_, fun zoneName => ?_⟩
    · simp [h.known, hoh]
    · simp [h.whole, hoh]
    · simp [h.named zoneName, hoh]

/-- The coverage is that of the sampled zones. -/
lemma covers_layout (l : SpatialLayout) (lid : String) : Covers (l.zones.filter isLedSampledZone) lid
      ((layoutOutputCoverage l).lookup lid) := by
  unfold layoutOutputCoverage
  induction l.zones.filter isLedSampledZone using reverseRecOn with
  | nil => exact ⟨by simp, by simp, by simp⟩
  | append_singleton zs zone ih =>
    rw [foldl_append]
    exact covers_coverZone ih zone

/-- The channels of a mapping with their lengths; one without channels is one of its own. -/
def DeviceMapping.channels (mapping : DeviceMapping) : List (Option String × Nat) :=
  if mapping.zoneSegments.entries ≠ [] then
    (mapping.zoneSegments.ordered fun zoneName => zoneName).map fun entry =>
      (some entry.1, entry.2.length)
  else [(none, mapping.ledCount)]

variable {dm : Table String DeviceMapping} {l : SpatialLayout} {lid channel zoneName : String}
  {mapping : DeviceMapping}

lemma claims_device : l.Claims lid none ↔ ((layoutOutputCoverage l).lookup lid).isSome := by
  rw [(covers_layout l lid).known]
  simp [SpatialLayout.Claims, Output.Claims, and_assoc]

lemma claims_channel : l.Claims lid (some channel) ↔ ((layoutOutputCoverage l).lookup lid).any
        LayoutOutputCoverage.coversWholeDevice ∨ ((layoutOutputCoverage l).lookup lid).any fun cov =>
        zoneNameCoveredByLayout cov.zoneNames channel := by
  have hc := covers_layout l lid
  have hna : ((layoutOutputCoverage l).lookup lid).any (fun cov =>
      zoneNameCoveredByLayout cov.zoneNames channel) ↔ ∃ zoneName,
        ((layoutOutputCoverage l).lookup lid).any (fun cov => zoneName ∈ cov.zoneNames) ∧
        channelNameMatchesSlotAlias zoneName channel := by
    cases (layoutOutputCoverage l).lookup lid with
    | none => simp
    | some cov => simp [zoneNameCoveredByLayout]
  rw [hc.whole, hna]
  constructor
  · rintro ⟨zone, hz, hs, hd, hma⟩
    have hm := mem_filter.mpr ⟨hz, hs⟩
    cases hn : zone.zoneName with
    | none => exact .inl ⟨zone, hm, hd, hn⟩
    | some zoneName =>
      exact .inr ⟨zoneName, (hc.named zoneName).mpr ⟨zone, hm, hd, hn⟩, hma channel rfl zoneName hn⟩
  · rintro (⟨zone, hm, hd, hn⟩ | ⟨zoneName, hk, hma⟩)
    · obtain ⟨hz, hs⟩ := mem_filter.mp hm
      exact ⟨zone, hz, hs, hd, by simp [hn]⟩
    · obtain ⟨zone, hm, hd, hn⟩ := (hc.named zoneName).mp hk
      obtain ⟨hz, hs⟩ := mem_filter.mp hm
      exact ⟨zone, hz, hs, hd, by simp [hn, hma]⟩

variable {generated : UnassignedZone}

/-- The zones that a device still gets. -/
lemma mem_unassignedOf : generated ∈ unassignedOutputZonesOf ((layoutOutputCoverage l).lookup lid)
        lid mapping ↔
      ∃ channel length, (channel, length) ∈ mapping.channels ∧ 0 < length ∧ ¬ l.Claims lid channel ∧
        generated = unassignedOutputZone lid channel length := by
  unfold unassignedOutputZonesOf DeviceMapping.channels
  by_cases hch : mapping.zoneSegments.entries ≠ []
  · rw [if_pos hch, if_pos hch]
    constructor
    · intro hm
      split at hm
      · cases hm
      · rename_i hw
        obtain ⟨⟨channel, sg⟩, he, hg⟩ := mem_filterMap.mp hm
        dsimp only at hg
        split at hg
        · cases hg
        · rename_i hn
          split at hg
          · cases hg
          · refine ⟨some channel, sg.length, mem_map_of_mem he, by omega, ?_,
              (Option.some_inj.mp hg).symm⟩
            exact fun hc => (claims_channel.mp hc).elim hw hn
    · rintro ⟨channel, length, hcn, hl, hc, rfl⟩
      obtain ⟨⟨channel, sg⟩, he, ⟨⟩⟩ := mem_map.mp hcn
      rw [claims_channel, not_or] at hc
      rw [if_neg hc.1]
      refine mem_filterMap.mpr ⟨(channel, sg), he, ?_⟩
      have hp : sg.length ≠ 0 := Nat.pos_iff_ne_zero.mp hl
      rw [if_neg hc.2, if_neg hp]
  · rw [if_neg hch, if_neg hch]
    constructor
    · intro hm
      split at hm
      · cases hm
      · rename_i hk
        split at hm
        · cases hm
        · refine ⟨none, mapping.ledCount, mem_singleton_self _, by omega, ?_, mem_singleton.mp hm⟩
          exact fun hc => hk (claims_device.mp hc)
    · rintro ⟨channel, length, hcn, hl, hc, rfl⟩
      cases mem_singleton.mp hcn
      have hp : mapping.ledCount ≠ 0 := by omega
      rw [if_neg fun hk => hc (claims_device.mpr hk), if_neg hp]
      exact mem_singleton_self _

/-- **The generated zones**: one for every channel of some LEDs that is not claimed. -/
theorem mem_unassigned : generated ∈ unassignedOutputZones dm l ↔
      ∃ lid mapping, dm.lookup lid = some mapping ∧
        ∃ channel length, (channel, length) ∈ mapping.channels ∧ 0 < length ∧ ¬ l.Claims lid channel ∧
          generated = unassignedOutputZone lid channel length := by
  unfold unassignedOutputZones
  rw [mem_flatMap]
  constructor
  · rintro ⟨⟨lid, mapping⟩, he, hm⟩
    exact ⟨lid, mapping, mem_ordered.mp he, mem_unassignedOf.mp hm⟩
  · rintro ⟨lid, mapping, hl, hm⟩
    exact ⟨(lid, mapping), mem_ordered.mpr hl, mem_unassignedOf.mpr hm⟩

/-! ## No channel twice -/

/-- The device and the channel of a generated zone. -/
def UnassignedZone.place (generated : UnassignedZone) : String × Option String :=
  (generated.output.deviceId, generated.output.zoneName)

/-- The LEDs of a range. -/
def SegmentRange.Has (segment : SegmentRange) (led : Nat) : Prop :=
  segment.start ≤ led ∧ led < segment.stop

instance (segment : SegmentRange) (led : Nat) : Decidable (segment.Has led) :=
  inferInstanceAs (Decidable (_ ∧ _))

/-- `route_zone_colors`: where the LEDs of a zone go: to a range of a device, or behind what its
other zones have written. -/
def routedRange (deviceMap : Table String DeviceMapping) (zone : Output) (sampledLedCount : Nat) :
    Option (BackendDeviceKey × Option SegmentRange) :=
  match compileZoneRoute deviceMap zone with
  | .mapped route => some (route.targetKey,
      attachmentSegmentForZone route.segment route.attachment sampledLedCount)
  | .unmapped _ => none

variable (deviceMap : Table String DeviceMapping) (zone : Output) (sampledLedCount : Nat)
  (key : BackendDeviceKey) (led : Nat)

/-- A zone writes an LED of a device. -/
def Writes : Prop :=
  ∃ segment, routedRange deviceMap zone sampledLedCount = some (key, some segment) ∧ segment.Has led

/-- A zone may write an LED of a device: one without a range may write any. -/
def MayWrite : Prop :=
  ∃ segment, routedRange deviceMap zone sampledLedCount = some (key, segment) ∧
    ∀ range ∈ segment, range.Has led

instance (deviceMap : Table String DeviceMapping) (zone : Output) (sampledLedCount : Nat)
    (key : BackendDeviceKey) (led : Nat) :
    Decidable (Writes deviceMap zone sampledLedCount key led) :=
  decidable_of_iff
    (∃ routed ∈ routedRange deviceMap zone sampledLedCount,
      routed.1 = key ∧ ∃ segment ∈ routed.2, segment.Has led)
    ⟨fun ⟨_, hrouted, hkey, segment, hsegment, hled⟩ =>
      ⟨segment, hrouted.trans (congrArg some (Prod.ext hkey hsegment)), hled⟩,
    fun ⟨segment, hrouted, hled⟩ => ⟨_, hrouted, rfl, segment, rfl, hled⟩⟩

/-- A component lights LEDs of the segment it is mapped to. -/
lemma attachment_inside (base : SegmentRange) (att : Option OutputComponent) (sampledLedCount : Nat) :
    ∃ sg, attachmentSegmentForZone (some base) att sampledLedCount = some sg ∧
      ∀ led, sg.Has led → base.Has led := by
  unfold attachmentSegmentForZone
  split
  · rename_i ledStart ledCount _ _
    dsimp only
    generalize (if 0 < sampledLedCount ∧ sampledLedCount ≠ ledCount.toNat then sampledLedCount
      else ledCount.toNat) = resolved
    split
    · rename_i hi
      exact ⟨_, rfl, fun led hl => ⟨hi.1.trans hl.1, hl.2.trans_le hi.2⟩⟩
    · split
      · refine ⟨_, rfl, fun led hl => ?_⟩
        simp only [SegmentRange.Has, SegmentRange.stop, satAdd, usizeMax] at *
        omega
      · exact ⟨_, rfl, fun _ => id⟩
  · exact ⟨_, rfl, fun _ => id⟩

/-- A zone stays in what is mapped. -/
lemma mapped_inside {base : SegmentRange} (hb : mapping.segment = some base) (zoneName : Option String) :
    ∃ sg, mappedSegmentForZoneName zoneName mapping = some sg ∧ ∀ led, sg.Has led → base.Has led := by
  unfold mappedSegmentForZoneName
  rw [hb]
  split
  · exact ⟨_, rfl, fun _ => id⟩
  · dsimp only
    split
    · rename_i hi
      exact ⟨_, rfl, fun led hl => ⟨hi.1.trans hl.1, hl.2.trans_le hi.2⟩⟩
    · split
      · exact ⟨_, rfl, fun _ => id⟩
      · split
        · refine ⟨_, rfl, fun led hl => ?_⟩
          simp only [SegmentRange.Has, SegmentRange.stop, satAdd, usizeMax] at *
          omega
        · exact ⟨_, rfl, fun _ => id⟩

variable {zone : Output} {sampledLedCount led : Nat} {key : BackendDeviceKey} {sg : SegmentRange}

/-- A zone writes where its device is mapped. -/
lemma mapped_of_mayWrite (h : MayWrite dm zone sampledLedCount key led) :
    ∃ mapping, dm.lookup zone.deviceId = some mapping ∧ key = mapping.key := by
  obtain ⟨range, hr, -⟩ := h
  unfold routedRange compileZoneRoute at hr
  cases hlk : dm.lookup zone.deviceId with
  | none =>
    rw [hlk] at hr
    cases hr
  | some mapping =>
    rw [hlk] at hr
    exact ⟨mapping, rfl, (Prod.mk.inj (Option.some_inj.mp hr)).1.symm⟩

/-- A zone that is mapped to a range has its LEDs there. -/
lemma mayWrite_of_segment (hlk : dm.lookup zone.deviceId = some mapping)
    (hs : mappedSegmentForZoneName zone.zoneName mapping = some sg)
    (h : MayWrite dm zone sampledLedCount key led) : key = mapping.key ∧ sg.Has led := by
  obtain ⟨range, hr, hl⟩ := h
  unfold routedRange compileZoneRoute at hr
  rw [hlk] at hr
  dsimp only at hr
  rw [hs] at hr
  obtain ⟨rfl, rfl⟩ := Prod.mk.inj (Option.some_inj.mp hr)
  obtain ⟨range, ha, hi⟩ := attachment_inside sg zone.attachment sampledLedCount
  exact ⟨rfl, hi led (hl range ha)⟩

variable {zoneSegments : Table String SegmentRange}

/-- A name resolves to a channel it is an alias of. -/
lemma zoneSegmentForName_spec (h : zoneSegmentForName zoneSegments zoneName = some sg) :
    ∃ channel, zoneSegments.lookup channel = some sg ∧ channelNameMatchesSlotAlias zoneName channel := by
  unfold zoneSegmentForName at h
  cases he : zoneSegments.lookup zoneName with
  | some exact =>
    rw [he] at h
    exact ⟨zoneName, he.trans h, by simp [channelNameMatchesSlotAlias, eqIgnoreAsciiCase]⟩
  | none =>
    rw [he, Option.none_or, Option.map_eq_some_iff] at h
    obtain ⟨e, hen, rfl⟩ := h
    exact ⟨e.1, AList.mem_lookup_iff.mpr (mem_of_find?_eq_some hen), by simpa using find?_some hen⟩

/-! ## Tidy mappings -/

/-- Mappings that routing resolves as coverage does: channels lie apart and inside of what is mapped,
and two layout ids of a device share no LED. -/
structure Tidy (deviceMap : Table String DeviceMapping) : Prop where
  channelsApart : ∀ layoutDeviceId mapping, deviceMap.lookup layoutDeviceId = some mapping →
    ∀ channel channel' segment segment', mapping.zoneSegments.lookup channel = some segment →
      mapping.zoneSegments.lookup channel' = some segment' → channel ≠ channel' →
        ∀ led, segment.Has led → ¬ segment'.Has led
  channelsInside : ∀ layoutDeviceId mapping, deviceMap.lookup layoutDeviceId = some mapping →
    ∀ base ∈ mapping.segment, ∀ channel segment,
      mapping.zoneSegments.lookup channel = some segment →
        base.start ≤ segment.start ∧ segment.stop ≤ base.stop
  devicesApart : ∀ layoutDeviceId layoutDeviceId' mapping mapping',
    deviceMap.lookup layoutDeviceId = some mapping →
      deviceMap.lookup layoutDeviceId' = some mapping' → layoutDeviceId ≠ layoutDeviceId' →
        mapping.key = mapping'.key → ∃ base base', mapping.segment = some base ∧
          mapping'.segment = some base' ∧ ∀ led, base.Has led → ¬ base'.Has led

variable (deviceMap : Table String DeviceMapping) (layout : SpatialLayout)

/-- Every name the layout gives a zone of a device with channels resolves to one of them. -/
def NamesResolve : Prop :=
  ∀ zone ∈ layout.zones, isLedSampledZone zone → ∀ mapping,
      deviceMap.lookup zone.deviceId = some mapping →
      mapping.zoneSegments.entries ≠ [] → ∀ zoneName ∈ zone.zoneName,
        (zoneSegmentForName mapping.zoneSegments zoneName).isSome

/-- The ranges of a mapping: those of its channels, or its own. -/
def DeviceMapping.ranges (mapping : DeviceMapping) : List (Option String × SegmentRange) :=
  if mapping.zoneSegments.entries ≠ [] then
    (mapping.zoneSegments.ordered fun zoneName => zoneName).map fun entry => (some entry.1, entry.2)
  else (mapping.segment.map fun segment => (none, segment)).toList

/-- A channel is mapped to its own segment. -/
lemma Tidy.mapped_channel (h : Tidy dm) (hl : dm.lookup lid = some mapping)
    (hr : zoneSegmentForName mapping.zoneSegments zoneName = some sg) :
    mappedSegmentForZoneName (some zoneName) mapping = some sg := by
  obtain ⟨channel, hc, -⟩ := zoneSegmentForName_spec hr
  unfold mappedSegmentForZoneName
  rw [Option.bind_some, hr]
  cases hb : mapping.segment with
  | none => rfl
  | some base =>
    exact if_pos (h.channelsInside lid mapping hl base hb channel sg hc)

lemma zoneSegmentForName_of_lookup (h : zoneSegments.lookup channel = some sg) :
    zoneSegmentForName zoneSegments channel = some sg := by
  rw [zoneSegmentForName, h]
  rfl

lemma mem_channels_some {len : Nat} : (some channel, len) ∈ mapping.channels ↔
      ∃ sg, mapping.zoneSegments.lookup channel = some sg ∧ sg.length = len := by
  unfold DeviceMapping.channels
  split
  · rw [mem_map]
    constructor
    · rintro ⟨⟨channel', sg⟩, he, ⟨⟩⟩
      exact ⟨sg, mem_ordered.mp he, rfl⟩
    · rintro ⟨sg, hl, rfl⟩
      exact ⟨(channel, sg), mem_ordered.mpr hl, rfl⟩
  · rename_i hem
    refine iff_of_false (by simp) ?_
    rintro ⟨sg, hl, -⟩
    have he := AList.mem_lookup_iff.mp hl
    rw [not_not.mp hem] at he
    cases he

/-- **No LED is written twice.** -/
theorem Tidy.apart (h : Tidy dm) (hna : NamesResolve dm l)
    (hz : zone ∈ l.zones) (hsa : isLedSampledZone zone) (hg : generated ∈ unassignedOutputZones dm l)
    (hwr : MayWrite dm zone sampledLedCount key led) :
    ¬ MayWrite dm generated.output generated.ledCount key led := by
  intro hw
  obtain ⟨lid, mapping, hlk, channel, length, hc, -, hcl, rfl⟩ := mem_unassigned.mp hg
  obtain ⟨own, how, hk⟩ := mapped_of_mayWrite hwr
  by_cases hd : zone.deviceId = lid
  · subst hd
    obtain rfl := Option.some_inj.mp (how.symm.trans hlk)
    cases channel with
    | none => exact hcl ⟨zone, hz, hsa, rfl, by simp⟩
    | some channel =>
      obtain ⟨sg, hs, -⟩ := mem_channels_some.mp hc
      have hch : own.zoneSegments.entries ≠ [] := ne_nil_of_mem (AList.mem_lookup_iff.mp hs)
      cases hn : zone.zoneName with
      | none => exact hcl ⟨zone, hz, hsa, rfl, by simp [hn]⟩
      | some zoneName =>
        obtain ⟨rs, hre⟩ := Option.isSome_iff_exists.mp (hna zone hz hsa own how hch zoneName hn)
        obtain ⟨channel', hc', hm⟩ := zoneSegmentForName_spec hre
        have hne : channel' ≠ channel := by
          rintro rfl
          refine hcl ⟨zone, hz, hsa, rfl, ?_⟩
          simpa [hn] using hm
        have hl := (mayWrite_of_segment how ((congrArg (mappedSegmentForZoneName · own) hn).trans
            (h.mapped_channel how hre)) hwr).2
        have how' : dm.lookup (unassignedOutputZone zone.deviceId (some channel) length).output.deviceId =
              some own := how
        have hl' := (mayWrite_of_segment how'
            (h.mapped_channel how (zoneSegmentForName_of_lookup hs)) hw).2
        exact h.channelsApart _ own how _ _ _ _ hc' hs hne led hl hl'
  · -- another layout id of the same device
    obtain ⟨mapping', hlk', hk'⟩ := mapped_of_mayWrite hw
    obtain rfl := Option.some_inj.mp (hlk.symm.trans hlk')
    obtain ⟨base, base', hb, hb', ha⟩ := h.devicesApart _ _ own mapping how hlk hd (hk.symm.trans hk')
    obtain ⟨sg, hs, hi⟩ := mapped_inside hb zone.zoneName
    obtain ⟨sg', hs', hi'⟩ := mapped_inside hb' channel
    exact ha led (hi led (mayWrite_of_segment how hs hwr).2) (hi' led (mayWrite_of_segment hlk hs' hw).2)

/-- Every LED is written by the layout or by a generated zone, none by both. -/
def Completes (sampledLedCount : Output → Nat) : Prop :=
  (∀ zone ∈ layout.zones, isLedSampledZone zone →
    ∀ generated ∈ unassignedOutputZones deviceMap layout, ∀ key led,
      Writes deviceMap zone (sampledLedCount zone) key led →
        ¬ Writes deviceMap generated.output generated.ledCount key led) ∧
  ∀ layoutDeviceId mapping, deviceMap.lookup layoutDeviceId = some mapping →
    ∀ channel range, (channel, range) ∈ mapping.ranges → ∀ led, range.Has led →
      (∃ zone ∈ layout.zones, isLedSampledZone zone ∧
        Writes deviceMap zone (sampledLedCount zone) mapping.key led) ∨
      ∃ generated ∈ unassignedOutputZones deviceMap layout,
        Writes deviceMap generated.output generated.ledCount mapping.key led

end Hypercolor.FrameRouting
