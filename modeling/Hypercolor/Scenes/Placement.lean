import Hypercolor.Scenes.Edits

/-!
# Placing the outputs of a zone

`update_zone_layout` takes a layout for one zone of one scene. **`placement_only`**: what it accepts
gives the zone the requested outputs in their order and place, each bound to the hardware it was bound
to, and leaves the ids of its outputs, the other zones and the other scenes alone.
-/

namespace Hypercolor.Scenes.SceneManager

open Lib List

variable {F X : Type} [Scalar F] [DecidableEq X] [Literals X]

/-- A zone placed as requested. Of two stored outputs with one id, one is merged. -/
structure Placed (layout : SpatialLayout F X) (zone zone' : Zone F X) : Prop where
  outputs : List.Forall₂ (fun requested output => ∃ stored ∈ zone.layout.zones,
    stored.id = requested.id ∧
      output = { requested with deviceId := stored.deviceId, hardware := stored.hardware })
    layout.zones zone'.layout.zones
  ids : ∀ id, id ∈ zone'.layout.outputIds ↔ id ∈ zone.layout.outputIds
  bound : zone.layout.outputIds.Nodup → ∀ stored ∈ zone.layout.zones,
    ∃ output ∈ zone'.layout.zones, output.id = stored.id ∧ output.deviceId = stored.deviceId ∧
      output.hardware = stored.hardware
  rest : zone' = { zone with layout := { zone'.layout with identity := zone.layout.identity } }

/-- One zone of one scene is placed as requested, and nothing else changes but the revision. -/
def Places (m m' : SceneManager F X) (sceneId : SceneId) (zoneId : ZoneId)
    (layout : SpatialLayout F X) : Prop :=
  ∃ scene scene' zone zone' before later,
    m.scenes.lookup sceneId = some scene ∧ m'.scenes.lookup sceneId = some scene' ∧
    scene.zones = before ++ zone :: later ∧ scene'.zones = before ++ zone' :: later ∧
    zone.id = zoneId ∧ (∀ other ∈ before, other.id ≠ zoneId) ∧ Placed layout zone zone' ∧
    scene' = { scene with zones := scene'.zones, zonesRevision := scene'.zonesRevision } ∧
    ∀ id ≠ sceneId, m'.scenes.lookup id = m.scenes.lookup id

variable {layout : SpatialLayout F X} {zone : Zone F X}

lemma placed_of_merged (hn : layout.outputIds.Nodup)
    (hsa : zone.layout.outputIds.toFinset = layout.outputIds.toFinset)
    (hz : zone'.layout.zones = mergePlacements
      (zone.layout.zones.foldl (fun t o => t.insert o.id o) ∅) layout.zones)
    (hr : zone' = { zone with layout := { zone'.layout with identity := zone.layout.identity } }) :
    Placed layout zone zone' := by
  have hm := forall₂_updateZoneLayout hn hsa
  have hi := outputIds_updateZoneLayout hm
  rw [← hz] at hm hi
  refine ⟨hm.imp ?_, fun id => ?_, fun hd stored hs => ?_, hr⟩
  · rintro requested _ ⟨stored, hs, hid, rfl⟩
    refine ⟨stored, hs, hid, ?_⟩
    rw [mergePlacement, hid]
  · rw [SpatialLayout.outputIds, hi, ← mem_toFinset, ← hsa, mem_toFinset]
  · have hme : stored.id ∈ layout.outputIds := by
      rw [← mem_toFinset, ← hsa, mem_toFinset]
      exact mem_map_of_mem hs
    rw [← hi] at hme
    obtain ⟨o, hou, hid⟩ := mem_map.mp hme
    obtain ⟨requested, -, stored', hs', hid', rfl⟩ := (Partners.of_forall₂ hm).back o hou
    obtain rfl : stored' = stored := inj_on_of_nodup_map hd hs' hs hid
    exact ⟨_, hou, rfl, rfl, rfl⟩

lemma modifyFirst_append {α : Type} {p : α → Bool} {f : α → α} {a : α} {before lt : List α}
    (hb : ∀ b ∈ before, ¬ p b) (ha : p a) : modifyFirst p f (before ++ a :: lt) = before ++ f a ::
        lt := by
  induction before with
  | nil => exact if_pos ha
  | cons b before ih =>
    rw [cons_append, modifyFirst, if_neg (hb b mem_cons_self),
      ih fun o hoh => hb o (mem_cons_of_mem _ hoh)]
    rfl

variable {m m' : SceneManager F X} {sceneId : SceneId} {zoneId : ZoneId}

/-- **A placement edit is one and nothing else.** -/
theorem placement_only (h : m.updateZoneLayout sceneId zoneId layout = .ok m') :
    Places m m' sceneId zoneId layout := by
  rw [updateZoneLayout, editScene] at h
  split at h
  · cases h
  rename_i scene hsc
  split at h
  · cases h
  rename_i scene' he
  have hs : m'.scenes = m.scenes.insert sceneId scene' := by
    cases h
    unfold refreshIf
    split <;> rfl
  have he := unlocked_ok he
  split at he
  · cases he
  rename_i zone hz
  split_ifs at he with hm
  rw [not_or, not_not, not_not] at hm
  obtain ⟨hi, before, later, hsp, hb⟩ := find?_eq_some_iff_append.mp hz
  have hos : ∀ other ∈ before, other.id ≠ zoneId := fun other hoh => by
    simpa using hb other hoh
  cases he
  refine ⟨scene, _, zone, _, before, later, hsc, hs ▸ AList.lookup_insert _, hsp,
    (congrArg (modifyFirst _ _) hsp).trans (modifyFirst_append (fun other hoh => ?_) hi),
    of_decide_eq_true hi, hos, placed_of_merged hm.1 hm.2 rfl rfl, rfl,
    fun id hn => ?_⟩
  · simpa using hos other hoh
  · rw [hs, AList.lookup_insert_ne hn]

/-- An output with nothing to tell it from others but its id. -/
def strip (id : String) : Output ℚ Unit := ⟨id, id, "usb", (), ⟨0, 0⟩, ⟨1, 1⟩, 0, 1, 0, (), ()⟩

/-- A layout of these outputs. -/
def strips (ids : List String) : SpatialLayout ℚ Unit := ⟨(), 640, 480, ids.map strip, ()⟩

/-- A manager with two outputs. -/
def stereo : SceneManager ℚ Unit := withDefaultLayout ⟨1⟩ (strips ["left", "right"]) 0

/-- The two outputs swap their places. -/
theorem placement_only_swapped :
    Places stereo (stereo.after (stereo.updateZoneLayout .default ⟨1⟩ (strips ["right", "left"])))
      .default ⟨1⟩ (strips ["right", "left"]) :=
  placement_only (by rfl)

end Hypercolor.Scenes.SceneManager
