import Hypercolor.Scenes.Cache

/-!
# The layout dry run

`resolved_zones_for_primary_layout` predicts the zones that `sync_primary_zone_layout` leaves, so that
the renderer can be prepared before the commit. It aligns the zones of the cache; the commit aligns
those of the active scene and builds the cache again.

**`dry_run_agrees`**: in every reachable state, for every layout, the two come to the same zones and
the same revision.
-/

set_option linter.unusedSectionVars false

namespace Hypercolor.Scenes.SceneManager

open Option

variable {F X : Type} [Scalar F] [DecidableEq X] [Literals X]

/-- `resolved_zones_for_primary_layout` -/
def resolvedZonesForPrimaryLayout (m : SceneManager F X) (layout : SpatialLayout F X) :
    List (Zone F X) × Nat :=
  match m.activeScene with
  | none => (m.resolvedZones, m.resolvedZonesRevision)
  | some scene =>
      let custom := sceneHasCustomLedZones scene
      if m.resolvedZones.any fun zone => (alignLedZone zone layout custom).2 then
        (m.resolvedZones.map fun zone => (alignLedZone zone layout custom).1,
          saturatingSucc m.resolvedZonesRevision)
      else (m.resolvedZones, m.resolvedZonesRevision)

variable {m : SceneManager F X} {sc : Scene F X} {z : Zone F X} {l : SpatialLayout F X}
  {custom : Bool}

/-! ## Aligning a zone -/

lemma alignLedZone_of_target (h : z.displayTarget.isSome) : alignLedZone z l custom = (z, false) :=
    if_pos h

lemma alignLedZone_ne (h : (alignLedZone z l custom).2) : (alignLedZone z l custom).1 ≠ z := by
  unfold alignLedZone at h ⊢
  split_ifs at h ⊢ with ht hcu hp hc
  · intro he
    exact hp.2 (congrArg Zone.layout he).symm
  · intro he
    have hl := congrArg Zone.layout he
    exact hc ⟨(congrArg SpatialLayout.canvasWidth hl).symm, (congrArg SpatialLayout.canvasHeight hl).symm⟩

lemma alignLedZone_displayDevice : (alignLedZone z l custom).1.displayDevice = z.displayDevice := by
  unfold alignLedZone
  split_ifs <;> rfl

lemma alignLedZone_effectLayerId : effectLayerId (alignLedZone z l custom).1 = effectLayerId z := by
  unfold alignLedZone
  split_ifs <;> rfl

/-! ## What the cache shows after the commit -/

variable {id : SceneId}

/-- Aligning leaves the faces where they were. -/
lemma covers_aligned (hi : m.activeSceneId = some id) (hold : m.scenes.lookup id = some sc)
    (aligned : Scene F X) (hz : aligned.zones = sc.zones.map fun z => (alignLedZone z l custom).1)
    (d : DeviceId) : (m.putScene id aligned).covers d = m.covers d := by
  have hn : (m.putScene id aligned).activeScene = some aligned := by
    rw [activeScene, show (m.putScene id aligned).activeSceneId = m.activeSceneId from rfl, hi]
    exact AList.lookup_insert _
  have hc : m.activeScene = some sc := by
    rw [activeScene, hi]
    exact hold
  rw [covers, covers, hn, hc, bind_some, bind_some, Scene.displayZoneFor,
    Scene.displayZoneFor, hz, List.find?_map, any_map]
  simp only [Function.comp_def, alignLedZone_displayDevice, alignLedZone_effectLayerId]

/-- The zones of the cache that are no zones of the active scene are faces. -/
lemma default_target (hz : z ∈ m.defaultDisplayZones.filter fun z =>
    z.targetDevice.any fun d => !m.covers d) : z.displayTarget.isSome := by
  obtain ⟨d, hd, -⟩ := any_eq_true _ _ |>.mp (List.mem_filter.mp hz).2
  rw [Zone.targetDevice] at hd
  exact isSome_map.symm.trans (isSome_of_mem hd)

/-- **The dry run agrees with the commit.** -/
theorem dry_run_agrees (h : machine.Reachable m) (layout : SpatialLayout F X) :
    m.resolvedZonesForPrimaryLayout layout = ((m.syncPrimaryZoneLayout layout).1.resolvedZones,
        (m.syncPrimaryZoneLayout layout).1.resolvedZonesRevision) := by
  have hc : m.resolvedZones = m.nextZones := (coherent_of_reachable h).2
  unfold resolvedZonesForPrimaryLayout syncPrimaryZoneLayout activeScene
  rcases hi : m.activeSceneId with _ | id
  · rfl
  rw [bind_some]
  rcases hs : m.scenes.lookup id with _ | scene
  · simp only [hs]
  simp only [hs]
  generalize sceneHasCustomLedZones scene = custom
  have hac : m.activeScene = some scene := by
    rw [activeScene, hi]
    exact hs
  have hn : m.nextZones = scene.zones ++ m.defaultDisplayZones.filter fun zone =>
      zone.targetDevice.any fun deviceId => !m.covers deviceId := by
    rw [nextZones, hac]
    rfl
  have ha : (m.resolvedZones.any fun zone => (alignLedZone zone layout custom).2) =
      scene.zones.any fun zone => (alignLedZone zone layout custom).2 := by
    have hd : ((m.defaultDisplayZones.filter fun zone => zone.targetDevice.any fun deviceId =>
        !m.covers deviceId).any fun zone => (alignLedZone zone layout custom).2) = false := by
      refine List.any_eq_false.mpr fun zone hz => ?_
      rw [alignLedZone_of_target (default_target hz)]
      exact Bool.false_ne_true
    rw [hc, hn, List.any_append, hd, Bool.or_false]
  rw [ha]
  split_ifs with hch
  · set aligned := bumpZonesRevision { scene with
      zones := scene.zones.map fun zone => (alignLedZone zone layout custom).1 } with hal
    have hco : (m.putScene id aligned).nextZones =
        m.resolvedZones.map fun zone => (alignLedZone zone layout custom).1 := by
      have hnw : (m.putScene id aligned).activeScene = some aligned := by
        rw [activeScene, show (m.putScene id aligned).activeSceneId = m.activeSceneId from rfl, hi]
        exact AList.lookup_insert _
      rw [nextZones, hnw, hc, hn, List.map_append]
      simp only [covers_aligned hi hs aligned rfl]
      congr 1
      conv_lhs => rw [← List.map_id (List.filter _ _)]
      refine List.map_congr_left fun zone hz => ?_
      rw [alignLedZone_of_target (default_target hz)]
      rfl
    have hne : m.resolvedZones ≠ m.resolvedZones.map fun zone => (alignLedZone zone layout custom).1 := by
      intro he
      conv_lhs at he => rw [← List.map_id m.resolvedZones]
      obtain ⟨zone, hz, ht⟩ := List.any_eq_true.mp (ha.trans hch)
      exact alignLedZone_ne ht (List.map_inj_left.mp he zone hz).symm
    simp only [refreshResolvedZones, hco]
    rw [if_pos (show (m.putScene id aligned).resolvedZones ≠ _ from hne)]
    rfl
  · rfl

/-- A layout without outputs. -/
def bare (width height : Nat) : SpatialLayout ℚ Unit := ⟨(), width, height, [], ()⟩

/-- A new manager, and a canvas of twice the size. -/
theorem dry_run_agrees_resized :
    (withDefaultLayout ⟨1⟩ (bare 640 480) 0).resolvedZonesForPrimaryLayout (bare 1280 960) =
      (((withDefaultLayout ⟨1⟩ (bare 640 480) 0).syncPrimaryZoneLayout (bare 1280 960)).1.resolvedZones,
        ((withDefaultLayout ⟨1⟩ (bare 640 480) 0).syncPrimaryZoneLayout
          (bare 1280 960)).1.resolvedZonesRevision) :=
  dry_run_agrees (.init (.inr ⟨_, _, _, rfl⟩)) (bare 1280 960)

end Hypercolor.Scenes.SceneManager
