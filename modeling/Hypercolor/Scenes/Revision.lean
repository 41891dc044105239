import Hypercolor.Scenes.Changes

/-!
# The zones revision and the structure of a scene

Clients send the zones revision they have seen along with an edit of a scene's structure: which zones
there are, in which order, and the role, display target and layout of each. Five operations change
the structure without counting the revision up. **`revised_iff_tracked`** says exactly when an
operation keeps the two in step:

* an updated scene must bring a larger revision with it, or the structure that is there;
* a primary zone must have no display target to lose, unless its layout changes as well;
* the face of a display must be there already, with the layout and the plain target it would get;
* a patched target must be what it is;
* a removed device must have no face.
-/

set_option linter.unusedSectionVars false

namespace Hypercolor.Scenes

open Lib List Option AList

variable {F X : Type} [Scalar F] [DecidableEq X] [Literals X]

/-- A target that a patch leaves as it is. -/
def DisplayFaceTarget.Unpatched (current : DisplayFaceTarget F) (blendMode : Option BlendMode)
    (opacity : Option F) : Prop :=
  blendMode.getD current.blendMode = current.blendMode ∧
    current.opacity = if current.blendMode.blendsWithBase
      then clamp (opacity.getD current.opacity) 0.0 1.0 else 1.0

variable {sc : Scene F X}

namespace SceneManager

/-- The revision of every scene that is kept follows its structure. -/
def Revises (m m' : SceneManager F X) : Prop :=
  ∀ id scene scene', m.scenes.lookup id = some scene → m'.scenes.lookup id = some scene' →
    scene.Revised scene'

variable (m : SceneManager F X)

/-- What an update must bring with it. -/
def UpdateTracked (scene : Scene F X) : Prop :=
  ∀ existing, m.scenes.lookup scene.id = some existing → existing.kind = scene.kind →
    (scene.id = .default → scene.name = existing.name) → scene.validate = [] →
      scene.frame = existing.frame ∨ u64Max ≤ existing.zonesRevision ∨
        existing.zonesRevision < scene.zonesRevision

/-- The structure of the active scene below the saturation of the counter. -/
def ActiveTracked (P : Scene F X → Prop) : Prop :=
  ∀ scene, m.activeScene = some scene → scene.zonesRevision < u64Max → P scene

/-- When an operation keeps the revision in step with the structure. -/
def Tracked : Op F X → Prop
  | .update scene => m.UpdateTracked scene
  | .upsertPrimaryZone _ _ _ _ _ layout => m.ActiveTracked fun scene =>
      ∀ primary, scene.primaryZone = some primary → primary.displayTarget ≠ none →
        ¬ sceneHasCustomLedZones scene ∧ primary.layout ≠ layout
  | .upsertDisplayZone _ _ deviceId _ _ _ layout => m.ActiveTracked fun scene =>
      ∃ face, scene.displayZoneFor deviceId = some face ∧
        face.displayTarget = some (.new deviceId) ∧ face.layout = layout
  | .patchDisplayZoneTarget zoneId blendMode opacity => m.ActiveTracked fun scene =>
      ∀ zone, scene.zones.find? (fun zone => zone.id = zoneId) = some zone →
        ∀ current, zone.displayTarget = some current → current.Unpatched blendMode opacity
  | .removeDisplayZonesForDevice deviceId => ∀ id scene, m.scenes.lookup id = some scene →
      scene.zonesRevision < u64Max → ∀ zone ∈ scene.zones, zone.displayDevice ≠ some deviceId
  | _ => True

/-! ## From managers to scenes -/

variable {sc' : Scene F X}

/-- With the revision as it was, the structure has to be. -/
lemma revised_iff_frame (h : sc'.zonesRevision = sc.zonesRevision) :
    sc.Revised sc' ↔ (sc.zonesRevision < u64Max → sc'.frame = sc.frame) := by
  unfold Scene.Revised
  rw [h]
  constructor
  · intro hr hl
    by_contra hn
    exact lt_irrefl _ (hr hn hl)
  · intro hf hn hl
    exact absurd (hf hl) hn

variable {m m' : SceneManager F X}

lemma Edits.revises (h : Edits Scene.Revised m m') : m.Revises m' := by
  intro id sc sc' hs hs'
  obtain ⟨before, hb, hr⟩ := h id sc' hs'
  cases hs.symm.trans hb
  exact hr

/-- Storing one scene. -/
lemma revises_put {id : SceneId} (hsc : m.scenes.lookup id = some sc)
    (hm' : m'.scenes = (m.putScene id sc').scenes) : m.Revises m' ↔ sc.Revised sc' := by
  have hp : m'.scenes.lookup id = some sc' := by
    rw [hm']
    exact lookup_insert _
  constructor
  · intro h
    exact h id sc sc' hsc hp
  · intro h
    refine Edits.revises fun id' s' hs' => ?_
    rw [hm'] at hs'
    exact Edits.put (fun _ => .of_frame rfl) hsc h id' s' hs'

lemma revises_refl (h : m'.scenes = m.scenes) : m.Revises m' :=
  Edits.revises (.of_scenes_eq (fun _ => .of_frame rfl) h)

variable (m : SceneManager F X)

/-- Editing the active scene. -/
lemma revises_editActive (ed : Scene F X → Scene F X × Bool) : m.Revises (m.after (m.editActive ed)) ↔
      ∀ sc, m.activeScene = some sc → sc.Revised (ed sc).1 := by
  unfold activeScene editActive
  cases hi : m.activeSceneId with
  | none => exact iff_of_true (revises_refl rfl) nofun
  | some id =>
    simp only [bind_some]
    cases hs : m.scenes.lookup id with
    | none => exact iff_of_true (revises_refl rfl) nofun
    | some sc =>
      refine (revises_put hs ?_).trans ⟨?_, fun h => h sc rfl⟩
      · exact refreshIf_scenes _ _
      · rintro h _ ⟨⟩
        exact h

/-! ## The five operations -/

lemma revised_upsertPrimary (z : ZoneId) (lyr : SceneLayerId) (eid : EffectId)
    (cs : Finmap fun _ : String => X) (pid : Option Uuid) (l : SpatialLayout F X) (sc : Scene F X) :
    sc.Revised (upsertPrimary z lyr eid cs pid l sc) ↔
      (sc.zonesRevision < u64Max → ∀ pr, sc.primaryZone = some pr → pr.displayTarget ≠ none →
          ¬ sceneHasCustomLedZones sc ∧ pr.layout ≠ l) := by
  unfold upsertPrimary
  cases hp : sc.primaryZone with
  | none => exact iff_of_true (.of_bump rfl) nofun
  | some pr =>
    have hr : pr.role = .primary := by simpa using find?_some hp
    -- The layout of a primary zone is left alone where other zones share the canvas.
    have hl : (pr.layout ≠ if sceneHasCustomLedZones sc
        then ((some pr).map Zone.layout).getD (unclaimedPrimaryLayout sc l)
        else l) ↔ ¬ sceneHasCustomLedZones sc ∧ pr.layout ≠ l := by
      by_cases hcu : sceneHasCustomLedZones sc
      · simp [hcu]
      · simp [hcu]
    simp only
    by_cases hc : ¬ sceneHasCustomLedZones sc ∧ pr.layout ≠ l
    · refine iff_of_true (.of_bump (bumpZonesRevisionIf_revision ?_ _)) ?_
      · exact decide_eq_true (hl.mpr hc)
      · rintro - _ ⟨⟩ -
        exact hc
    · have hs := not_not.mp (mt hl.mp hc)
      rw [bumpZonesRevisionIf, if_neg (by simpa using hs)]
      refine (revised_iff_frame (by rfl)).trans (imp_congr_right fun _ => ?_)
      unfold Scene.frame
      rw [map_modifyFirst_eq_iff]
      constructor
      · intro hf _ he ht
        cases he
        have hp' := congrArg (fun f => f.2.2.1) (hf pr hp)
        exact absurd hp'.symm ht
      · intro hn zn hz
        cases hp.symm.trans hz
        have ht : pr.displayTarget = none := by
          by_contra ht
          exact hc (hn pr rfl ht)
        unfold Zone.frame
        rw [ht, hr, ← hs]
        rfl

lemma revised_upsertFace {d : DeviceId} {ed : Zone F X → Zone F X} {added : Zone F X} :
    sc.Revised (upsertFace d ed added sc) ↔
      (sc.zonesRevision < u64Max → ∃ face, sc.displayZoneFor d = some face ∧
        (ed face).frame = face.frame) := by
  rw [revised_iff_frame (upsertFace_revision _ _ _ _)]
  refine imp_congr_right fun _ => ?_
  unfold upsertFace Scene.frame
  cases hf : sc.displayZoneFor d with
  | none =>
    refine iff_of_false (fun h => ?_) nofun
    have hl := congrArg length h
    simp only [map_append, length_append, length_map, length_singleton]
      at hl
    omega
  | some face =>
    simp only [map_modifyFirst_eq_iff, some.injEq, exists_eq_left']
    constructor
    · exact fun h => h face hf
    · intro h z hz
      cases hf.symm.trans hz
      exact h

lemma revised_withoutFaces (d : DeviceId) (sc : Scene F X) :
    sc.Revised (withoutFaces d sc) ↔ (sc.zonesRevision < u64Max →
      ∀ z ∈ sc.zones, z.displayDevice ≠ some d) := by
  refine (revised_iff_frame (by rfl)).trans (imp_congr_right fun _ => ?_)
  unfold withoutFaces Scene.frame
  constructor
  · intro hf z hz
    have hl := congrArg length hf
    rw [length_map, length_map, length_filter_eq_length_iff] at hl
    simpa using hl z hz
  · intro hn
    rw [filter_eq_self.mpr fun z hz => decide_eq_true (hn z hz)]

lemma unpatched_iff (cur : DisplayFaceTarget F) (bm : Option BlendMode) (opacity : Option F) :
    (let next := DisplayFaceTarget.normalized {
        deviceId := cur.deviceId
        blendMode := bm.getD cur.blendMode
        opacity := opacity.getD cur.opacity }
    if next.blendMode.blendsWithBase then next else { next with opacity := 1.0 }) = cur ↔
      cur.Unpatched bm opacity := by
  obtain ⟨d, mode, amount⟩ := cur
  unfold DisplayFaceTarget.normalized DisplayFaceTarget.Unpatched
  by_cases hm : bm.getD mode = mode
  · by_cases hb : mode.blendsWithBase
    · simp only [hm, hb, if_true, DisplayFaceTarget.mk.injEq, true_and]
      exact eq_comm
    · simp only [hm, hb, Bool.false_eq_true, if_false, DisplayFaceTarget.mk.injEq, true_and]
      exact eq_comm
  · refine iff_of_false (fun h => hm ?_) fun h => hm h.1
    have hn := congrArg DisplayFaceTarget.blendMode h
    rw [apply_ite DisplayFaceTarget.blendMode, ite_self] at hn
    exact hn

lemma revises_patchDisplayZoneTarget (z : ZoneId) (bm : Option BlendMode) (opacity : Option F) :
    m.Revises ((m.patchDisplayZoneTarget z bm opacity).getD m) ↔
      m.Tracked (.patchDisplayZoneTarget z bm opacity) := by
  unfold Tracked ActiveTracked activeScene patchDisplayZoneTarget
  cases hi : m.activeSceneId with
  | none => exact iff_of_true (revises_refl rfl) nofun
  | some id =>
    simp only [bind_eq_bind, bind_some]
    cases hsc : m.scenes.lookup id with
    | none => exact iff_of_true (revises_refl rfl) nofun
    | some sc =>
      simp only [bind_some]
      cases hz : sc.zones.find? fun zn => zn.id = z with
      | none =>
        refine iff_of_true (revises_refl rfl) ?_
        rintro _ ⟨⟩ - zn hf
        cases hz.symm.trans hf
      | some zn =>
        simp only [bind_some]
        cases hc : zn.displayTarget with
        | none =>
          refine iff_of_true (revises_refl rfl) ?_
          rintro _ ⟨⟩ - _ hf cur ht
          cases hz.symm.trans hf
          cases hc.symm.trans ht
        | some cur =>
          refine (revises_put hsc (by rfl)).trans ((revised_iff_frame (by rfl)).trans ?_)
          constructor
          · rintro hfr _ ⟨⟩ hl _ hf _ ht
            cases hz.symm.trans hf
            cases hc.symm.trans ht
            have hs := map_modifyFirst_eq_iff.mp (hfr hl) zn hz
            have hn := congrArg (fun f => f.2.2.1) hs
            exact (unpatched_iff _ _ _).mp (some.inj (hn.trans hc))
          · intro htr hl
            refine map_modifyFirst_eq_iff.mpr fun fd hf => ?_
            cases hz.symm.trans hf
            have hs := htr sc rfl hl zn hz cur hc
            unfold Zone.frame
            rw [hc, (unpatched_iff cur bm opacity).mpr hs]

lemma revises_update (sc : Scene F X) : m.Revises (m.after (m.update sc)) ↔ m.UpdateTracked sc := by
  unfold update UpdateTracked
  cases hs : m.scenes.lookup sc.id with
  | none => exact iff_of_true (revises_refl rfl) nofun
  | some ex =>
    simp only [some.injEq, forall_eq']
    split_ifs with hk hn hi
    · exact iff_of_true (revises_refl rfl) fun h => absurd h hk
    · exact iff_of_true (revises_refl rfl) fun _ h => absurd (h hn.1) hn.2
    · exact iff_of_true (revises_refl rfl) fun _ _ h => absurd h hi
    · refine (revises_put hs (refreshIf_scenes _ _)).trans ?_
      have hke : sc.id = .default → sc.name = ex.name := fun hd => by_contra fun h => hn ⟨hd, h⟩
      constructor
      · intro hr _ _ _
        by_contra hno
        obtain ⟨hf, hb, hl⟩ : sc.frame ≠ ex.frame ∧ ¬ u64Max ≤ ex.zonesRevision ∧
              ¬ ex.zonesRevision < sc.zonesRevision := by
          simpa only [not_or] using hno
        exact hl (hr hf (not_le.mp hb))
      · intro ht hf hb
        rcases ht (not_not.mp hk) hke (not_not.mp hi) with h | h | h
        · exact absurd h hf
        · exact absurd hb (not_lt.mpr h)
        · exact h

lemma revises_create (sc : Scene F X) : m.Revises (m.after (m.create sc)) := by
  unfold create
  split_ifs with he
  · exact revises_refl rfl
  · exact revises_refl rfl
  · intro id before after hb ha
    have hn : id ≠ sc.id := by
      rintro rfl
      rw [hb] at he
      exact he rfl
    cases hb.symm.trans ((lookup_insert_ne hn).symm.trans ha)
    exact .of_frame rfl

lemma revises_delete (id : SceneId) : m.Revises (m.after (m.delete id)) := by
  unfold delete
  split_ifs
  · exact revises_refl rfl
  · exact revises_refl rfl
  · intro id' before after hb ha
    have hn : id' ≠ id := by
      rintro rfl
      cases (lookup_erase _ _).symm.trans ha
    cases hb.symm.trans ((lookup_erase_ne hn).symm.trans ha)
    exact .of_frame rfl

/-- **When the revision follows the structure.** -/
theorem revised_iff_tracked (m : SceneManager F X) (op : Op F X) :
    (∀ id scene scene', m.scenes.lookup id = some scene →
      (m.apply op).scenes.lookup id = some scene' → scene.Revised scene') ↔ m.Tracked op := by
  have hre (hop : op.wholeScene = false) (hre : op.revises) : m.Revises (m.apply op) :=
    Edits.revises fun id scene' hsc' => by
      obtain ⟨scene, hsc, hc⟩ := apply_changes m op hop id scene' hsc'
      exact ⟨scene, hsc, hc.revised hre⟩
  cases op with
  | create scene => exact iff_of_true (revises_create m scene) trivial
  | delete id => exact iff_of_true (revises_delete m id) trivial
  | update scene => exact revises_update m scene
  | upsertPrimaryZone zoneId layerId effectId controls presetId layout =>
    refine (revises_editActive m _).trans (forall_congr' fun scene => ?_)
    exact imp_congr_right fun _ => revised_upsertPrimary _ _ _ _ _ _ _
  | upsertDisplayZone zoneId layerId deviceId deviceName effectId controls layout =>
    refine (revises_editActive m _).trans (forall_congr' fun scene => ?_)
    refine imp_congr_right fun _ => revised_upsertFace.trans (imp_congr_right fun _ => ?_)
    refine exists_congr fun face => and_congr_right fun hf => ?_
    have hd : face.displayDevice = some deviceId := by simpa using find?_some hf
    have hr : face.role = .display := by
      by_contra hr
      rw [Zone.displayDevice, if_neg hr] at hd
      cases hd
    simp only [Zone.frame, replaceEffectLayerStack, hr, Prod.mk.injEq, true_and, eq_comm]
  | patchDisplayZoneTarget zoneId blendMode opacity =>
    exact revises_patchDisplayZoneTarget m zoneId blendMode opacity
  | removeDisplayZonesForDevice deviceId =>
    have hs : (m.apply (.removeDisplayZonesForDevice deviceId)).scenes =
        m.scenes.mapValues (withoutFaces deviceId) := refreshIf_scenes _ _
    refine forall_congr' fun id => forall_congr' fun scene => ?_
    rw [hs, Table.lookup_mapValues]
    constructor
    · intro h hsc
      exact (revised_withoutFaces _ _).mp (h _ hsc (congrArg (Option.map _) hsc))
    · intro h scene' hsc hsc'
      rw [hsc] at hsc'
      cases hsc'
      exact (revised_withoutFaces _ _).mpr (h hsc)
  | _ => exact iff_of_true (hre rfl rfl) trivial

end SceneManager

/-- A new manager, with its default scene. -/
def freshManager : SceneManager ℚ Unit :=
  .withDefaultLayout ⟨1⟩ ⟨(), 640, 480, [], ()⟩ 0

/-- An effect for a screen that has no face yet. -/
def showOnPanel : SceneManager.Op ℚ Unit :=
  .upsertDisplayZone ⟨2⟩ ⟨3⟩ ⟨9⟩ "Panel" ⟨5⟩ ∅ ⟨(), 320, 320, [], ()⟩

/-- How many zones a scene has and at which revision. -/
def zonesSeen (scene : Scene ℚ Unit) : Nat × Nat := (scene.zones.length, scene.zonesRevision)

/-- The new face is a second zone of the scene, at the revision of the first. -/
theorem face_added_at_old_revision : (freshManager.scenes.lookup .default).map zonesSeen = some (1, 0) ∧
      ((freshManager.apply showOnPanel).scenes.lookup .default).map zonesSeen = some (2, 0) ∧
      ¬ ∀ id scene scene', freshManager.scenes.lookup id = some scene →
        (freshManager.apply showOnPanel).scenes.lookup id = some scene' → scene.Revised scene' := by
  have hb : (freshManager.scenes.lookup .default).map zonesSeen = some (1, 0) := by
    decide +kernel
  have ha : ((freshManager.apply showOnPanel).scenes.lookup .default).map zonesSeen = some (2, 0) := by
    decide +kernel
  refine ⟨hb, ha, fun hc => ?_⟩
  obtain ⟨scene, hsc, hs⟩ := map_eq_some_iff.mp hb
  obtain ⟨scene', hsc', hs'⟩ := map_eq_some_iff.mp ha
  obtain ⟨hl, hr⟩ := Prod.mk.inj hs
  obtain ⟨hl', hr'⟩ := Prod.mk.inj hs'
  have hla := hc _ scene scene' hsc hsc' (fun hf => ?_) (by rw [hr]; decide)
  · rw [hr, hr'] at hla
    exact lt_irrefl _ hla
  · have hz := congrArg length hf
    rw [Scene.frame, Scene.frame, length_map, length_map, hl, hl'] at hz
    cases hz

end Hypercolor.Scenes
