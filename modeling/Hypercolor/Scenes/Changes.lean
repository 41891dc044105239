import Hypercolor.Scenes.Cache
import Hypercolor.Scenes.Edits

/-!
# What an operation does to a scene

Every operation but the three on whole scenes edits the scenes it keeps zone by zone. `Change` says
what such an edit can do, once for all of them (`apply_changes`):

* a zone of the new scene is an old one whose layers are as they were or whose layers version was
  counted up, or it has an id the operation generated;
* LED zones stay, and so does the behavior of unassigned outputs, except where `Op.keepsLeds` says
  otherwise;
* ids, roles, display targets and layouts are what they were, or the revision was counted up, except
  where `Op.revises` says otherwise.
-/

set_option linter.unusedSectionVars false

namespace Hypercolor.Scenes

open Lib List

variable {F X : Type} [Scalar F] [DecidableEq X] [Literals X]

/-! ## Zones -/

/-- How an edit may change a zone. -/
structure Zone.Becomes (zone zone' : Zone F X) : Prop where
  id_eq : zone'.id = zone.id
  led : zone.displayTarget = none → zone'.displayTarget = none
  layers : (zone'.layers = zone.layers ∧ zone'.layersVersion = zone.layersVersion) ∨
    zone'.layersVersion = saturatingSucc zone.layersVersion

lemma Zone.Becomes.refl (z : Zone F X) : z.Becomes z := ⟨rfl, fun h => h, .inl ⟨rfl, rfl⟩⟩

/-- A change that leaves the layers alone. -/
structure Zone.Reframes (zone zone' : Zone F X) : Prop where
  id_eq : zone'.id = zone.id
  led : zone.displayTarget = none → zone'.displayTarget = none
  layers_eq : zone'.layers = zone.layers
  layersVersion_eq : zone'.layersVersion = zone.layersVersion

lemma Zone.Reframes.refl (z : Zone F X) : z.Reframes z := ⟨rfl, fun h => h, rfl, rfl⟩

variable {z z' : Zone F X}

lemma Zone.Reframes.trans {z'' : Zone F X} (h : z.Reframes z') (h' : z'.Reframes z'') :
    z.Reframes z'' where
  id_eq := h'.id_eq.trans h.id_eq
  led := h'.led ∘ h.led
  layers_eq := h'.layers_eq.trans h.layers_eq
  layersVersion_eq := h'.layersVersion_eq.trans h.layersVersion_eq

lemma Zone.Reframes.becomes (h : z.Reframes z') : z.Becomes z' :=
  ⟨h.id_eq, h.led, .inl ⟨h.layers_eq, h.layersVersion_eq⟩⟩

/-- What the structure of a scene consists of, for one zone. -/
def Zone.frame (zone : Zone F X) : ZoneId × ZoneRole × Option (DisplayFaceTarget F) × SpatialLayout F X :=
  (zone.id, zone.role, zone.displayTarget, zone.layout)

/-- The structure of a scene. -/
def Scene.frame (scene : Scene F X) :
    List (ZoneId × ZoneRole × Option (DisplayFaceTarget F) × SpatialLayout F X) :=
  scene.zones.map Zone.frame

/-- The revision follows the structure. -/
def Scene.Revised (scene scene' : Scene F X) : Prop :=
  scene'.frame ≠ scene.frame → scene.zonesRevision < u64Max → scene.zonesRevision < scene'.zonesRevision

lemma Scene.Revised.of_frame {sc sc' : Scene F X} (h : sc'.frame = sc.frame) : sc.Revised sc' :=
  fun hn => absurd h hn

lemma Scene.Revised.of_bump {sc sc' : Scene F X}
    (h : sc'.zonesRevision = saturatingSucc sc.zonesRevision) : sc.Revised sc' := by
  intro _ hl
  rw [h, saturatingSucc]
  omega

variable {added : Zone F X}

variable {zid : ZoneId} {ed : Zone F X → Option (Zone F X)}

namespace SceneManager

/-! ## Operations -/

/-- The zone id an operation has made for it. -/
def Op.generated : Op F X → List ZoneId
  | .upsertPrimaryZone zoneId _ _ _ _ _ => [zoneId]
  | .upsertDisplayZone zoneId _ _ _ _ _ _ => [zoneId]
  | .ensureDisplayZoneSurface zoneId _ _ _ => [zoneId]
  | .clearDisplayZoneAssignment zoneId _ _ _ => [zoneId]
  | .createZone _ zoneId _ _ _ => [zoneId]
  | _ => []

/-- The operations that put or remove a whole scene. -/
def Op.wholeScene : Op F X → Bool
  | .create _ | .update _ | .delete _ => true
  | _ => false

/-- The operations that neither remove an LED zone nor set the behavior of unassigned outputs. -/
def Op.keepsLeds : Op F X → Bool
  | .deleteZone _ _ | .setUnassignedBehavior _ _ | .remapDeviceBindings _ _ => false
  | _ => true

/-- The operations that count the revision up wherever they change the structure. -/
def Op.revises : Op F X → Bool
  | .upsertPrimaryZone _ _ _ _ _ _ | .upsertDisplayZone _ _ _ _ _ _ _
  | .removeDisplayZonesForDevice _ | .patchDisplayZoneTarget _ _ _ => false
  | _ => true

/-- What an operation may do to a scene it keeps. -/
structure Change (op : Op F X) (scene scene' : Scene F X) : Prop where
  back : ∀ zone' ∈ scene'.zones,
    (∃ zone ∈ scene.zones, zone.Becomes zone') ∨ zone'.id ∈ op.generated
  leds : op.keepsLeds → (∀ zone ∈ scene.zones, zone.displayTarget = none →
    ∃ zone' ∈ scene'.zones, zone'.id = zone.id ∧ zone'.displayTarget = none) ∧
      scene'.unassignedBehavior = scene.unassignedBehavior
  revised : op.revises → scene.Revised scene'

namespace Change

variable {op : Op F X} {sc sc' : Scene F X}

lemma refl (op : Op F X) (sc : Scene F X) : Change op sc sc where
  back z hz := .inl ⟨z, hz, .refl z⟩
  leds _ := ⟨fun z hz hl => ⟨z, hz, rfl, hl⟩, rfl⟩
  revised _ := .of_frame rfl

/-- Editing zones in place. -/
lemma of_forall₂ (hzo : List.Forall₂ Zone.Becomes sc.zones sc'.zones)
    (hbe : sc'.unassignedBehavior = sc.unassignedBehavior)
    (hr : op.revises → sc.Revised sc') : Change op sc sc' where
  back z' hz' := by
    obtain ⟨z, hz, hb⟩ := (Partners.of_forall₂ hzo).back z' hz'
    exact .inl ⟨z, hz, hb⟩
  leds _ := by
    refine ⟨fun z hz hl => ?_, hbe⟩
    obtain ⟨z', hz', hb⟩ := (Partners.of_forall₂ hzo).forth z hz
    exact ⟨z', hz', hb.id_eq, hb.led hl⟩
  revised := hr

/-- Adding a zone. -/
lemma of_append (hzo : sc'.zones = sc.zones ++ [added]) (ha : added.id ∈ op.generated)
    (hb : sc'.unassignedBehavior = sc.unassignedBehavior)
    (hr : op.revises → sc.Revised sc') : Change op sc sc' where
  back z' hz' := by
    rw [hzo, mem_append, mem_singleton] at hz'
    rcases hz' with hold | rfl
    · exact .inl ⟨z', hold, .refl z'⟩
    · exact .inr ha
  leds _ := by
    refine ⟨fun z hz hl => ⟨z, ?_, rfl, hl⟩, hb⟩
    rw [hzo]
    exact mem_append_left _ hz
  revised := hr

end Change

/-! ## From scenes to managers -/

lemma refreshIf_scenes (m : SceneManager F X) (cond : Bool) : (m.refreshIf cond).scenes = m.scenes := by
  unfold refreshIf
  split <;> rfl

/-- Every scene of `m'` is one of `m`, edited as `P` says. -/
def Edits (P : Scene F X → Scene F X → Prop) (m m' : SceneManager F X) : Prop :=
  ∀ id scene', m'.scenes.lookup id = some scene' → ∃ scene, m.scenes.lookup id = some scene ∧
      P scene scene'

namespace Edits

variable {P : Scene F X → Scene F X → Prop} {m m' : SceneManager F X}

lemma of_scenes_eq (hr : ∀ sc, P sc sc) (h : m'.scenes = m.scenes) : Edits P m m' := by
  intro id sc' hs'
  rw [h] at hs'
  exact ⟨sc', hs', hr sc'⟩

lemma after {E : Type} (hre : ∀ sc, P sc sc) {r : Except E (SceneManager F X)}
    (hr : ∀ m', r = .ok m' → Edits P m m') : Edits P m (m.after r) := by
  cases r with
  | ok m' => exact hr m' rfl
  | error e => exact .of_scenes_eq hre rfl

lemma getD (hre : ∀ sc, P sc sc) {r : Option (SceneManager F X)}
    (hr : ∀ m', r = some m' → Edits P m m') : Edits P m (r.getD m) := by
  cases r with
  | some m' => exact hr m' rfl
  | none => exact .of_scenes_eq hre rfl

lemma refreshIf (h : Edits P m m') (cond : Bool) : Edits P m (m'.refreshIf cond) := by
  unfold SceneManager.refreshIf
  split
  · exact h
  · exact h

variable {id : SceneId}

/-- Storing an edited scene. -/
theorem put (hr : ∀ sc, P sc sc) {sc sc' : Scene F X} (hs : m.scenes.lookup id = some sc)
    (hP : P sc sc') :
    Edits P m (m.putScene id sc') := by
  intro id' s' hs'
  by_cases hi : id' = id
  · subst hi
    cases (AList.lookup_insert _).symm.trans hs'
    exact ⟨sc, hs, hP⟩
  · exact ⟨s', (AList.lookup_insert_ne hi).symm.trans hs', hr s'⟩

lemma mapValues {f : Scene F X → Scene F X} (hf : ∀ sc, P sc (f sc))
    (hm' : m'.scenes = m.scenes.mapValues f) : Edits P m m' := by
  intro id sc' hs'
  rw [hm', Table.lookup_mapValues, Option.map_eq_some_iff] at hs'
  obtain ⟨sc, hs, rfl⟩ := hs'
  exact ⟨sc, hs, hf sc⟩

lemma editActive (hr : ∀ sc, P sc sc) {ed : Scene F X → Scene F X × Bool}
    (he : ∀ sc, P sc (ed sc).1) : Edits P m (m.after (m.editActive ed)) := by
  refine .after hr fun m' hm' => ?_
  obtain ⟨id, sc, hs, rfl⟩ := editActive_ok hm'
  exact (put hr hs (he sc)).refreshIf _

lemma editScene (hr : ∀ sc, P sc sc) {ed : Scene F X → Except ZoneMutationError (Scene F X)}
    (he : ∀ sc sc', ed sc = .ok sc' → P sc sc') : Edits P m (m.after (m.editScene id ed)) := by
  refine .after hr fun m' hm' => ?_
  obtain ⟨sc, sc', hs, hs', rfl⟩ := editScene_ok hm'
  exact (put hr hs (he sc sc' hs')).refreshIf _

lemma editActiveZone (hr : ∀ sc, P sc sc)
    (he : ∀ sc z z', sc.zones.find? (fun z => z.id = zid) = some z → ed z = some z' → P sc { sc
      with zones := modifyFirst (fun z => z.id = zid) (fun _ => z') sc.zones })
    (hm' : m.editActiveZone zid ed = some m') : Edits P m m' := by
  simp only [SceneManager.editActiveZone, Option.bind_eq_bind, Option.bind_eq_some_iff] at hm'
  obtain ⟨id, -, sc, hs, z, hz, z', hz', ⟨⟩⟩ := hm'
  exact put hr hs (he sc z z' hz hz')

end Edits

/-! ## Edits of one zone -/

variable {p : Zone F X → Bool} {f : Zone F X → Zone F X}

/-- Editing the first zone that passes a test. -/
lemma change_modifyFirst {op : Op F X} {sc sc' : Scene F X} (hz : sc'.zones = modifyFirst p f sc.zones)
    (hf : ∀ z, sc.zones.find? p = some z → z.Becomes (f z))
    (hb : sc'.unassignedBehavior = sc.unassignedBehavior)
    (hr : op.revises → sc.Revised sc') : Change op sc sc' := by
  refine .of_forall₂ ?_ hb hr
  rw [hz]
  exact forall₂_modifyFirst Zone.Becomes.refl hf

lemma change_map {op : Op F X} {sc sc' : Scene F X}
    (hz : sc'.zones = sc.zones.map f) (hf : ∀ z : Zone F X, z.Becomes (f z))
    (hb : sc'.unassignedBehavior = sc.unassignedBehavior)
    (hr : op.revises → sc.Revised sc') : Change op sc sc' := by
  refine .of_forall₂ ?_ hb hr
  rw [hz, forall₂_map_right_iff]
  exact forall₂_same.mpr fun z _ => hf z

/-- An edit that is about layers only. -/
lemma frame_modifyFirst {sc sc' : Scene F X} (hz : sc'.zones = modifyFirst p f sc.zones)
    (hf : ∀ z, p z → (f z).frame = z.frame) : sc'.frame = sc.frame := by
  rw [Scene.frame, hz]
  exact map_modifyFirst hf

/-! ## Primary and display zones -/

lemma bumpZonesRevisionIf_behavior (ch : Bool) (sc : Scene F X) :
    (bumpZonesRevisionIf ch sc).unassignedBehavior = sc.unassignedBehavior := by
  unfold bumpZonesRevisionIf
  split <;> rfl

variable {ch : Bool}

lemma bumpZonesRevisionIf_revision (h : ch) (sc : Scene F X) :
    (bumpZonesRevisionIf ch sc).zonesRevision = saturatingSucc sc.zonesRevision := by
  rw [h]
  rfl

lemma bumpZonesRevisionIf_revised {sc sc' : Scene F X} (hr : sc'.zonesRevision = sc.zonesRevision)
    (h : ch = false → sc'.frame = sc.frame) : sc.Revised (bumpZonesRevisionIf ch sc') := by
  cases ch with
  | true => exact .of_bump (congrArg saturatingSucc hr)
  | false => exact .of_frame (h rfl)

lemma change_upsertPrimary (zid : ZoneId) (lyr : SceneLayerId) (eid : EffectId)
    (cs : Finmap fun _ : String => X) (pid : Option Uuid) (l : SpatialLayout F X) (sc : Scene F X) :
    Change (.upsertPrimaryZone zid lyr eid cs pid l) sc (upsertPrimary zid lyr eid cs pid l sc) := by
  unfold upsertPrimary
  simp only
  split
  · refine change_modifyFirst (bumpZonesRevisionIf_zones _ _) ?_ (bumpZonesRevisionIf_behavior _ _) nofun
    exact fun z _ => ⟨rfl, fun _ => rfl, .inr rfl⟩
  · exact .of_append rfl (mem_singleton.mpr rfl) rfl nofun

variable {did : DeviceId}

/-- A zone with the role and a target is not an LED zone. -/
lemma target_ne_none_of_displayDevice (h : z.displayDevice = some did) : z.displayTarget ≠ none := by
  intro hn
  unfold Zone.displayDevice Zone.targetDevice at h
  rw [hn] at h
  split at h <;> cases h

variable {ed : Zone F X → Zone F X}

/-- Editing a face or adding one. -/
lemma change_upsertFace {op : Op F X} {sc sc' : Scene F X}
    (hz : sc'.zones = (upsertFace did ed added sc).zones)
    (hb : sc'.unassignedBehavior = sc.unassignedBehavior) (hi : ∀ z, (ed z).id = z.id)
    (hla : ∀ z, ((ed z).layers = z.layers ∧ (ed z).layersVersion = z.layersVersion) ∨ (ed
      z).layersVersion = saturatingSucc z.layersVersion) (ha : added.id ∈ op.generated)
    (hr : op.revises → sc.Revised sc') : Change op sc sc' := by
  unfold upsertFace at hz
  split at hz
  · refine change_modifyFirst hz (fun z hf => ?_) hb hr
    refine ⟨hi z, fun hl => ?_, hla z⟩
    have hd : z.displayDevice = some did := by simpa using find?_some hf
    exact absurd hl (target_ne_none_of_displayDevice hd)
  · exact .of_append hz ha hb hr

section

variable (did : DeviceId) (ed : Zone F X → Zone F X) (added : Zone F X) (sc : Scene F X)

lemma upsertFace_behavior : (upsertFace did ed added sc).unassignedBehavior = sc.unassignedBehavior := by
  unfold upsertFace
  split <;> rfl

lemma upsertFace_revision : (upsertFace did ed added sc).zonesRevision = sc.zonesRevision := by
  unfold upsertFace
  split <;> rfl

end

/-- Where nothing counts as changed, the structure is as it was. -/
lemma upsertFace_revised {ch : Zone F X → Bool} (hs : ∀ z, ch z = false → ed z = z) (sc : Scene F X) :
    sc.Revised (bumpZonesRevisionIf ((sc.displayZoneFor did).all ch) (upsertFace did ed added sc)) := by
  refine bumpZonesRevisionIf_revised (upsertFace_revision _ _ _ _) fun hu => ?_
  unfold Scene.frame
  rw [upsertFace_zones_of_not_changed hs hu]

/-! ## Structure -/

/-- Taking zones out that are not LED zones, or any where LED zones need not be kept. -/
lemma change_sublist {op : Op F X} {sc sc' : Scene F X} (hzo : sc'.zones.Sublist sc.zones)
    (hle : op.keepsLeds → ∀ z ∈ sc.zones, z.displayTarget = none → z ∈ sc'.zones)
    (hb : sc'.unassignedBehavior = sc.unassignedBehavior)
    (hr : op.revises → sc.Revised sc') : Change op sc sc' where
  back z' hz' := .inl ⟨z', hzo.subset hz', .refl z'⟩
  leds hk := ⟨fun z hz hl => ⟨z, hle hk z hz hl, rfl, hl⟩, hb⟩
  revised := hr

/-- The roles, then the order, then the fields of the one zone. -/
lemma change_editMeta {op : Op F X} {sc sc' : Scene F X} {i : Nat} {roleChange : Bool}
    {dest : Option Nat} (hde : ∀ d, dest = some d → d < sc.zones.length)
    {patch : ZoneMetaPatch F} {zs : List (Zone F X)}
    (hzo : zs = if roleChange then promote sc.zones i else sc.zones)
    (hsc' : sc' = { bumpZonesRevisionIf (roleChange ∨ dest.isSome)
        { sc with zones := (dest.map (moveZone zs i)).getD zs } with
      zones := (bumpZonesRevisionIf (roleChange ∨ dest.isSome)
        { sc with zones := (dest.map (moveZone zs i)).getD zs }).zones.modify
          (dest.getD i) (patchZoneMeta patch) }) : Change op sc sc' := by
  have hrl : Partners Zone.Reframes sc.zones zs := by
    rw [hzo]
    split
    · refine .trans Zone.Reframes.trans (.of_forall₂ ?_)
        (.of_forall₂ (forall₂_modify i Zone.Reframes.refl fun z => ?_))
      · rw [forall₂_map_right_iff]
        refine forall₂_same.mpr fun z _ => ?_
        split
        · exact ⟨rfl, fun h => h, rfl, rfl⟩
        · exact .refl z
      · exact ⟨rfl, fun _ => rfl, rfl, rfl⟩
    · exact .of_perm Zone.Reframes.refl (.refl _)
  have hl : zs.length = sc.zones.length := by
    rw [hzo]
    split
    · rw [promote, length_modify, length_map]
    · rfl
  have hm : Partners Zone.Reframes zs ((dest.map (moveZone zs i)).getD zs) := by
    refine .of_perm Zone.Reframes.refl ?_
    cases hd : dest with
    | none => exact .refl _
    | some d =>
      refine (moveZone_perm zs ?_).symm
      rw [hl]
      exact hde d hd
  have hp : Partners Zone.Reframes sc.zones sc'.zones := by
    refine .trans Zone.Reframes.trans (.trans Zone.Reframes.trans hrl hm) ?_
    rw [hsc']
    simp only [bumpZonesRevisionIf_zones]
    exact .of_forall₂ (forall₂_modify _ Zone.Reframes.refl fun z => ⟨rfl, fun h => h, rfl, rfl⟩)
  refine ⟨fun z' hz' => ?_, fun _ => ⟨fun z hz hle => ?_, ?_⟩, fun _ => ?_⟩
  · obtain ⟨z, hz, hr⟩ := hp.back z' hz'
    exact .inl ⟨z, hz, hr.becomes⟩
  · obtain ⟨z', hz', hr⟩ := hp.forth z hz
    exact ⟨z', hz', hr.id_eq, hr.led hle⟩
  · rw [hsc']
    exact bumpZonesRevisionIf_behavior _ _
  · by_cases hf : (roleChange : Prop) ∨ dest.isSome
    · rw [hsc']
      exact .of_bump (bumpZonesRevisionIf_revision (decide_eq_true hf) _)
    · obtain ⟨hro, hs⟩ := not_or.mp hf
      obtain rfl : dest = none := by simpa using hs
      have hfr : ∀ z : Zone F X, (patchZoneMeta patch z).frame = z.frame := fun z => rfl
      rw [hsc', hzo, if_neg hro]
      refine .of_frame ?_
      simp only [Scene.frame, bumpZonesRevisionIf_zones]
      exact map_modify hfr i

/-- Layouts only. -/
lemma reframes_layout (z : Zone F X) (l : SpatialLayout F X) : z.Reframes { z with layout := l } :=
  ⟨rfl, fun h => h, rfl, rfl⟩

lemma change_reframed {op : Op F X} {sc sc' : Scene F X} (hzo : Partners Zone.Reframes sc.zones sc'.zones)
    (hb : sc'.unassignedBehavior = sc.unassignedBehavior)
    (hre : op.revises → sc.Revised sc') : Change op sc sc' where
  back z' hz' := by
    obtain ⟨z, hz, hr⟩ := hzo.back z' hz'
    exact .inl ⟨z, hz, hr.becomes⟩
  leds _ := by
    refine ⟨fun z hz hl => ?_, hb⟩
    obtain ⟨z', hz', hr⟩ := hzo.forth z hz
    exact ⟨z', hz', hr.id_eq, hr.led hl⟩
  revised := hre

lemma partners_withoutOutput (zs : List (Zone F X)) (oid : String) :
    Partners Zone.Reframes zs (zs.map fun z => withoutOutput z oid) := by
  refine .of_forall₂ ?_
  rw [forall₂_map_right_iff]
  exact forall₂_same.mpr fun z _ => reframes_layout z _

lemma partners_modifyLayout (zs : List (Zone F X)) (i : Nat)
    (l : Zone F X → SpatialLayout F X) : Partners Zone.Reframes zs
      (zs.modify i fun z => { z with layout := l z }) :=
  .of_forall₂ (forall₂_modify i Zone.Reframes.refl fun z => reframes_layout z _)

/-! ## Devices -/

lemma collapse_zones (sc : Scene F X) (rt : List ZoneId) :
    (collapseRetargetedDisplayZones sc rt).1.zones.Sublist sc.zones := by
  unfold collapseRetargetedDisplayZones
  split
  · exact .refl _
  · exact filter_sublist

lemma collapse_revision (sc : Scene F X) (rt : List ZoneId) :
    (collapseRetargetedDisplayZones sc rt).1.zonesRevision = sc.zonesRevision := by
  unfold collapseRetargetedDisplayZones
  split <;> rfl

variable (ls : String → Option String) (ph : DeviceId → Option DeviceId)

lemma remapZone_reframes (z : Zone F X) : z.Reframes (remapZoneDeviceBindings ls ph z).1 := by
  refine ⟨rfl, fun hl => ?_, rfl, rfl⟩
  simp [remapZoneDeviceBindings, hl]

lemma change_remapSceneDevices (sc : Scene F X) :
    Change (.remapDeviceBindings ls ph) sc (remapSceneDevices ls ph sc).1 where
  back z' hz' := by
    simp only [remapSceneDevices, bumpZonesRevisionIf_zones] at hz'
    obtain ⟨pair, hp, rfl⟩ := mem_map.mp ((collapse_zones _ _).subset hz')
    obtain ⟨z, hz, rfl⟩ := mem_map.mp hp
    exact .inl ⟨z, hz, (remapZone_reframes _ _ z).becomes⟩
  leds := nofun
  revised _ := by
    by_cases hze : (remapSceneDevices ls ph sc).2 = 0
    · exact .of_frame (congrArg (map Zone.frame) (remapSceneDevices_of_zero hze))
    · refine .of_bump ((bumpZonesRevisionIf_revision ?_ _).trans ?_)
      · exact decide_eq_true (Nat.pos_of_ne_zero hze)
      · exact congrArg saturatingSucc (collapse_revision _ _)

lemma remapZoneEffectIds_becomes (ms : EffectId → Option EffectId) (z : Zone F X) :
    z.Becomes (remapZoneEffectIds ms z).1 := by
  unfold remapZoneEffectIds
  simp only
  split
  · exact ⟨rfl, fun h => h, .inr rfl⟩
  · rename_i hn
    refine ⟨rfl, fun h => h, .inl ⟨?_, rfl⟩⟩
    -- No layer was migrated, so none changed.
    have hz := sum_eq_zero_iff.mp (Nat.eq_zero_of_not_pos hn)
    conv_rhs => rw [← map_id z.layers]
    refine map_congr_left fun ly hl => ?_
    have hs := hz _ (mem_map.mpr ⟨ly, hl, rfl⟩)
    unfold remapLayerEffectId at hs ⊢
    split at hs
    · split at hs
      · cases hs
      · rfl
    · rfl

end SceneManager

/-! ## Every operation -/

namespace SceneManager

/-- One zone's layers, with the version counted up. -/
lemma edits_mutateZoneLayers {op : Op F X} (m : SceneManager F X) (sid : SceneId)
    (zid : ZoneId) (exp : Option Nat)
    (mutate : List (SceneLayer F X) → Except LayerMutationError (List (SceneLayer F X))) :
    Edits (Change op) m (m.after (m.mutateZoneLayers sid zid exp mutate)) := by
  refine .after (Change.refl op) fun m' hm' => ?_
  unfold mutateZoneLayers at hm'
  split at hm'
  · cases hm'
  · rename_i sc hs
    split at hm'
    · cases hm'
    · split_ifs at hm'
      split at hm'
      · cases hm'
      · cases hm'
        refine (Edits.put (Change.refl op) hs ?_).refreshIf _
        refine change_modifyFirst rfl (fun z _ => ⟨rfl, fun h => h, .inr rfl⟩) rfl fun _ => ?_
        exact .of_frame (frame_modifyFirst rfl fun z _ => rfl)

/-- One zone of the active scene, its structure apart. -/
lemma edits_editActiveZone {op : Op F X} {m : SceneManager F X} (hm' : m.editActiveZone zid ed = some m')
    (he : ∀ z z', ed z = some z' → z.Becomes z' ∧ z'.frame = z.frame) : Edits (Change op) m m' := by
  refine Edits.editActiveZone (Change.refl op) ?_ hm'
  intro sc z z' hz hz'
  obtain ⟨hb, hfr⟩ := he z z' hz'
  refine change_modifyFirst rfl (fun fd hf => ?_) rfl fun _ => .of_frame ?_
  · cases hz.symm.trans hf
    exact hb
  · refine map_modifyFirst_of_find? fun fd hf => ?_
    cases hz.symm.trans hf
    exact hfr

/-- **What an operation does to the scenes it keeps.** -/
theorem apply_changes (m : SceneManager F X) (op : Op F X) (hop : op.wholeScene = false) :
    Edits (Change op) m (m.apply op) := by
  have hr := Change.refl op
  cases op with
  | create sc | update sc | delete id => cases hop
  | activate id spec now =>
    refine .after hr fun m' hm' => .of_scenes_eq hr ?_
    unfold activate at hm'
    split at hm'
    · cases hm'
    · cases hm'
      rcases m.activeSceneId with _ | fromId
      · rfl
      · split_ifs <;> rfl
  | deactivateCurrent =>
    refine .of_scenes_eq hr ?_
    show m.deactivateCurrent.scenes = m.scenes
    unfold deactivateCurrent
    split_ifs
    · rfl
    · split <;> rfl
  | invalidateResolvedZones => exact .of_scenes_eq hr rfl
  | remapEffectIds ms =>
    refine .mapValues (f := fun sc => bumpZonesRevisionIf
      (0 < (sc.zones.map fun z => (remapZoneEffectIds ms z).2).sum)
      { sc with zones := sc.zones.map fun z => (remapZoneEffectIds ms z).1 })
      (fun sc => ?_) rfl
    refine change_map (bumpZonesRevisionIf_zones _ _) (remapZoneEffectIds_becomes ms)
      (bumpZonesRevisionIf_behavior _ _) fun _ => .of_frame ?_
    unfold Scene.frame
    rw [bumpZonesRevisionIf_zones, map_map]
    refine map_congr_left fun z _ => ?_
    unfold remapZoneEffectIds
    simp only [Function.comp]
    split <;> rfl
  | remapDeviceBindings ls ph =>
    refine .mapValues (change_remapSceneDevices ls ph) ?_
    show (m.remapDeviceBindings ls ph).1.scenes = _
    unfold remapDeviceBindings
    simp only
    split_ifs <;> rfl
  | upsertPrimaryZone zid lyr eid cs pid l =>
    exact .editActive hr (change_upsertPrimary zid lyr eid cs pid l)
  | upsertDisplayZone zid lyr did nm eid cs l =>
    refine .editActive hr fun sc => ?_
    exact change_upsertFace rfl (upsertFace_behavior _ _ _ _) (fun _ => rfl) (fun _ => .inr rfl)
      (mem_singleton.mpr rfl) (by rintro ⟨⟩)
  | ensureDisplayZoneSurface zid did nm l =>
    refine .editActive hr fun sc => ?_
    refine change_upsertFace (bumpZonesRevisionIf_zones _ _)
      ((bumpZonesRevisionIf_behavior _ _).trans (upsertFace_behavior _ _ _ _)) (fun _ => rfl)
      (fun _ => .inl ⟨rfl, rfl⟩) (mem_singleton.mpr rfl) fun _ => ?_
    exact upsertFace_revised (fun z => alignSurface_of_not_changed) sc
  | clearDisplayZoneAssignment zid did nm l =>
    refine .editActive hr fun sc => ?_
    refine change_upsertFace (bumpZonesRevisionIf_zones _ _)
      ((bumpZonesRevisionIf_behavior _ _).trans (upsertFace_behavior _ _ _ _)) (fun _ => rfl)
      (fun z => ?_) (mem_singleton.mpr rfl) fun _ => ?_
    · by_cases hc : assignmentChanged did l z
      · exact .inr (if_pos hc)
      · rw [clearAssignment_of_not_changed (Bool.eq_false_iff.mpr hc)]
        exact .inl ⟨rfl, rfl⟩
    · exact upsertFace_revised (fun z => clearAssignment_of_not_changed) sc
  | createZone sid zid name color fallbackCanvas =>
    refine .editScene hr fun sc sc' he => ?_
    cases unlocked_ok he
    exact .of_append rfl (mem_singleton.mpr rfl) rfl fun _ => .of_bump rfl
  | deleteZone sid zid =>
    refine .editScene hr fun sc sc' he => ?_
    have he := unlocked_ok he
    split at he
    · cases he
    · split_ifs at he
      cases he
      exact change_sublist eraseP_sublist (by rintro ⟨⟩) rfl fun _ => .of_bump rfl
  | updateZoneMeta sid zid patch =>
    refine .editScene hr fun sc sc' he => ?_
    dsimp only at he
    split at he
    · cases he
    · split at he
      · cases he
      · rename_i i hi
        split at he
        · cases he
        · refine change_editMeta ?_ rfl (Except.ok.inj he).symm
          intro d hd
          obtain ⟨hd, -⟩ := Option.filter_eq_some_iff.mp hd
          obtain ⟨requested, -, rfl⟩ := Option.map_eq_some_iff.mp hd
          have hlt := (findIdx?_eq_some_iff_getElem.mp hi).1
          omega
  | assignOutputToZone sid zid o place =>
    refine .editScene hr fun sc sc' he => ?_
    have he := unlocked_ok he
    dsimp only at he
    split at he
    · cases he
    · split_ifs at he
      · cases he
        exact change_reframed (partners_modifyLayout _ _ _) rfl fun _ => .of_bump rfl
      · cases he
        refine change_reframed (.trans Zone.Reframes.trans (partners_withoutOutput _ o.id) ?_)
          rfl fun _ => .of_bump rfl
        exact partners_modifyLayout _ _ _
  | unassignOutput sid oid =>
    refine .editScene hr fun sc sc' he => ?_
    have he := unlocked_ok he
    split at he
    · cases he
      exact change_reframed (partners_withoutOutput _ oid) rfl fun _ => .of_bump rfl
    · cases he
  | setUnassignedBehavior sid bh =>
    refine .after hr fun m' hm' => ?_
    unfold setUnassignedBehavior at hm'
    split at hm'
    · cases hm'
    · rename_i sc hsc
      split_ifs at hm' <;> cases hm' <;>
      · refine Edits.put hr hsc ?_
        exact ⟨fun z hz => .inl ⟨z, hz, .refl z⟩, by rintro ⟨⟩, fun _ => .of_frame rfl⟩
  | updateZoneLayout sid zid l =>
    refine .editScene hr fun sc sc' he => ?_
    have he := unlocked_ok he
    split at he
    · cases he
    · split_ifs at he
      cases he
      exact change_modifyFirst rfl (fun z _ => (reframes_layout z _).becomes) rfl
        fun _ => .of_bump rfl
  | patchDisplayZoneTarget zid bm opacity =>
    refine .getD hr fun m' hm' => ?_
    simp only [patchDisplayZoneTarget, Option.bind_eq_bind, Option.bind_eq_some_iff] at hm'
    obtain ⟨id, -, sc, hsc, z, hz, current, hcu, ⟨⟩⟩ := hm'
    refine Edits.put hr hsc (change_modifyFirst rfl (fun fd hf => ?_) rfl (by rintro ⟨⟩))
    cases hz.symm.trans hf
    exact ⟨rfl, fun hl => absurd (hcu.symm.trans hl) (by simp), .inl ⟨rfl, rfl⟩⟩
  | insertZoneLayer sid zid ly i exp | removeZoneLayer sid zid lyr exp
  | reorderZoneLayers sid zid layerIds exp | patchZoneLayerEffectControls sid zid lyr updates exp
  | patchZoneLayerControlsAndBindings sid zid lyr updates clear exp =>
    exact edits_mutateZoneLayers m sid zid exp _
  | replaceZoneLayerStack sid zid layers =>
    show Edits _ m (m.after (m.replaceZoneLayerStack sid zid layers))
    unfold replaceZoneLayerStack
    split
    · exact .of_scenes_eq hr rfl
    · exact edits_mutateZoneLayers m sid zid none _
  | removeDisplayZonesForDevice did =>
    refine Edits.refreshIf (.mapValues (f := withoutFaces did) (fun sc => ?_) rfl) _
    refine change_sublist filter_sublist (fun _ z hz hl => ?_) rfl (by rintro ⟨⟩)
    refine mem_filter.mpr ⟨hz, decide_eq_true fun hde => ?_⟩
    exact target_ne_none_of_displayDevice hde hl
  | patchZoneControls zid updates =>
    refine .getD hr fun m' hm' => edits_editActiveZone hm' fun z z' hok => ?_
    obtain ⟨layers, -, ⟨⟩⟩ := Option.bind_eq_some_iff.mp hok
    exact ⟨⟨rfl, fun h => h, .inr rfl⟩, rfl⟩
  | applyEffectToZone zid lyr eid cs pid =>
    refine .after hr fun m' hm' => ?_
    refine edits_editActiveZone (editActiveZone_of_applyEffectToZone hm') ?_
    rintro z _ ⟨⟩
    exact ⟨⟨rfl, fun h => h, .inr rfl⟩, rfl⟩
  | clearZoneEffect zid =>
    refine .getD hr fun m' hm' => edits_editActiveZone hm' ?_
    rintro z _ ⟨⟩
    refine ⟨⟨rfl, fun h => h, ?_⟩, rfl⟩
    by_cases hla : z.layers ≠ []
    · exact .inr (if_pos hla)
    · exact .inl ⟨(not_not.mp hla).symm, if_neg hla⟩
  | syncPrimaryZoneLayout l =>
    show Edits _ m (m.syncPrimaryZoneLayout l).1
    unfold syncPrimaryZoneLayout
    split
    · exact .of_scenes_eq hr rfl
    · split
      · exact .of_scenes_eq hr rfl
      · rename_i sc hsc
        have hzo : Partners Zone.Reframes sc.zones (sc.zones.map fun z =>
            (alignLedZone z l (sceneHasCustomLedZones sc)).1) := by
          refine .of_forall₂ ?_
          rw [forall₂_map_right_iff]
          refine forall₂_same.mpr fun z _ => ?_
          unfold alignLedZone
          split_ifs
          all_goals first | exact .refl z | exact reframes_layout z _
        dsimp only
        split_ifs with hc
        · exact Edits.put hr hsc (change_reframed hzo rfl fun _ => .of_bump rfl)
        · refine Edits.put hr hsc (change_reframed hzo rfl fun _ => .of_frame ?_)
          rw [Scene.frame, map_map]
          refine map_congr_left fun z hz => ?_
          have hs := any_eq_false.mp (Bool.eq_false_iff.mpr hc) z hz
          exact congrArg Zone.frame (alignLedZone_of_not_changed (Bool.eq_false_iff.mpr hs))
  | setDefaultDisplayZone z =>
    refine .of_scenes_eq hr ?_
    show (m.setDefaultDisplayZone z).scenes = m.scenes
    unfold setDefaultDisplayZone
    split <;> rfl
  | removeDefaultDisplayZone did =>
    exact Edits.refreshIf (.of_scenes_eq hr rfl) _

end SceneManager

end Hypercolor.Scenes
