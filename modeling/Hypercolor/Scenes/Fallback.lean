import Hypercolor.Scenes.Changes

/-!
# The zone that unassigned outputs fall back to

A scene may send its unassigned outputs to one of its LED zones. The reference is checked where it is
set, and repaired where faces are merged, but deleting the zone leaves it behind.
**`fallback_anchored`**: along every run from scenes whose fallback is there, the fallback stays there
as long as

* the scenes that are created or updated have theirs;
* no zone is deleted that the fallback of its scene names;
* no face that gives way to another shares the id the fallback names;

and a run leaves these states with the first step that does otherwise.
-/

set_option linter.unusedSectionVars false

namespace Hypercolor.Scenes

open Lib List AList

variable {F X : Type} [Scalar F] [DecidableEq X] [Literals X]

/-- The id names a zone of the scene that is not a display's. -/
def Scene.HasLed (scene : Scene F X) (id : ZoneId) : Prop :=
  ∃ zone ∈ scene.zones, zone.id = id ∧ zone.displayTarget = none

/-- The fallback of a scene, if it has one, is there. -/
def Scene.Anchored (scene : Scene F X) : Prop :=
  ∀ id, scene.unassignedBehavior = .fallback id → scene.HasLed id

variable {m m' : SceneManager F X} {scene : Scene F X}

namespace SceneManager

def Anchored (m : SceneManager F X) : Prop :=
  ∀ id scene, m.scenes.lookup id = some scene → scene.Anchored

/-- When an operation leaves every fallback where it is. -/
def Anchors (m : SceneManager F X) : Op F X → Prop
  | .create scene => m.scenes.lookup scene.id = none → scene.validate = [] → scene.Anchored
  | .update scene => ∀ existing, m.scenes.lookup scene.id = some existing →
      existing.kind = scene.kind → (scene.id = .default → scene.name = existing.name) →
        scene.validate = [] → scene.Anchored
  | .deleteZone sceneId zoneId => ∀ scene, m.scenes.lookup sceneId = some scene →
      ¬ scene.blocksRuntimeMutation → scene.unassignedBehavior = .fallback zoneId →
        ∀ zone, scene.zones.find? (fun zone => zone.id = zoneId) = some zone →
          zone.role = .custom → ∃ other ∈ scene.zones.eraseP fun zone => zone.id = zoneId,
            other.id = zoneId ∧ other.displayTarget = none
  | .remapDeviceBindings layoutDeviceIds physicalDeviceIds =>
      ∀ id scene, m.scenes.lookup id = some scene → ∀ zoneId,
          scene.unassignedBehavior = .fallback zoneId →
          ∀ kept, (merged layoutDeviceIds physicalDeviceIds scene).lookup zoneId = some kept →
            (merged layoutDeviceIds physicalDeviceIds scene).lookup kept = none ∧ scene.HasLed kept
  | _ => True

/-! ## One step -/

/-- An edit of the scenes one by one. -/
lemma anchored_of_edits {P : Scene F X → Scene F X → Prop} (hm : m.Anchored) (h : Edits P m m')
    (hP : ∀ scene scene', P scene scene' → scene.Anchored → scene'.Anchored) : m'.Anchored := by
  intro id scene' hs'
  obtain ⟨scene, hs, he⟩ := h id scene' hs'
  exact hP scene scene' he (hm id scene hs)

lemma anchored_of_keepsLeds (hm : m.Anchored) (op : Op F X) (hop : op.wholeScene = false)
    (hk : op.keepsLeds) : (m.apply op).Anchored := by
  refine anchored_of_edits hm (apply_changes m op hop) fun scene scene' hc ha => ?_
  obtain ⟨hle, hb⟩ := hc.leds hk
  intro id hi
  rw [hb] at hi
  obtain ⟨z, hz, rfl, hl⟩ := ha id hi
  obtain ⟨z', hz', hi', hl'⟩ := hle z hz hl
  exact ⟨z', hz', hi', hl'⟩

/-- Storing one scene. -/
lemma anchored_put (hm : m.Anchored) {id : SceneId}
    (hm' : m'.scenes = (m.putScene id scene).scenes) : m'.Anchored ↔ scene.Anchored := by
  constructor
  · intro h
    refine h id scene ?_
    rw [hm']
    exact lookup_insert _
  · intro h id' scene' hs'
    rw [hm'] at hs'
    by_cases hi : id' = id
    · subst hi
      cases (lookup_insert _).symm.trans hs'
      exact h
    · exact hm id' scene' ((lookup_insert_ne hi).symm.trans hs')

lemma anchored_create (hm : m.Anchored) (scene : Scene F X) :
    (m.after (m.create scene)).Anchored ↔ m.Anchors (.create scene) := by
  unfold create Anchors
  split_ifs with he hi
  · refine iff_of_true hm fun hn => ?_
    rw [hn] at he
    cases he
  · exact iff_of_true hm fun _ h => absurd h hi
  · refine (anchored_put hm rfl).trans ⟨fun h _ _ => h, fun h => h ?_ (not_not.mp hi)⟩
    rwa [Bool.not_eq_true, Option.isSome_eq_false_iff, Option.isNone_iff_eq_none] at he

lemma anchored_update (hm : m.Anchored) (scene : Scene F X) :
    (m.after (m.update scene)).Anchored ↔ m.Anchors (.update scene) := by
  unfold update
  dsimp only [Anchors]
  cases hs : m.scenes.lookup scene.id with
  | none => exact iff_of_true hm nofun
  | some ex =>
    simp only [Option.some.injEq, forall_eq']
    split_ifs with hk hn hi
    · exact iff_of_true hm fun h => absurd h hk
    · exact iff_of_true hm fun _ h => absurd (h hn.1) hn.2
    · exact iff_of_true hm fun _ _ h => absurd h hi
    · refine (anchored_put hm (refreshIf_scenes _ _)).trans ⟨fun h _ _ _ => h, fun h => ?_⟩
      refine h (not_not.mp hk) (fun hd => ?_) (not_not.mp hi)
      exact by_contra fun h => hn ⟨hd, h⟩

lemma anchored_delete (hm : m.Anchored) (id : SceneId) : (m.after (m.delete id)).Anchored := by
  unfold delete
  split_ifs
  · exact hm
  · exact hm
  · intro id' scene hs
    have hn : id' ≠ id := by
      rintro rfl
      cases (lookup_erase _ _).symm.trans hs
    exact hm id' scene ((lookup_erase_ne hn).symm.trans hs)

/-- Taking a zone out by its id leaves the zones with other ids. -/
lemma hasLed_eraseP {z id : ZoneId} (hn : id ≠ z) :
    scene.HasLed id → Scene.HasLed { scene with zones := scene.zones.eraseP fun zn => zn.id = z } id := by
  rintro ⟨zn, hz, rfl, hl⟩
  refine ⟨zn, (mem_eraseP_of_neg ?_).mpr hz, rfl, hl⟩
  simpa using hn

lemma anchored_deleteZone (hm : m.Anchored) (sid : SceneId) (z : ZoneId) :
    (m.after (m.deleteZone sid z)).Anchored ↔ m.Anchors (.deleteZone sid z) := by
  unfold deleteZone editScene unlocked
  dsimp only [Anchors]
  cases hsc : m.scenes.lookup sid with
  | none => exact iff_of_true hm nofun
  | some scene =>
    simp only [Option.some.injEq, forall_eq']
    split_ifs with hl
    · exact iff_of_true hm fun h => absurd hl h
    · cases hz : scene.zones.find? fun zn => zn.id = z with
      | none => exact iff_of_true hm fun _ _ _ => nofun
      | some zn =>
        simp only [Option.some.injEq, forall_eq']
        split_ifs with hr
        · exact iff_of_true hm fun _ _ h => absurd h hr
        · refine (anchored_put hm (refreshIf_scenes _ _)).trans ?_
          constructor
          · intro ha _ hf _
            exact ha z hf
          · intro hoh id hi
            by_cases hs : id = z
            · subst hs
              exact hoh hl hi (not_not.mp hr)
            · exact hasLed_eraseP hs (hm sid scene hsc id hi)

lemma anchored_setUnassignedBehavior (hm : m.Anchored) (sid : SceneId) (bh : UnassignedBehavior) :
    (m.after (m.setUnassignedBehavior sid bh)).Anchored := by
  unfold setUnassignedBehavior
  cases hs : m.scenes.lookup sid with
  | none => exact hm
  | some scene =>
    simp only
    split_ifs with hl hd ha
    · exact hm
    · exact hm
    all_goals
      refine (anchored_put hm (by rfl)).mpr fun id hi => ?_
      subst hi
      show scene.HasLed id
      simpa [danglingFallback, Scene.HasLed] using hd

variable (ls : String → Option String) (ph : DeviceId → Option DeviceId) (scene : Scene F X)

/-- What the renaming of devices makes of a scene's fallback. -/
lemma remapSceneDevices_behavior : (remapSceneDevices ls ph scene).1.unassignedBehavior =
      match scene.unassignedBehavior with
      | .fallback id => .fallback
          (((merged ls ph scene).lookup id).getD id)
      | behavior => behavior := by
  unfold remapSceneDevices collapseRetargetedDisplayZones merged
  simp only [bumpZonesRevisionIf_behavior]
  split_ifs with hn
  · cases scene.unassignedBehavior <;> rfl
  · rw [map_map]
    rfl

lemma remapSceneDevices_hasLed (id : ZoneId) : (remapSceneDevices ls ph scene).1.HasLed id ↔
      (merged ls ph scene).lookup id = none ∧ scene.HasLed id := by
  unfold Scene.HasLed
  rw [remapSceneDevices_zones]
  constructor
  · rintro ⟨z', hz', rfl, hl⟩
    obtain ⟨hm, hk⟩ := mem_filter.mp hz'
    obtain ⟨z, hz, rfl⟩ := mem_map.mp hm
    refine ⟨by simpa using hk, z, hz, rfl, ?_⟩
    exact Option.map_eq_none_iff.mp hl
  · rintro ⟨hk, z, hz, rfl, hl⟩
    refine ⟨_, mem_filter.mpr ⟨mem_map.mpr ⟨z, hz, rfl⟩, ?_⟩, rfl, ?_⟩
    · exact Option.isNone_iff_eq_none.mpr hk
    · exact Option.map_eq_none_iff.mpr hl

lemma anchored_remapDeviceBindings (hm : m.Anchored) (ls : String → Option String)
    (ph : DeviceId → Option DeviceId) : (m.remapDeviceBindings ls ph).1.Anchored ↔
      m.Anchors (.remapDeviceBindings ls ph) := by
  have hs : (m.remapDeviceBindings ls ph).1.scenes = m.scenes.mapValues fun scene =>
        (remapSceneDevices ls ph scene).1 := by
    unfold remapDeviceBindings
    simp only
    split_ifs <;> rfl
  unfold Anchored Anchors
  simp only [hs, Table.lookup_mapValues, Option.map_eq_some_iff]
  constructor
  · intro h id scene hsc z hf kept hk
    refine (remapSceneDevices_hasLed _ _ scene kept).mp (h id _ ⟨scene, hsc, rfl⟩ kept ?_)
    rw [remapSceneDevices_behavior, hf]
    simp only [hk, Option.getD_some]
  · rintro h id _ ⟨scene, hsc, rfl⟩ kept hf
    rw [remapSceneDevices_behavior] at hf
    rw [remapSceneDevices_hasLed]
    cases hb : scene.unassignedBehavior with
    | off | hold => rw [hb] at hf; cases hf
    | fallback z =>
      rw [hb] at hf
      cases hl : (merged ls ph scene).lookup z with
      | none =>
        simp only [hl, Option.getD_none] at hf
        cases hf
        exact ⟨hl, hm id scene hsc _ hb⟩
      | some stays =>
        simp only [hl, Option.getD_some] at hf
        cases hf
        exact h id scene hsc z hb _ hl

/-- The steps that leave every fallback where it is. -/
def anchoring : Machine (SceneManager F X) (Op F X) where
  init m := m.Anchored
  step m op m' := m' = m.apply op ∧ m.Anchors op

/-- From a state where every fallback is there, these are the steps to such states. -/
lemma anchored_apply_iff (hm : m.Anchored) (op : Op F X) : (m.apply op).Anchored ↔ m.Anchors op := by
  cases op with
  | create scene => exact anchored_create hm scene
  | update scene => exact anchored_update hm scene
  | delete id => exact iff_of_true (anchored_delete hm id) trivial
  | deleteZone sid z => exact anchored_deleteZone hm sid z
  | setUnassignedBehavior sid bh =>
    exact iff_of_true (anchored_setUnassignedBehavior hm sid bh) trivial
  | remapDeviceBindings ls ph =>
    exact anchored_remapDeviceBindings hm ls ph
  | _ => exact iff_of_true (anchored_of_keepsLeds hm _ rfl rfl) trivial

/-- **The fallback is there.** -/
theorem fallback_anchored {m₀ m : SceneManager F X} {ops : List (Op F X)} (h₀ : m₀.Anchored)
    (hrun : anchoring.Run m₀ ops m) : m.Anchored ∧ ∀ op, (m.apply op).Anchored ↔ m.Anchors op := by
  have hm : m.Anchored := by
    refine Machine.Reachable.invariant (fun _ => id) ?_ (hrun.reachable (.init h₀))
    rintro s op _ hs ⟨rfl, ha⟩
    exact (anchored_apply_iff hs op).mpr ha
  exact ⟨hm, anchored_apply_iff hm⟩

end SceneManager

/-- A new manager, with its default scene. -/
def emptyDesk : SceneManager ℚ Unit :=
  .withDefaultLayout ⟨1⟩ ⟨(), 640, 480, [], ()⟩ 0

lemma anchored_emptyDesk : emptyDesk.Anchored := by
  intro id scene hs
  have hp : emptyDesk.scenes = insert SceneId.default _ ∅ := rfl
  rw [hp] at hs
  by_cases hi : id = .default
  · subst hi
    cases hs
    exact nofun
  · rw [lookup_insert_ne hi] at hs
    cases hs

/-- A second zone, which takes the unassigned outputs. -/
def addShelf : SceneManager.Op ℚ Unit := .createZone .default ⟨2⟩ "Shelf" none (640, 480)

def fallBackToShelf : SceneManager.Op ℚ Unit :=
  .setUnassignedBehavior .default (.fallback ⟨2⟩)

/-- The behavior of the default scene and the ids of its zones. -/
def fallbackSeen (m : SceneManager ℚ Unit) : Option (UnassignedBehavior × List ZoneId) :=
  (m.scenes.lookup .default).map fun scene => (scene.unassignedBehavior, scene.zones.map Zone.id)

/-- The fallback is there once it has been set. -/
theorem fallback_anchored_shelf : ((emptyDesk.apply addShelf).apply fallBackToShelf).Anchored ∧
      fallbackSeen ((emptyDesk.apply addShelf).apply fallBackToShelf) =
        some (.fallback ⟨2⟩, [⟨1⟩, ⟨2⟩]) := by
  refine ⟨?_, by decide +kernel⟩
  have hr : SceneManager.anchoring.Run emptyDesk ([] ++ [addShelf] ++ [fallBackToShelf])
      ((emptyDesk.apply addShelf).apply fallBackToShelf) :=
    .snoc (.snoc .nil ⟨rfl, trivial⟩) ⟨rfl, trivial⟩
  exact (SceneManager.fallback_anchored anchored_emptyDesk hr).1

/-- Deleting the zone leaves the fallback dangling. -/
theorem fallback_dangles_after_delete : emptyDesk.Anchored ∧
      ¬ (((emptyDesk.apply addShelf).apply fallBackToShelf).apply
        (.deleteZone .default ⟨2⟩)).Anchored := by
  refine ⟨anchored_emptyDesk, fun ha => ?_⟩
  have hs : fallbackSeen (((emptyDesk.apply addShelf).apply fallBackToShelf).apply
      (.deleteZone .default ⟨2⟩)) = some (.fallback ⟨2⟩, [⟨1⟩]) := by
    decide +kernel
  obtain ⟨scene, hsc, hp⟩ := Option.map_eq_some_iff.mp hs
  obtain ⟨hb, hi⟩ := Prod.mk.inj hp
  obtain ⟨zone, hz, hid, -⟩ := ha .default scene hsc ⟨2⟩ hb
  have hm := mem_map_of_mem (f := Zone.id) hz
  rw [hi, hid] at hm
  cases mem_singleton.mp hm

end Hypercolor.Scenes
