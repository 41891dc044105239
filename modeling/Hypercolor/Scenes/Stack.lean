import Hypercolor.Scenes.Manager

/-!
# The activation stack and the scenes it names

`Owned`: every stack entry names a scene that is there, and every scene is filed under its own id.
**`Owned.apply`**: every operation keeps that. The combinators the operations are built from
(`editActive`, `editScene`, `mutateZoneLayers`, `editActiveZone`) have one lemma each.
-/

set_option linter.unusedSectionVars false

namespace Hypercolor.Scenes

open Lib Option AList SceneManager

variable {F X E : Type} [Scalar F] [DecidableEq X] [Literals X]

/-- What a scene is filed and sorted under. -/
def Scene.filing (scene : Scene F X) : SceneId × Nat :=
  (scene.id, scene.priority)

namespace SceneManager

/-! ## The stack and the keys -/

/-- Every stack entry names a scene that is there, and every scene is filed under its own id. -/
structure Owned (m : SceneManager F X) : Prop where
  stack : ∀ entry ∈ m.priorityStack, entry.sceneId ∈ m.scenes
  keys : ∀ id scene, m.scenes.lookup id = some scene → scene.id = id

variable {sc : Scene F X} {ed : Scene F X → Except ZoneMutationError (Scene F X)} {z : ZoneId}
  {m' m : SceneManager F X}

variable {r : Except E (SceneManager F X)}

namespace Owned

lemma new : Owned (new : SceneManager F X) := by
  constructor
  · rintro e ⟨⟩
  · rintro id sc ⟨⟩

lemma refresh (h : Owned m) : Owned m.refreshResolvedZones := ⟨h.stack, h.keys⟩

lemma refreshIf (h : Owned m) (cond : Bool) : Owned (m.refreshIf cond) := by
  rw [SceneManager.refreshIf]
  split_ifs
  · exact h.refresh
  · exact h

lemma put (h : Owned m) (sc : Scene F X) : Owned (m.putScene sc.id sc) := by
  constructor
  · intro e he
    exact (mem_insert _).mpr (.inr (h.stack e he))
  · intro id s hs
    by_cases hi : id = sc.id
    · subst hi
      rw [show (m.putScene sc.id sc).scenes.lookup sc.id = some sc from lookup_insert _] at hs
      cases hs
      rfl
    · exact h.keys id s ((lookup_insert_ne hi).symm.trans hs)

variable {id : SceneId}

lemma push (h : Owned m) (hi : id ∈ m.scenes) (pr now : Nat) :
    ∀ e ∈ pushStack m.priorityStack id pr now, e.sceneId ∈ m.scenes := by
  intro e he
  rw [pushStack, List.mem_insertionSort, List.mem_append, List.mem_singleton] at he
  rcases he with he | rfl
  · exact h.stack e he
  · exact hi

lemma after (h : Owned m) (hr : ∀ m', r = .ok m' → Owned m') : Owned (m.after r) := by
  cases r with
  | ok m' => exact hr m' rfl
  | error e => exact h

end Owned

section

variable {id : SceneId}

lemma editActive_ok {ed : Scene F X → Scene F X × Bool} (h : m.editActive ed = .ok m') :
    ∃ id sc, m.scenes.lookup id = some sc ∧ m' = (m.putScene id (ed sc).1).refreshIf (ed sc).2 := by
  rw [editActive] at h
  split at h
  · cases h
  · split at h
    · cases h
    · rename_i id _ _ sc hs
      exact ⟨id, sc, hs, (Except.ok.inj h).symm⟩

lemma editScene_ok (h : m.editScene id ed = .ok m') :
    ∃ sc sc', m.scenes.lookup id = some sc ∧ ed sc = .ok sc' ∧
      m' = (m.putScene id sc').refreshIf (m.activeSceneId = some id) := by
  rw [editScene] at h
  split at h
  · cases h
  · rename_i sc hs
    split at h
    · cases h
    · rename_i sc' hs'
      exact ⟨sc, sc', hs, hs', (Except.ok.inj h).symm⟩

end

lemma unlocked_ok {sc' : Scene F X} (h : unlocked ed sc = .ok sc') : ed sc = .ok sc' := by
  rw [unlocked] at h
  split_ifs at h
  exact h

lemma editActiveZone_of_applyEffectToZone {m : SceneManager F X} {lyr : SceneLayerId}
    {eid : EffectId} {cs : Finmap fun _ : String => X} {pid : Option Uuid}
    (h : m.applyEffectToZone z lyr eid cs pid = .ok m') : m.editActiveZone z (fun zn =>
      some (applyEffect lyr eid cs pid zn)) = some m' := by
  rw [applyEffectToZone] at h
  split at h
  · cases h
  · split at h
    · cases h
    · split_ifs at h
      generalize m.editActiveZone z _ = edited at h ⊢
      cases edited with
      | none => cases h
      | some m'' =>
        cases h
        rfl

/-! ## The operations that leave the stack alone -/

/-- The operations on whole scenes and on the stack. -/
def Op.activates : Op F X → Bool
  | .create _ | .update _ | .delete _ | .activate _ _ _ | .deactivateCurrent => true
  | _ => false

/-- The operations that rewrite default faces. -/
def Op.rewritesDefaults : Op F X → Bool
  | .remapEffectIds _ | .remapDeviceBindings _ _ | .setDefaultDisplayZone _
  | .removeDefaultDisplayZone _ => true
  | _ => false

/-- The stack, the plan, the ids and the priorities are the same, and so are the default faces
unless they are rewritten. -/
structure Rests (rewrites : Bool) (m m' : SceneManager F X) : Prop where
  stack : m'.priorityStack = m.priorityStack
  plan : m'.transitionPlan = m.transitionPlan
  filing : ∀ id, (m'.scenes.lookup id).map Scene.filing = (m.scenes.lookup id).map Scene.filing
  defaults : rewrites = false → m'.defaultDisplayZones = m.defaultDisplayZones

variable {id sid : SceneId} {rewrites : Bool}

namespace Rests

lemma refl (m : SceneManager F X) : Rests rewrites m m := ⟨rfl, rfl, fun _ => rfl, fun _ => rfl⟩

lemma refresh (h : Rests rewrites m m') : Rests rewrites m m'.refreshResolvedZones :=
    ⟨h.stack, h.plan, h.filing, h.defaults⟩

lemma refreshIf (h : Rests rewrites m m') (cond : Bool) : Rests rewrites m (m'.refreshIf cond) := by
  rw [SceneManager.refreshIf]
  split_ifs
  · exact h.refresh
  · exact h

lemma put {old : Scene F X} (hold : m.scenes.lookup id = some old)
    (hf : sc.filing = old.filing) : Rests rewrites m (m.putScene id sc) := by
  refine ⟨rfl, rfl, fun id' => ?_, fun _ => rfl⟩
  by_cases hi : id' = id
  · subst hi
    simp [putScene, hold, hf]
  · simp [putScene, lookup_insert_ne hi]

lemma mapValues {f : Scene F X → Scene F X} (hf : ∀ sc, (f sc).filing = sc.filing)
    (defaults : List (Zone F X)) (hd : rewrites = false → defaults = m.defaultDisplayZones) :
    Rests rewrites m { m with scenes := m.scenes.mapValues f, defaultDisplayZones := defaults } := by
  refine ⟨rfl, rfl, fun id => ?_, hd⟩
  simp only [Table.lookup_mapValues, map_map]
  congr 1
  exact funext hf

lemma after (hr : ∀ m', r = .ok m' → Rests rewrites m m') : Rests rewrites m (m.after r) := by
  rcases r with e | m'
  · exact .refl m
  · exact hr m' rfl

lemma getD {r : Option (SceneManager F X)} (hr : ∀ m', r = some m' → Rests rewrites m m') :
    Rests rewrites m (r.getD m) := by
  rcases r with _ | m'
  · exact .refl m
  · exact hr m' rfl

theorem editActive {ed : Scene F X → Scene F X × Bool} (he : ∀ sc, (ed sc).1.filing = sc.filing) :
    Rests rewrites m (m.after (m.editActive ed)) := by
  refine .after fun m' hm' => ?_
  obtain ⟨id, sc, hs, rfl⟩ := editActive_ok hm'
  exact (put hs (he sc)).refreshIf _

theorem editScene (he : ∀ sc sc', ed sc = .ok sc' → sc'.filing = sc.filing) :
    Rests rewrites m (m.after (m.editScene id ed)) := by
  refine .after fun m' hm' => ?_
  obtain ⟨sc, sc', hs, hs', rfl⟩ := editScene_ok hm'
  exact (put hs (he sc sc' hs')).refreshIf _

theorem mutateZoneLayers {exp : Option Nat}
    {mutate : List (SceneLayer F X) → Except LayerMutationError (List (SceneLayer F X))}
    (hm' : m.mutateZoneLayers sid z exp mutate = .ok m') : Rests rewrites m m' := by
  rw [SceneManager.mutateZoneLayers] at hm'
  split at hm'
  · cases hm'
  · rename_i sc hs
    split at hm'
    · cases hm'
    · split_ifs at hm'
      split at hm'
      · cases hm'
      · cases hm'
        apply refreshIf
        exact put hs rfl

theorem editActiveZone {ed : Zone F X → Option (Zone F X)}
    (hm' : m.editActiveZone z ed = some m') : Rests rewrites m m' := by
  simp only [SceneManager.editActiveZone, bind_eq_bind, bind_eq_some_iff] at hm'
  obtain ⟨id, -, sc, hs, zone, -, zone', -, ⟨⟩⟩ := hm'
  apply refresh
  exact put hs rfl

end Rests

lemma bumpZonesRevisionIf_filing (ch : Bool) (sc : Scene F X) :
    (bumpZonesRevisionIf ch sc).filing = sc.filing := by
  rcases ch <;> rfl

lemma upsertPrimary_filing (z : ZoneId) (lyr : SceneLayerId) (eid : EffectId)
    (cs : Finmap fun _ : String => X) (pid : Option Uuid) (l : SpatialLayout F X) (sc : Scene F X) :
    (upsertPrimary z lyr eid cs pid l sc).filing = sc.filing := by
  rw [upsertPrimary]
  split
  · exact bumpZonesRevisionIf_filing _ _
  · rfl

lemma upsertFace_filing (d : DeviceId) (ed : Zone F X → Zone F X) (added : Zone F X)
    (sc : Scene F X) : (upsertFace d ed added sc).filing = sc.filing := by
  rw [upsertFace]
  split <;> rfl

lemma remapSceneDevices_filing (ls : String → Option String)
    (ph : DeviceId → Option DeviceId) (sc : Scene F X) :
    (remapSceneDevices ls ph sc).1.filing = sc.filing := by
  rw [remapSceneDevices]
  simp only [bumpZonesRevisionIf_filing]
  rw [collapseRetargetedDisplayZones]
  split_ifs <;> rfl

lemma rests_updateZoneMeta (m : SceneManager F X) (sid : SceneId) (z : ZoneId)
    (patch : ZoneMetaPatch F) : Rests rewrites m (m.after (m.updateZoneMeta sid z patch)) := by
  refine .editScene fun sc sc' he => ?_
  dsimp only at he
  split_ifs at he
  all_goals
    split at he
    · cases he
    · split_ifs at he
      all_goals
        cases he
        exact bumpZonesRevisionIf_filing _ _

lemma rests_unlocked (hed : ∀ sc sc', ed sc = .ok sc' → sc'.filing = sc.filing) :
    Rests rewrites m (m.after (m.editScene sid (unlocked ed))) :=
  .editScene fun sc sc' he => hed sc sc' (unlocked_ok he)

variable (m : SceneManager F X)

lemma rests_setUnassignedBehavior (sid : SceneId) (bh : UnassignedBehavior) :
    Rests rewrites m (m.after (m.setUnassignedBehavior sid bh)) := by
  refine .after fun m' hm' => ?_
  rw [setUnassignedBehavior] at hm'
  split at hm'
  · cases hm'
  · rename_i sc hs
    have hp : Rests rewrites m (m.putScene sid
        (bumpZonesRevision { sc with unassignedBehavior := bh })) := .put hs rfl
    split_ifs at hm'
    all_goals
      cases hm'
      exact ⟨hp.stack, hp.plan, hp.filing, hp.defaults⟩

lemma rests_syncPrimaryZoneLayout (l : SpatialLayout F X) :
    Rests rewrites m (m.syncPrimaryZoneLayout l).1 := by
  rw [syncPrimaryZoneLayout]
  split
  · exact .refl m
  · split
    · exact .refl m
    · rename_i sc hs
      dsimp only
      split_ifs
      · exact Rests.refresh (.put hs rfl)
      · exact .put hs rfl

lemma rests_remapDeviceBindings (ls : String → Option String) (ph : DeviceId → Option DeviceId) :
    Rests true m (m.remapDeviceBindings ls ph).1 := by
  have hm := Rests.mapValues (m := m) (remapSceneDevices_filing ls ph)
    (dropRetargetedDefaultDuplicates ((m.defaultDisplayZones.map
        (remapZoneDeviceBindings ls ph)).map Prod.fst)
      (retargetedDisplayZones ph m.defaultDisplayZones)).1 fun h : true = false => Bool.noConfusion h
  rw [remapDeviceBindings]
  split_ifs
  · exact ⟨hm.stack, hm.plan, hm.filing, hm.defaults⟩
  · exact hm

/-- **Every other operation** leaves the stack, the plan and the filing alone, and the default faces
as well if it does not rewrite them. -/
lemma rests_apply (op : Op F X) (hop : op.activates = false) :
    Rests op.rewritesDefaults m (m.apply op) := by
  cases op with
  | create | update | delete | activate | deactivateCurrent => cases hop
  | invalidateResolvedZones => exact ⟨rfl, rfl, fun _ => rfl, fun _ => rfl⟩
  | remapEffectIds ms =>
    have hma := Rests.mapValues (m := m) (fun sc => bumpZonesRevisionIf_filing
      (0 < (sc.zones.map fun zn => (remapZoneEffectIds ms zn).2).sum)
      { sc with zones := sc.zones.map fun zn => (remapZoneEffectIds ms zn).1 })
      (m.defaultDisplayZones.map fun zn => (remapZoneEffectIds ms zn).1)
      fun h : true = false => Bool.noConfusion h
    exact ⟨hma.stack, hma.plan, hma.filing, hma.defaults⟩
  | remapDeviceBindings ls ph =>
    exact rests_remapDeviceBindings m ls ph
  | upsertPrimaryZone z lyr eid cs pid l =>
    exact .editActive fun sc => upsertPrimary_filing _ _ _ _ _ _ sc
  | upsertDisplayZone z lyr d nm eid cs l =>
    exact .editActive fun sc => upsertFace_filing _ _ _ sc
  | ensureDisplayZoneSurface z d nm l | clearDisplayZoneAssignment z d nm l =>
    exact .editActive fun sc =>
      (bumpZonesRevisionIf_filing _ _).trans (upsertFace_filing _ _ _ sc)
  | createZone sid z name color fallbackCanvas =>
    refine rests_unlocked fun sc sc' he => ?_
    cases he
    rfl
  | deleteZone sid z | updateZoneLayout sid z l =>
    refine rests_unlocked fun sc sc' he => ?_
    split at he
    · cases he
    · split_ifs at he
      cases he
      rfl
  | updateZoneMeta sid z patch => exact rests_updateZoneMeta m sid z patch
  | assignOutputToZone sid z o place =>
    refine rests_unlocked fun sc sc' he => ?_
    dsimp only at he
    split at he
    · cases he
    · split_ifs at he <;> cases he <;> rfl
  | unassignOutput sid oid =>
    refine rests_unlocked fun sc sc' he => ?_
    split_ifs at he
    cases he
    rfl
  | setUnassignedBehavior sid bh => exact rests_setUnassignedBehavior m sid bh
  | patchDisplayZoneTarget z bm opacity =>
    refine .getD fun m' hm' => ?_
    simp only [SceneManager.patchDisplayZoneTarget, bind_eq_bind, bind_eq_some_iff] at hm'
    obtain ⟨id, -, sc, hs, zn, -, current, -, ⟨⟩⟩ := hm'
    exact Rests.refresh (.put hs rfl)
  | replaceZoneLayerStack sid z layers =>
    refine .after fun m' hm' => ?_
    rw [SceneManager.replaceZoneLayerStack] at hm'
    split at hm'
    · cases hm'
    · exact .mutateZoneLayers hm'
  | insertZoneLayer | removeZoneLayer | reorderZoneLayers | patchZoneLayerEffectControls
  | patchZoneLayerControlsAndBindings => exact .after fun _ => .mutateZoneLayers
  | removeDisplayZonesForDevice d =>
    exact (Rests.mapValues (f := withoutFaces d) (fun _ => rfl)
      m.defaultDisplayZones fun _ => rfl).refreshIf _
  | patchZoneControls | clearZoneEffect => exact .getD fun _ => .editActiveZone
  | applyEffectToZone z lyr eid cs pid =>
    exact .after fun _ hm' => .editActiveZone (editActiveZone_of_applyEffectToZone hm')
  | syncPrimaryZoneLayout l => exact rests_syncPrimaryZoneLayout m l
  | setDefaultDisplayZone zn =>
    rw [apply, SceneManager.setDefaultDisplayZone]
    split
    · exact .refl m
    · exact ⟨rfl, rfl, fun _ => rfl, Bool.noConfusion⟩
  | removeDefaultDisplayZone d =>
    refine Rests.refreshIf ?_ _
    exact ⟨rfl, rfl, fun _ => rfl, Bool.noConfusion⟩

/-! ## Every operation keeps the stack and the keys -/

namespace Owned

variable {m : SceneManager F X}

section

variable (h : Owned m)
include h

lemma installDefaultScene (z : ZoneId) (l : SpatialLayout F X) (now : Nat) :
    Owned (m.installDefaultScene z l now) := by
  rw [SceneManager.installDefaultScene]
  split_ifs
  · exact h
  · have hp := h.put {
        id := .default
        name := "Default"
        zones := [defaultPrimaryZone z l]
        zonesRevision := 0
        transition := ⟨1000, Literals.linearOklab⟩
        priority := 0
        unassignedBehavior := .off
        layoutId := none
        activationBrightness := none
        kind := .ephemeral
        mutationMode := .live }
    constructor
    · exact hp.push ((mem_insert _).mpr (.inl rfl)) 0 now
    · exact hp.keys

lemma create (sc : Scene F X) : Owned (m.after (m.create sc)) := by
  apply h.after
  intro m' hm'
  rw [SceneManager.create] at hm'
  split_ifs at hm'
  cases hm'
  exact h.put sc

lemma update (sc : Scene F X) : Owned (m.after (m.update sc)) := by
  apply h.after
  intro m' hm'
  rw [SceneManager.update] at hm'
  split at hm'
  · cases hm'
  · split_ifs at hm'
    cases hm'
    exact (h.put sc).refreshIf _

lemma delete (id : SceneId) : Owned (m.after (m.delete id)) := by
  apply h.after
  intro m' hm'
  rw [SceneManager.delete] at hm'
  split_ifs at hm'
  cases hm'
  apply refresh
  constructor
  · intro e he
    obtain ⟨hme, hn⟩ := List.mem_filter.mp he
    exact mem_erase.mpr ⟨of_decide_eq_true hn, h.stack e hme⟩
  · intro k sc hs
    by_cases hk : k = id
    · subst hk
      rw [show (m.scenes.erase k).lookup k = none from lookup_erase _ _] at hs
      cases hs
    · exact h.keys k sc ((lookup_erase_ne hk).symm.trans hs)

lemma activate (id : SceneId) (spec : Option (TransitionSpec X)) (now : Nat) :
    Owned (m.after (m.activate id spec now)) := by
  apply h.after
  intro m' hm'
  rw [SceneManager.activate] at hm'
  split at hm'
  · cases hm'
  · rename_i sc hs
    have hi : sc.id ∈ m.scenes := by
      rw [h.keys id sc hs, ← lookup_isSome, hs]
      rfl
    cases hm'
    -- whatever the transition, the scenes are the same
    rcases m.activeSceneId with _ | fromId
    · exact ⟨h.push hi _ now, h.keys⟩
    · split_ifs
      iterate 2 exact ⟨h.push hi _ now, h.keys⟩

lemma deactivateCurrent : Owned m.deactivateCurrent := by
  rw [SceneManager.deactivateCurrent]
  split_ifs
  · exact h
  · split
    · exact h.refresh
    · rename_i entry rest hs
      refine ⟨?_, h.keys⟩
      intro e he
      apply h.stack e
      rw [hs]
      exact List.mem_cons_of_mem _ he

lemma rests {rewrites : Bool} (hr : Rests rewrites m m') : Owned m' := by
  constructor
  · intro e he
    have hm := lookup_isSome.mpr (h.stack e (hr.stack ▸ he))
    rw [← isSome_map, ← hr.filing, isSome_map] at hm
    exact lookup_isSome.mp hm
  · intro id sc hs
    have hf := hr.filing id
    rw [hs, map_some, eq_comm, map_eq_some_iff] at hf
    obtain ⟨old, hold, heq⟩ := hf
    exact (congrArg Prod.fst heq).symm.trans (h.keys id old hold)

/-- **Every operation keeps the stack and the keys.** -/
theorem apply (op : Op F X) : Owned (m.apply op) := by
  cases op with
  | create sc => exact h.create sc
  | update sc => exact h.update sc
  | delete id => exact h.delete id
  | activate id spec now => exact h.activate id spec now
  | deactivateCurrent => exact h.deactivateCurrent
  | _ => exact h.rests (rests_apply m _ rfl)

end

end Owned

end SceneManager

end Hypercolor.Scenes
