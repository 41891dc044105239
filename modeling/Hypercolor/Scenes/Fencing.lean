import Hypercolor.Scenes.Changes

/-!
# Layer edits are fenced by the layers version

A client that read a zone at some layers version sends it along with its edit, and the edit is refused
when the version has moved on. **`layer_edits_fenced`**: below the saturation of the counter,

* an operation that leaves a zone with other layers has counted its version up, unless it puts or
  removes a whole scene or a whole default face;
* once an edit with an expected version has succeeded, no later edit of the zone with the same
  expected version does, whatever happens in between but for the creation, update or deletion of the
  scene.

Zones are told apart by their ids, so the ids of a scene's zones are taken to be distinct, and the
ids the operations make to be new.
-/

set_option linter.unusedSectionVars false

namespace Hypercolor.Scenes

open Lib List

variable {F X : Type} [Scalar F] [DecidableEq X] [Literals X]

/-- Other layers come with a larger version. -/
def Zone.Fenced (zone zone' : Zone F X) : Prop :=
  zone'.layers ≠ zone.layers → zone.layersVersion < u64Max → zone.layersVersion < zone'.layersVersion

lemma Zone.Becomes.fenced {zn zn' : Zone F X} (h : zn.Becomes zn') : zn.Fenced zn' := by
  intro hn hl
  rcases h.layers with ⟨hs, -⟩ | hb
  · exact absurd hs hn
  · rw [hb, saturatingSucc]
    omega

variable {m m' : SceneManager F X} {z : ZoneId}

namespace SceneManager

/-! ## Default faces -/

/-- The operation that installs a whole default face. -/
def Op.setsDefault : Op F X → Bool
  | .setDefaultDisplayZone _ => true
  | _ => false

lemma after_defaults {E : Type} {r : Except E (SceneManager F X)}
    (hr : ∀ m', r = .ok m' → m'.defaultDisplayZones = m.defaultDisplayZones) :
    (m.after r).defaultDisplayZones = m.defaultDisplayZones := by
  cases r with
  | ok m' => exact hr m' rfl
  | error e => rfl

lemma refreshIf_defaults (m : SceneManager F X) (cond : Bool) :
    (m.refreshIf cond).defaultDisplayZones = m.defaultDisplayZones := by
  unfold refreshIf
  split <;> rfl

lemma dropDefaultDuplicates_sublist (rt : List ZoneId) (claimed : List DeviceId)
    (zs : List (Zone F X)) : (dropDefaultDuplicates rt claimed zs).Sublist zs := by
  induction zs generalizing claimed with
  | nil => exact .slnil
  | cons zn rest ih =>
    unfold dropDefaultDuplicates
    split
    · exact (ih claimed).cons_cons zn
    · split_ifs
      · exact (ih claimed).cons zn
      · exact (ih _).cons_cons zn
      · exact (ih claimed).cons_cons zn

/-- A default face after an operation is one from before, unless the operation installs it. -/
lemma apply_defaults (m : SceneManager F X) (op : Op F X) (hop : op.setsDefault = false) :
    ∀ zn' ∈ (m.apply op).defaultDisplayZones, ∃ zn ∈ m.defaultDisplayZones, zn.Becomes zn' := by
  have hs : (m.apply op).defaultDisplayZones = m.defaultDisplayZones →
      ∀ zn' ∈ (m.apply op).defaultDisplayZones, ∃ zn ∈ m.defaultDisplayZones,
        zn.Becomes zn' := by
    intro he zn' hz'
    rw [he] at hz'
    exact ⟨zn', hz', .refl zn'⟩
  cases op with
  | remapEffectIds ms =>
    intro zn' hz'
    obtain ⟨zn, hz, rfl⟩ := mem_map.mp hz'
    exact ⟨zn, hz, remapZoneEffectIds_becomes ms zn⟩
  | remapDeviceBindings ls ph =>
    intro zn' hz'
    have hz' : zn' ∈ (m.remapDeviceBindings ls ph).1.defaultDisplayZones := hz'
    unfold remapDeviceBindings dropRetargetedDefaultDuplicates at hz'
    have hma : zn' ∈ (m.defaultDisplayZones.map (remapZoneDeviceBindings ls ph)).map Prod.fst := by
      simp only at hz'
      split_ifs at hz'
      · exact hz'
      · exact hz'
      all_goals exact (dropDefaultDuplicates_sublist _ _ _).subset hz'
    obtain ⟨pair, hp, rfl⟩ := mem_map.mp hma
    obtain ⟨zn, hz, rfl⟩ := mem_map.mp hp
    exact ⟨zn, hz, (remapZone_reframes _ _ zn).becomes⟩
  | setDefaultDisplayZone zn => cases hop
  | removeDefaultDisplayZone d =>
    intro zn' hz'
    have hz' : zn' ∈ (m.removeDefaultDisplayZone d).1.defaultDisplayZones := hz'
    unfold removeDefaultDisplayZone at hz'
    simp only [refreshIf_defaults] at hz'
    exact ⟨zn', (mem_filter.mp hz').1, .refl zn'⟩
  | create sc =>
    refine hs (after_defaults fun m' hm' => ?_)
    unfold create at hm'
    split_ifs at hm'
    cases hm'
    rfl
  | update sc =>
    refine hs (after_defaults fun m' hm' => ?_)
    unfold update at hm'
    split at hm'
    · cases hm'
    · split_ifs at hm'
      cases hm'
      exact refreshIf_defaults _ _
  | delete id =>
    refine hs (after_defaults fun m' hm' => ?_)
    unfold delete at hm'
    split_ifs at hm'
    cases hm'
    rfl
  | activate id spec now =>
    refine hs (after_defaults fun m' hm' => ?_)
    unfold activate at hm'
    split at hm'
    · cases hm'
    · cases hm'
      rcases m.activeSceneId with _ | fromId
      · rfl
      · split_ifs <;> rfl
  | deactivateCurrent =>
    refine hs ?_
    show m.deactivateCurrent.defaultDisplayZones = m.defaultDisplayZones
    unfold deactivateCurrent
    split_ifs
    · rfl
    · split <;> rfl
  | _ => exact hs ((rests_apply m _ rfl).defaults rfl)

/-! ## Edits with an expected version -/

/-- A layer edit of a zone that carries an expected version and succeeds. -/
inductive FencedEdit (m : SceneManager F X) (sceneId : SceneId) (zoneId : ZoneId)
    (expected : Nat) : Op F X → SceneManager F X → Prop where
  | insert (layer : SceneLayer F X) (index : Option Nat) (m' : SceneManager F X)
      (h : m.insertZoneLayer sceneId zoneId layer index (some expected) = .ok m') :
      FencedEdit m sceneId zoneId expected
        (.insertZoneLayer sceneId zoneId layer index (some expected)) m'
  | remove (layerId : SceneLayerId) (m' : SceneManager F X)
      (h : m.removeZoneLayer sceneId zoneId layerId (some expected) = .ok m') :
      FencedEdit m sceneId zoneId expected
        (.removeZoneLayer sceneId zoneId layerId (some expected)) m'
  | reorder (layerIds : List SceneLayerId) (m' : SceneManager F X)
      (h : m.reorderZoneLayers sceneId zoneId layerIds (some expected) = .ok m') :
      FencedEdit m sceneId zoneId expected
        (.reorderZoneLayers sceneId zoneId layerIds (some expected)) m'
  | patchControls (layerId : SceneLayerId) (updates : Finmap fun _ : String => X)
      (m' : SceneManager F X)
      (h : m.patchZoneLayerEffectControls sceneId zoneId layerId updates (some expected) = .ok m') :
      FencedEdit m sceneId zoneId expected
        (.patchZoneLayerEffectControls sceneId zoneId layerId updates (some expected)) m'
  | patchControlsAndBindings (layerId : SceneLayerId) (updates : Finmap fun _ : String => X)
      (clearBindings : List String) (m' : SceneManager F X)
      (h : m.patchZoneLayerControlsAndBindings sceneId zoneId layerId updates clearBindings
        (some expected) = .ok m') :
      FencedEdit m sceneId zoneId expected
        (.patchZoneLayerControlsAndBindings sceneId zoneId layerId updates clearBindings
          (some expected)) m'

variable {sid : SceneId} {exp ver : Nat} {op : Op F X}

/-- All of them go through the one function that compares versions. -/
lemma FencedEdit.mutate (h : FencedEdit m sid z exp op m') :
    ∃ mutate, m.mutateZoneLayers sid z (some exp) mutate = .ok m' := by
  cases h with
  | insert ly i m' h | remove lyr m' h | reorder layerIds m' h | patchControls lyr updates m' h
  | patchControlsAndBindings lyr updates clearBindings m' h => exact ⟨_, h⟩

/-- An edit succeeds at its expected version only. -/
lemma FencedEdit.current (h : FencedEdit m sid z exp op m') :
    ∃ sc zn layers, m.scenes.lookup sid = some sc ∧ sc.zones.find? (fun zn => zn.id = z) = some zn ∧
      zn.layersVersion = exp ∧ m'.scenes.lookup sid = some { sc with
        zones := modifyFirst (fun zn => zn.id = z) (fun zn => { zn with
            layers := layers
            layersVersion := saturatingSucc zn.layersVersion }) sc.zones } := by
  obtain ⟨mutate, h⟩ := h.mutate
  unfold mutateZoneLayers at h
  split at h
  · cases h
  · rename_i sc hs
    split at h
    · cases h
    · rename_i zn hz
      split at h
      · cases h
      · rename_i hv
        split at h
        · cases h
        · rename_i layers hl
          cases h
          refine ⟨sc, zn, layers, hs, hz, ?_, ?_⟩
          · rw [Option.any_some, decide_eq_true_eq, not_not] at hv
            exact hv.symm
          · rw [refreshIf_scenes]
            exact AList.lookup_insert _

/-- The zone is past a version. -/
def Past (sceneId : SceneId) (zoneId : ZoneId) (version : Nat) (m : SceneManager F X) : Prop :=
  ∀ scene, m.scenes.lookup sceneId = some scene → ∀ zone ∈ scene.zones, zone.id = zoneId →
    version < zone.layersVersion

/-- A version that is past stays past. -/
lemma Past.apply (h : Past sid z ver m) (hv : ver < u64Max)
    (hop : op.wholeScene = false) (hf : z ∉ op.generated) : Past sid z ver (m.apply op) := by
  intro sc' hsc' zn' hz' hi'
  obtain ⟨sc, hsc, hc⟩ := apply_changes m op hop sid sc' hsc'
  rcases hc.back zn' hz' with ⟨zn, hz, hb⟩ | hg
  · have hp := h sc hsc zn hz (hb.id_eq.symm.trans hi')
    rcases hb.layers with ⟨-, hs⟩ | hbu
    · rw [hs]
      exact hp
    · rw [hbu, saturatingSucc]
      omega
  · exact absurd (hi' ▸ hg) hf

/-- A successful edit takes the zone past the version it expected. -/
lemma FencedEdit.past (h : FencedEdit m sid z ver op m')
    (hi : ∀ sc, m.scenes.lookup sid = some sc → (sc.zones.map Zone.id).Nodup)
    (hv : ver < u64Max) : Past sid z ver m' := by
  obtain ⟨sc, zn, layers, hsc, hz, hc, hsc'⟩ := h.current
  intro sc' hs' zn' hz' hid'
  cases hsc'.symm.trans hs'
  -- The zones left alone have other ids.
  have hr := replaces_modifyFirst (fun zn : Zone F X => { zn with
    layers := layers
    layersVersion := saturatingSucc zn.layersVersion }) hz
  rcases mem_cons.mp (hr.new.mem_iff.mp hz') with rfl | hre
  · rw [← hc, saturatingSucc]
    show zn.layersVersion < min (zn.layersVersion + 1) u64Max
    omega
  · have hn := (hr.old.map Zone.id).nodup_iff.mp (hi sc hsc)
    rw [map_cons, nodup_cons] at hn
    have hzi : zn.id = z := by simpa using find?_some hz
    refine absurd (mem_map.mpr ⟨zn', hre, ?_⟩) hn.1
    rw [hid', hzi]

lemma Past.not_fencedEdit (h : Past sid z ver m) : ¬ FencedEdit m sid z ver op m' := by
  intro he
  obtain ⟨sc, zone, layers, hs, hz, hc, -⟩ := he.current
  have hzi : zone.id = z := by simpa using find?_some hz
  have hp := h sc hs zone (mem_of_find?_eq_some hz) hzi
  rw [hc] at hp
  exact lt_irrefl _ hp

/-- Runs of operations that neither put nor remove a whole scene nor make the zone's id again. -/
def editing (zoneId : ZoneId) : Machine (SceneManager F X) (Op F X) where
  init _ := True
  step m op m' := m' = m.apply op ∧ op.wholeScene = false ∧ zoneId ∉ op.generated

lemma Past.run {ops : List (Op F X)} (h : Past sid z ver m)
    (hv : ver < u64Max) (hr : (editing z).Run m ops m') : Past sid z ver m' := by
  induction hr with
  | nil => exact h
  | snoc _ hs ih =>
    obtain ⟨rfl, hop, hf⟩ := hs
    exact ih.apply hv hop hf

/-- The ids of zones name them: within a scene and among the default faces they are distinct. -/
structure Distinct (m : SceneManager F X) : Prop where
  scenes : ∀ id scene, m.scenes.lookup id = some scene → (scene.zones.map Zone.id).Nodup
  defaults : (m.defaultDisplayZones.map Zone.id).Nodup

/-- The id an operation makes is new. -/
def Fresh (m : SceneManager F X) (op : Op F X) : Prop :=
  ∀ id scene, m.scenes.lookup id = some scene → ∀ zone ∈ scene.zones, zone.id ∉ op.generated

end SceneManager

/-- **Layer edits are fenced.** -/
theorem layer_edits_fenced (m : SceneManager F X) (op : SceneManager.Op F X)
    (hop : op.wholeScene = false) (hdistinct : m.Distinct) (hfresh : m.Fresh op) :
    (∀ id scene scene', m.scenes.lookup id = some scene →
      (m.apply op).scenes.lookup id = some scene' → ∀ zone ∈ scene.zones, ∀ zone' ∈ scene'.zones,
        zone'.id = zone.id → zone.Fenced zone') ∧
          (op.setsDefault = false → ∀ zone ∈ m.defaultDisplayZones,
      ∀ zone' ∈ (m.apply op).defaultDisplayZones, zone'.id = zone.id → zone.Fenced zone') ∧
    (∀ sceneId zoneId expected m', m.FencedEdit sceneId zoneId expected op m' →
      expected < u64Max → ∀ ops m'', (SceneManager.editing zoneId).Run m' ops m'' →
        ∀ op' m''', ¬ m''.FencedEdit sceneId zoneId expected op' m''') := by
  refine ⟨?_, ?_, ?_⟩
  · intro id scene scene' hsc hsc' zone hz zone' hz' hi
    obtain ⟨before, hbe, hc⟩ := SceneManager.apply_changes m op hop id scene' hsc'
    cases hsc.symm.trans hbe
    rcases hc.back zone' hz' with ⟨old, hold, hb⟩ | hg
    · have hs := inj_on_of_nodup_map (hdistinct.scenes id scene hsc) hold hz (hb.id_eq.symm.trans hi)
      rw [← hs]
      exact hb.fenced
    · exact absurd (hi ▸ hg) (hfresh id scene hsc zone hz)
  · intro hse zone hz zone' hz' hi
    obtain ⟨old, hold, hb⟩ := SceneManager.apply_defaults m op hse zone' hz'
    have hs := inj_on_of_nodup_map hdistinct.defaults hold hz (hb.id_eq.symm.trans hi)
    rw [← hs]
    exact hb.fenced
  · intro sceneId zoneId expected m' hed he ops m'' hr op' m'''
    exact ((hed.past (hdistinct.scenes sceneId) he).run he hr).not_fencedEdit

/-- A manager with one scene. -/
def desk (zones : List (Zone ℚ Unit)) : SceneManager ℚ Unit :=
  SceneManager.new.putScene ⟨7⟩
    { id := ⟨7⟩
      name := "Desk"
      zones := zones
      zonesRevision := 0
      transition := ⟨1000, ()⟩
      priority := 0
      unassignedBehavior := .off
      layoutId := none
      activationBrightness := none
      kind := .named
      mutationMode := .live }

/-- A zone of the scene, with as many effects. -/
def deskZone (effects layersVersion : Nat) : Zone ℚ Unit :=
  { freshZone ⟨1⟩ "Shelf" none ⟨(), 640, 480, [], ()⟩ .custom none with
    layers := (range effects).map fun i => .fromEffect ⟨i⟩ ⟨5⟩ ∅ ∅ none
    layersVersion := layersVersion }

lemma distinct_desk (zn : Zone ℚ Unit) : (desk [zn]).Distinct where
  scenes id scene hs := by
    have hp : (desk [zn]).scenes = AList.insert ⟨7⟩ _ ∅ := rfl
    rw [hp] at hs
    by_cases hi : id = ⟨7⟩
    · subst hi
      cases hs
      exact nodup_singleton _
    · rw [AList.lookup_insert_ne hi] at hs
      cases hs
  defaults := nodup_nil

/-- An effect on top of the zone, for a client that read the zone at some version. -/
def addEffect (expected : Nat) : SceneManager.Op ℚ Unit :=
  .insertZoneLayer ⟨7⟩ ⟨1⟩ (.fromEffect ⟨3⟩ ⟨5⟩ ∅ ∅ none) none (some expected)

/-- Of two clients that read the zone at version 0, the second is refused. -/
theorem layer_edits_fenced_second_client :
    (((desk [deskZone 0 0]).apply (addEffect 0)).scenes.lookup ⟨7⟩).map
        (fun scene => scene.zones.map Zone.layersVersion) = some [1] ∧
      ∀ op m', ¬ ((desk [deskZone 0 0]).apply (addEffect 0)).FencedEdit ⟨7⟩ ⟨1⟩ 0 op m' := by
  have hok : ((desk [deskZone 0 0]).insertZoneLayer ⟨7⟩ ⟨1⟩ (.fromEffect ⟨3⟩ ⟨5⟩ ∅ ∅ none) none
      (some 0)).isOk := by decide +kernel
  have he : (desk [deskZone 0 0]).FencedEdit ⟨7⟩ ⟨1⟩ 0 (addEffect 0)
      ((desk [deskZone 0 0]).apply (addEffect 0)) := by
    refine .insert _ _ _ ?_
    show _ = Except.ok ((desk [deskZone 0 0]).after ((desk [deskZone 0 0]).insertZoneLayer ⟨7⟩ ⟨1⟩
      (.fromEffect ⟨3⟩ ⟨5⟩ ∅ ∅ none) none (some 0)))
    cases hr : (desk [deskZone 0 0]).insertZoneLayer ⟨7⟩ ⟨1⟩
        (.fromEffect ⟨3⟩ ⟨5⟩ ∅ ∅ none) none (some 0) with
    | ok m' => rfl
    | error e => rw [hr] at hok; cases hok
  have hf := layer_edits_fenced (desk [deskZone 0 0]) (addEffect 0) rfl
    (distinct_desk _) fun _ _ _ _ _ => not_mem_nil
  refine ⟨by decide +kernel, fun op m' => ?_⟩
  exact hf.2.2 ⟨7⟩ ⟨1⟩ 0 _ he (by decide) [] _ .nil op m'

/-- The ids of zones, how many layers they have and at which version. -/
def stackSizes (zones : List (Zone ℚ Unit)) : List (ZoneId × Nat × Nat) :=
  zones.map fun zone => (zone.id, zone.layers.length, zone.layersVersion)

/-- The face of a display, as a client sends it. -/
def deskFace (effects : Nat) : Zone ℚ Unit :=
  { deskZone effects 0 with displayTarget := some (.new ⟨9⟩), role := .display }

/-- The version is not counted up past its largest value, nor where a default face is installed
again; and of two zones of a scene with one id, it may be the other that is left under it. -/
theorem layers_version_not_counted :
    (¬ ∀ (m : SceneManager ℚ Unit) (op : SceneManager.Op ℚ Unit), op.wholeScene = false →
      ∀ id scene scene', m.scenes.lookup id = some scene →
        (m.apply op).scenes.lookup id = some scene' → ∀ zone ∈ scene.zones,
          ∀ zone' ∈ scene'.zones, zone'.id = zone.id → zone'.layers ≠ zone.layers →
            zone.layersVersion < zone'.layersVersion) ∧
      stackSizes (((desk []).apply (.setDefaultDisplayZone (deskFace 1))).apply
        (.setDefaultDisplayZone (deskFace 0))).defaultDisplayZones = [(⟨1⟩, 0, 0)] ∧
      (((desk [deskZone 0 1, deskZone 1 0]).apply (.deleteZone ⟨7⟩ ⟨1⟩)).scenes.lookup ⟨7⟩).map
        (fun scene => stackSizes scene.zones) = some [(⟨1⟩, 1, 0)] := by
  refine ⟨fun hcl => ?_, by decide +kernel, by decide +kernel⟩
  have hf : (((desk [deskZone 0 u64Max]).apply (addEffect u64Max)).scenes.lookup ⟨7⟩).map
      (fun scene => stackSizes scene.zones) = some [(⟨1⟩, 1, u64Max)] := by decide +kernel
  obtain ⟨scene', hsc', hsi⟩ := Option.map_eq_some_iff.mp hf
  have hm : (⟨⟨1⟩, 1, u64Max⟩ : ZoneId × Nat × Nat) ∈ stackSizes scene'.zones := by
    rw [hsi]
    exact mem_singleton_self _
  obtain ⟨zone', hz', hs⟩ := mem_map.mp hm
  have hc := hcl (desk [deskZone 0 u64Max]) (addEffect u64Max) rfl ⟨7⟩ _ scene'
    (AList.lookup_insert _) hsc' (deskZone 0 u64Max) (mem_singleton_self _) zone' hz'
    (congrArg Prod.fst hs) fun hla => by
      have hl := congrArg (fun size => size.2.1) hs
      rw [show zone'.layers = [] from hla] at hl
      cases hl
  have hv : zone'.layersVersion = u64Max := congrArg (fun size => size.2.2) hs
  rw [hv] at hc
  exact lt_irrefl _ hc

end Hypercolor.Scenes
