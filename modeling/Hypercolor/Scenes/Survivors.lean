import Hypercolor.Scenes.Fallback

/-!
# The face that stays when devices are renamed

Renaming devices can leave a scene with several faces of one display, of which one stays.
**`remapDeviceBindings_merges`**: in a valid scene whose zones have ids of their own, that is one that
no other outranks, every zone without such a rival stays too, and a fallback to a face that goes
follows it. Validation lets zones share an id, and **`merge_takes_stranger`** shows one that goes with
a face it shares the id with.
-/

set_option linter.unusedSectionVars false

namespace Hypercolor.Scenes.SceneManager

open Lib List

variable {F X : Type} [Scalar F] [DecidableEq X] [Literals X]

/-- The faces of a display. -/
def facesOf (zones : List (Zone F X)) (deviceId : DeviceId) : List (Zone F X) :=
  zones.filter fun zone => zone.displayDevice = some deviceId

/-- The layers of every face that has some are dated. -/
def Dated (faces : List (Zone F X)) : Prop :=
  ∀ face ∈ faces, face.layers ≠ [] → (newestLayerMillis face).isSome

/-- The face that stays: one with layers before one without, then the newest where they are dated,
then a retargeted one. -/
structure Survives (retargeted : List ZoneId) (faces : List (Zone F X)) (face : Zone F X) :
    Prop where
  mem : face ∈ faces
  layers : face.layers = [] → ∀ other ∈ faces, other.layers = []
  newest : Dated faces → ∀ other ∈ faces, ∀ t, newestLayerMillis other = some t →
    ∃ t', newestLayerMillis face = some t' ∧ t ≤ t'
  retargeted : face.id ∉ retargeted → ∀ other ∈ faces, (other.layers = [] ↔ face.layers = []) →
    (Dated faces → newestLayerMillis other = newestLayerMillis face) → other.id ∉ retargeted

/-- What renaming makes of a scene, given its renamed zones. -/
structure Merges (retargeted : List ZoneId) (zones : List (Zone F X)) (scene scene' : Scene F X) :
    Prop where
  order : scene'.zones.Sublist zones
  faces : ∀ deviceId, facesOf zones deviceId ≠ [] →
    ∃ face, Survives retargeted (facesOf zones deviceId) face ∧
      facesOf scene'.zones deviceId = [face]
  others : ∀ zone ∈ zones,
    (∀ deviceId, zone.displayDevice = some deviceId → facesOf zones deviceId = [zone]) →
      zone ∈ scene'.zones
  fallback : ∀ id, scene.unassignedBehavior = .fallback id →
    (∀ zone ∈ zones, zone.id = id → zone ∈ scene'.zones) ∧
        scene'.unassignedBehavior = .fallback id ∨
      ∃ gone ∈ zones, gone.id = id ∧ ∃ deviceId face, gone.displayDevice = some deviceId ∧
        facesOf scene'.zones deviceId = [face] ∧ scene'.unassignedBehavior = .fallback face.id

/-! ## The choice -/

variable {retargeted : List ZoneId} {group : List (Zone F X × Nat)} {face : Zone F X × Nat}

lemma preferRetargeted_spec (h : preferRetargeted retargeted group = some face) :
    face ∈ group ∧ (face.1.id ∉ retargeted → ∀ o ∈ group, o.1.id ∉ retargeted) := by
  rcases hf : group.find? fun c => c.1.id ∈ retargeted with _ | c
  · rw [preferRetargeted, hf, Option.none_or] at h
    have hn := find?_eq_none.mp hf
    exact ⟨mem_of_head? h, fun _ o ho => by simpa using hn o ho⟩
  · rw [preferRetargeted, hf, Option.some_or] at h
    cases h
    exact ⟨mem_of_find?_eq_some hf, fun hn => absurd (by simpa using find?_some hf) hn⟩

lemma newestLayerMillis_nil {z : Zone F X} (h : z.layers = []) : newestLayerMillis z = none := by
  rw [newestLayerMillis, h]
  rfl

lemma exists_none_of_mapM {α β : Type} {f : α → Option β} {l : List α} (h : l.mapM f = none) :
    ∃ a ∈ l, f a = none := by
  induction l with
  | nil => cases h
  | cons a l ih =>
    rcases ha : f a with _ | b
    · exact ⟨a, mem_cons_self, ha⟩
    · rcases hl : l.mapM f with _ | bs
      · obtain ⟨c, hc, hn⟩ := ih hl
        exact ⟨c, mem_cons_of_mem _ hc, hn⟩
      · rw [mapM_cons, ha, hl] at h
        cases h

lemma chooseSurvivor_spec (h : chooseSurvivor retargeted group = some face) :
    face ∈ group ∧ Survives retargeted (group.map Prod.fst) face.1 := by
  -- a choice among candidates that takes in every rival of the chosen one
  have hof (candidates : List (Zone F X × Nat)) (hsub : candidates.Sublist group)
      (hp : face ∈ candidates ∧ (face.1.id ∉ retargeted → ∀ o ∈ candidates, o.1.id ∉ retargeted))
      (hl : face.1.layers = [] → ∀ o ∈ group, o.1.layers = [])
      (hn : Dated (group.map Prod.fst) → ∀ o ∈ group, ∀ t, newestLayerMillis o.1 = some t →
        ∃ t', newestLayerMillis face.1 = some t' ∧ t ≤ t')
      (hr : ∀ o ∈ group, (o.1.layers = [] ↔ face.1.layers = []) →
        (Dated (group.map Prod.fst) → newestLayerMillis o.1 = newestLayerMillis face.1) →
          o ∈ candidates) : face ∈ group ∧ Survives retargeted (group.map Prod.fst) face.1 :=
    ⟨hsub.subset hp.1, mem_map_of_mem (hsub.subset hp.1), fun hf => forall_mem_map.mpr (hl hf),
      fun hd => forall_mem_map.mpr (hn hd), fun hf => forall_mem_map.mpr
        fun o ho hla hti => hp.2 hf o (hr o ho hla hti)⟩
  have hlayered {c : Zone F X × Nat} : c ∈ group.filter (fun c => c.1.layers ≠ []) ↔
      c ∈ group ∧ c.1.layers ≠ [] := by simp
  unfold chooseSurvivor at h
  split at h
  · rename_i hnone
    have hn : ∀ c ∈ group, c.1.layers = [] := fun c hc =>
      not_not.mp fun hl => not_mem_nil (hnone ▸ hlayered.mpr ⟨hc, hl⟩)
    refine hof group (.refl _) (preferRetargeted_spec h) (fun _ => hn) (fun _ o ho t ht => ?_)
      fun o ho _ _ => ho
    rw [newestLayerMillis_nil (hn o ho)] at ht
    cases ht
  · rename_i only honly
    cases h
    obtain ⟨hm, hl⟩ := hlayered.mp (honly ▸ mem_singleton_self face)
    have hone (c : Zone F X × Nat) (hc : c ∈ group) (hcl : c.1.layers ≠ []) : c = face :=
      mem_singleton.mp (honly ▸ hlayered.mpr ⟨hc, hcl⟩)
    refine hof [face] (singleton_sublist.mpr hm) ⟨mem_singleton_self face, ?_⟩
      (fun hf => absurd hf hl) (fun _ o ho t ht => ?_)
      fun o ho hla _ => mem_singleton.mpr (hone o ho (mt hla.mp hl))
    · exact fun hf o ho => mem_singleton.mp ho ▸ hf
    · rw [hone o ho fun hcl => by rw [newestLayerMillis_nil hcl] at ht; cases ht] at ht
      exact ⟨t, ht, le_rfl⟩
  · rename_i several _ _
    have hin {c : Zone F X × Nat} (hc : c ∈ group) (hl : face.1.layers ≠ [])
        (hla : c.1.layers = [] ↔ face.1.layers = []) := hlayered.mpr ⟨hc, mt hla.mp hl⟩
    split at h
    · rename_i hund
      have hp := preferRetargeted_spec h
      have hl := (hlayered.mp hp.1).2
      obtain ⟨c, hc, hn⟩ := exists_none_of_mapM hund
      obtain ⟨hcg, hcl⟩ := hlayered.mp hc
      refine hof _ filter_sublist hp (fun hf => absurd hf hl) (fun hd => ?_)
        fun o ho hla _ => hin ho hl hla
      exact absurd hn (Option.isSome_iff_ne_none.mp (hd c.1 (mem_map_of_mem hcg) hcl))
    · rename_i assignedAt hdat
      have hm := mapM_eq_map hdat
      have hdate {c : Zone F X × Nat} (hc : c ∈ group) (hcl : c.1.layers ≠ []) :
          ∃ t ∈ assignedAt, some t = newestLayerMillis c.1 := by
        rw [← mem_map, ← hm]
        exact mem_map_of_mem (hlayered.mpr ⟨hc, hcl⟩)
      have hp : face ∈ (group.filter fun c => c.1.layers ≠ []).filter
            (fun c => newestLayerMillis c.1 = assignedAt.max?) ∧
          (face.1.id ∉ retargeted → ∀ o ∈ (group.filter fun c => c.1.layers ≠ []).filter
            (fun c => newestLayerMillis c.1 = assignedAt.max?), o.1.id ∉ retargeted) := by
        split at h
        · rename_i honly
          cases h
          rw [honly]
          exact ⟨mem_singleton_self face, fun hf o ho => mem_singleton.mp ho ▸ hf⟩
        · exact preferRetargeted_spec h
      obtain ⟨hfl, hlast⟩ := mem_filter.mp hp.1
      have hl := (hlayered.mp hfl).2
      rw [decide_eq_true_iff] at hlast
      refine hof _ (filter_sublist.trans filter_sublist) hp (fun hf => absurd hf hl)
        (fun _ o ho t ht => ?_) fun o ho hla hti => ?_
      · obtain ⟨t', ht', he⟩ := hdate ho fun hcl => by rw [newestLayerMillis_nil hcl] at ht; cases ht
        cases he.trans ht
        obtain ⟨ls, hla⟩ := Option.isSome_iff_exists.mp (isSome_max?_of_mem ht')
        exact ⟨ls, hlast.trans hla, (max?_eq_some_iff.mp hla).2 t ht'⟩
      · refine mem_filter.mpr ⟨hin ho hl hla, decide_eq_true ((hti ?_).trans hlast)⟩
        refine forall_mem_map.mpr fun c hc hcl => ?_
        obtain ⟨t, -, ht⟩ := hdate hc hcl
        rw [← ht]
        rfl

/-! ## The scene -/

section scene

variable {layouts : String → Option String} {devices : DeviceId → Option DeviceId}
  {scene : Scene F X} {id kept : ZoneId} {deviceId : DeviceId}

variable (layouts devices scene) in
/-- The zones of a scene under their new devices. -/
def renamed : List (Zone F X) :=
  scene.zones.map fun zone => (remapZoneDeviceBindings layouts devices zone).1

lemma faceGroup_fst (zs : List (Zone F X)) (deviceId : DeviceId) :
    (faceGroup zs deviceId).map Prod.fst = facesOf zs deviceId := by
  conv_rhs => rw [facesOf, ← zipIdx_map_fst 0 zs, filter_map]
  rfl

lemma mem_faceGroup {zs : List (Zone F X)} (h : face ∈ faceGroup zs deviceId) :
    zs[face.2]? = some face.1 ∧ face.1.displayDevice = some deviceId :=
  (mem_filter.mp h).imp mem_zipIdx_iff_getElem?.mp of_decide_eq_true

/-- A zone that goes is a face that another one of its display outranks. -/
lemma lookup_merged (h : (merged layouts devices scene).lookup id = some kept) :
    ∃ deviceId face gone, chooseSurvivor (retargetedDisplayZones devices scene.zones)
        (faceGroup (renamed layouts devices scene) deviceId) = some face ∧
      gone ∈ faceGroup (renamed layouts devices scene) deviceId ∧
      gone.2 ≠ face.2 ∧ gone.1.id = id ∧ face.1.id = kept := by
  unfold merged at h
  split_ifs at h
  · cases h
  · rw [survivorMap, lookup_foldl_insert, AList.lookup_empty, Option.or_none] at h
    obtain ⟨deviceId, -, hdr⟩ := mem_flatMap.mp (mem_of_latest h)
    unfold dropped at hdr
    split_ifs at hdr
    · cases hdr
    · split at hdr
      · cases hdr
      · rename_i face hf
        obtain ⟨gone, hg, he⟩ := mem_map.mp hdr
        obtain ⟨hm, hne⟩ := mem_filter.mp hg
        cases he
        exact ⟨deviceId, face, gone, hf, hm, of_decide_eq_true hne, rfl, rfl⟩

lemma same_of_id (hd : (scene.zones.map Zone.id).Nodup) {c c' : Zone F X × Nat}
    (hc : (renamed layouts devices scene)[c.2]? = some c.1)
    (hc' : (renamed layouts devices scene)[c'.2]? = some c'.1) (hid : c.1.id = c'.1.id) : c = c' := by
  have hm : (renamed layouts devices scene).map Zone.id = scene.zones.map Zone.id := map_map
  have hlt : c.2 < (scene.zones.map Zone.id).length := by
    rw [← hm, length_map]
    exact (List.getElem?_eq_some_iff.mp hc).1
  have hi : c.2 = c'.2 := by
    refine (getElem?_inj hlt hd).mp ?_
    rw [← hm, getElem?_map, getElem?_map, hc, hc']
    exact congrArg some hid
  exact Prod.ext (Option.some.inj (hc.symm.trans (hi ▸ hc'))) hi

/-- The survivor of a display stays. -/
lemma lookup_survivor (hd : (scene.zones.map Zone.id).Nodup)
    (hf : chooseSurvivor (retargetedDisplayZones devices scene.zones)
      (faceGroup (renamed layouts devices scene) deviceId) = some face) :
    (merged layouts devices scene).lookup face.1.id = none := by
  by_contra hn
  obtain ⟨kept, hk⟩ := Option.ne_none_iff_exists'.mp hn
  obtain ⟨deviceId', face', gone, hf', hg, hne, hid, -⟩ := lookup_merged hk
  obtain ⟨hi, hdev⟩ := mem_faceGroup (chooseSurvivor_spec hf).1
  obtain ⟨hi', hdev'⟩ := mem_faceGroup hg
  obtain rfl := same_of_id hd hi' hi hid
  cases hdev.symm.trans hdev'
  cases hf.symm.trans hf'
  exact hne rfl

lemma facesOf_eq {zn : Zone F X} (hs : (scene.zones.filterMap Zone.displayDevice).Nodup)
    (h : zn ∈ facesOf scene.zones deviceId) : facesOf scene.zones deviceId = [zn] := by
  have hp := (pairwise_filterMap.mp hs).filter fun z => z.displayDevice = some deviceId
  have hdev {z : Zone F X} (hz : z ∈ facesOf scene.zones deviceId) :
      z.displayDevice = some deviceId := of_decide_eq_true (mem_filter.mp hz).2
  change (facesOf scene.zones deviceId).Pairwise _ at hp
  generalize facesOf scene.zones deviceId = faces at *
  rcases faces with _ | ⟨x, _ | ⟨y, rest⟩⟩
  · cases h
  · rw [mem_singleton.mp h]
  · have hy := mem_cons_of_mem x (mem_cons_self (a := y) (l := rest))
    exact absurd rfl (rel_of_pairwise_cons hp mem_cons_self deviceId
      (hdev mem_cons_self) deviceId (hdev hy))

/-- **What renaming devices makes of a scene.** -/
theorem remapSceneDevices_merges (hs : scene.Structured) (hd : (scene.zones.map Zone.id).Nodup) :
    Merges (retargetedDisplayZones devices scene.zones) (renamed layouts devices scene) scene
      (remapSceneDevices layouts devices scene).1 := by
  have hz : (remapSceneDevices layouts devices scene).1.zones =
      (renamed layouts devices scene).filter fun zone =>
        ((merged layouts devices scene).lookup zone.id).isNone :=
    remapSceneDevices_zones layouts devices scene
  have hstay {deviceId : DeviceId} {face : Zone F X × Nat}
      (hf : chooseSurvivor (retargetedDisplayZones devices scene.zones)
        (faceGroup (renamed layouts devices scene) deviceId) = some face) :
      facesOf (remapSceneDevices layouts devices scene).1.zones deviceId =
        [face.1] := by
    obtain ⟨hi, hdev⟩ := mem_faceGroup (chooseSurvivor_spec hf).1
    refine facesOf_eq (remapSceneDevices_structured _ _ hs).displays
      (mem_filter.mpr ⟨?_, decide_eq_true hdev⟩)
    rw [hz]
    exact mem_filter.mpr ⟨mem_of_getElem? hi, Option.isNone_iff_eq_none.mpr (lookup_survivor hd hf)⟩
  constructor
  · rw [hz]
    exact filter_sublist
  · intro deviceId hne
    rw [← faceGroup_fst] at hne ⊢
    obtain ⟨face, hf⟩ := Option.isSome_iff_exists.mp
      (chooseSurvivor_isSome (retargetedDisplayZones devices scene.zones)
        fun he => hne (congrArg _ he))
    exact ⟨face.1, (chooseSurvivor_spec hf).2, hstay hf⟩
  · intro zone hzo hone
    rw [hz]
    refine mem_filter.mpr ⟨hzo, Option.isNone_iff_eq_none.mpr ?_⟩
    by_contra hn
    obtain ⟨kept, hk⟩ := Option.ne_none_iff_exists'.mp hn
    obtain ⟨deviceId, face, gone, hf, hg, hne, hid, -⟩ := lookup_merged hk
    obtain ⟨k, hzk⟩ := mem_iff_getElem?.mp hzo
    obtain ⟨hi, hdev⟩ := mem_faceGroup hg
    obtain rfl := @same_of_id _ _ _ _ _ _ _ _ hd _ (zone, k) hi hzk hid
    -- the survivor is the only face of the display, so the zone that goes is the survivor
    have hm := (chooseSurvivor_spec hf).2.mem
    rw [faceGroup_fst, hone deviceId hdev, mem_singleton] at hm
    have hfi := (mem_faceGroup (chooseSurvivor_spec hf).1).1
    exact hne (congrArg Prod.snd (same_of_id hd hi hfi (congrArg Zone.id hm.symm)))
  · intro id hb
    rw [remapSceneDevices_behavior, hb]
    dsimp only
    rcases hl : (merged layouts devices scene).lookup id with _ | kept
    · refine .inl ⟨fun zone hzo hid => ?_, rfl⟩
      rw [hz]
      exact mem_filter.mpr ⟨hzo, Option.isNone_iff_eq_none.mpr (hid ▸ hl)⟩
    · obtain ⟨deviceId, face, gone, hf, hg, -, hid, rfl⟩ := lookup_merged hl
      obtain ⟨hi, hdev⟩ := mem_faceGroup hg
      exact .inr ⟨gone.1, mem_of_getElem? hi, hid, deviceId, face.1, hdev, hstay hf, rfl⟩

end scene

/-- **One face stays for each display.** -/
theorem remapDeviceBindings_merges {m : SceneManager F X} {id : SceneId} {scene : Scene F X}
    (layouts : String → Option String) (devices : DeviceId → Option DeviceId)
    (hs : m.scenes.lookup id = some scene) (hv : scene.validate = [])
    (hd : (scene.zones.map Zone.id).Nodup) :
    ∃ scene', (m.remapDeviceBindings layouts devices).1.scenes.lookup id = some scene' ∧
      Merges (retargetedDisplayZones devices scene.zones)
        (renamed layouts devices scene) scene scene' := by
  have he : scene.structuralErrors = [] := by
    rw [Scene.structuralErrors, hv]
    rfl
  refine ⟨_, ?_, remapSceneDevices_merges (scene.structuralErrors_eq_nil_iff.mp he) hd⟩
  unfold remapDeviceBindings
  dsimp only
  split_ifs <;> exact (Table.lookup_mapValues _ _ _).trans (congrArg _ hs)

def emptyZone (id : Nat) (role : ZoneRole) (target : Option (DisplayFaceTarget ℚ)) : Zone ℚ Unit :=
  ⟨⟨id⟩, "Zone", none, [], ⟨(), 480, 480, [], ()⟩, 1, true, none, target, role, 0, 0⟩

/-- Two faces, and what else there is. -/
def desk (more : List (Zone ℚ Unit)) : Scene ℚ Unit where
  id := .default
  name := "Desk"
  zones := emptyZone 1 .display (some (.new ⟨5⟩)) :: emptyZone 2 .display (some (.new ⟨6⟩)) :: more
  zonesRevision := 0
  transition := ⟨0, ()⟩
  priority := 0
  unassignedBehavior := .off
  layoutId := none
  activationBrightness := none
  kind := .named
  mutationMode := .live

/-- The display of the first face becomes that of the second. -/
def replug (device : DeviceId) : Option DeviceId := if device = ⟨5⟩ then some ⟨6⟩ else none

/-- Two faces become one. -/
theorem remapDeviceBindings_merges_desk :
    ∃ scene', ((new.putScene .default (desk [])).remapDeviceBindings (fun _ => none)
        replug).1.scenes.lookup .default = some scene' ∧
      Merges (retargetedDisplayZones replug (desk []).zones)
        (renamed (fun _ => none) replug (desk [])) (desk []) scene' :=
  remapDeviceBindings_merges _ _ rfl (by decide +kernel) (by decide)

/-- A zone that shares the id of the face that goes is lost with it, in a scene that is valid. -/
theorem merge_takes_stranger : ¬ ∀ (m : SceneManager ℚ Unit) (layouts : String → Option String)
    (devices : DeviceId → Option DeviceId) (id : SceneId) (scene : Scene ℚ Unit),
    m.scenes.lookup id = some scene → scene.validate = [] →
      ∃ scene', (m.remapDeviceBindings layouts devices).1.scenes.lookup id = some scene' ∧
        Merges (retargetedDisplayZones devices scene.zones)
          (renamed layouts devices scene) scene scene' := by
  intro h
  obtain ⟨scene', hl, hm⟩ := h (new.putScene .default (desk [emptyZone 2 .custom none]))
    (fun _ => none) replug .default (desk [emptyZone 2 .custom none]) rfl (by decide +kernel)
  have hr : (((new.putScene .default (desk [emptyZone 2 .custom none])).remapDeviceBindings
      (fun _ => none) replug).1.scenes.lookup .default).map (fun s => s.zones.map Zone.role) =
        some [.display] := by decide +kernel
  have hz := hm.others (emptyZone 2 .custom none) (by decide) nofun
  rw [hl] at hr
  have hro : scene'.zones.map Zone.role = [.display] := Option.some.inj hr
  have hmem := mem_map_of_mem (f := Zone.role) hz
  rw [hro] at hmem
  cases mem_singleton.mp hmem

end Hypercolor.Scenes.SceneManager
