import Hypercolor.Scenes.Stack

/-!
# The render cache of the scene manager

**Result.** `cache_coherent`: after any sequence of operations the cached zones are the active
scene's zones followed by the default faces it does not cover, and along a run two states with the
same revision (below saturation) have the same cached zones.

`apply_outcome` says once what an operation can do to the cache: leave it alone when nothing it
shows has changed, refresh it, or advance its revision. Both parts of the result follow from that.
-/

set_option linter.unusedSectionVars false

namespace Hypercolor.Scenes

open Lib SceneManager List Nat

variable {F X : Type} [Scalar F] [DecidableEq X] [Literals X]

/-! ## Lists -/

lemma modifyFirst_of_find? {α : Type} {p : α → Bool} {f : α → α} {l : List α} {a : α}
    (hfi : l.find? p = some a) (hf : f a = a) : modifyFirst p f l = l := by
  induction l with
  | nil => rfl
  | cons b l ih =>
    rw [modifyFirst]
    split_ifs with hb
    · rw [find?_cons_of_pos hb] at hfi
      cases hfi
      rw [hf]
    · rw [find?_cons_of_neg hb] at hfi
      rw [ih hfi]

namespace SceneManager

/-! ## What the cache shows -/

variable {m m' m₁ : SceneManager F X}

lemma nextZones_congr (hzo : m'.activeScene.map Scene.zones = m.activeScene.map Scene.zones)
    (hd : m'.defaultDisplayZones = m.defaultDisplayZones) : m'.nextZones = m.nextZones := by
  have hc : ∀ d, m'.covers d = m.covers d := by
    intro d
    have hz : ∀ sc? : Option (Scene F X), (sc?.bind fun sc => sc.displayZoneFor d) =
          (sc?.map Scene.zones).bind fun zs =>
            zs.find? fun z => z.displayDevice = some d := by
      intro sc?
      cases sc? <;> rfl
    rw [covers, covers, hz, hz, hzo]
  rw [nextZones, nextZones, hzo, hd]
  simp only [hc]

variable {id : SceneId}

lemma activeScene_putScene_of_ne (sc : Scene F X) (hn : m.activeSceneId ≠ some id) :
    (m.putScene id sc).activeScene = m.activeScene := by
  have hi : (m.putScene id sc).activeSceneId = m.activeSceneId := rfl
  rw [activeScene, activeScene, hi]
  rcases ha : m.activeSceneId with _ | k
  · rfl
  · have hk : k ≠ id := by
      rintro rfl
      exact hn ha
    exact AList.lookup_insert_ne hk

variable {sc : Scene F X}

/-- The same scene, up to its zones, back in its place. -/
lemma activeScene_putScene_zones {old : Scene F X} (hold : m.scenes.lookup id = some old)
    (hz : sc.zones = old.zones) :
    (m.putScene id sc).activeScene.map Scene.zones = m.activeScene.map Scene.zones := by
  by_cases ha : m.activeSceneId = some id
  · have hn : (m.putScene id sc).activeScene = some sc := by
      rw [activeScene, show (m.putScene id sc).activeSceneId = m.activeSceneId from rfl, ha]
      exact AList.lookup_insert _
    have hc : m.activeScene = some old := by
      rw [activeScene, ha]
      exact hold
    rw [hn, hc, Option.map_some, Option.map_some, hz]
  · rw [activeScene_putScene_of_ne sc ha]

/-! ## What an operation does to the cache -/

/-- The cache itself is untouched. -/
structure Frame (m m' : SceneManager F X) : Prop where
  zones : m'.resolvedZones = m.resolvedZones
  revision : m'.resolvedZonesRevision = m.resolvedZonesRevision

/-- **Everything an operation can do to the cache.** -/
inductive Outcome (m : SceneManager F X) : SceneManager F X → Prop where
  | quiet (m' : SceneManager F X) : Frame m m' → m'.nextZones = m.nextZones → Outcome m m'
  | refreshed (m₁ : SceneManager F X) : Frame m m₁ → Outcome m m₁.refreshResolvedZones
  | renewed (m₁ : SceneManager F X) : Frame m m₁ →
      Outcome m m₁.refreshResolvedZones.invalidateResolvedZones
  | invalidated : Outcome m m.invalidateResolvedZones

namespace Outcome

lemma refl (m : SceneManager F X) : Outcome m m := .quiet m ⟨rfl, rfl⟩ rfl

/-- An operation that may refuse: what holds of its success holds of what it leaves behind. -/
theorem after {E : Type} {r : Except E (SceneManager F X)}
    (h : ∀ m', r = .ok m' → Outcome m m') : Outcome m (m.after r) := by
  cases r with
  | ok m' => exact h m' rfl
  | error e => exact refl m

lemma getD {r : Option (SceneManager F X)} (h : ∀ m', r = some m' → Outcome m m') :
    Outcome m (r.getD m) := by
  cases r with
  | some m' => exact h m' rfl
  | none => exact refl m

/-- A scene is rewritten and the cache refreshed if it is the active one. -/
lemma putScene (m : SceneManager F X) (id : SceneId) (sc : Scene F X) :
    Outcome m ((m.putScene id sc).refreshIf (m.activeSceneId = some id)) := by
  by_cases ha : m.activeSceneId = some id
  · rw [refreshIf, if_pos (decide_eq_true ha)]
    exact .refreshed _ ⟨rfl, rfl⟩
  · rw [refreshIf, if_neg (by simpa using ha)]
    refine .quiet _ ⟨rfl, rfl⟩ ?_
    exact nextZones_congr (by rw [activeScene_putScene_of_ne sc ha]) rfl

lemma editScene {ed : Scene F X → Except ZoneMutationError (Scene F X)} :
    Outcome m (m.after (m.editScene id ed)) := by
  apply after
  intro m' h
  obtain ⟨_, _, -, -, rfl⟩ := editScene_ok h
  exact putScene m id _

/-- An edit of the active scene refreshes, unless it changed no zone. -/
lemma editActive {ed : Scene F X → Scene F X × Bool}
    (h : ∀ sc, (ed sc).2 = false → (ed sc).1.zones = sc.zones) :
        Outcome m (m.after (m.editActive ed)) := by
  apply after
  intro m' hm'
  obtain ⟨id, sc, hs, rfl⟩ := editActive_ok hm'
  rcases hf : (ed sc).2 with _ | _
  · refine .quiet _ ⟨rfl, rfl⟩ ?_
    exact nextZones_congr (activeScene_putScene_zones hs (h sc hf)) rfl
  · exact .refreshed _ ⟨rfl, rfl⟩

variable {zid : ZoneId}

lemma mutateZoneLayers {sid : SceneId} {exp : Option Nat}
    {mutate : List (SceneLayer F X) → Except LayerMutationError (List (SceneLayer F X))}
    (h : m.mutateZoneLayers sid zid exp mutate = .ok m') : Outcome m m' := by
  rw [SceneManager.mutateZoneLayers] at h
  split at h
  · cases h
  · split at h
    · cases h
    · split_ifs at h
      split at h
      · cases h
      · cases h
        exact putScene m sid _

lemma editActiveZone {ed : Zone F X → Option (Zone F X)}
    (h : m.editActiveZone zid ed = some m') : Outcome m m' := by
  simp only [SceneManager.editActiveZone, Option.bind_eq_bind, Option.bind_eq_some_iff] at h
  obtain ⟨id, -, sc, -, z, -, z', -, ⟨⟩⟩ := h
  exact .refreshed _ ⟨rfl, rfl⟩

end Outcome

/-! ## Operations that change nothing -/

variable {d : DeviceId} {nm : String} {l : SpatialLayout F X} {z : Zone F X}

lemma alignSurface_of_not_changed (h : surfaceChanged l z = false) : alignSurface d nm l z = z := by
  rw [surfaceChanged, decide_eq_false_iff_not] at h
  push Not at h
  obtain ⟨hr, htg, hb, hl, hn⟩ := h
  obtain ⟨t, ht⟩ : ∃ t, z.displayTarget = some t := by
    rcases ht : z.displayTarget with _ | t
    · rw [ht] at htg
      exact absurd rfl htg
    · exact ⟨t, rfl⟩
  have hk : ¬ ((effectLayerId z).isNone ∧ t.blendMode = .replace) := by
    rintro ⟨hf, hre⟩
    apply hb hf
    rw [ht, Option.any_some, hre]
    rfl
  rw [alignSurface, ht, Option.getD_some, if_neg hk, if_neg hn, ← ht, ← hr, ← hl]

lemma clearAssignment_of_not_changed (h : assignmentChanged d l z = false) :
    clearAssignment d nm l z = z := by
  have hf := h
  rw [assignmentChanged, decide_eq_false_iff_not] at h
  push Not at h
  obtain ⟨hla, hl, he, ht, hr, hn⟩ := h
  have he : z.enabled := by simpa using he
  rw [clearAssignment, hf, if_neg Bool.false_ne_true, if_neg Bool.false_ne_true, if_neg hn,
    ← hla, ← hl, ← ht, ← hr, ← he]

/-- A face that is there and does not change leaves the zones as they are. -/
lemma upsertFace_zones_of_not_changed {ed : Zone F X → Zone F X} {added : Zone F X}
    {ch : Zone F X → Bool} (he : ∀ z, ch z = false → ed z = z)
        (h : (sc.displayZoneFor d).all ch = false) :
    (upsertFace d ed added sc).zones = sc.zones := by
  rcases hz : sc.displayZoneFor d with _ | z
  · rw [hz] at h
    cases h
  · rw [hz, Option.all_some] at h
    rw [upsertFace, hz]
    exact modifyFirst_of_find? hz (he z h)

lemma alignLedZone_of_not_changed {custom : Bool} (h : (alignLedZone z l custom).2 = false) :
    (alignLedZone z l custom).1 = z := by
  unfold alignLedZone at h ⊢
  split_ifs at h ⊢ <;> rfl

variable {ls : String → Option String} {ph : DeviceId → Option DeviceId}

lemma remapZoneDeviceBindings_of_zero (h : (remapZoneDeviceBindings ls ph z).2 = 0) :
    (remapZoneDeviceBindings ls ph z).1 = z ∧ (z.displayTarget.any fun t => (ph t.deviceId).isSome) =
        false := by
  obtain ⟨hout, htg⟩ := Nat.add_eq_zero_iff.mp h
  have ha : (z.displayTarget.any fun t =>
      (ph t.deviceId).isSome) = false := by
    by_contra hne
    rw [Bool.not_eq_false] at hne
    rw [if_pos hne] at htg
    cases htg
  refine ⟨?_, ha⟩
  have hz : (z.layout.zones.map fun o =>
      { o with deviceId := (ls o.deviceId).getD o.deviceId }) =
        z.layout.zones := by
    conv_rhs => rw [← map_id z.layout.zones]
    apply map_congr_left
    intro o hou
    have hn := countP_eq_zero.mp hout o hou
    rw [Bool.not_eq_true, Option.isSome_eq_false_iff, Option.isNone_iff_eq_none] at hn
    rw [hn]
    rfl
  have hta : (z.displayTarget.map fun t =>
      { t with deviceId := (ph t.deviceId).getD t.deviceId }) =
        z.displayTarget := by
    rcases ht : z.displayTarget with _ | t
    · rfl
    · rw [ht, Option.any_some, Option.isSome_eq_false_iff, Option.isNone_iff_eq_none] at ha
      rw [Option.map_some, ha]
      rfl
  rw [remapZoneDeviceBindings, hz, hta]

/-- A list of zones in which nothing is remapped stays as it is, and nothing was retargeted. -/
lemma remap_zones_of_zero {zs : List (Zone F X)}
    (h : ((zs.map (remapZoneDeviceBindings ls ph)).map Prod.snd).sum = 0) :
    (zs.map (remapZoneDeviceBindings ls ph)).map Prod.fst = zs ∧ retargetedDisplayZones ph zs = [] := by
  have hze : ∀ z ∈ zs, (remapZoneDeviceBindings ls ph z).2 = 0 := by
    intro z hz
    rw [map_map] at h
    exact sum_eq_zero_iff.mp h _ (mem_map.mpr ⟨z, hz, rfl⟩)
  constructor
  · rw [map_map]
    conv_rhs => rw [← map_id zs]
    apply map_congr_left
    intro z hz
    exact (remapZoneDeviceBindings_of_zero (hze z hz)).1
  · rw [retargetedDisplayZones, map_eq_nil_iff, filter_eq_nil_iff]
    intro z hz
    rw [(remapZoneDeviceBindings_of_zero (hze z hz)).2]
    exact Bool.false_ne_true

lemma remapSceneDevices_of_zero (h : (remapSceneDevices ls ph sc).2 = 0) :
    (remapSceneDevices ls ph sc).1.zones = sc.zones := by
  obtain ⟨hz, -⟩ := Nat.add_eq_zero_iff.mp h
  obtain ⟨hm, hr⟩ := remap_zones_of_zero hz
  rw [remapSceneDevices, hr, hm]
  rw [collapseRetargetedDisplayZones, if_pos rfl, bumpZonesRevisionIf]
  split_ifs <;> rfl

/-! ## The outcome of every operation -/

namespace Outcome

/-- A new scene is not the active one. -/
lemma create (h : Owned m) (sc : Scene F X) : Outcome m (m.after (m.create sc)) := by
  apply after
  intro m' hm'
  rw [SceneManager.create] at hm'
  split_ifs at hm' with hn
  cases hm'
  refine .quiet _ ⟨rfl, rfl⟩ ?_
  have hne : m.activeSceneId ≠ some sc.id := by
    intro ha
    obtain ⟨e, he, hi⟩ := Option.map_eq_some_iff.mp ha
    have hme := h.stack e (mem_of_head? he)
    rw [hi, ← AList.lookup_isSome] at hme
    exact hn hme
  exact nextZones_congr (by rw [activeScene_putScene_of_ne sc hne]) rfl

lemma update (sc : Scene F X) : Outcome m (m.after (m.update sc)) := by
  apply after
  intro m' hm'
  rw [SceneManager.update] at hm'
  split at hm'
  · cases hm'
  · split_ifs at hm'
    cases hm'
    exact putScene m sc.id sc

lemma delete (id : SceneId) : Outcome m (m.after (m.delete id)) := by
  apply after
  intro m' hm'
  rw [SceneManager.delete] at hm'
  split_ifs at hm'
  cases hm'
  exact .refreshed _ ⟨rfl, rfl⟩

lemma activate (id : SceneId) (spec : Option (TransitionSpec X)) (now : Nat) :
    Outcome m (m.after (m.activate id spec now)) := by
  apply after
  intro m' hm'
  rw [SceneManager.activate] at hm'
  split at hm'
  · cases hm'
  · cases hm'
    apply refreshed
    rcases m.activeSceneId with _ | fromId
    · exact ⟨rfl, rfl⟩
    · split_ifs <;> exact ⟨rfl, rfl⟩

lemma deactivateCurrent : Outcome m m.deactivateCurrent := by
  rw [SceneManager.deactivateCurrent]
  split_ifs
  · exact refl m
  · split
    iterate 2 exact .refreshed _ ⟨rfl, rfl⟩

lemma setUnassignedBehavior (sid : SceneId) (bh : UnassignedBehavior) :
    Outcome m (m.after (m.setUnassignedBehavior sid bh)) := by
  apply after
  intro m' hm'
  rw [SceneManager.setUnassignedBehavior] at hm'
  split at hm'
  · cases hm'
  · split_ifs at hm' with _ _ ha
    · cases hm'
      exact .renewed _ ⟨rfl, rfl⟩
    · cases hm'
      refine .quiet _ ⟨rfl, rfl⟩ ?_
      exact nextZones_congr (by rw [activeScene_putScene_of_ne _ ha]) rfl

lemma patchDisplayZoneTarget (zid : ZoneId) (bm : Option BlendMode) (opacity : Option F) :
    Outcome m ((m.patchDisplayZoneTarget zid bm opacity).getD m) := by
  apply getD
  intro m' hm'
  simp only [SceneManager.patchDisplayZoneTarget, Option.bind_eq_bind, Option.bind_eq_some_iff] at hm'
  obtain ⟨id, -, sc, -, z, -, current, -, ⟨⟩⟩ := hm'
  exact .refreshed _ ⟨rfl, rfl⟩

lemma syncPrimaryZoneLayout (l : SpatialLayout F X) : Outcome m (m.syncPrimaryZoneLayout l).1 := by
  rw [SceneManager.syncPrimaryZoneLayout]
  split
  · exact refl m
  · split
    · exact refl m
    · rename_i id _ sc hs
      dsimp only
      split_ifs with hc
      · exact .refreshed _ ⟨rfl, rfl⟩
      · refine .quiet _ ⟨rfl, rfl⟩ ?_
        refine nextZones_congr (activeScene_putScene_zones hs ?_) rfl
        conv_rhs => rw [← map_id sc.zones]
        apply map_congr_left
        intro z hz
        apply alignLedZone_of_not_changed
        by_contra hn
        rw [Bool.not_eq_false] at hn
        exact hc (any_eq_true.mpr ⟨z, hz, hn⟩)

/-- The active scene after all scenes were rewritten. -/
lemma activeScene_mapValues (m : SceneManager F X) (f : Scene F X → Scene F X)
    (defaults : List (Zone F X)) :
    { m with scenes := m.scenes.mapValues f, defaultDisplayZones := defaults }.activeScene =
      m.activeScene.map f := by
  have hi : { m with
    scenes := m.scenes.mapValues f
    defaultDisplayZones := defaults }.activeSceneId = m.activeSceneId := rfl
  rw [activeScene, activeScene, hi]
  cases m.activeSceneId with
  | none => rfl
  | some id => exact Table.lookup_mapValues f m.scenes id

/-- Faces removed from other scenes do not show. -/
lemma removeDisplayZonesForDevice (h : Owned m) (d : DeviceId) :
    Outcome m (m.removeDisplayZonesForDevice d).1 := by
  rw [SceneManager.removeDisplayZonesForDevice]
  rw [refreshIf]
  split_ifs with hr
  · exact .refreshed _ ⟨rfl, rfl⟩
  · refine .quiet _ ⟨rfl, rfl⟩ (nextZones_congr ?_ rfl)
    rw [activeScene_mapValues m (withoutFaces d) m.defaultDisplayZones]
    rcases ha : m.activeScene with _ | sc
    · rfl
    · rw [Option.map_some, Option.map_some, Option.map_some]
      obtain ⟨id, hi, hs⟩ := Option.bind_eq_some_iff.mp ha
      congr 1
      apply filter_eq_self.mpr
      intro z hz
      rw [decide_eq_true_eq]
      intro hd
      apply hr
      rw [hi, Option.any_some, any_eq_true]
      refine ⟨(sc.id, z), ?_, decide_eq_true (h.keys id sc hs)⟩
      refine mem_flatMap.mpr ⟨sc, Table.mem_values_of_lookup hs, ?_⟩
      exact mem_map.mpr ⟨z, mem_filter.mpr ⟨hz, decide_eq_true hd⟩, rfl⟩

lemma remapDeviceBindings (ls : String → Option String) (ph : DeviceId → Option DeviceId) :
    Outcome m (m.remapDeviceBindings ls ph).1 := by
  rw [SceneManager.remapDeviceBindings]
  split_ifs with hm
  · exact .renewed _ ⟨rfl, rfl⟩
  · -- nothing was counted, so nothing changed
    rw [Nat.not_lt, Nat.le_zero, Nat.add_eq_zero_iff, Nat.add_eq_zero_iff] at hm
    obtain ⟨⟨hs, hz⟩, -⟩ := hm
    obtain ⟨hma, hr⟩ := remap_zones_of_zero hz
    refine .quiet _ ⟨rfl, rfl⟩ (nextZones_congr ?_ ?_)
    · rw [activeScene_mapValues m]
      rcases ha : m.activeScene with _ | sc
      · rfl
      · obtain ⟨id, -, hsc⟩ := Option.bind_eq_some_iff.mp ha
        rw [Option.map_some, Option.map_some, Option.map_some]
        congr 1
        apply remapSceneDevices_of_zero
        apply sum_eq_zero_iff.mp hs
        exact mem_map.mpr ⟨sc, Table.mem_values_of_lookup hsc, rfl⟩
    · rw [hr, hma, dropRetargetedDefaultDuplicates, if_pos rfl]

lemma removeDefaultDisplayZone (d : DeviceId) : Outcome m (m.removeDefaultDisplayZone d).1 := by
  rw [SceneManager.removeDefaultDisplayZone]
  rw [refreshIf]
  split_ifs with hr
  · exact .refreshed _ ⟨rfl, rfl⟩
  · refine .quiet _ ⟨rfl, rfl⟩ (nextZones_congr rfl ?_)
    rw [decide_eq_true_eq, not_not] at hr
    exact filter_eq_self.mpr (length_filter_eq_length_iff.mp hr)

end Outcome

/-- **What any operation does to the cache.** -/
theorem apply_outcome (h : Owned m) (op : Op F X) : Outcome m (m.apply op) := by
  cases op with
  | create sc => exact .create h sc
  | update sc => exact .update sc
  | delete id => exact .delete id
  | activate id spec now => exact .activate id spec now
  | deactivateCurrent => exact .deactivateCurrent
  | invalidateResolvedZones => exact .invalidated
  | remapEffectIds ms => exact .renewed _ ⟨rfl, rfl⟩
  | remapDeviceBindings ls ph =>
    exact .remapDeviceBindings ls ph
  | upsertPrimaryZone zid lyr eid cs pid l | upsertDisplayZone zid lyr d nm eid cs l =>
    exact .editActive fun _ hf => Bool.noConfusion hf
  | ensureDisplayZoneSurface zid d nm l =>
    apply Outcome.editActive
    intro sc hf
    dsimp only at hf ⊢
    rw [hf, bumpZonesRevisionIf, if_neg Bool.false_ne_true]
    exact upsertFace_zones_of_not_changed (fun _ => alignSurface_of_not_changed) hf
  | clearDisplayZoneAssignment zid d nm l =>
    apply Outcome.editActive
    intro sc hf
    dsimp only at hf ⊢
    rw [hf, bumpZonesRevisionIf, if_neg Bool.false_ne_true]
    exact upsertFace_zones_of_not_changed (fun _ => clearAssignment_of_not_changed) hf
  | createZone sid zid name color fallbackCanvas | deleteZone sid zid | updateZoneMeta sid zid patch
  | assignOutputToZone sid zid o place | unassignOutput sid oid | updateZoneLayout sid zid l =>
    exact .editScene
  | setUnassignedBehavior sid bh => exact .setUnassignedBehavior sid bh
  | patchDisplayZoneTarget zid bm opacity =>
    exact .patchDisplayZoneTarget zid bm opacity
  | insertZoneLayer sid zid ly i exp | removeZoneLayer sid zid lyr exp
  | reorderZoneLayers sid zid layerIds exp | patchZoneLayerEffectControls sid zid lyr updates exp
  | patchZoneLayerControlsAndBindings sid zid lyr updates clear exp =>
    exact .after fun _ => .mutateZoneLayers
  | replaceZoneLayerStack sid zid layers =>
    apply Outcome.after
    intro m' hm'
    rw [replaceZoneLayerStack] at hm'
    split at hm'
    · cases hm'
    · exact .mutateZoneLayers hm'
  | removeDisplayZonesForDevice d => exact .removeDisplayZonesForDevice h d
  | patchZoneControls zid updates | clearZoneEffect zid => exact .getD fun _ => .editActiveZone
  | applyEffectToZone zid lyr eid cs pid =>
    apply Outcome.after
    intro m' hm'
    exact .editActiveZone (editActiveZone_of_applyEffectToZone hm')
  | syncPrimaryZoneLayout l => exact .syncPrimaryZoneLayout l
  | setDefaultDisplayZone z =>
    rw [SceneManager.apply, setDefaultDisplayZone]
    split
    · exact .refl m
    · exact .refreshed _ ⟨rfl, rfl⟩
  | removeDefaultDisplayZone d => exact .removeDefaultDisplayZone d

/-! ## Coherence -/

/-- The cache shows what it should. -/
def Coherent (m : SceneManager F X) : Prop := m.resolvedZones = m.nextZones

lemma Outcome.coherent (h : Outcome m m') (hm : m.Coherent) : m'.Coherent := by
  cases h with
  | quiet _ hf hn =>
    rw [Coherent, hf.zones, hn]
    exact hm
  | refreshed m₁ | renewed m₁ => rfl
  | invalidated => exact hm

lemma coherent_of_reachable (h : machine.Reachable m) : m.Owned ∧ m.Coherent := by
  apply h.invariant
  · rintro s (rfl | ⟨zid, l, now, rfl⟩)
    · exact ⟨Owned.new, rfl⟩
    · exact ⟨Owned.new.installDefaultScene zid l now, rfl⟩
  · rintro s op t ⟨how, hc⟩ rfl
    exact ⟨how.apply op, (apply_outcome how op).coherent hc⟩

/-- The revision never goes back, and while it stands still so do the zones. -/
structure Advances (m m' : SceneManager F X) : Prop where
  revision : m.resolvedZonesRevision ≤ m'.resolvedZonesRevision
  zones : m.resolvedZonesRevision = m'.resolvedZonesRevision →
    m.resolvedZonesRevision < u64Max → m.resolvedZones = m'.resolvedZones

variable {n : Nat}

lemma saturatingSucc_pos (h : n < u64Max) : n < saturatingSucc n := by
  rw [saturatingSucc, lt_min_iff]
  exact ⟨lt_succ_self n, h⟩

lemma Advances.trans {a b c : SceneManager F X} (ha : Advances a b) (hbc : Advances b c) :
    Advances a c := by
  refine ⟨ha.revision.trans hbc.revision, ?_⟩
  intro hac hl
  have hb : a.resolvedZonesRevision = b.resolvedZonesRevision :=
    le_antisymm ha.revision (hac ▸ hbc.revision)
  rw [ha.zones hb hl]
  exact hbc.zones (hb.symm.trans hac) (hb ▸ hl)

/-- The revision stays below `u64::MAX`. -/
def Bounded (m : SceneManager F X) : Prop := m.resolvedZonesRevision ≤ u64Max

lemma le_saturatingSucc (h : n ≤ u64Max) : n ≤ saturatingSucc n := le_min (le_succ n) h

lemma Advances.refresh (h : Frame m m₁) (hm : m.Bounded) : Advances m m₁.refreshResolvedZones := by
  unfold refreshResolvedZones
  constructor
  · rw [h.revision]
    split_ifs
    · exact le_saturatingSucc hm
    · exact le_refl _
  · intro he hl
    rw [h.revision] at he
    split_ifs at he with hn
    · exact absurd he (saturatingSucc_pos hl).ne
    · rw [not_not] at hn
      rw [← hn, h.zones]

lemma Advances.invalidate (h : Advances m m₁) (hm : m₁.Bounded) :
    Advances m m₁.invalidateResolvedZones := by
  refine ⟨h.revision.trans (le_saturatingSucc hm), ?_⟩
  intro he hl
  -- the revision moved, so it cannot have stood still
  have hle : m₁.resolvedZonesRevision ≤ m.resolvedZonesRevision := by
    rw [he]
    exact le_saturatingSucc hm
  have hs := le_antisymm h.revision hle
  exact absurd (hs.symm.trans he) (saturatingSucc_pos (hs ▸ hl)).ne

lemma refresh_bounded (hm : m.Bounded) : m.refreshResolvedZones.Bounded := by
  unfold Bounded refreshResolvedZones
  split_ifs
  · exact min_le_right _ _
  · exact hm

lemma Outcome.advances (h : Outcome m m') (hm : m.Bounded) : Advances m m' ∧ m'.Bounded := by
  cases h with
  | quiet _ hf _ =>
    refine ⟨⟨hf.revision.ge, fun _ _ => hf.zones.symm⟩, ?_⟩
    rw [Bounded, hf.revision]
    exact hm
  | refreshed m₁ hf =>
    have hm₁ : m₁.Bounded := hf.revision.trans_le hm
    exact ⟨.refresh hf hm, refresh_bounded hm₁⟩
  | renewed m₁ hf =>
    have hm₁ : m₁.Bounded := hf.revision.trans_le hm
    exact ⟨(Advances.refresh hf hm).invalidate (refresh_bounded hm₁), min_le_right _ _⟩
  | invalidated =>
    exact ⟨Advances.invalidate ⟨le_refl _, fun _ _ => rfl⟩ hm, min_le_right _ _⟩

lemma bounded_of_reachable (h : machine.Reachable m) : m.Bounded := by
  refine h.invariant_of (J := Owned) (fun _ hs => (coherent_of_reachable hs).1) ?_ ?_
  · rintro s (rfl | ⟨zid, l, now, rfl⟩)
    · exact zero_le _
    · exact refresh_bounded (zero_le _)
  · rintro s op t hs - hb rfl
    exact ((apply_outcome hs op).advances hb).2

end SceneManager

/-- **Scene cache coherence.** -/
theorem cache_coherent (m : SceneManager F X) (h : machine.Reachable m) :
    (m.resolvedZones = (m.activeScene.map Scene.zones).getD [] ++ m.defaultDisplayZones.filter fun zone =>
        zone.targetDevice.any fun deviceId => !m.covers deviceId) ∧ ∀ ops m', machine.Run m ops m' →
      m.resolvedZonesRevision = m'.resolvedZonesRevision → m.resolvedZonesRevision < u64Max →
      m.resolvedZones = m'.resolvedZones := by
  refine ⟨(coherent_of_reachable h).2, ?_⟩
  intro ops m' hr
  have ha : Advances m m' := by
    refine hr.relation (R := Advances) (fun s => ⟨le_refl _, fun _ _ => rfl⟩)
      (fun _ _ _ => Advances.trans) ?_ h
    rintro s op t hs rfl
    exact ((apply_outcome (coherent_of_reachable hs).1 op).advances (bounded_of_reachable hs)).1
  exact ha.zones

/-- A zone added to the default scene shows, and the revision moves with it. -/
theorem cache_coherent_zone_added :
    let m : SceneManager ℚ Unit := .withDefaultLayout ⟨1⟩ ⟨(), 640, 480, [], ()⟩ 0
    let m' := m.apply (.createZone .default ⟨2⟩ "Desk" none (640, 480))
    m'.resolvedZonesRevision = 2 ∧ m'.resolvedZones.length = 2 ∧
      m'.resolvedZones = (m'.activeScene.map Scene.zones).getD [] ++
        m'.defaultDisplayZones.filter fun zone =>
          zone.targetDevice.any fun deviceId => !m'.covers deviceId := by
  intro m m'
  have h₀ : machine.Reachable m := by
    apply Machine.Reachable.init
    exact .inr ⟨_, _, _, rfl⟩
  have h : machine.Reachable m' := h₀.step rfl
  exact ⟨by decide +kernel, by decide +kernel, (cache_coherent m' h).1⟩

end Hypercolor.Scenes
