import Hypercolor.Scenes.Edits

/-!
# Structural validity under every operation

Most operations keep every held scene structured whatever they are called with. Five install a whole
layout on one zone: `upsert_primary_zone` and `sync_primary_zone_layout` on the primary one,
`upsert_display_zone`, `ensure_display_zone_surface` and `clear_display_zone_assignment` on a
display's face. None of them looks at the outputs the other side owns, so they keep the structure
exactly when the layout takes no output of a zone they leave in place (`Fits`).

**`structure_kept_iff`** puts the two together.
-/

set_option linter.unusedSectionVars false

namespace Hypercolor.Scenes

open Lib List Scene SceneManager

variable {F X : Type} [Scalar F] [DecidableEq X] [Literals X]

/-- The outputs of the scene's display zones. -/
def Scene.displayOutputs (scene : Scene F X) : List String :=
  (scene.zones.filter fun zone => zone.role = .display).flatMap fun zone => zone.layout.outputIds

namespace SceneManager

/-! ## A layout on a face -/

/-- A zone that is the face of a display, with the given layout. -/
structure IsFace (deviceId : DeviceId) (layout : SpatialLayout F X) (zone : Zone F X) : Prop where
  layout_eq : zone.layout = layout
  device : zone.displayDevice = some deviceId
  structured : zone.Structured

variable {zn o added : Zone F X} {deviceId : DeviceId}

lemma role_of_displayDevice (h : zn.displayDevice = some deviceId) : zn.role = .display := by
  by_contra hr
  rw [Zone.displayDevice, if_neg hr] at h
  cases h

variable {l : SpatialLayout F X}

lemma IsFace.apart_iff (h : IsFace deviceId l zn) (hoh : o.displayDevice ≠ some deviceId) :
    zn.Apart o ↔ l.outputIds.Disjoint o.layout.outputIds := by
  constructor
  · intro ha
    rw [← h.layout_eq]
    exact ha.outputs
  · intro hdi
    refine ⟨h.layout_eq.symm ▸ hdi, ?_, ?_⟩
    · rintro ⟨hr, -⟩
      rw [role_of_displayDevice h.device] at hr
      cases hr
    · intro d hd
      rw [h.device] at hd
      cases hd
      exact hoh

variable {sc sc' : Scene F X} {ed : Zone F X → Zone F X}

/-- An edited or added face fits exactly when its layout takes no output of another zone. -/
lemma upsertFace_structured_iff (h : sc.Structured) (deviceId : DeviceId) (hl : l.outputIds.Nodup)
    (he : ∀ zn : Zone F X, zn.Structured → zn.displayDevice = some deviceId → IsFace
      deviceId l (ed zn)) (had : IsFace deviceId l added) : (upsertFace deviceId ed added sc).Structured ↔
      (withoutFaces deviceId sc).outputIds.Disjoint l.outputIds := by
  -- both come down to the zones that are not the face
  have hos : ∀ zn, IsFace deviceId l zn →
      (zn.Sound ∧ (∀ o ∈ (withoutFaces deviceId sc).zones, zn.Apart o) ↔
        (withoutFaces deviceId sc).outputIds.Disjoint l.outputIds) := by
    intro zn hf
    have hs : zn.Sound := ⟨hf.structured, hf.layout_eq.symm ▸ hl⟩
    rw [and_iff_right hs]
    constructor
    · intro ha id hi hin
      obtain ⟨o, hoh, hi⟩ := mem_flatMap.mp hi
      have hne := of_decide_eq_true (mem_filter.mp hoh).2
      exact (hf.apart_iff hne).mp (ha o hoh) hin hi
    · intro hdi o hoh
      have hne := of_decide_eq_true (mem_filter.mp hoh).2
      rw [hf.apart_iff hne]
      exact fun id hin hi => hdi (mem_flatMap.mpr ⟨o, hoh, hi⟩) hin
  rw [upsertFace]
  split
  · rename_i zn hz
    have hd : zn.displayDevice = some deviceId := by simpa using find?_some hz
    have hr := replaces_modifyFirst ed hz
    have hre : ∀ o, o ∈ sc.zones.eraseP (fun zn => zn.displayDevice = some deviceId) ↔
        o ∈ (withoutFaces deviceId sc).zones := by
      intro o
      rw [hr.mem_rest_iff (q := fun z => z.displayDevice ≠ some deviceId)]
      · rw [withoutFaces, mem_filter, decide_eq_true_eq]
      · exact fun hne => hne hd
      · intro c hc
        exact (hr.apart Zone.Apart.symm (sc.structured_iff.mp h) hc).display _ hd
    rw [h.replace_iff hr]
    simp only [hre]
    exact hos _ (he zn (h.zones zn (mem_of_find?_eq_some hz)) hd)
  · rename_i hn
    rw [displayZoneFor, find?_eq_none] at hn
    have ha : (withoutFaces deviceId sc).zones = sc.zones := by
      rw [withoutFaces, filter_eq_self]
      intro zn hz
      simpa using hn zn hz
    rw [h.add_iff rfl, ← ha]
    exact hos added had

lemma isFace_screenSurface (z : ZoneId) (deviceId : DeviceId) (nm : String) (l : SpatialLayout F X) :
    IsFace deviceId l (screenSurface z deviceId nm l) :=
  ⟨rfl, rfl, ⟨iff_of_true rfl rfl, nodup_nil⟩⟩

lemma isFace_alignSurface (nm : String) (l : SpatialLayout F X)
    (h : zn.Structured) (hd : zn.displayDevice = some deviceId) :
    IsFace deviceId l (alignSurface deviceId nm l zn) := by
  refine ⟨rfl, ?_, ⟨iff_of_true rfl rfl, h.layers⟩⟩
  rw [Zone.displayDevice, if_pos (role_of_displayDevice hd), Zone.targetDevice,
    Option.map_eq_some_iff] at hd
  obtain ⟨t, ht, hi⟩ := hd
  rw [Zone.displayDevice, alignSurface, if_pos rfl, Zone.targetDevice, Option.map_some, ht,
    Option.getD_some]
  split_ifs
  · exact congrArg some hi
  · exact congrArg some hi

lemma isFace_clearAssignment (deviceId : DeviceId) (nm : String) (l : SpatialLayout F X) (zn : Zone F X) :
    IsFace deviceId l (clearAssignment deviceId nm l zn) :=
  ⟨rfl, rfl, ⟨iff_of_true rfl rfl, nodup_nil⟩⟩

/-! ## A layout on the primary zone -/

/-- A primary zone with the given layout. -/
structure IsLead (layout : SpatialLayout F X) (zone : Zone F X) : Prop where
  layout_eq : zone.layout = layout
  role : zone.role = .primary
  structured : zone.Structured

lemma IsLead.apart_iff (h : IsLead l zn) (hoh : o.role ≠ .primary) :
    zn.Apart o ↔ l.outputIds.Disjoint o.layout.outputIds := by
  constructor
  · intro ha
    rw [← h.layout_eq]
    exact ha.outputs
  · intro hdi
    refine ⟨h.layout_eq.symm ▸ hdi, fun hb => hoh hb.2, ?_⟩
    intro deviceId hd
    rw [Zone.displayDevice, h.role] at hd
    cases hd

/-- The outputs of the scene's custom zones. -/
def customOutputs (scene : Scene F X) : List String :=
  (scene.zones.filter fun zone => zone.role = .custom ∧ zone.displayTarget.isNone).flatMap
    fun zone => zone.layout.outputIds

lemma mem_unclaimedPrimaryLayout (sc : Scene F X) (l : SpatialLayout F X) (id : String) :
    id ∈ (unclaimedPrimaryLayout sc l).outputIds ↔ id ∈ l.outputIds ∧ id ∉ customOutputs sc := by
  rw [SpatialLayout.outputIds, unclaimedPrimaryLayout, mem_map]
  constructor
  · rintro ⟨out, hi, rfl⟩
    obtain ⟨hi, hf⟩ := mem_filter.mp hi
    exact ⟨mem_map_of_mem hi, of_decide_eq_true hf⟩
  · rintro ⟨hi, hf⟩
    obtain ⟨out, hou, rfl⟩ := mem_map.mp hi
    exact ⟨out, mem_filter.mpr ⟨hou, decide_eq_true hf⟩, rfl⟩

lemma customOutputs_eq_nil (h : ¬ sceneHasCustomLedZones sc) : customOutputs sc = [] := by
  rw [customOutputs, filter_eq_nil_iff.mpr]
  · rfl
  · intro zn hz hc
    exact h (any_eq_true.mpr ⟨zn, hz, hc⟩)

/-- A primary zone with what the custom zones leave of a layout fits exactly when the layout takes
no output of a display zone. -/
lemma lead_fits_iff (h : sc.Structured) {taken : SpatialLayout F X}
    (hla : l.outputIds.Nodup) (htk : taken.outputIds.Sublist l.outputIds)
    (hm : ∀ id, id ∈ taken.outputIds ↔ id ∈ l.outputIds ∧ id ∉ customOutputs sc) (hl : IsLead taken zn) :
    (zn.Sound ∧ ∀ o, o ∈ sc.zones ∧ o.role ≠ .primary → zn.Apart o) ↔
      sc.displayOutputs.Disjoint l.outputIds := by
  have hs : zn.Sound := ⟨hl.structured, hl.layout_eq.symm ▸ hla.sublist htk⟩
  have ht : ∀ o ∈ sc.zones, o.role = .custom → o.displayTarget.isNone := by
    intro o hoh hr
    have hi := (h.zones o hoh).target
    rw [hr] at hi
    simpa using hi
  rw [and_iff_right hs]
  constructor
  · intro ha id hid hin
    obtain ⟨o, hoh, hid⟩ := mem_flatMap.mp hid
    obtain ⟨hoh, hr⟩ := mem_filter.mp hoh
    have hr := of_decide_eq_true hr
    have hn : o.role ≠ .primary := by
      rw [hr]
      exact ZoneRole.noConfusion
    -- a display zone and a custom zone share no output
    have hf : id ∉ customOutputs sc := by
      intro hcl
      obtain ⟨custom, hc, hid'⟩ := mem_flatMap.mp hcl
      obtain ⟨hc, hcr⟩ := mem_filter.mp hc
      have hap := (sc.structured_iff.mp h).apart.forall hoh hc
      refine (hap ?_).outputs hid hid'
      rintro rfl
      rw [hr] at hcr
      cases hcr
    exact (hl.apart_iff hn).mp (ha o ⟨hoh, hn⟩) ((hm id).mpr ⟨hin, hf⟩) hid
  · rintro hd o ⟨hoh, hn⟩
    rw [hl.apart_iff hn]
    intro id hin hid
    obtain ⟨hin, hf⟩ := (hm id).mp hin
    rcases hr : o.role with _ | _ | _
    · refine hf (mem_flatMap.mpr ⟨o, mem_filter.mpr ⟨hoh, ?_⟩, hid⟩)
      exact decide_eq_true ⟨hr, ht o hoh hr⟩
    · exact hn hr
    · refine hd (mem_flatMap.mpr ⟨o, mem_filter.mpr ⟨hoh, ?_⟩, hid⟩) hin
      exact decide_eq_true hr

lemma target_of_primary (h : zn.Structured) (hr : zn.role = .primary) : zn.displayTarget = none := by
  have hi := h.target
  rw [hr] at hi
  simpa using hi

/-- Editing the primary zone to another layout. -/
lemma replaceLead_structured_iff (h : sc.Structured) (hla : l.outputIds.Nodup)
    (hcu : ¬ sceneHasCustomLedZones sc) {pr edited : Zone F X}
    {rest : List (Zone F X)} (hrp : Replaces sc.zones pr edited sc'.zones rest)
    (hr : pr.role = .primary) (hl : IsLead l edited) :
    sc'.Structured ↔ sc.displayOutputs.Disjoint l.outputIds := by
  rw [h.replace_iff hrp, ← lead_fits_iff h hla (.refl _) (fun id => ?_) hl]
  · have hre : ∀ o, o ∈ rest ↔ o ∈ sc.zones ∧ o.role ≠ .primary := by
      apply hrp.mem_rest_iff (q := fun z => z.role ≠ .primary) (fun hn => hn hr)
      intro c hc hc'
      exact (hrp.apart Zone.Apart.symm (sc.structured_iff.mp h) hc).primary ⟨hr, hc'⟩
    simp only [hre]
  · rw [customOutputs_eq_nil hcu]
    exact (and_iff_left not_mem_nil).symm

lemma bump_structured_iff (ch : Bool) (sc : Scene F X) :
    (bumpZonesRevisionIf ch sc).Structured ↔ sc.Structured := by
  rw [structured_iff, structured_iff, bumpZonesRevisionIf_zones]

/-- The layout of `upsert_primary_zone` for a scene without a primary zone. -/
lemma addLead_structured_iff (h : sc.Structured) (hpr : sc.primaryZone = none) (hla : l.outputIds.Nodup)
    (hl : IsLead (if sceneHasCustomLedZones sc then unclaimedPrimaryLayout sc l else
      l) added) (hz : sc'.zones = sc.zones ++ [added]) :
    sc'.Structured ↔ sc.displayOutputs.Disjoint l.outputIds := by
  have hn : ∀ o ∈ sc.zones, o.role ≠ .primary := by
    rw [primaryZone, find?_eq_none] at hpr
    intro o hoh
    simpa using hpr o hoh
  have hf : (unclaimedPrimaryLayout sc l).outputIds.Sublist l.outputIds := filter_sublist.map Output.id
  rw [h.add_iff hz, ← lead_fits_iff h hla _ _ hl]
  · apply and_congr_right
    intro _
    exact ⟨fun hp o hoh => hp o hoh.1,
      fun hp o hoh => hp o ⟨hoh, hn o hoh⟩⟩
  · split_ifs
    · exact hf
    · exact .refl _
  · intro id
    split_ifs with hc
    · exact mem_unclaimedPrimaryLayout sc l id
    · rw [customOutputs_eq_nil hc]
      exact (and_iff_left not_mem_nil).symm

lemma upsertPrimary_structured_iff (h : sc.Structured) (z : ZoneId)
    (lyr : SceneLayerId) (eid : EffectId) (cs : Finmap fun _ : String => X)
    (pid : Option Uuid) (hl : l.outputIds.Nodup) :
    (upsertPrimary z lyr eid cs pid l sc).Structured ↔
        (sceneHasCustomLedZones sc ∧ sc.primaryZone.isSome) ∨
        sc.displayOutputs.Disjoint l.outputIds := by
  rw [upsertPrimary]
  rcases hp : sc.primaryZone with _ | pr
  · rw [or_iff_right (fun hb => Bool.false_ne_true hb.2)]
    refine addLead_structured_iff h hp hl ?_ rfl
    exact ⟨rfl, rfl, ⟨iff_of_false Bool.false_ne_true ZoneRole.noConfusion, nodup_singleton _⟩⟩
  · have hr : pr.role = .primary := by simpa using find?_some hp
    rw [bump_structured_iff]
    by_cases hc : sceneHasCustomLedZones sc
    · -- the custom zones have the rest, so the primary zone keeps its layout
      rw [if_pos hc]
      refine iff_of_true (h.replace (replaces_modifyFirst _ hp) ?_) (.inl ⟨hc, rfl⟩)
      refine .of_layers rfl hr.symm ?_ fun _ => nodup_singleton _
      exact (target_of_primary (h.zones pr (mem_of_find?_eq_some hp)) hr).symm
    · rw [if_neg hc, or_iff_right (fun hb => hc hb.1)]
      refine replaceLead_structured_iff h hl hc (replaces_modifyFirst _ hp) hr ?_
      exact ⟨rfl, rfl, ⟨iff_of_false Bool.false_ne_true ZoneRole.noConfusion, nodup_singleton _⟩⟩

/-- Where there are no custom zones, aligning is giving the primary zone the layout. -/
lemma alignLedZone_eq (h : zn.Structured) (l : SpatialLayout F X) : (alignLedZone zn l false).1 =
      if decide (zn.role = .primary) then { zn with layout := l } else zn := by
  rw [alignLedZone, if_pos (show (!false) from rfl)]
  by_cases hr : zn.role = .primary
  · have hn : ¬ zn.displayTarget.isSome := by
      rw [target_of_primary h hr]
      exact Bool.false_ne_true
    rw [if_neg hn, if_pos (decide_eq_true hr)]
    by_cases hs : zn.layout = l
    · rw [if_neg fun hb => hb.2 hs, ← hs]
    · rw [if_pos ⟨hr, hs⟩]
  · have hk : ¬ (zn.role = .primary ∧ zn.layout ≠ l) := fun hb => hr hb.1
    rw [if_neg hk, ite_self, if_neg fun hd => hr (of_decide_eq_true hd)]

/-- Where there are, only the canvas follows. -/
lemma alignLedZone_within (zn : Zone F X) (l : SpatialLayout F X) :
    zn.Within (alignLedZone zn l true).1 := by
  rw [alignLedZone, if_neg (show ¬ (!true) from Bool.false_ne_true)]
  split_ifs
  · exact .refl zn
  · exact .refl zn
  · exact .of_outputs (fun h => h) fun _ => id

lemma syncPrimary_structured_iff (h : sc.Structured) (hl : l.outputIds.Nodup)
    (hzo : sc'.zones = sc.zones.map fun zn => (alignLedZone zn l (sceneHasCustomLedZones sc)).1) :
    sc'.Structured ↔ sceneHasCustomLedZones sc ∨ sc.primaryZone = none ∨
      sc.displayOutputs.Disjoint l.outputIds := by
  by_cases hc : sceneHasCustomLedZones sc
  · rw [hc] at hzo
    exact iff_of_true (h.mapZones hzo fun zn _ => alignLedZone_within zn l) (.inl hc)
  · rw [or_iff_right hc]
    have hm : sc'.zones = sc.zones.map fun zn =>
        if decide (zn.role = .primary) then { zn with layout := l } else zn := by
      rw [hzo, Bool.eq_false_of_not_eq_true hc]
      exact map_congr_left fun zn hz => alignLedZone_eq (h.zones zn hz) l
    rcases hp : sc.primaryZone with _ | pr
    · refine iff_of_true (h.of_zones_eq ?_) (.inl rfl)
      rw [primaryZone, find?_eq_none] at hp
      rw [hm]
      conv_rhs => rw [← map_id sc.zones]
      exact map_congr_left fun zn hz => if_neg (hp zn hz)
    · rw [or_iff_right (Option.some_ne_none pr)]
      have hro : pr.role = .primary := by simpa using find?_some hp
      have hon : sc.zones.Pairwise fun x y =>
          ¬ (decide (x.role = .primary) ∧ decide (y.role = .primary)) := by
        rw [← countP_le_one_iff]
        exact h.primary
      have hr := replaces_map (fun zn : Zone F X => { zn with layout := l }) hon hp
      rw [← hm] at hr
      refine replaceLead_structured_iff h hl hc hr hro ⟨rfl, hro, ?_⟩
      have hs := h.zones pr hr.mem
      exact ⟨hs.target, hs.layers⟩

/-! ## Every operation -/

/-- The layout an operation is called with has unique output ids. -/
def Op.UniqueOutputs : Op F X → Prop
  | .upsertPrimaryZone _ _ _ _ _ layout | .upsertDisplayZone _ _ _ _ _ _ layout
  | .ensureDisplayZoneSurface _ _ _ layout | .clearDisplayZoneAssignment _ _ _ layout
  | .updateZoneLayout _ _ layout | .syncPrimaryZoneLayout layout => layout.outputIds.Nodup
  | _ => True

/-- The layout an operation installs on one zone of the active scene takes no output of the zones it
leaves in place.
* `upsert_primary_zone` keeps the primary zone's own layout when there are custom zones, and leaves
  them theirs when it adds a primary zone; the display zones it does not look at.
* `sync_primary_zone_layout` touches no output when there are custom zones or no primary one.
* The display operations look at no other zone. -/
def Fits (m : SceneManager F X) : Op F X → Prop
  | .upsertPrimaryZone _ _ _ _ _ layout => ∀ scene, m.activeScene = some scene →
      (sceneHasCustomLedZones scene ∧ scene.primaryZone.isSome) ∨
        scene.displayOutputs.Disjoint layout.outputIds
  | .syncPrimaryZoneLayout layout => ∀ scene, m.activeScene = some scene →
      sceneHasCustomLedZones scene ∨ scene.primaryZone = none ∨
        scene.displayOutputs.Disjoint layout.outputIds
  | .upsertDisplayZone _ _ deviceId _ _ _ layout | .ensureDisplayZoneSurface _ deviceId _ layout
  | .clearDisplayZoneAssignment _ deviceId _ layout => ∀ scene, m.activeScene = some scene →
      (withoutFaces deviceId scene).outputIds.Disjoint layout.outputIds
  | _ => True

variable {m : SceneManager F X}

lemma Valid.remapEffectIds (h : m.Valid) (ms : EffectId → Option EffectId) :
    (m.remapEffectIds ms).1.Valid := by
  have hm := h.mapValues (f := fun sc => bumpZonesRevisionIf
    (0 < (sc.zones.map fun zn => (remapZoneEffectIds ms zn).2).sum)
    { sc with zones := sc.zones.map fun zn => (remapZoneEffectIds ms zn).1 })
    (fun sc hs => (bump_structured_iff _ _).mpr
      (hs.mapZones rfl fun zn _ => remapZoneEffectIds_within ms zn))
    m.defaultDisplayZones
  exact hm

lemma Valid.remapDeviceBindings (h : m.Valid) (ls : String → Option String)
    (ph : DeviceId → Option DeviceId) : (m.remapDeviceBindings ls ph).1.Valid := by
  have hm := h.mapValues (fun sc hs =>
    remapSceneDevices_structured ls ph hs) m.defaultDisplayZones
  rw [SceneManager.remapDeviceBindings]
  split_ifs
  · exact hm
  · exact hm

lemma valid_syncPrimaryZoneLayout (h : m.Valid) (hl : l.outputIds.Nodup) :
    (m.syncPrimaryZoneLayout l).1.Valid ↔ m.Fits (.syncPrimaryZoneLayout l) := by
  rw [syncPrimaryZoneLayout, Fits, activeScene]
  rcases m.activeSceneId with _ | id
  · exact iff_of_true h (by rintro _ ⟨⟩)
  · rw [Option.bind_some]
    dsimp only
    rcases hs : m.scenes.lookup id with _ | sc
    · exact iff_of_true h (by rintro _ ⟨⟩)
    · have hp : ∀ ch : Bool, (m.putScene id (bumpZonesRevisionIf ch { sc with
          zones := sc.zones.map fun zn =>
            (alignLedZone zn l (sceneHasCustomLedZones sc)).1 })).Valid ↔
          ∀ s, some sc = some s → sceneHasCustomLedZones s ∨ s.primaryZone = none ∨
            s.displayOutputs.Disjoint l.outputIds := by
        intro ch
        rw [valid_put h, bump_structured_iff, syncPrimary_structured_iff (h id sc hs) hl rfl]
        constructor
        · rintro hf _ ⟨⟩
          exact hf
        · exact fun ha => ha sc rfl
      dsimp only
      split_ifs
      · exact hp true
      · exact hp false

lemma Valid.active (h : m.Valid) (ha : m.activeScene = some sc) : sc.Structured := by
  obtain ⟨id, -, hs⟩ := Option.bind_eq_some_iff.mp ha
  exact h id sc hs

/-- A display operation, by what it makes of the device's face. -/
lemma valid_upsertFace (h : m.Valid) (deviceId : DeviceId) (hl : l.outputIds.Nodup)
    {flag : Scene F X → Bool} {update : Scene F X → Scene F X}
    (hu : ∀ sc, (update sc).zones = (upsertFace deviceId ed added sc).zones)
    (he : ∀ zn : Zone F X, zn.Structured → zn.displayDevice = some deviceId → IsFace
      deviceId l (ed zn)) (had : IsFace deviceId l added) :
    (m.after (m.editActive fun sc => (update sc, flag sc))).Valid ↔ ∀ sc, m.activeScene = some sc →
        (withoutFaces deviceId sc).outputIds.Disjoint l.outputIds := by
  rw [valid_editActive h]
  refine forall₂_congr fun sc ha => ?_
  rw [← upsertFace_structured_iff (h.active ha) deviceId hl he had, structured_iff, structured_iff, hu]

/-- **What each operation does to the structure of the held scenes.** -/
theorem apply_valid_iff (h : m.Valid) (op : Op F X) (hu : op.UniqueOutputs) :
    (m.apply op).Valid ↔ m.Fits op := by
  cases op with
  | create sc =>
    refine iff_of_true (h.after fun m' hm' => ?_) trivial
    rw [create] at hm'
    split_ifs at hm' with _ hv
    cases hm'
    exact (valid_put h _ _).mpr (structured_of_validate (not_not.mp hv))
  | update sc =>
    refine iff_of_true (h.after fun m' hm' => ?_) trivial
    rw [update] at hm'
    split at hm'
    · cases hm'
    · split_ifs at hm' with _ _ hv
      cases hm'
      rw [valid_refreshIf, valid_put h]
      exact structured_of_validate (not_not.mp hv)
  | delete id =>
    refine iff_of_true (h.after fun m' hm' => ?_) trivial
    rw [delete] at hm'
    split_ifs at hm'
    cases hm'
    intro k sc hs
    by_cases hk : k = id
    · subst hk
      cases (AList.lookup_erase k m.scenes).symm.trans hs
    · exact h k sc ((AList.lookup_erase_ne hk).symm.trans hs)
  | activate id spec now =>
    refine iff_of_true (h.after fun m' hm' => ?_) trivial
    rw [activate] at hm'
    split at hm'
    · cases hm'
    · cases hm'
      -- whatever the transition, the scenes are the same
      rcases m.activeSceneId with _ | fromId
      · exact h
      · split_ifs
        · exact h
        · exact h
  | deactivateCurrent =>
    refine iff_of_true ?_ trivial
    rw [SceneManager.apply, deactivateCurrent]
    split_ifs
    · exact h
    · split
      · exact h
      · exact h
  | invalidateResolvedZones => exact iff_of_true h trivial
  | remapEffectIds ms => exact iff_of_true (h.remapEffectIds ms) trivial
  | remapDeviceBindings ls ph =>
    exact iff_of_true (h.remapDeviceBindings ls ph) trivial
  | upsertPrimaryZone z lyr eid cs pid l =>
    rw [SceneManager.apply, upsertPrimaryZone, valid_editActive h, Fits]
    exact forall₂_congr fun sc ha =>
      upsertPrimary_structured_iff (h.active ha) z lyr eid cs pid hu
  | upsertDisplayZone z lyr deviceId nm eid cs l =>
    refine valid_upsertFace h deviceId hu (fun _ => rfl) ?_ ?_
    · exact fun zn _ _ => ⟨rfl, rfl, ⟨iff_of_true rfl rfl, nodup_singleton _⟩⟩
    · exact ⟨rfl, rfl, ⟨iff_of_true rfl rfl, nodup_singleton _⟩⟩
  | ensureDisplayZoneSurface z deviceId nm l =>
    exact valid_upsertFace h deviceId hu (fun _ => bumpZonesRevisionIf_zones _ _)
      (fun zn hz => isFace_alignSurface nm l hz)
      (isFace_screenSurface z deviceId nm l)
  | clearDisplayZoneAssignment z deviceId nm l =>
    exact valid_upsertFace h deviceId hu (fun _ => bumpZonesRevisionIf_zones _ _)
      (fun zn _ _ => isFace_clearAssignment deviceId nm l zn)
      (isFace_screenSurface z deviceId nm l)
  | createZone sid z name color fallbackCanvas =>
    exact iff_of_true (h.createZone sid z name color fallbackCanvas) trivial
  | deleteZone sid z => exact iff_of_true (h.deleteZone sid z) trivial
  | updateZoneMeta sid z patch =>
    exact iff_of_true (h.updateZoneMeta sid z patch) trivial
  | assignOutputToZone sid z out place =>
    exact iff_of_true (h.assignOutputToZone sid z out place) trivial
  | unassignOutput sid oid =>
    exact iff_of_true (h.unassignOutput sid oid) trivial
  | setUnassignedBehavior sid bh =>
    refine iff_of_true (h.after fun m' hm' => ?_) trivial
    rw [setUnassignedBehavior] at hm'
    split at hm'
    · cases hm'
    · rename_i sc hsc
      have hp := (valid_put h sid (bumpZonesRevision { sc with unassignedBehavior := bh })).mpr
          ((h sid sc hsc).of_zones_eq rfl)
      split_ifs at hm'
      all_goals
        cases hm'
        exact hp
  | updateZoneLayout sid z l =>
    exact iff_of_true (h.updateZoneLayout sid z l) trivial
  | patchDisplayZoneTarget z bm opacity =>
    exact iff_of_true (h.patchDisplayZoneTarget z bm opacity) trivial
  | insertZoneLayer sid z ly i exp =>
    exact iff_of_true (h.mutateZoneLayers fun _ _ => insertLayer_nodup) trivial
  | replaceZoneLayerStack sid z layers =>
    refine iff_of_true ?_ trivial
    rw [SceneManager.apply, replaceZoneLayerStack]
    split
    · exact h
    · rename_i hc
      apply h.mutateZoneLayers
      rintro _ _ ⟨⟩ _
      exact (checkLayerStack_nodup hc).1
  | removeZoneLayer sid z lyr exp =>
    exact iff_of_true (h.mutateZoneLayers fun _ _ => removeLayer_nodup) trivial
  | reorderZoneLayers sid z layerIds exp =>
    exact iff_of_true (h.mutateZoneLayers fun _ _ hok _ => reorderLayers_nodup hok) trivial
  | patchZoneLayerEffectControls sid z lyr updates exp
  | patchZoneLayerControlsAndBindings sid z lyr updates clear exp =>
    refine iff_of_true (h.mutateZoneLayers fun _ _ hok hn => ?_) trivial
    rw [editEffectLayer_ids hok]
    exact hn
  | removeDisplayZonesForDevice deviceId =>
    refine iff_of_true ?_ trivial
    rw [SceneManager.apply, removeDisplayZonesForDevice, valid_refreshIf]
    exact h.mapValues (fun sc hsc => hsc.sublist filter_sublist) m.defaultDisplayZones
  | patchZoneControls z updates =>
    refine iff_of_true (h.getD fun m' hm' => h.editActiveZone ?_ hm') trivial
    intro zn zn' hok
    obtain ⟨layers, hl, ⟨⟩⟩ := Option.bind_eq_some_iff.mp hok
    exact .of_layers rfl rfl rfl fun hn => patchOnlyEffect_ids hl ▸ hn
  | applyEffectToZone z lyr eid cs pid =>
    refine iff_of_true (h.after fun m' hm' => ?_) trivial
    refine h.editActiveZone ?_ (editActiveZone_of_applyEffectToZone hm')
    rintro zn _ ⟨⟩
    exact .of_layers rfl rfl rfl fun _ => nodup_singleton _
  | clearZoneEffect z =>
    refine iff_of_true (h.getD fun m' hm' => h.editActiveZone ?_ hm') trivial
    rintro zn _ ⟨⟩
    exact .of_layers rfl rfl rfl fun _ => nodup_nil
  | syncPrimaryZoneLayout l => exact valid_syncPrimaryZoneLayout h hu
  | setDefaultDisplayZone zn =>
    refine iff_of_true ?_ trivial
    rw [SceneManager.apply, setDefaultDisplayZone]
    split
    · exact h
    · exact h
  | removeDefaultDisplayZone deviceId =>
    refine iff_of_true ?_ trivial
    rw [SceneManager.apply, removeDefaultDisplayZone, valid_refreshIf]
    exact h

lemma valid_withDefaultLayout (z : ZoneId) (hl : l.outputIds.Nodup) (now : Nat) :
    (withDefaultLayout z l now).Valid := by
  have hn : (new : SceneManager F X).Valid := by
    rintro id sc ⟨⟩
  refine (valid_put hn .default _).mpr ?_
  rw [structured_iff, spread_cons]
  refine ⟨⟨⟨⟨?_, nodup_nil⟩, hl⟩, fun _ hm => absurd hm not_mem_nil⟩, .nil⟩
  exact iff_of_false Bool.false_ne_true ZoneRole.noConfusion

lemma valid_iff (m : SceneManager F X) :
    m.Valid ↔ ∀ id sc, m.scenes.lookup id = some sc → sc.structuralErrors = [] := by
  refine forall₃_congr fun id sc _ => ?_
  exact sc.structuralErrors_eq_nil_iff.symm

end SceneManager

/-- **Which operations keep the structural checks.** -/
theorem structure_kept_iff (m : SceneManager F X) (op : SceneManager.Op F X)
    (hheld : ∀ id scene, m.scenes.lookup id = some scene → scene.structuralErrors = [])
    (hunique : op.UniqueOutputs) :
    (∀ id scene, (m.apply op).scenes.lookup id = some scene → scene.structuralErrors = []) ↔
        m.Fits op := by
  rw [← valid_iff] at hheld ⊢
  exact apply_valid_iff hheld op hunique

/-- A strip of LEDs. -/
def strip : Output ℚ Unit where
  id := "strip"
  name := "Strip"
  deviceId := "usb:1"
  hardware := ()
  position := ⟨1 / 2, 1 / 2⟩
  size := ⟨1, 1⟩
  rotation := 0
  scale := 1
  displayOrder := 0
  orientation := ()
  style := ()

/-- A face without outputs of its own is added beside the zone that owns the strip. -/
theorem structure_kept_iff_face :
    let m : SceneManager ℚ Unit := .withDefaultLayout ⟨1⟩ ⟨(), 640, 480, [strip], ()⟩ 0
    let op : SceneManager.Op ℚ Unit := .upsertDisplayZone ⟨2⟩ ⟨3⟩ ⟨4⟩ "Pump" ⟨5⟩ ∅ ⟨(), 480, 480, [], ()⟩
    (m.apply op).resolvedZones.length = 2 ∧
      ∀ id scene, (m.apply op).scenes.lookup id = some scene → scene.structuralErrors = [] := by
  intro m op
  have hu : op.UniqueOutputs := nodup_nil
  have hv : m.Valid := valid_withDefaultLayout _ (by decide) _
  have hh := (valid_iff m).mp hv
  refine ⟨by decide +kernel, (structure_kept_iff m op hh hu).mpr ?_⟩
  intro scene _
  exact disjoint_nil_right _

/-- A face whose layout places the strip takes it without the primary zone giving it up: the scene
then fails `Scene::validate`. -/
theorem structure_lost_to_face :
    let m : SceneManager ℚ Unit := .withDefaultLayout ⟨1⟩ ⟨(), 640, 480, [strip], ()⟩ 0
    let op : SceneManager.Op ℚ Unit :=
      .upsertDisplayZone ⟨2⟩ ⟨3⟩ ⟨4⟩ "Pump" ⟨5⟩ ∅ ⟨(), 480, 480, [strip], ()⟩
    (∀ id scene, m.scenes.lookup id = some scene → scene.structuralErrors = []) ∧ op.UniqueOutputs ∧
      ¬ ∀ id scene, (m.apply op).scenes.lookup id = some scene → scene.structuralErrors = [] := by
  intro m op
  have hv : m.Valid := valid_withDefaultLayout _ (by decide) _
  refine ⟨(valid_iff m).mp hv, nodup_singleton _, ?_⟩
  intro ha
  have hf : ((m.apply op).scenes.lookup .default).map
      (fun scene => scene.structuralErrors.length) = some 1 := by decide +kernel
  obtain ⟨scene, hs, hl⟩ := Option.map_eq_some_iff.mp hf
  rw [ha .default scene hs] at hl
  cases hl

end Hypercolor.Scenes
