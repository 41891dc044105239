import Hypercolor.Lib.LastWrite
import Hypercolor.Scenes.Stack

/-!
# Edits of a scene that keep its structure

`Scene::validate` runs only when a scene is created or updated; the other operations edit zones in
place. `Scene.Structured` is put as a `Spread`: every zone is `Sound` by itself and any two are
`Apart`, so that an edit of one zone is judged against the zones it leaves alone.

* `Zone.Within`: an edit that takes no more than the zone had is always safe.
* **`remapSceneDevices_structured`**: after a device remap no display has two faces, because of any
  two that fall together one was retargeted, and all but one of a group give way.
* `Valid`: every held scene is structured, with one lemma for each operation that keeps it whatever
  it is called with.
-/

set_option linter.unusedSectionVars false

namespace Hypercolor.Scenes

open Lib List AList Nat Scene

variable {F X α : Type} [Scalar F] [DecidableEq X] [Literals X]

/-! ## Zones that stand apart -/

/-- What the structural checks ask of a zone by itself. -/
structure Zone.Sound (zone : Zone F X) : Prop extends zone.Structured where
  outputs : zone.layout.outputIds.Nodup

/-- What they ask of two zones of one scene. -/
structure Zone.Apart (zone other : Zone F X) : Prop where
  outputs : zone.layout.outputIds.Disjoint other.layout.outputIds
  primary : ¬ (zone.role = .primary ∧ other.role = .primary)
  display : ∀ deviceId, zone.displayDevice = some deviceId → other.displayDevice ≠ some deviceId

variable {zn edited other : Zone F X}

lemma Zone.Apart.symm {other : Zone F X} (h : zn.Apart other) : other.Apart zn where
  outputs := h.outputs.symm
  primary := fun ⟨ho, hz⟩ => h.primary ⟨hz, ho⟩
  display := fun d ho hz => h.display d hz ho

instance : Std.Symm (Zone.Apart (F := F) (X := X)) := ⟨fun _ _ => Zone.Apart.symm⟩

lemma countP_le_one_iff (p : α → Bool) (l : List α) :
    l.countP p ≤ 1 ↔ l.Pairwise fun x y => ¬ (p x ∧ p y) := by
  induction l with
  | nil => simp
  | cons x xs ih =>
    rw [pairwise_cons, ← ih]
    cases hp : p x with
    | true =>
      rw [countP_cons_of_pos hp, succ_le_succ_iff, le_zero, countP_eq_zero]
      constructor
      · intro hn
        refine ⟨fun y hy hb => hn y hy hb.2, ?_⟩
        rw [countP_eq_zero.mpr hn]
        exact zero_le 1
      · rintro ⟨hon, -⟩ y hy hpy
        exact hon y hy ⟨rfl, hpy⟩
    | false =>
      rw [countP_cons_of_neg (by rw [hp]; exact Bool.false_ne_true)]
      exact (and_iff_right fun y _ hb => Bool.false_ne_true hb.1).symm

/-- The structural checks, zone by zone and pair by pair. -/
lemma Scene.structured_iff (sc : Scene F X) : sc.Structured ↔ Spread Zone.Sound Zone.Apart sc.zones := by
  constructor
  · rintro ⟨he, hp, hd, hzn⟩
    rw [outputIds, nodup_flatMap] at he
    rw [countP_le_one_iff] at hp
    rw [List.Nodup, pairwise_filterMap] at hd
    constructor
    · intro zn hzo
      exact ⟨hzn zn hzo, he.1 zn hzo⟩
    · refine ((he.2.and hp).and hd).imp ?_
      rintro z w ⟨⟨hou, hon⟩, hde⟩
      exact ⟨hou, by simpa using hon, fun d hz hw => hde d hz d hw rfl⟩
  · rintro ⟨hea, ha⟩
    constructor
    · rw [outputIds, nodup_flatMap]
      exact ⟨fun zn hzo => (hea zn hzo).outputs, ha.imp (·.outputs)⟩
    · rw [countP_le_one_iff]
      exact ha.imp fun h => by simpa using h.primary
    · rw [List.Nodup, pairwise_filterMap]
      refine ha.imp ?_
      rintro z w h d hz d' hw rfl
      exact h.display d hz hw
    · intro zn hzo
      exact (hea zn hzo).toStructured

/-- An edited zone that takes no more than the zone it replaces. -/
structure Zone.Within (zone edited : Zone F X) : Prop where
  sound : zone.Sound → edited.Sound
  outputs : edited.layout.outputIds ⊆ zone.layout.outputIds
  primary : edited.role = .primary → zone.role = .primary
  display : ∀ deviceId, edited.displayDevice = some deviceId → zone.displayDevice = some deviceId

namespace Zone.Within

lemma refl (zn : Zone F X) : zn.Within zn := ⟨fun h => h, fun _ h => h, fun h => h, fun _ h => h⟩

theorem apart (h : zn.Within edited) (hoh : zn.Apart other) : edited.Apart other where
  outputs := fun _ hi => hoh.outputs (h.outputs hi)
  primary := fun ⟨he, ho⟩ => hoh.primary ⟨h.primary he, ho⟩
  display := fun d he => hoh.display d (h.display d he)

/-- An edit of the layers alone. -/
lemma of_layers (hla : edited.layout.outputIds = zn.layout.outputIds)
    (hr : edited.role = zn.role) (ht : edited.displayTarget = zn.displayTarget)
    (hl : (zn.layers.map SceneLayer.id).Nodup → (edited.layers.map SceneLayer.id).Nodup) :
    zn.Within edited where
  sound := fun h => by
    refine ⟨⟨?_, hl h.layers⟩, ?_⟩
    · rw [hr, ht]
      exact h.target
    · rw [hla]
      exact h.outputs
  outputs := by rw [hla]; exact fun _ h => h
  primary := by rw [hr]; exact fun h => h
  display := by
    rw [Zone.displayDevice, Zone.targetDevice, hr, ht]
    exact fun _ h => h

/-- An edit of the outputs alone, that adds none. -/
lemma of_outputs {outputs : List (Output F X)} {canvasWidth canvasHeight : Nat} {defaults : X}
    (hn : zn.layout.outputIds.Nodup → (outputs.map Output.id).Nodup)
    (hs : outputs.map Output.id ⊆ zn.layout.outputIds) :
    zn.Within { zn with layout := { zn.layout with
      zones := outputs
      canvasWidth := canvasWidth
      canvasHeight := canvasHeight
      defaults := defaults } } where
  sound := fun h => ⟨⟨h.target, h.layers⟩, hn h.outputs⟩
  outputs := hs
  primary := fun h => h
  display := fun _ h => h

end Zone.Within

variable {sc sc' : Scene F X}

/-- Adding a zone, judged by the zones that are there. -/
lemma Scene.Structured.add_iff (h : sc.Structured) {added : Zone F X}
    (hz : sc'.zones = sc.zones ++ [added]) :
    sc'.Structured ↔ added.Sound ∧ ∀ other ∈ sc.zones, added.Apart other := by
  rw [structured_iff] at h ⊢
  rw [hz, spread_perm Zone.Apart.symm (perm_append_singleton _ _), spread_cons]
  exact and_iff_left h

variable {rest zs : List (Zone F X)}

/-- The edit of one zone, judged by the zones it leaves alone. -/
lemma Scene.Structured.replace_iff (h : sc.Structured) (hz : Replaces sc.zones zn edited sc'.zones rest) :
    sc'.Structured ↔ edited.Sound ∧ ∀ other ∈ rest, edited.Apart other := by
  rw [structured_iff] at h ⊢
  exact hz.spread_iff Zone.Apart.symm h

/-- The edit of one zone that takes no more than it had. -/
lemma Scene.Structured.replace (h : sc.Structured)
    (hz : Replaces sc.zones zn edited sc'.zones rest) (hw : zn.Within edited) : sc'.Structured := by
  rw [structured_iff] at h ⊢
  exact hz.spread Zone.Apart.symm h hw.sound fun _ => hw.apart

variable {ed : Zone F X → Zone F X}

/-- The same edit of every zone. -/
lemma Scene.Structured.mapZones (h : sc.Structured) (hzn : sc'.zones = sc.zones.map ed)
    (hwi : ∀ zn ∈ sc.zones, zn.Within (ed zn)) : sc'.Structured := by
  rw [structured_iff] at h ⊢
  rw [hzn]
  apply h.map
  · exact fun zn hzo => (hwi zn hzo).sound
  · intro z hz w hw ha
    exact ((hwi w hw).apart ((hwi z hz).apart ha).symm).symm

lemma Scene.Structured.sublist (h : sc.Structured) (hz : sc'.zones.Sublist sc.zones) :
    sc'.Structured := by
  rw [structured_iff] at h ⊢
  exact h.sublist hz

lemma Scene.Structured.perm (h : sc.Structured) (hz : sc'.zones.Perm sc.zones) : sc'.Structured := by
  rw [structured_iff] at h ⊢
  exact (spread_perm Zone.Apart.symm hz).mpr h

variable {i : Nat}

/-- The edit of the zone at a position, if there is one. -/
lemma Scene.Structured.modifyZone (h : sc.Structured) (hzo : sc'.zones = sc.zones.modify i ed)
    (hw : ∀ zn : Zone F X, zn.Within (ed zn)) : sc'.Structured := by
  rcases hz : sc.zones[i]? with _ | zn
  · rw [modify_eq_self (getElem?_eq_none_iff.mp hz)] at hzo
    exact h.sublist (hzo ▸ List.Sublist.refl _)
  · exact h.replace (hzo ▸ replaces_modify ed hz) (hw zn)

lemma Scene.Structured.of_zones_eq (h : sc.Structured) (hz : sc'.zones = sc.zones) : sc'.Structured :=
  h.sublist (hz ▸ List.Sublist.refl _)

namespace SceneManager

/-! ## Every held scene -/

/-- Every scene of the manager is structured. -/
def Valid (m : SceneManager F X) : Prop :=
  ∀ id scene, m.scenes.lookup id = some scene → scene.Structured

variable {m : SceneManager F X}

lemma valid_put (h : m.Valid) (id : SceneId) (sc : Scene F X) :
    (m.putScene id sc).Valid ↔ sc.Structured := by
  constructor
  · intro hp
    exact hp id sc (lookup_insert _)
  · intro hsc id' s hs
    by_cases hi : id' = id
    · subst hi
      rw [show (m.putScene id' sc).scenes.lookup id' = some sc from lookup_insert _] at hs
      cases hs
      exact hsc
    · exact h id' s ((lookup_insert_ne hi).symm.trans hs)

lemma valid_refreshIf (m : SceneManager F X) (cond : Bool) : (m.refreshIf cond).Valid ↔ m.Valid := by
  rw [refreshIf]
  split_ifs
  · rfl
  · rfl

/-- Editing the active scene is safe exactly when the scene it leaves is structured. -/
lemma valid_editActive (h : m.Valid) (ed : Scene F X → Scene F X × Bool) :
    (m.after (m.editActive ed)).Valid ↔ ∀ sc, m.activeScene = some sc → (ed sc).1.Structured := by
  rw [editActive, activeScene]
  rcases m.activeSceneId with _ | id
  · exact iff_of_true h (by rintro _ ⟨⟩)
  · rw [Option.bind_some]
    dsimp only
    rcases hsc : m.scenes.lookup id with _ | sc
    · exact iff_of_true h (by rintro _ ⟨⟩)
    · rw [show m.after (.ok ((m.putScene id (ed sc).1).refreshIf (ed sc).2) :
          Except (ManagerError F) (SceneManager F X)) =
        (m.putScene id (ed sc).1).refreshIf (ed sc).2 from rfl, valid_refreshIf,
        valid_put h]
      constructor
      · rintro hs _ ⟨⟩
        exact hs
      · exact fun ha => ha sc rfl

variable {z : ZoneId}

namespace Valid

theorem after {E : Type} (h : m.Valid) {r : Except E (SceneManager F X)}
    (hr : ∀ m', r = .ok m' → m'.Valid) : (m.after r).Valid := by
  cases r with
  | ok m' => exact hr m' rfl
  | error e => exact h

lemma getD (h : m.Valid) {r : Option (SceneManager F X)} (hr : ∀ m', r = some m' → m'.Valid) :
    (r.getD m).Valid := by
  cases r with
  | some m' => exact hr m' rfl
  | none => exact h

lemma editScene (h : m.Valid) {id : SceneId} {ed : Scene F X → Except ZoneMutationError (Scene F X)}
    (he : ∀ sc sc', sc.Structured → ed sc = .ok sc' → sc'.Structured) :
    (m.after (m.editScene id ed)).Valid := by
  apply h.after
  intro m' hm'
  obtain ⟨sc, sc', hs, hs', rfl⟩ := editScene_ok hm'
  rw [valid_refreshIf, valid_put h]
  exact he sc sc' (h id sc hs) hs'

lemma mutateZoneLayers (h : m.Valid) {sid : SceneId} {exp : Option Nat}
    {mutate : List (SceneLayer F X) → Except LayerMutationError (List (SceneLayer F X))}
    (hmu : ∀ layers layers', mutate layers = .ok layers' → (layers.map SceneLayer.id).Nodup →
      (layers'.map SceneLayer.id).Nodup) : (m.after (m.mutateZoneLayers sid z exp mutate)).Valid := by
  apply h.after
  intro m' hm'
  rw [SceneManager.mutateZoneLayers] at hm'
  split at hm'
  · cases hm'
  · rename_i sc hs
    split at hm'
    · cases hm'
    · rename_i zn hz
      split_ifs at hm'
      split at hm'
      · cases hm'
      · rename_i layers hl
        cases hm'
        rw [valid_refreshIf, valid_put h]
        refine (h sid sc hs).replace (replaces_modifyFirst _ hz) ?_
        exact .of_layers rfl rfl rfl (hmu zn.layers layers hl)

lemma editActiveZone (h : m.Valid) {ed : Zone F X → Option (Zone F X)}
    (he : ∀ zn zn', ed zn = some zn' → zn.Within zn') {m' : SceneManager F X}
    (hm' : m.editActiveZone z ed = some m') : m'.Valid := by
  simp only [SceneManager.editActiveZone, Option.bind_eq_bind, Option.bind_eq_some_iff] at hm'
  obtain ⟨id, -, sc, hs, zn, hz, zn', hz', ⟨⟩⟩ := hm'
  refine (valid_put h id _).mpr ?_
  exact (h id sc hs).replace (replaces_modifyFirst _ hz) (he zn zn' hz')

lemma mapValues (h : m.Valid) {f : Scene F X → Scene F X}
    (hf : ∀ sc, sc.Structured → (f sc).Structured) (defaults : List (Zone F X)) :
    Valid { m with scenes := m.scenes.mapValues f, defaultDisplayZones := defaults } := by
  intro id sc hs
  rw [Table.lookup_mapValues, Option.map_eq_some_iff] at hs
  obtain ⟨s, hs, rfl⟩ := hs
  exact hf s (h id s hs)

end Valid

/-! ## Layers -/

variable {layers layers' : List (SceneLayer F X)}

lemma insertLayer_nodup {ly : SceneLayer F X} {i : Option Nat}
    (h : insertLayer ly i layers = .ok layers') (hnd : (layers.map SceneLayer.id).Nodup) :
    (layers'.map SceneLayer.id).Nodup := by
  -- wherever it goes, the new layer's id is not among the others
  have hc : ly.normalized.id ∉ layers.map SceneLayer.id →
      ((ly.normalized :: layers).map SceneLayer.id).Nodup := by
    intro hn
    rw [map_cons, nodup_cons]
    exact ⟨hn, hnd⟩
  unfold insertLayer at h
  split_ifs at h with hd hiv
  have hn : ly.normalized.id ∉ layers.map SceneLayer.id := by
    intro hm
    obtain ⟨ex, hin, hid⟩ := mem_map.mp hm
    exact hd (any_eq_true.mpr ⟨ex, hin, decide_eq_true hid⟩)
  split at h
  · split_ifs at h with hi
    cases h
    have hp := perm_insertIdx ly.normalized layers (Nat.le_of_not_lt hi)
    rw [(hp.map SceneLayer.id).nodup_iff]
    exact hc hn
  · cases h
    have hp := perm_append_singleton ly.normalized layers
    rw [(hp.map SceneLayer.id).nodup_iff]
    exact hc hn

lemma checkLayerStack_nodup {seen : List SceneLayerId} (h : checkLayerStack seen layers = .ok ()) :
    (layers.map SceneLayer.id).Nodup ∧ ∀ ly ∈ layers, ly.id ∉ seen := by
  induction layers generalizing seen with
  | nil => exact ⟨.nil, fun _ hm => absurd hm not_mem_nil⟩
  | cons ly rest ih =>
    rw [checkLayerStack] at h
    split_ifs at h with hs hi
    obtain ⟨hn, hf⟩ := ih h
    rw [map_cons, nodup_cons, forall_mem_cons]
    refine ⟨⟨?_, hn⟩, hs, ?_⟩
    · intro hm
      obtain ⟨other, hin, hid⟩ := mem_map.mp hm
      exact hf other hin (hid ▸ mem_cons_self)
    · exact fun other hin hm => hf other hin (mem_cons_of_mem _ hm)

variable {layerId : SceneLayerId}

lemma removeLayer_nodup (h : removeLayer layerId layers = .ok layers')
    (hn : (layers.map SceneLayer.id).Nodup) : (layers'.map SceneLayer.id).Nodup := by
  rw [removeLayer] at h
  split_ifs at h
  cases h
  exact hn.sublist (eraseP_sublist.map SceneLayer.id)

lemma takeLayers_ids (layers : List (SceneLayer F X)) (ids : List SceneLayerId) :
    ((takeLayers layers ids).map SceneLayer.id).Sublist ids := by
  induction ids generalizing layers with
  | nil => exact .slnil
  | cons id ids ih =>
    rw [takeLayers]
    split
    · exact (ih layers).cons id
    · rename_i ly hl
      have hi : ly.id = id := by simpa using find?_some hl
      rw [map_cons, hi]
      exact (ih _).cons_cons id

lemma reorderLayers_nodup {layerIds : List SceneLayerId}
    (h : reorderLayers layerIds layers = .ok layers') : (layers'.map SceneLayer.id).Nodup := by
  rw [reorderLayers] at h
  split_ifs at h with hi
  cases h
  have hid : layerIds.Nodup := by
    by_contra hd
    exact hi (.inr (.inl hd))
  exact hid.sublist (takeLayers_ids layers layerIds)

lemma editEffectLayer_ids {ed : (Finmap fun _ : String => X) → (Finmap fun _ : String => X) → Except
      LayerMutationError ((Finmap fun _ : String => X) × Finmap fun _ : String => X)}
    (h : editEffectLayer layerId ed layers = .ok layers') :
    layers'.map SceneLayer.id = layers.map SceneLayer.id := by
  rw [editEffectLayer] at h
  split at h
  · cases h
  · split at h
    · split at h
      · cases h
      · cases h
        exact map_modifyFirst fun _ _ => rfl
    · cases h

lemma patchOnlyEffect_ids {updates : Finmap fun _ : String => X}
    (h : patchOnlyEffect updates layers = some layers') :
    layers'.map SceneLayer.id = layers.map SceneLayer.id := by
  rw [patchOnlyEffect] at h
  split_ifs at h
  cases h
  exact map_modifyFirst fun _ _ => rfl

lemma remapZoneEffectIds_within (ms : EffectId → Option EffectId) (zn : Zone F X) :
    zn.Within (remapZoneEffectIds ms zn).1 := by
  have hi : (zn.layers.map fun ly => (remapLayerEffectId ms ly).1).map
      SceneLayer.id = zn.layers.map SceneLayer.id := by
    rw [map_map]
    apply map_congr_left
    intro ly _
    rw [Function.comp_apply, remapLayerEffectId]
    split
    · split
      · rfl
      · rfl
    · rfl
  unfold remapZoneEffectIds
  dsimp only
  split_ifs
  all_goals exact .of_layers rfl rfl rfl fun h => hi ▸ h

/-! ## Outputs -/

lemma bumpZonesRevisionIf_zones (ch : Bool) (sc : Scene F X) :
    (bumpZonesRevisionIf ch sc).zones = sc.zones := by
  cases ch <;> rfl

lemma withoutOutput_within (zn : Zone F X) (oid : String) : zn.Within (withoutOutput zn oid) := by
  have hs : ((zn.layout.zones.filter fun o => o.id ≠ oid).map Output.id).Sublist
      zn.layout.outputIds := filter_sublist.map Output.id
  exact .of_outputs (fun h => h.sublist hs) hs.subset

lemma not_mem_withoutOutput (zn : Zone F X) (oid : String) :
    oid ∉ (withoutOutput zn oid).layout.outputIds := by
  intro hm
  obtain ⟨o, hi, hid⟩ := mem_map.mp hm
  exact of_decide_eq_true (mem_filter.mp hi).2 hid

/-- An edit that adds one output, which no zone of the scene owns. -/
lemma addOutput_structured (h : sc.Structured) (hz : sc.zones[i]? = some zn)
    (oid : String) (hf : ∀ other ∈ sc.zones, oid ∉ other.layout.outputIds)
    (hzo : sc'.zones = sc.zones.modify i ed)
    (he : ∃ o, o.id = oid ∧ ed zn = { zn with layout := { zn.layout with
      zones := zn.layout.zones ++ [o] } }) : sc'.Structured := by
  obtain ⟨o, rfl, he⟩ := he
  have hr := replaces_modify ed hz
  rw [← hzo, he] at hr
  rw [h.replace_iff hr]
  rw [structured_iff] at h
  have hs := h.each zn hr.mem
  have hi : ({ zn with layout := { zn.layout with
      zones := zn.layout.zones ++ [o] } } : Zone F X).layout.outputIds =
        zn.layout.outputIds ++ [o.id] := map_append
  constructor
  · refine ⟨⟨hs.target, hs.layers⟩, ?_⟩
    rw [hi, (perm_append_singleton _ _).nodup_iff, nodup_cons]
    exact ⟨hf zn hr.mem, hs.outputs⟩
  · intro other hoh
    have ha := hr.apart Zone.Apart.symm h hoh
    refine ⟨?_, ha.primary, ha.display⟩
    rw [hi]
    intro id hid hoh'
    rcases mem_append.mp hid with hid | hid
    · exact ha.outputs hid hoh'
    · rw [mem_singleton.mp hid] at hoh'
      exact hf other (hr.subset hoh) hoh'

/-- Every requested output that is stored, in the order of the request. -/
lemma forall₂_mergePlacements {stored : Table String (Output F X)} {requested : List (Output F X)}
    (hnd : (requested.map Output.id).Nodup) (hs : ∀ inc ∈ requested, (stored.lookup inc.id).isSome) :
    List.Forall₂ (fun inc merged => ∃ o, stored.lookup inc.id = some o ∧
      merged = mergePlacement o inc) requested (mergePlacements stored requested) := by
  induction requested generalizing stored with
  | nil => exact .nil
  | cons inc rest ih =>
    obtain ⟨hf, hr⟩ := nodup_cons.mp hnd
    have hn : ∀ other ∈ rest, other.id ≠ inc.id := fun other hoh he =>
      hf (he ▸ mem_map_of_mem hoh)
    obtain ⟨o, hou⟩ := Option.isSome_iff_exists.mp (hs inc mem_cons_self)
    have ht := ih hr fun other hoh => by
      rw [lookup_erase_ne (hn other hoh)]
      exact hs other (mem_cons_of_mem _ hoh)
    rw [mergePlacements, hou]
    refine .cons ⟨o, hou, rfl⟩ (forall₂_iff_zip.mpr ⟨ht.length_eq, ?_⟩)
    intro other merged hz
    obtain ⟨o', hou', hm⟩ := (forall₂_iff_zip.mp ht).2 hz
    rw [lookup_erase_ne (hn other (of_mem_zip hz).1)] at hou'
    exact ⟨o', hou', hm⟩

variable {l : SpatialLayout F X}

/-- **A merged placement**: the requested outputs in their order, each with the binding of a stored
one. -/
lemma forall₂_updateZoneLayout (hn : l.outputIds.Nodup)
    (hs : zn.layout.outputIds.toFinset = l.outputIds.toFinset) :
    List.Forall₂ (fun inc merged => ∃ o ∈ zn.layout.zones, o.id = inc.id ∧
        merged = mergePlacement o inc) l.zones
      (mergePlacements (zn.layout.zones.foldl (fun t o => t.insert o.id o) ∅) l.zones) := by
  have hl : ∀ id, ((zn.layout.zones.foldl (fun t o => t.insert o.id o) ∅ :
      Table String (Output F X)).lookup id) =
        latest (zn.layout.zones.map fun o => (o.id, o)) id := by
    intro id
    have h := lookup_foldl_insert (zn.layout.zones.map fun o => (o.id, o)) ∅ id
    rwa [foldl_map, lookup_empty, Option.or_none] at h
  refine (forall₂_mergePlacements hn fun inc hi => ?_).imp ?_
  · have hm : inc.id ∈ zn.layout.outputIds := by
      rw [← mem_toFinset, hs, mem_toFinset]
      exact mem_map_of_mem hi
    obtain ⟨o, hou, hid⟩ := mem_map.mp hm
    rw [hl, latest_isSome]
    exact ⟨o, mem_map.mpr ⟨o, hou, Prod.ext hid rfl⟩⟩
  · rintro inc merged ⟨o, hou, hme⟩
    rw [hl] at hou
    obtain ⟨stored, hm, he⟩ := mem_map.mp (mem_of_latest hou)
    obtain ⟨hid, rfl⟩ := Prod.mk.inj he
    exact ⟨stored, hm, hid, hme⟩

lemma outputIds_updateZoneLayout {merged : List (Output F X)}
    (h : List.Forall₂ (fun inc merged => ∃ o ∈ zn.layout.zones, o.id = inc.id ∧
      merged = mergePlacement o inc) l.zones merged) : merged.map Output.id = l.outputIds := by
  refine (forall₂_eq_eq_eq (α := String) ▸ ?_ : l.outputIds = merged.map Output.id).symm
  rw [SpatialLayout.outputIds, forall₂_map_left_iff, forall₂_map_right_iff]
  refine h.imp ?_
  rintro inc _ ⟨o, -, hi, rfl⟩
  exact hi.symm

namespace Valid

section

variable (h : m.Valid) (sid : SceneId)
include h

lemma createZone (z : ZoneId) (nm : String) (color : Option String) (fallbackCanvas : Nat × Nat) :
    (m.after (m.createZone sid z nm color fallbackCanvas)).Valid := by
  apply h.editScene
  intro sc sc' hs he
  cases unlocked_ok he
  rw [hs.add_iff rfl]
  refine ⟨⟨⟨?_, nodup_nil⟩, nodup_nil⟩, ?_⟩
  · exact iff_of_false Bool.false_ne_true ZoneRole.noConfusion
  · intro other _
    refine ⟨disjoint_nil_left _, ?_, ?_⟩
    · rintro ⟨⟨⟩, -⟩
    · rintro d ⟨⟩

lemma deleteZone (z : ZoneId) : (m.after (m.deleteZone sid z)).Valid := by
  apply h.editScene
  intro sc sc' hs he
  have he := unlocked_ok he
  split at he
  · cases he
  · split_ifs at he
    cases he
    exact hs.sublist eraseP_sublist

lemma assignOutputToZone (z : ZoneId) (out : Output F X) (place : OutputPlacement) :
    (m.after (m.assignOutputToZone sid z out place)).Valid := by
  apply h.editScene
  intro sc sc' hsc he
  have he := unlocked_ok he
  dsimp only at he
  split at he
  · cases he
  · rename_i t ht
    have hl : t < sc.zones.length := (findIdx?_eq_some_iff_getElem.mp ht).1
    have hz : sc.zones[t]? = some sc.zones[t] := getElem?_eq_getElem hl
    split_ifs at he with how
    · -- the zone owns the output already: only its placement changes
      cases he
      refine hsc.replace (replaces_modify _ hz) ?_
      have hi : (modifyFirst (fun o => o.id = out.id) (fun _ => out)
          sc.zones[t].layout.zones).map Output.id = sc.zones[t].layout.outputIds :=
        map_modifyFirst fun o ho => (of_decide_eq_true ho).symm
      exact .of_outputs (fun hn => hi ▸ hn) (hi ▸ fun _ => id)
    · cases he
      have hs : Scene.Structured { sc with zones := sc.zones.map fun zn => withoutOutput zn out.id } :=
        hsc.mapZones rfl fun zn _ => withoutOutput_within zn out.id
      have hz' : (sc.zones.map fun zn => withoutOutput zn out.id)[t]? =
          some (withoutOutput sc.zones[t] out.id) := by
        rw [getElem?_map, hz]
        rfl
      refine addOutput_structured hs hz' out.id ?_ rfl ⟨_, ?_, rfl⟩
      · intro other hoh
        obtain ⟨zn, -, rfl⟩ := mem_map.mp hoh
        exact not_mem_withoutOutput zn out.id
      · cases place with
        | autoGrid | preserve => rfl

lemma unassignOutput (oid : String) : (m.after (m.unassignOutput sid oid)).Valid := by
  apply h.editScene
  intro sc sc' hs he
  have he := unlocked_ok he
  split_ifs at he
  cases he
  exact hs.mapZones rfl fun zn _ => withoutOutput_within zn oid

lemma updateZoneLayout (z : ZoneId) (l : SpatialLayout F X) :
    (m.after (m.updateZoneLayout sid z l)).Valid := by
  apply h.editScene
  intro sc sc' hsc he
  have he := unlocked_ok he
  split at he
  · cases he
  · rename_i zn hz
    split_ifs at he with hm
    rw [not_or, not_not, not_not] at hm
    obtain ⟨hn, hs⟩ := hm
    cases he
    refine hsc.replace (replaces_modifyFirst _ hz) ?_
    have hi := outputIds_updateZoneLayout (forall₂_updateZoneLayout hn hs)
    apply Zone.Within.of_outputs
    · exact fun _ => hi.symm ▸ hn
    · intro id hid
      have hin : id ∈ l.outputIds.toFinset := mem_toFinset.mpr (hi ▸ hid)
      rw [← hs] at hin
      exact mem_toFinset.mp hin

end

lemma patchDisplayZoneTarget (h : m.Valid) (z : ZoneId) (bm : Option BlendMode)
    (opacity : Option F) : ((m.patchDisplayZoneTarget z bm opacity).getD m).Valid := by
  apply h.getD
  intro m' hm'
  simp only [SceneManager.patchDisplayZoneTarget, Option.bind_eq_bind, Option.bind_eq_some_iff] at hm'
  obtain ⟨id, -, sc, hsc, zn, hz, current, hc, ⟨⟩⟩ := hm'
  refine (valid_put h id _).mpr ((h id sc hsc).replace (replaces_modifyFirst _ hz) ?_)
  -- the target keeps its device, whatever becomes of the blend mode and opacity
  have hde : ∀ (t : DisplayFaceTarget F) (blends : Bool),
      (if blends then t else { t with opacity := 1.0 }).deviceId = t.deviceId := by
    intro t blends
    cases blends <;> rfl
  constructor
  · intro hs
    refine ⟨⟨?_, hs.layers⟩, hs.outputs⟩
    rw [← hs.target, hc]
    rfl
  · exact fun _ hi => hi
  · exact fun hr => hr
  · intro d hd
    rw [Zone.displayDevice, Zone.targetDevice] at hd ⊢
    rw [hc]
    rw [Option.map_some, hde] at hd
    exact hd

end Valid

/-- The zone at `index` becomes the one primary zone. -/
lemma promote_structured (h : sc.Structured) (hz : sc.zones[i]? = some zn)
    (hzo : sc'.zones = promote sc.zones i) : sc'.Structured := by
  let demote (zn : Zone F X) : Zone F X := if zn.role = .primary then { zn with role := .custom } else zn
  have hd : Scene.Structured { sc with zones := sc.zones.map demote } := by
    apply h.mapZones rfl
    intro zn _
    dsimp only [demote]
    split_ifs with hr
    · constructor
      · intro hs
        refine ⟨⟨?_, hs.layers⟩, hs.outputs⟩
        rw [hs.target, hr]
        exact iff_of_false ZoneRole.noConfusion ZoneRole.noConfusion
      · exact fun _ => id
      · rintro ⟨⟩
      · rintro d ⟨⟩
    · exact .refl zn
  have hn : ∀ other ∈ sc.zones.map demote, other.role ≠ .primary := by
    intro other hoh
    obtain ⟨zn, -, rfl⟩ := mem_map.mp hoh
    dsimp only [demote]
    split_ifs with hr
    · exact ZoneRole.noConfusion
    · exact hr
  have hz' : (sc.zones.map demote)[i]? = some (demote zn) := by
    rw [getElem?_map, hz]
    rfl
  have hre := replaces_modify
      (fun zn : Zone F X => { zn with role := .primary, displayTarget := none }) hz'
  rw [promote] at hzo
  rw [← hzo] at hre
  rw [hd.replace_iff hre]
  rw [structured_iff] at hd
  have hs := hd.each _ hre.mem
  constructor
  · refine ⟨⟨?_, hs.layers⟩, hs.outputs⟩
    exact iff_of_false Bool.false_ne_true ZoneRole.noConfusion
  · intro other hoh
    refine ⟨(hre.apart Zone.Apart.symm hd hoh).outputs, ?_, ?_⟩
    · rintro ⟨-, hr⟩
      exact hn other (hre.subset hoh) hr
    · rintro d ⟨⟩

lemma moveZone_perm (zs : List (Zone F X)) {dest : Nat} (hd : dest < zs.length) :
    (moveZone zs i dest).Perm zs := by
  rw [moveZone]
  split
  · rfl
  · rename_i zn hz
    obtain ⟨hl, rfl⟩ := List.getElem?_eq_some_iff.mp hz
    have hle : dest ≤ (zs.eraseIdx i).length := by
      rw [length_eraseIdx_of_lt hl]
      exact le_sub_one_of_lt hd
    exact (perm_insertIdx _ _ hle).trans (getElem_cons_eraseIdx_perm hl)

lemma patchZoneMeta_within (patch : ZoneMetaPatch F) (zn : Zone F X) :
    zn.Within (patchZoneMeta patch zn) :=
  .of_layers rfl rfl rfl fun h => h

/-- The roles, then the order, then the fields of the one zone. -/
lemma editMeta_structured (h : sc.Structured) (hi : i < sc.zones.length)
    (roleChange ch : Bool) {dest : Option Nat}
    (hd : ∀ d, dest = some d → d < sc.zones.length) (patch : ZoneMetaPatch F)
    (hz : zs = if roleChange then promote sc.zones i else sc.zones) :
    Scene.Structured { bumpZonesRevisionIf ch
        { sc with zones := (dest.map (moveZone zs i)).getD zs } with
      zones := (bumpZonesRevisionIf ch
        { sc with zones := (dest.map (moveZone zs i)).getD zs }).zones.modify
          (dest.getD i) (patchZoneMeta patch) } := by
  have hr : Scene.Structured { sc with zones := zs } := by
    cases roleChange with
    | true => exact promote_structured h (getElem?_eq_getElem hi) hz
    | false => exact h.of_zones_eq hz
  have hl : zs.length = sc.zones.length := by
    rw [hz]
    split_ifs
    · rw [promote, length_modify, length_map]
    · rfl
  have hm : Scene.Structured { sc with zones := (dest.map (moveZone zs i)).getD zs } := by
    cases dest with
    | none => exact hr
    | some d =>
      refine hr.perm (moveZone_perm zs ?_)
      rw [hl]
      exact hd d rfl
  exact (hm.of_zones_eq (bumpZonesRevisionIf_zones ch _)).modifyZone rfl (patchZoneMeta_within patch)

namespace Valid

lemma updateZoneMeta (h : m.Valid) (sid : SceneId) (z : ZoneId)
    (patch : ZoneMetaPatch F) : (m.after (m.updateZoneMeta sid z patch)).Valid := by
  apply h.editScene
  intro sc sc' hs he
  dsimp only at he
  split at he
  · cases he
  · split at he
    · cases he
    · rename_i i hi
      have hl : i < sc.zones.length := (findIdx?_eq_some_iff_getElem.mp hi).1
      split at he
      · cases he
      · cases he
        refine editMeta_structured hs hl (patch.makePrimary = some true) _ ?_ patch rfl
        intro d hd
        obtain ⟨hd, -⟩ := Option.filter_eq_some_iff.mp hd
        obtain ⟨requested, -, rfl⟩ := Option.map_eq_some_iff.mp hd
        omega

end Valid

/-! ## Remapping devices -/

lemma preferRetargeted_isSome (rt : List ZoneId) {candidates : List (Zone F X × Nat)}
    (h : candidates ≠ []) : (preferRetargeted rt candidates).isSome := by
  obtain ⟨c, rest, rfl⟩ := exists_cons_of_ne_nil h
  rw [preferRetargeted, Option.isSome_or, head?_cons, Option.isSome_some, Bool.or_true]

lemma mapM_eq_map {β : Type} {f : α → Option β} {l : List α} {l' : List β}
    (h : l.mapM f = some l') : l.map f = l'.map some := by
  induction l generalizing l' with
  | nil =>
    cases h
    rfl
  | cons a as ih =>
    rw [mapM_cons] at h
    simp only [Option.bind_eq_bind, Option.bind_eq_some_iff, Option.pure_def] at h
    obtain ⟨b, hb, bs, hbs, ⟨⟩⟩ := h
    rw [map_cons, map_cons, hb, ih hbs]

/-- A group of faces always has a survivor. -/
lemma chooseSurvivor_isSome (rt : List ZoneId) {g : List (Zone F X × Nat)}
    (h : g ≠ []) : (chooseSurvivor rt g).isSome := by
  rw [chooseSurvivor]
  split
  · exact preferRetargeted_isSome rt h
  · rfl
  · rename_i several hn _
    split
    · exact preferRetargeted_isSome rt hn
    · rename_i assignedAt ha
      split
      · rfl
      · apply preferRetargeted_isSome
        -- somebody was assigned last
        have hm := mapM_eq_map ha
        have hne : assignedAt ≠ [] := by
          rintro rfl
          exact hn (map_eq_nil_iff.mp hm)
        obtain ⟨last, hl⟩ := Option.isSome_iff_exists.mp (isSome_max?_of_ne_nil hne)
        have hi : some last ∈ assignedAt.map some := mem_map_of_mem (max?_mem hl)
        rw [← hm] at hi
        obtain ⟨c, hc, hcl⟩ := mem_map.mp hi
        apply ne_nil_of_mem
        refine mem_filter.mpr ⟨hc, decide_eq_true ?_⟩
        rw [hcl, hl]

lemma lookup_survivors {t : Table ZoneId ZoneId} {drops : List (ZoneId × ZoneId)}
    (h : z ∈ t ∨ z ∈ drops.map Prod.fst) : z ∈ drops.foldl (fun t d => t.insert d.1 d.2) t := by
  induction drops generalizing t with
  | nil => exact h.resolve_right not_mem_nil
  | cons d rest ih =>
    apply ih
    rw [map_cons, mem_cons] at h
    rw [mem_insert]
    rcases h with h | h | h
    · exact .inl (.inr h)
    · exact .inl (.inl h)
    · exact .inr h

/-- Of two faces of one display, one of them retargeted, at least one gives way. -/
lemma survivorMap_drops (rt : List ZoneId) {i j : Nat} {x y : Zone F X}
    (hx : zs[i]? = some x) (hy : zs[j]? = some y) (hij : i ≠ j) {d : DeviceId}
    (hxd : x.displayDevice = some d) (hyd : y.displayDevice = some d) (hr : x.id ∈ rt ∨ y.id ∈ rt) :
    x.id ∈ survivorMap rt zs ∨ y.id ∈ survivorMap rt zs := by
  have hm : ∀ {k : Nat} {z : Zone F X}, zs[k]? = some z → z.displayDevice = some d →
      (z, k) ∈ faceGroup zs d := by
    intro k z hz hzd
    exact mem_filter.mpr ⟨mem_zipIdx_iff_getElem?.mpr hz, decide_eq_true hzd⟩
  have hxm := hm hx hxd
  have hym := hm hy hyd
  obtain ⟨survivor, hs⟩ := Option.isSome_iff_exists.mp (chooseSurvivor_isSome rt (ne_nil_of_mem hxm))
  have hl : ¬ (faceGroup zs d).length < 2 := by
    intro hlt
    obtain ⟨c, rest, hg⟩ := exists_cons_of_ne_nil (ne_nil_of_mem hxm)
    rw [hg, length_cons, succ_lt_succ_iff, lt_one_iff, length_eq_zero_iff] at hlt
    rw [hg, hlt, mem_singleton] at hxm hym
    exact hij (congrArg Prod.snd (hxm.trans hym.symm))
  have ha : (faceGroup zs d).any fun c => c.1.id ∈ rt := by
    rw [any_eq_true]
    rcases hr with hr | hr
    · exact ⟨_, hxm, decide_eq_true hr⟩
    · exact ⟨_, hym, decide_eq_true hr⟩
  have hd : ∀ {k : Nat} {z : Zone F X}, (z, k) ∈ faceGroup zs d →
      k ≠ survivor.2 → z.id ∈ survivorMap rt zs := by
    intro k z hz hk
    apply lookup_survivors
    refine .inr (mem_map.mpr ⟨(z.id, survivor.1.id), ?_, rfl⟩)
    refine mem_flatMap.mpr ⟨d, ?_, ?_⟩
    · rw [mem_eraseDups, mem_filterMap]
      exact ⟨x, mem_of_getElem? hx, hxd⟩
    · rw [dropped, if_neg (not_or.mpr ⟨hl, not_not.mpr ha⟩), hs]
      exact mem_map.mpr ⟨(z, k), mem_filter.mpr ⟨hz, decide_eq_true hk⟩, rfl⟩
  by_cases hi : i = survivor.2
  · exact .inr (hd hym fun hj => hij (hi.trans hj.symm))
  · exact .inl (hd hxm hi)

section

variable (ls : String → Option String) (ph : DeviceId → Option DeviceId)

/-- A zone that is not retargeted is the face it was. -/
lemma remapZone_displayDevice (h : ¬ zn.displayTarget.any fun t => (ph t.deviceId).isSome) :
    (remapZoneDeviceBindings ls ph zn).1.displayDevice = zn.displayDevice := by
  rw [Zone.displayDevice, Zone.displayDevice, Zone.targetDevice, Zone.targetDevice]
  rcases ht : zn.displayTarget with _ | t
  · simp [remapZoneDeviceBindings, ht]
  · have hn : ph t.deviceId = none := by simpa [ht] using h
    simp [remapZoneDeviceBindings, ht, hn]

lemma remapZone_outputIds (zn : Zone F X) : (remapZoneDeviceBindings ls ph zn).1.layout.outputIds =
      zn.layout.outputIds := by
  rw [SpatialLayout.outputIds, SpatialLayout.outputIds, remapZoneDeviceBindings, map_map]
  rfl

lemma remapZone_sound (h : zn.Sound) : (remapZoneDeviceBindings ls ph zn).1.Sound := by
  refine ⟨⟨?_, h.layers⟩, ?_⟩
  · rw [remapZoneDeviceBindings, Option.isSome_map]
    exact h.target
  · rw [remapZone_outputIds]
    exact h.outputs

end

lemma mem_retargeted {ph : DeviceId → Option DeviceId} (hz : zn ∈ zs)
    (h : zn.displayTarget.any fun t => (ph t.deviceId).isSome) : zn.id ∈ retargetedDisplayZones ph zs :=
  mem_map_of_mem (mem_filter.mpr ⟨hz, h⟩)

/-- The faces of a scene that give way when devices are renamed, each with the one that stays. -/
def merged (layoutDeviceIds : String → Option String)
    (physicalDeviceIds : DeviceId → Option DeviceId) (scene : Scene F X) : Table ZoneId ZoneId :=
  if retargetedDisplayZones physicalDeviceIds scene.zones = [] then ∅
  else survivorMap (retargetedDisplayZones physicalDeviceIds scene.zones)
    (scene.zones.map fun zone => (remapZoneDeviceBindings layoutDeviceIds physicalDeviceIds zone).1)

variable (ls : String → Option String) (ph : DeviceId → Option DeviceId)

lemma remapSceneDevices_zones (sc : Scene F X) :
    (remapSceneDevices ls ph sc).1.zones = (sc.zones.map fun zn =>
        (remapZoneDeviceBindings ls ph zn).1).filter fun zn =>
            ((merged ls ph sc).lookup zn.id).isNone := by
  unfold remapSceneDevices collapseRetargetedDisplayZones merged
  simp only [bumpZonesRevisionIf_zones, map_map]
  split_ifs with hn
  · exact (filter_eq_self.mpr fun zn _ => rfl).symm
  · rfl

theorem remapSceneDevices_structured (h : sc.Structured) : (remapSceneDevices ls ph sc).1.Structured := by
  let remap (zn : Zone F X) : Zone F X := (remapZoneDeviceBindings ls ph zn).1
  let retargeted := retargetedDisplayZones ph sc.zones
  rw [structured_iff] at h ⊢
  rw [remapSceneDevices_zones]
  constructor
  · intro zn hzo
    obtain ⟨z, hz, rfl⟩ := mem_map.mp (mem_filter.mp hzo).1
    exact remapZone_sound ls ph (h.each z hz)
  · rw [pairwise_filter, pairwise_map, pairwise_iff_getElem]
    intro i j hi hj hij hkp hkj
    have ha := pairwise_iff_getElem.mp h.apart i j hi hj hij
    refine ⟨?_, ha.primary, ?_⟩
    · rw [remapZone_outputIds, remapZone_outputIds]
      exact ha.outputs
    · -- the two became faces of one display: one of them was retargeted, and one of them goes
      intro d hd hdj
      have hr : sc.zones[i].id ∈ retargeted ∨ sc.zones[j].id ∈ retargeted := by
        by_contra hnt
        rw [not_or] at hnt
        rw [remapZone_displayDevice _ _ fun ht => hnt.1 (mem_retargeted (getElem_mem hi) ht)]
          at hd
        rw [remapZone_displayDevice _ _ fun ht => hnt.2 (mem_retargeted (getElem_mem hj) ht)]
          at hdj
        exact ha.display d hd hdj
      have hs : retargeted ≠ [] := by
        rcases hr with hr | hr
        iterate 2 exact ne_nil_of_mem hr
      have hge : ∀ {k : Nat} (hk : k < sc.zones.length),
          (sc.zones.map remap)[k]? = some (remap sc.zones[k]) := by
        intro k hk
        rw [getElem?_map, getElem?_eq_getElem hk]
        rfl
      have hke : ∀ {zn : Zone F X}, ((merged ls ph sc).lookup zn.id).isNone →
          zn.id ∉ survivorMap retargeted (sc.zones.map remap) := by
        intro zn hkee
        rw [merged, if_neg hs] at hkee
        exact lookup_eq_none.mp (Option.isNone_iff_eq_none.mp hkee)
      rcases survivorMap_drops retargeted (hge hi) (hge hj) hij.ne hd hdj hr with hg | hg
      · exact hke hkp hg
      · exact hke hkj hg

end SceneManager

end Hypercolor.Scenes
