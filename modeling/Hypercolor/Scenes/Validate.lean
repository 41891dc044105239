import Hypercolor.Scenes.Types
import Hypercolor.Lib.Scan

/-!
# `Scene::validate` and what its structural checks mean

`validate` is the source's function, with its errors as data. Its structural checks are the reports
`SceneError.structural` selects, and **`structuralErrors_eq_nil_iff`** says what passing them
means: `Structured`.
-/

namespace Hypercolor.Scenes

open List Scene

/-- The messages of `Scene::validate`, `Scene::validate_zone_exclusivity` and
`Zone::validate_layers` -/
inductive SceneError (F : Type) where
  | nameEmpty
  | nameTooLong
  | claimedByBoth (output existing zone : String)
  | activationBrightness (brightness : F)
  | layoutId (reason : String)
  | manyPrimaries
  | duplicateLayer (zone : String) (layer : SceneLayerId)
  | invalidLayer (layer : SceneLayerId) (zone : String) (error : LayerError)
  | missingTarget (zone : String)
  | strayTarget (zone : String) (role : ZoneRole)
  | duplicateDisplay (device : DeviceId) (existing zone : ZoneId)

variable {F X : Type} [Scalar F]

/-- `validate_layers` -/
def Zone.validateLayers (zone : Zone F X) : List (SceneError F) :=
  Lib.scan (fun layer : SceneLayer F X => some layer.id) (fun _ => ()) (fun seen layer =>
      (if seen.isSome then [.duplicateLayer zone.name layer.id] else []) ++
        layer.validate.map (.invalidLayer layer.id zone.name))
    ∅ zone.layers

/-- `validate_opaque` as `validate_layout_id` calls it; `char::is_control` is the Unicode
category `Cc`. -/
def validateLayoutId (s : String) : List (SceneError F) :=
  if s.isEmpty then [.layoutId "must not be empty"]
  else if 128 < s.utf8ByteSize then [.layoutId "too long"]
  else if s.toList.any (fun c => c.toNat < 32 ∨ (127 ≤ c.toNat ∧ c.toNat < 160)) then
    [.layoutId "control characters are not allowed"]
  else if s.toList.head?.any isWhitespace ∨ s.toList.getLast?.any isWhitespace then
    [.layoutId "leading or trailing whitespace is not allowed"]
  else []

namespace Scene

/-- `validate_zone_exclusivity` -/
def validateZoneExclusivity (scene : Scene F X) : List (SceneError F) :=
  Lib.scan (fun claim : String × String => some claim.1) Prod.snd
    (fun seen claim => (seen.map fun existing => .claimedByBoth claim.1 existing claim.2).toList)
    ∅ (scene.zones.flatMap fun zone => zone.layout.zones.map fun output => (output.id, zone.name))

/-- `validate`: the loop of `Scene::validate` over the zones. -/
def validateZones (scene : Scene F X) : List (SceneError F) :=
  Lib.scan Zone.displayDevice Zone.id (fun seen zone => zone.validateLayers ++
      match zone.role, zone.displayTarget with
      | .display, none => [.missingTarget zone.name]
      | .custom, some _ | .primary, some _ => [.strayTarget zone.name zone.role]
      | .display, some target =>
          (seen.map fun existing => .duplicateDisplay target.deviceId existing zone.id).toList
      | _, none => [])
    ∅ scene.zones

/-- `validate` -/
def validate (scene : Scene F X) : List (SceneError F) :=
  (if blank scene.name then [.nameEmpty] else []) ++
  (if 128 < scene.name.length then [.nameTooLong] else []) ++
  scene.validateZoneExclusivity ++
  (match scene.activationBrightness with
    | some brightness =>
        if Scalar.isFinite brightness ∧ (0.0 : F) ≤ brightness ∧ brightness ≤ (1.0 : F) then []
        else [.activationBrightness brightness]
    | none => []) ++
  (match scene.layoutId with
    | some layoutId => validateLayoutId layoutId
    | none => []) ++
  (if 1 < scene.zones.countP (fun zone => zone.role = .primary) then [.manyPrimaries] else []) ++
  scene.validateZones

end Scene

/-! ## The structural checks -/

/-- The checks on the structure of a scene, as opposed to its names and values. -/
def SceneError.structural : SceneError F → Bool
  | .claimedByBoth _ _ _ | .manyPrimaries | .duplicateLayer _ _ | .missingTarget _
  | .strayTarget _ _ | .duplicateDisplay _ _ _ => true
  | .nameEmpty | .nameTooLong | .activationBrightness _ | .layoutId _ | .invalidLayer _ _ _ =>
      false

namespace Scene

/-- The structural errors `Scene::validate` reports. -/
def structuralErrors (scene : Scene F X) : List (SceneError F) :=
  scene.validate.filter SceneError.structural

omit [Scalar F] in
/-- Every output id of the scene, in zone order. -/
def outputIds (scene : Scene F X) : List String :=
  scene.zones.flatMap fun zone => zone.layout.outputIds

end Scene

/-- What the structural checks ask of a zone by itself. -/
structure Zone.Structured (zone : Zone F X) : Prop where
  target : zone.displayTarget.isSome ↔ zone.role = .display
  layers : (zone.layers.map SceneLayer.id).Nodup

/-- **What passing the structural checks means.** -/
structure Scene.Structured (scene : Scene F X) : Prop where
  exclusive : scene.outputIds.Nodup
  primary : scene.zones.countP (fun zone => zone.role = .primary) ≤ 1
  displays : (scene.zones.filterMap Zone.displayDevice).Nodup
  zones : ∀ zone ∈ scene.zones, zone.Structured

/-- A zone's structural layer errors are its repeated layer ids. -/
lemma Zone.validateLayers_structural (z : Zone F X) : z.validateLayers.filter SceneError.structural = [] ↔
      (z.layers.map SceneLayer.id).Nodup := by
  have hv : ∀ ly : SceneLayer F X,
      (ly.validate.map (SceneError.invalidLayer (F := F) ly.id z.name)).filter
        SceneError.structural = [] := by
    intro ly
    rw [filter_eq_nil_iff]
    intro err he
    obtain ⟨e, -, rfl⟩ := mem_map.mp he
    exact Bool.false_ne_true
  rw [Zone.validateLayers, Lib.filter_scan, Lib.scan_eq_nil_iff]
  · rw [show (fun ly : SceneLayer F X => some ly.id) = some ∘ SceneLayer.id from rfl, filterMap_eq_map]
    constructor
    · rintro ⟨hn, -⟩
      exact hn
    · intro hn
      refine ⟨hn, fun k _ => AList.notMem_empty k, ?_⟩
      intro ly _
      exact hv ly
  · intro v ly _
    exact cons_ne_nil _ _

omit [Scalar F] in
lemma Scene.validateZoneExclusivity_eq_nil_iff (sc : Scene F X) :
    sc.validateZoneExclusivity = [] ↔ sc.outputIds.Nodup := by
  rw [validateZoneExclusivity, Lib.scan_eq_nil_iff]
  · have hi : (sc.zones.flatMap fun z =>
        z.layout.zones.map fun o => (o.id, z.name)).filterMap
          (fun claim => some claim.1) = sc.outputIds := by
      rw [show (fun claim : String × String => some claim.1) = some ∘ Prod.fst from rfl,
        filterMap_eq_map, map_flatMap]
      simp only [map_map]
      rfl
    rw [hi]
    constructor
    · rintro ⟨hn, -⟩
      exact hn
    · intro hn
      exact ⟨hn, fun k _ => AList.notMem_empty k, fun _ _ => rfl⟩
  · intro ex claim _
    exact cons_ne_nil _ _

/-- What the loop over the zones reports about the display targets. -/
lemma Scene.validateZones_structural (sc : Scene F X) :
    sc.validateZones.filter SceneError.structural = [] ↔
      (sc.zones.filterMap Zone.displayDevice).Nodup ∧ ∀ z ∈ sc.zones, z.Structured := by
  rw [validateZones, Lib.filter_scan, Lib.scan_eq_nil_iff]
  · have hzo : ∀ z : Zone F X, ((z.validateLayers ++
          match z.role, z.displayTarget with
          | .display, none => [.missingTarget z.name]
          | .custom, some _ | .primary, some _ => [.strayTarget z.name z.role]
          | .display, some t =>
              ((none : Option ZoneId).map fun ex =>
                SceneError.duplicateDisplay t.deviceId ex z.id).toList
          | _, none => []).filter SceneError.structural = []) ↔ z.Structured := by
      intro z
      rw [filter_append, append_eq_nil_iff, z.validateLayers_structural]
      constructor
      · rintro ⟨hl, htg⟩
        refine ⟨?_, hl⟩
        rcases hr : z.role <;> rcases ht : z.displayTarget with _ | t <;>
          simp [hr, ht, SceneError.structural] at htg ⊢
      · rintro ⟨htg, hl⟩
        refine ⟨hl, ?_⟩
        rcases hr : z.role <;> rcases ht : z.displayTarget with _ | t <;>
          simp [hr, ht] at htg ⊢
    constructor
    · rintro ⟨hn, -, ha⟩
      exact ⟨hn, fun z hz => (hzo z).mp (ha z hz)⟩
    · rintro ⟨hn, ha⟩
      exact ⟨hn, fun k _ => AList.notMem_empty k,
        fun z hz => (hzo z).mpr (ha z hz)⟩
  · intro ex z hs
    have hro : z.role = .display := by
      by_contra hne
      simp [Zone.displayDevice, hne] at hs
    obtain ⟨t, ht⟩ : ∃ t, z.displayTarget = some t := by
      rw [← Option.isSome_iff_exists]
      simpa [Zone.displayDevice, hro, Zone.targetDevice] using hs
    rw [filter_append, hro, ht]
    simp [SceneError.structural]

/-- **The structural checks of `Scene::validate` are `Structured`.** -/
theorem Scene.structuralErrors_eq_nil_iff (sc : Scene F X) : sc.structuralErrors = [] ↔
    sc.Structured := by
  have he : sc.validateZoneExclusivity.filter SceneError.structural = sc.validateZoneExclusivity := by
    rw [validateZoneExclusivity, Lib.filter_scan]
    congr
    funext seen claim
    cases seen <;> rfl
  have hb : (match sc.activationBrightness with
      | some bright =>
          if Scalar.isFinite bright ∧ (0.0 : F) ≤ bright ∧ bright ≤ (1.0 : F) then []
          else [SceneError.activationBrightness bright]
      | none => []).filter SceneError.structural = [] := by
    split
    · split_ifs <;> rfl
    · rfl
  have hl : (match sc.layoutId with
      | some layoutId => validateLayoutId (F := F) layoutId
      | none => []).filter SceneError.structural = [] := by
    split
    · unfold validateLayoutId
      split_ifs <;> rfl
    · rfl
  have hp : ((if 1 < sc.zones.countP (fun z => z.role = .primary) then
        [SceneError.manyPrimaries] else []).filter (SceneError.structural (F := F)) = []) ↔
      sc.zones.countP (fun z => z.role = .primary) ≤ 1 := by
    split_ifs with h
    · simpa [SceneError.structural] using h
    · simpa using h
  have hn : ((if blank sc.name then [SceneError.nameEmpty (F := F)] else []) ++
      (if 128 < sc.name.length then [SceneError.nameTooLong] else [])).filter
        SceneError.structural = [] := by
    split_ifs <;> rfl
  rw [structuralErrors, validate]
  simp only [filter_append] at hn ⊢
  rw [hn, he, hb, hl]
  simp only [nil_append, append_nil, append_eq_nil_iff]
  rw [hp, sc.validateZoneExclusivity_eq_nil_iff, sc.validateZones_structural]
  constructor
  · rintro ⟨⟨hou, hon⟩, hd, hz⟩
    exact ⟨hou, hon, hd, hz⟩
  · rintro ⟨hou, hon, hd, hz⟩
    exact ⟨⟨hou, hon⟩, hd, hz⟩

/-- A scene that passes `validate` passes its structural checks. -/
lemma Scene.structured_of_validate {sc : Scene F X} (h : sc.validate = []) : sc.Structured := by
  rw [← sc.structuralErrors_eq_nil_iff, structuralErrors, h]
  rfl

end Hypercolor.Scenes
