import Hypercolor.Scenes.Validate
import Hypercolor.Lib.Spread
import Hypercolor.Lib.Table
import Hypercolor.Lib.Machine

/-!
# The scene manager

`hypercolor-core`: `scene/mod.rs`, `scene/priority.rs` and `scene/display_collisions.rs`. Every
mutating operation is here as a function of the state, under the source's name.

* A fallible operation returns `Except`, one whose refusal is `None` returns `Option`; a refusal
  leaves the state as it was. The zones and scenes operations hand back are reads of the new state
  and are not returned again.
* `ZoneId::new`, `SceneLayerId::new` and `Instant::now` are arguments.
* A map that is only read is a function to `Option`. Logging is left out.
-/

namespace Hypercolor.Scenes

open Lib

variable {F X : Type} [Scalar F] [DecidableEq X] [Literals X]

/-! ## State -/

/-- `StackEntry` -/
structure StackEntry where
  sceneId : SceneId
  priority : Nat
  enteredAt : Nat
deriving DecidableEq

/-- `TransitionPlan` -/
structure TransitionPlan (X : Type) where
  epoch : Nat
  fromScene : SceneId
  toScene : SceneId
  spec : TransitionSpec X

/-- `SceneManager` -/
structure SceneManager (F X : Type) where
  scenes : Table SceneId (Scene F X)
  priorityStack : List StackEntry
  transitionPlan : Option (TransitionPlan X)
  transitionEpoch : Nat
  activationHistory : List SceneId
  resolvedZones : List (Zone F X)
  resolvedZonesRevision : Nat
  defaultDisplayZones : List (Zone F X)

/-- The messages of the operations that return `anyhow::Result` -/
inductive ManagerError (F : Type) where
  | alreadyExists (id : SceneId)
  | invalid (name : String) (errors : List (SceneError F))
  | notFound (id : SceneId)
  | kindChanged
  | defaultRenamed
  | defaultDeleted
  | noActiveScene
  | zoneNotActive (id : ZoneId)
  | displayFace (id : ZoneId)

/-- `ZoneMutationError` -/
inductive ZoneMutationError where
  | sceneMissing
  | zoneMissing
  | outputMissing
  | snapshotLocked
  | invalidRole (role : ZoneRole)
  | layoutOutputMismatch

/-- `LayerMutationError` -/
inductive LayerMutationError where
  | sceneMissing
  | zoneMissing
  | layerMissing (layerId : SceneLayerId)
  | duplicateLayer (layerId : SceneLayerId)
  | stale (expected current : Nat)
  | invalidLayer (errors : List LayerError)
  | notEffectLayer (layerId : SceneLayerId)
  | invalidIndex (index len : Nat)
  | invalidOrder
  | controlBound (keys : Finset String)

/-- `ZoneMetaPatch` -/
structure ZoneMetaPatch (F : Type) where
  name : Option String
  description : Option (Option String)
  color : Option (Option String)
  brightness : Option F
  enabled : Option Bool
  makePrimary : Option Bool
  index : Option Nat

/-- `OutputPlacement` -/
inductive OutputPlacement where
  | autoGrid
  | preserve

/-! ## Helpers -/

/-- `bump_zones_revision` -/
def bumpZonesRevision (scene : Scene F X) : Scene F X :=
  { scene with zonesRevision := saturatingSucc scene.zonesRevision }

def bumpZonesRevisionIf (changed : Bool) (scene : Scene F X) : Scene F X :=
  if changed then bumpZonesRevision scene else scene

variable (zone : Zone F X)

/-- `effect_control_bindings` -/
def effectControlBindings : Finmap fun _ : String => X :=
  (zone.layers.findSome? fun layer =>
    match layer.source with
    | .effect _ _ controlBindings _ => some controlBindings
    | _ => none).getD ∅

/-- `replace_effect_layer_stack` -/
def replaceEffectLayerStack (layerId : SceneLayerId) (effectId : EffectId)
    (controls controlBindings : Finmap fun _ : String => X) (presetId : Option Uuid) : Zone F X :=
  { zone with
    layers := [.fromEffect layerId effectId controls controlBindings presetId]
    layersVersion := saturatingSucc zone.layersVersion }

/-- The bindings an effect apply keeps: those of the same effect. -/
def keptBindings (effectId : EffectId) : Finmap fun _ : String => X :=
  if effectLayerId zone ≠ some effectId then ∅ else effectControlBindings zone

/-- `scene_has_custom_led_zones` -/
def sceneHasCustomLedZones (scene : Scene F X) : Bool :=
  scene.zones.any fun zone => zone.role = .custom ∧ zone.displayTarget.isNone

/-- `unclaimed_primary_layout` -/
def unclaimedPrimaryLayout (scene : Scene F X) (layout : SpatialLayout F X) : SpatialLayout F X :=
  let claimed := (scene.zones.filter fun zone =>
    zone.role = .custom ∧ zone.displayTarget.isNone).flatMap fun zone => zone.layout.outputIds
  { layout with zones := layout.zones.filter fun output => output.id ∉ claimed }

/-- `empty_scene_zone_layout` -/
def emptySceneZoneLayout (zoneId : ZoneId) (width height : Nat) : SpatialLayout F X where
  identity := Literals.zoneLayout zoneId.uuid
  canvasWidth := width
  canvasHeight := height
  zones := []
  defaults := Literals.bilinearClamp

/-- A zone with nothing but a layout, a role and a target. -/
def freshZone (id : ZoneId) (name : String) (description : Option String)
    (layout : SpatialLayout F X) (role : ZoneRole) (target : Option (DisplayFaceTarget F)) :
        Zone F X where
  id := id
  name := name
  description := description
  layers := []
  layout := layout
  brightness := 1.0
  enabled := true
  color := none
  displayTarget := target
  role := role
  controlsVersion := 0
  layersVersion := 0

/-- `default_primary_zone` -/
def defaultPrimaryZone (id : ZoneId) (layout : SpatialLayout F X) : Zone F X :=
  freshZone id "Main" (some "The scene's main zone.") layout .primary none

/-- `align_led_zone` -/
def alignLedZone (layout : SpatialLayout F X) (customScene : Bool) : Zone F X × Bool :=
  if zone.displayTarget.isSome then (zone, false)
  else if !customScene then
    if zone.role = .primary ∧ zone.layout ≠ layout then ({ zone with layout := layout }, true)
    else (zone, false)
  else if zone.layout.canvasWidth = layout.canvasWidth ∧
      zone.layout.canvasHeight = layout.canvasHeight then (zone, false)
  else
    ({ zone with layout := { zone.layout with
        canvasWidth := layout.canvasWidth
        canvasHeight := layout.canvasHeight } }, true)

/-- `i32::try_from(slot).unwrap_or(0)`. -/
def slotOrder (slot : Nat) : Int := if slot < 2 ^ 31 then slot else 0

/-- `reset_device_zone_placement` -/
def resetDeviceZonePlacement (output : Output F X) (slot : Nat) : Output F X :=
  let col : F := (slot % 5 : Nat)
  let row : F := (slot / 5 : Nat)
  { output with
    position := ⟨min (0.2 + col * 0.15) 0.9, clamp (0.2 + row * 0.2) 0.1 0.9⟩
    size := ⟨0.2, 0.15⟩
    rotation := 0.0
    scale := 1.0
    displayOrder := slotOrder slot }

/-! ## The priority stack -/

/-- Higher priority first, and the most recent entry first among equals. -/
def StackEntry.before (a b : StackEntry) : Prop :=
  b.priority < a.priority ∨ (a.priority = b.priority ∧ b.enteredAt ≤ a.enteredAt)

instance : DecidableRel StackEntry.before := fun a b =>
  inferInstanceAs (Decidable (b.priority < a.priority ∨
    (a.priority = b.priority ∧ b.enteredAt ≤ a.enteredAt)))

/-- `PriorityStack::push`: append and sort, stably. -/
def pushStack (stack : List StackEntry) (sceneId : SceneId) (priority now : Nat) : List StackEntry :=
  List.insertionSort StackEntry.before (stack ++ [⟨sceneId, priority, now⟩])

/-- `PriorityStack::remove` -/
def removeStack (stack : List StackEntry) (sceneId : SceneId) : List StackEntry :=
  stack.filter fun entry => entry.sceneId ≠ sceneId

namespace SceneManager

/-! ## The active scene and the cache -/

variable (m : SceneManager F X)

/-- `active_scene_id` -/
def activeSceneId : Option SceneId :=
  m.priorityStack.head?.map StackEntry.sceneId

/-- `active_scene` -/
def activeScene : Option (Scene F X) :=
  m.activeSceneId.bind m.scenes.lookup

/-- Whether the active scene has an assigned face on a device, as `refresh_resolved_zones` asks. -/
def covers (deviceId : DeviceId) : Bool :=
  (m.activeScene.bind fun scene => scene.displayZoneFor deviceId).any fun zone =>
    (effectLayerId zone).isSome

/-- The zones the cache should hold. -/
def nextZones : List (Zone F X) :=
  (m.activeScene.map Scene.zones).getD [] ++ m.defaultDisplayZones.filter fun zone =>
      zone.targetDevice.any fun deviceId => !m.covers deviceId

/-- `refresh_resolved_zones` -/
def refreshResolvedZones : SceneManager F X :=
  { m with
    resolvedZonesRevision :=
      if m.resolvedZones ≠ m.nextZones then saturatingSucc m.resolvedZonesRevision
      else m.resolvedZonesRevision
    resolvedZones := m.nextZones }

/-- `invalidate_resolved_zones` -/
def invalidateResolvedZones : SceneManager F X :=
  { m with resolvedZonesRevision := saturatingSucc m.resolvedZonesRevision }

/-- `if condition { self.refresh_resolved_zones(); }` -/
def refreshIf (condition : Bool) (m : SceneManager F X) : SceneManager F X :=
  if condition then m.refreshResolvedZones else m

/-- `self.scenes.insert(id, scene)` -/
def putScene (id : SceneId) (scene : Scene F X) : SceneManager F X :=
  { m with scenes := m.scenes.insert id scene }

/-! ## Construction -/

/-- `new` -/
def new : SceneManager F X where
  scenes := ∅
  priorityStack := []
  transitionPlan := none
  transitionEpoch := 0
  activationHistory := []
  resolvedZones := []
  resolvedZonesRevision := 0
  defaultDisplayZones := []

variable (zoneId : ZoneId)

/-- `install_default_scene` -/
def installDefaultScene (layout : SpatialLayout F X) (now : Nat) : SceneManager F X :=
  if (m.scenes.lookup .default).isSome then m
  else
    let default : Scene F X :=
      { id := .default
        name := "Default"
        zones := [defaultPrimaryZone zoneId layout]
        zonesRevision := 0
        transition := ⟨1000, Literals.linearOklab⟩
        priority := 0
        unassignedBehavior := .off
        layoutId := none
        activationBrightness := none
        kind := .ephemeral
        mutationMode := .live }
    let m := m.putScene .default default
    { m with priorityStack := pushStack m.priorityStack .default 0 now }.refreshResolvedZones

/-- `with_default_layout` -/
def withDefaultLayout (layout : SpatialLayout F X) (now : Nat) : SceneManager F X :=
  new.installDefaultScene zoneId layout now

/-! ## Scenes -/

/-- `create` -/
def create (scene : Scene F X) : Except (ManagerError F) (SceneManager F X) :=
  if (m.scenes.lookup scene.id).isSome then .error (.alreadyExists scene.id)
  else if scene.validate ≠ [] then .error (.invalid scene.name scene.validate)
  else .ok (m.putScene scene.id scene)

/-- `update` -/
def update (scene : Scene F X) : Except (ManagerError F) (SceneManager F X) :=
  match m.scenes.lookup scene.id with
  | none => .error (.notFound scene.id)
  | some existing =>
      if existing.kind ≠ scene.kind then .error .kindChanged
      else if scene.id = .default ∧ scene.name ≠ existing.name then .error .defaultRenamed
      else if scene.validate ≠ [] then .error (.invalid scene.name scene.validate)
      else .ok ((m.putScene scene.id scene).refreshIf (m.activeSceneId = some scene.id))

/-- `delete` -/
def delete (id : SceneId) : Except (ManagerError F) (SceneManager F X) :=
  if id = .default then .error .defaultDeleted
  else if (m.scenes.lookup id).isNone then .error (.notFound id)
  else
    .ok { m with
      scenes := m.scenes.erase id
      priorityStack := removeStack m.priorityStack id
      activationHistory := m.activationHistory.filter (· ≠ id) }.refreshResolvedZones

/-- `activate` -/
def activate (id : SceneId) (transitionOverride : Option (TransitionSpec X)) (now : Nat) :
    Except (ManagerError F) (SceneManager F X) :=
  match m.scenes.lookup id with
  | none => .error (.notFound id)
  | some scene =>
      let spec := transitionOverride.getD scene.transition
      let m' : SceneManager F X :=
        match m.activeSceneId with
        | some fromId =>
            if 0 < spec.durationMs then
              { m with
                activationHistory := fromId :: m.activationHistory
                transitionEpoch := saturatingSucc m.transitionEpoch
                transitionPlan :=
                  some ⟨saturatingSucc m.transitionEpoch, fromId, scene.id, spec⟩ }
            else
              { m with activationHistory := fromId :: m.activationHistory, transitionPlan := none }
        | none => { m with transitionPlan := none }
      .ok { m' with
        priorityStack := pushStack m.priorityStack scene.id scene.priority now
      }.refreshResolvedZones

/-- `deactivate_current` -/
def deactivateCurrent : SceneManager F X :=
  if m.priorityStack.length = 1 ∧ m.activeSceneId = some .default then m
  else
    match m.priorityStack with
    | [] => m.refreshResolvedZones
    | entry :: rest =>
        { m with
          priorityStack := rest
          transitionPlan := none
          activationHistory := m.activationHistory.filter (· ≠ entry.sceneId)
        }.refreshResolvedZones

/-! ## Primary and display zones of the active scene -/

/-- Edit the active scene; the flag says whether to refresh. -/
def editActive (edit : Scene F X → Scene F X × Bool) : Except (ManagerError F) (SceneManager F X) :=
  match m.activeSceneId with
  | none => .error .noActiveScene
  | some id =>
      match m.scenes.lookup id with
      | none => .error .noActiveScene
      | some scene => .ok ((m.putScene id (edit scene).1).refreshIf (edit scene).2)

/-- `upsert_primary_zone`: the scene edit of `upsert_primary_zone`. -/
def upsertPrimary (layerId : SceneLayerId) (effectId : EffectId)
    (controls : Finmap fun _ : String => X) (presetId : Option Uuid)
    (fullScopeLayout : SpatialLayout F X) (scene : Scene F X) : Scene F X :=
  let layout :=
    if sceneHasCustomLedZones scene then
      (scene.primaryZone.map Zone.layout).getD (unclaimedPrimaryLayout scene fullScopeLayout)
    else fullScopeLayout
  match scene.primaryZone with
  | some primary =>
      bumpZonesRevisionIf (primary.layout ≠ layout)
        { scene with
          zones := modifyFirst (fun zone => zone.role = .primary) (fun zone =>
              { replaceEffectLayerStack zone layerId effectId controls
                  (keptBindings zone effectId) presetId with
                layout := layout
                enabled := true
                displayTarget := none
                role := .primary
                controlsVersion := saturatingSucc zone.controlsVersion })
            scene.zones }
  | none =>
      bumpZonesRevision
        { scene with
          zones := scene.zones ++
            [replaceEffectLayerStack (defaultPrimaryZone zoneId layout) layerId effectId controls ∅
              presetId] }

/-- `upsert_primary_zone` -/
def upsertPrimaryZone (layerId : SceneLayerId)
    (effectId : EffectId) (controls : Finmap fun _ : String => X) (presetId : Option Uuid)
    (fullScopeLayout : SpatialLayout F X) : Except (ManagerError F) (SceneManager F X) :=
  m.editActive fun scene =>
    (upsertPrimary zoneId layerId effectId controls presetId fullScopeLayout scene, true)

/-- The `if let Some(zone) = scene.display_zone_for_mut(..)` of the three display operations: edit
the face of a display, or add one. -/
def upsertFace (deviceId : DeviceId) (edit : Zone F X → Zone F X) (added : Zone F X)
    (scene : Scene F X) : Scene F X :=
  match scene.displayZoneFor deviceId with
  | some _ =>
      { scene with zones :=
          modifyFirst (fun zone => zone.displayDevice = some deviceId) edit scene.zones }
  | none => { scene with zones := scene.zones ++ [added] }

/-- `upsert_display_zone` -/
def upsertDisplayZone (layerId : SceneLayerId)
    (deviceId : DeviceId) (deviceName : String) (effectId : EffectId)
    (controls : Finmap fun _ : String => X) (layout : SpatialLayout F X) :
    Except (ManagerError F) (SceneManager F X) :=
  let edit (zone : Zone F X) : Zone F X :=
    { replaceEffectLayerStack zone layerId effectId controls (keptBindings zone effectId) none with
      layout := layout
      displayTarget := some (.new deviceId)
      enabled := true
      role := .display
      name := if blank zone.name then deviceName ++ " Face" else zone.name }
  let added : Zone F X :=
    replaceEffectLayerStack
      (freshZone zoneId (deviceName ++ " Face") (some ("Display face for " ++ deviceName)) layout
        .display (some (.new deviceId)))
      layerId effectId controls ∅ none
  m.editActive fun scene => (upsertFace deviceId edit added scene, true)

variable (zoneId : ZoneId) (deviceId : DeviceId) (deviceName : String) (layout : SpatialLayout F X)

/-- The zone a screen without a face gets. -/
def screenSurface : Zone F X :=
  freshZone zoneId deviceName (some ("Screen surface for " ++ deviceName)) layout .display
    (some (.new deviceId))

/-- `ensure_display_zone_surface`: the repair of a screen surface: role, target, blend mode, layout
and name. -/
def alignSurface (deviceId : DeviceId) (deviceName : String) (layout : SpatialLayout F X)
    (zone : Zone F X) : Zone F X :=
  let target := zone.displayTarget.getD (.new deviceId)
  { zone with
    role := .display
    displayTarget := some (if (effectLayerId zone).isNone ∧ target.blendMode = .replace then
        { target with blendMode := .alpha } else target)
    layout := layout
    name := if blank zone.name then deviceName else zone.name }

/-- What `ensure_display_zone_surface` counts as a structural change. -/
def surfaceChanged (layout : SpatialLayout F X) (zone : Zone F X) : Bool :=
  zone.role ≠ .display ∨ zone.displayTarget.isNone ∨
    ((effectLayerId zone).isNone ∧ zone.displayTarget.any fun t => t.blendMode = .replace) ∨
    zone.layout ≠ layout ∨ blank zone.name

/-- `ensure_display_zone_surface` -/
def ensureDisplayZoneSurface : Except (ManagerError F) (SceneManager F X) :=
  m.editActive fun scene =>
    let changed := (scene.displayZoneFor deviceId).all (surfaceChanged layout)
    (bumpZonesRevisionIf changed (upsertFace deviceId (alignSurface deviceId deviceName layout)
        (screenSurface zoneId deviceId deviceName layout) scene), changed)

/-- What `clear_display_zone_assignment` counts as a structural change. -/
def assignmentChanged (deviceId : DeviceId) (layout : SpatialLayout F X) (zone : Zone F X) : Bool :=
  zone.layers ≠ [] ∨ zone.layout ≠ layout ∨ !zone.enabled ∨
    zone.displayTarget ≠ some (.new deviceId) ∨ zone.role ≠ .display ∨ blank zone.name

/-- `clear_display_zone_assignment` -/
def clearAssignment (deviceId : DeviceId) (deviceName : String) (layout : SpatialLayout F X)
    (zone : Zone F X) : Zone F X :=
  let changed := assignmentChanged deviceId layout zone
  { zone with
    layers := []
    layout := layout
    enabled := true
    displayTarget := some (.new deviceId)
    role := .display
    name := if blank zone.name then deviceName else zone.name
    controlsVersion :=
      if changed then saturatingSucc zone.controlsVersion else zone.controlsVersion
    layersVersion := if changed then saturatingSucc zone.layersVersion else zone.layersVersion }

/-- `clear_display_zone_assignment` -/
def clearDisplayZoneAssignment : Except (ManagerError F) (SceneManager F X) :=
  m.editActive fun scene =>
    let changed := (scene.displayZoneFor deviceId).all (assignmentChanged deviceId layout)
    (bumpZonesRevisionIf changed (upsertFace deviceId (clearAssignment deviceId deviceName layout)
        (screenSurface zoneId deviceId deviceName layout) scene), changed)

/-! ## Structure of a scene -/

/-- Edit a scene that runtime actions may rewrite, and refresh if it is the active one. -/
def editScene (id : SceneId) (edit : Scene F X → Except ZoneMutationError (Scene F X)) :
    Except ZoneMutationError (SceneManager F X) :=
  match m.scenes.lookup id with
  | none => .error .sceneMissing
  | some scene =>
      match edit scene with
      | .error error => .error error
      | .ok scene => .ok ((m.putScene id scene).refreshIf (m.activeSceneId = some id))

/-- `if scene.blocks_runtime_mutation() { return Err(SnapshotLocked) }` -/
def unlocked (edit : Scene F X → Except ZoneMutationError (Scene F X)) (scene : Scene F X) :
    Except ZoneMutationError (Scene F X) :=
  if scene.blocksRuntimeMutation then .error .snapshotLocked else edit scene

variable (sceneId : SceneId) (zoneId : ZoneId)

/-- `create_zone` -/
def createZone (name : String) (color : Option String) (fallbackCanvas : Nat × Nat) :
    Except ZoneMutationError (SceneManager F X) :=
  m.editScene sceneId <| unlocked fun scene =>
    let canvas := ((scene.zones.find? fun zone => zone.displayTarget.isNone).map fun zone =>
      (zone.layout.canvasWidth, zone.layout.canvasHeight)).getD fallbackCanvas
    let zone := freshZone zoneId name none (emptySceneZoneLayout zoneId canvas.1 canvas.2) .custom none
    .ok (bumpZonesRevision { scene with zones := scene.zones ++ [{ zone with color := color }] })

/-- `delete_zone` -/
def deleteZone : Except ZoneMutationError (SceneManager F X) :=
  m.editScene sceneId <| unlocked fun scene =>
    match scene.zones.find? fun zone => zone.id = zoneId with
    | none => .error .zoneMissing
    | some zone =>
        if zone.role ≠ .custom then .error (.invalidRole zone.role)
        else .ok (bumpZonesRevision
          { scene with zones := scene.zones.eraseP fun zone => zone.id = zoneId })

/-- The zone at `index` becomes the only primary one. -/
def promote (zones : List (Zone F X)) (index : Nat) : List (Zone F X) :=
  (zones.map fun zone => if zone.role = .primary then { zone with role := .custom } else zone).modify
    index fun zone => { zone with role := .primary, displayTarget := none }

/-- `let zone = zones.remove(index); zones.insert(destination, zone);` -/
def moveZone (zones : List (Zone F X)) (index destination : Nat) : List (Zone F X) :=
  match zones[index]? with
  | none => zones
  | some zone => (zones.eraseIdx index).insertIdx destination zone

/-- The field patches of `update_zone_meta` -/
def patchZoneMeta (patch : ZoneMetaPatch F) (zone : Zone F X) : Zone F X :=
  { zone with
    name := patch.name.getD zone.name
    description := patch.description.getD zone.description
    color := patch.color.getD zone.color
    brightness := (patch.brightness.map fun b => clamp b 0.0 1.0).getD zone.brightness
    enabled := patch.enabled.getD zone.enabled }

/-- `update_zone_meta` -/
def updateZoneMeta (patch : ZoneMetaPatch F) : Except ZoneMutationError (SceneManager F X) :=
  m.editScene sceneId fun scene =>
    let roleChange : Bool := patch.makePrimary = some true
    if roleChange ∧ scene.blocksRuntimeMutation then .error .snapshotLocked
    else
      match scene.zones.findIdx? fun zone => zone.id = zoneId with
      | none => .error .zoneMissing
      | some index =>
          let destination := (patch.index.map fun requested =>
            min requested (scene.zones.length - 1)).filter (· ≠ index)
          if destination.isSome ∧ scene.blocksRuntimeMutation then .error .snapshotLocked
          else
            let zones := if roleChange then promote scene.zones index else scene.zones
            let zones := (destination.map (moveZone zones index)).getD zones
            let scene := bumpZonesRevisionIf (roleChange ∨ destination.isSome)
              { scene with zones := zones }
            .ok { scene with zones := scene.zones.modify (destination.getD index) (patchZoneMeta patch) }

/-- Drop an output from a zone. -/
def withoutOutput (zone : Zone F X) (outputId : String) : Zone F X :=
  { zone with layout := { zone.layout with
      zones := zone.layout.zones.filter fun output => output.id ≠ outputId } }

/-- `assign_output_to_zone` -/
def assignOutputToZone (output : Output F X) (placement : OutputPlacement) :
    Except ZoneMutationError (SceneManager F X) :=
  m.editScene sceneId <| unlocked fun scene =>
    match scene.zones.findIdx? fun zone => zone.id = zoneId with
    | none => .error .zoneMissing
    | some target =>
        let owner := scene.zones.findIdx? fun zone => zone.layout.zones.any fun o => o.id = output.id
        if owner = some target then
          .ok (bumpZonesRevision { scene with
            zones := scene.zones.modify target fun zone =>
              { zone with layout := { zone.layout with
                  zones := modifyFirst (fun o => o.id = output.id) (fun _ => output)
                    zone.layout.zones } } })
        else
          .ok (bumpZonesRevision { scene with
            zones := (scene.zones.map fun zone => withoutOutput zone output.id).modify target
              fun zone =>
                let slot := zone.layout.zones.length
                let moved := match placement with
                  | .autoGrid => resetDeviceZonePlacement output slot
                  | .preserve => { output with displayOrder := slotOrder slot }
                { zone with layout := { zone.layout with zones := zone.layout.zones ++ [moved] } } })

/-- `unassign_output` -/
def unassignOutput (sceneId : SceneId) (outputId : String) :
    Except ZoneMutationError (SceneManager F X) :=
  m.editScene sceneId <| unlocked fun scene =>
    if scene.zones.any fun zone => zone.layout.zones.any fun output => output.id = outputId then
      .ok (bumpZonesRevision
        { scene with zones := scene.zones.map fun zone => withoutOutput zone outputId })
    else .error .outputMissing

/-- Whether a fallback names no LED zone of the scene. -/
def danglingFallback (behavior : UnassignedBehavior) (scene : Scene F X) : Bool :=
  match behavior with
  | .fallback zoneId => !scene.zones.any fun zone => zone.id = zoneId ∧ zone.displayTarget.isNone
  | _ => false

/-- `set_unassigned_behavior`: the one structural edit that also invalidates the cache. -/
def setUnassignedBehavior (sceneId : SceneId)
    (behavior : UnassignedBehavior) : Except ZoneMutationError (SceneManager F X) :=
  match m.scenes.lookup sceneId with
  | none => .error .sceneMissing
  | some scene =>
      if scene.blocksRuntimeMutation then .error .snapshotLocked
      else if danglingFallback behavior scene then .error .zoneMissing
      else
        let m' := m.putScene sceneId (bumpZonesRevision { scene with unassignedBehavior := behavior })
        .ok (if m.activeSceneId = some sceneId then
          m'.refreshResolvedZones.invalidateResolvedZones else m')

/-- `update_zone_layout`: the stored output with the placement and look of the requested one. -/
def mergePlacement (stored incoming : Output F X) : Output F X :=
  { stored with
    name := incoming.name
    position := incoming.position
    size := incoming.size
    rotation := incoming.rotation
    scale := incoming.scale
    displayOrder := incoming.displayOrder
    orientation := incoming.orientation
    style := incoming.style }

/-- `layout.zones.into_iter().filter_map(|incoming| stored.remove(&incoming.id) ..)` -/
def mergePlacements (stored : Table String (Output F X)) : List (Output F X) → List (Output F X)
  | [] => []
  | incoming :: rest =>
      match stored.lookup incoming.id with
      | none => mergePlacements stored rest
      | some output =>
          mergePlacement output incoming :: mergePlacements (stored.erase incoming.id) rest

/-- `update_zone_layout` -/
def updateZoneLayout (layout : SpatialLayout F X) : Except ZoneMutationError (SceneManager F X) :=
  m.editScene sceneId <| unlocked fun scene =>
    match scene.zones.find? fun zone => zone.id = zoneId with
    | none => .error .zoneMissing
    | some zone =>
        if ¬ layout.outputIds.Nodup ∨ zone.layout.outputIds.toFinset ≠ layout.outputIds.toFinset then
          .error .layoutOutputMismatch
        else
          let stored : Table String (Output F X) :=
            zone.layout.zones.foldl (fun t output => t.insert output.id output) ∅
          let edit (zone : Zone F X) : Zone F X :=
            { zone with layout := { zone.layout with
                zones := mergePlacements stored layout.zones
                canvasWidth := if zone.displayTarget.isSome then layout.canvasWidth
                  else zone.layout.canvasWidth
                canvasHeight := if zone.displayTarget.isSome then layout.canvasHeight
                  else zone.layout.canvasHeight
                defaults := layout.defaults } }
          .ok (bumpZonesRevision
            { scene with zones := modifyFirst (fun zone => zone.id = zoneId) edit scene.zones })

/-- `patch_display_zone_target` -/
def patchDisplayZoneTarget (zoneId : ZoneId) (blendMode : Option BlendMode)
    (opacity : Option F) : Option (SceneManager F X) := do
  let id ← m.activeSceneId
  let scene ← m.scenes.lookup id
  let zone ← scene.zones.find? fun zone => zone.id = zoneId
  let current ← zone.displayTarget
  let next := DisplayFaceTarget.normalized
    { deviceId := current.deviceId
      blendMode := blendMode.getD current.blendMode
      opacity := opacity.getD current.opacity }
  let next := if next.blendMode.blendsWithBase then next else { next with opacity := 1.0 }
  pure (m.putScene id { scene with
    zones := modifyFirst (fun zone => zone.id = zoneId)
      (fun zone => { zone with displayTarget := some next }) scene.zones }).refreshResolvedZones

/-! ## Layers -/

/-- `mutate_zone_layers` -/
def mutateZoneLayers (expectedVersion : Option Nat)
    (mutate : List (SceneLayer F X) → Except LayerMutationError (List (SceneLayer F X))) :
    Except LayerMutationError (SceneManager F X) :=
  match m.scenes.lookup sceneId with
  | none => .error .sceneMissing
  | some scene =>
      match scene.zones.find? fun zone => zone.id = zoneId with
      | none => .error .zoneMissing
      | some zone =>
          if expectedVersion.any (· ≠ zone.layersVersion) then
            .error (.stale (expectedVersion.getD 0) zone.layersVersion)
          else
            match mutate zone.layers with
            | .error error => .error error
            | .ok layers =>
                .ok ((m.putScene sceneId { scene with
                  zones := modifyFirst (fun zone => zone.id = zoneId)
                    (fun zone => { zone with
                      layers := layers
                      layersVersion := saturatingSucc zone.layersVersion })
                    scene.zones }).refreshIf (m.activeSceneId = some sceneId))

/-- The closure of `insert_zone_layer` -/
def insertLayer (layer : SceneLayer F X) (index : Option Nat) (layers : List (SceneLayer F X)) :
    Except LayerMutationError (List (SceneLayer F X)) :=
  if layers.any fun existing => existing.id = layer.id then .error (.duplicateLayer layer.id)
  else if layer.normalized.validate ≠ [] then .error (.invalidLayer layer.normalized.validate)
  else
    match index with
    | some index =>
        if layers.length < index then .error (.invalidIndex index layers.length)
        else .ok (layers.insertIdx index layer.normalized)
    | none => .ok (layers ++ [layer.normalized])

/-- `insert_zone_layer` -/
def insertZoneLayer (layer : SceneLayer F X) (index : Option Nat) (expectedVersion : Option Nat) :
    Except LayerMutationError (SceneManager F X) :=
  m.mutateZoneLayers sceneId zoneId expectedVersion (insertLayer layer index)

/-- `replace_zone_layer_stack`: the checks of `replace_zone_layer_stack`, layer by layer. -/
def checkLayerStack (seen : List SceneLayerId) : List (SceneLayer F X) → Except LayerMutationError Unit
  | [] => .ok ()
  | layer :: rest =>
      if layer.id ∈ seen then .error (.duplicateLayer layer.id)
      else if layer.validate ≠ [] then .error (.invalidLayer layer.validate)
      else checkLayerStack (layer.id :: seen) rest

/-- `replace_zone_layer_stack` -/
def replaceZoneLayerStack (layers : List (SceneLayer F X)) :
    Except LayerMutationError (SceneManager F X) :=
  match checkLayerStack [] layers with
  | .error error => .error error
  | .ok () => m.mutateZoneLayers sceneId zoneId none fun _ => .ok layers

variable (layerId : SceneLayerId)

/-- The closure of `remove_zone_layer` -/
def removeLayer (layers : List (SceneLayer F X)) : Except LayerMutationError (List (SceneLayer F X)) :=
  if layers.any fun layer => layer.id = layerId then
    .ok (layers.eraseP fun layer => layer.id = layerId)
  else .error (.layerMissing layerId)

/-- `remove_zone_layer` -/
def removeZoneLayer (expectedVersion : Option Nat) : Except LayerMutationError (SceneManager F X) :=
  m.mutateZoneLayers sceneId zoneId expectedVersion (removeLayer layerId)

/-- `layer_ids.into_iter().map(|id| layers_by_id.remove(&id).expect(..))`, for ids that were
checked to be the layers' own. -/
def takeLayers (layers : List (SceneLayer F X)) : List SceneLayerId → List (SceneLayer F X)
  | [] => []
  | id :: ids =>
      match layers.find? fun layer => layer.id = id with
      | none => takeLayers layers ids
      | some layer => layer :: takeLayers (layers.eraseP fun layer => layer.id = id) ids

/-- The closure of `reorder_zone_layers` -/
def reorderLayers (layerIds : List SceneLayerId) (layers : List (SceneLayer F X)) :
    Except LayerMutationError (List (SceneLayer F X)) :=
  if ¬ (layers.map SceneLayer.id).Nodup ∨ ¬ layerIds.Nodup ∨
      (layers.map SceneLayer.id).toFinset ≠ layerIds.toFinset then .error .invalidOrder
  else .ok (takeLayers layers layerIds)

/-- `reorder_zone_layers` -/
def reorderZoneLayers (layerIds : List SceneLayerId) (expectedVersion : Option Nat) :
    Except LayerMutationError (SceneManager F X) :=
  m.mutateZoneLayers sceneId zoneId expectedVersion (reorderLayers layerIds)

/-- The closures of the two control patches: edit the controls and bindings of one effect layer. -/
def editEffectLayer (edit : (Finmap fun _ : String => X) → (Finmap fun _ : String => X) →
      Except LayerMutationError ((Finmap fun _ : String => X) × Finmap fun _ : String => X))
    (layers : List (SceneLayer F X)) : Except LayerMutationError (List (SceneLayer F X)) :=
  match layers.find? fun layer => layer.id = layerId with
  | none => .error (.layerMissing layerId)
  | some layer =>
      match layer.source with
      | .effect effectId controls bindings presetId =>
          match edit controls bindings with
          | .error error => .error error
          | .ok (controls, bindings) =>
              .ok (modifyFirst (fun layer => layer.id = layerId)
                (fun layer => { layer with source := .effect effectId controls bindings presetId })
                layers)
      | _ => .error (.notEffectLayer layerId)

variable (updates : Finmap fun _ : String => X)

/-- `patch_zone_layer_effect_controls` -/
def patchZoneLayerEffectControls (expectedVersion : Option Nat) :
    Except LayerMutationError (SceneManager F X) :=
  m.mutateZoneLayers sceneId zoneId expectedVersion
    (editEffectLayer layerId fun controls bindings => .ok (updates ∪ controls, bindings))

/-- `patch_zone_layer_controls_and_bindings` -/
def patchZoneLayerControlsAndBindings (clearBindings : List String) (expectedVersion : Option Nat) :
    Except LayerMutationError (SceneManager F X) :=
  m.mutateZoneLayers sceneId zoneId expectedVersion (editEffectLayer layerId fun controls bindings =>
      let bound := updates.keys.filter fun key => key ∈ bindings ∧ key ∉ clearBindings
      if bound ≠ ∅ then .error (.controlBound bound)
      else .ok (updates ∪ controls, clearBindings.foldl (fun b key => b.erase key) bindings))

/-- The shape of `patch_zone_controls`, `clear_zone_effect` and `apply_effect_to_zone`: edit one
zone of the active scene, or refuse. -/
def editActiveZone (zoneId : ZoneId) (edit : Zone F X → Option (Zone F X)) :
    Option (SceneManager F X) := do
  let id ← m.activeSceneId
  let scene ← m.scenes.lookup id
  let zone ← scene.zones.find? fun zone => zone.id = zoneId
  let zone ← edit zone
  pure (m.putScene id { scene with
    zones := modifyFirst (fun zone => zone.id = zoneId) (fun _ => zone) scene.zones
  }).refreshResolvedZones

/-- `patch_zone_controls`: merge `updates` into the only effect layer of a stack. -/
def patchOnlyEffect (layers : List (SceneLayer F X)) : Option (List (SceneLayer F X)) :=
  if layers.countP (fun layer => layer.effectId?.isSome) = 1 then
    some (modifyFirst (fun layer => layer.effectId?.isSome)
      (fun layer => { layer with
        source := match layer.source with
          | .effect effectId controls bindings presetId =>
              .effect effectId (updates ∪ controls) bindings presetId
          | source => source })
      layers)
  else none

/-- `patch_zone_controls` -/
def patchZoneControls (zoneId : ZoneId)
    (updates : Finmap fun _ : String => X) : Option (SceneManager F X) :=
  m.editActiveZone zoneId fun zone => do
    let layers ← patchOnlyEffect updates zone.layers
    pure { zone with
      layers := layers
      layersVersion := saturatingSucc zone.layersVersion
      controlsVersion := saturatingSucc zone.controlsVersion }

/-- The zone edit of `apply_effect_to_zone`. -/
def applyEffect (effectId : EffectId)
    (controls : Finmap fun _ : String => X) (presetId : Option Uuid) (zone : Zone F X) : Zone F X :=
  { replaceEffectLayerStack zone layerId effectId controls (keptBindings zone effectId) presetId with
    enabled := true
    controlsVersion := saturatingSucc zone.controlsVersion }

/-- `apply_effect_to_zone` -/
def applyEffectToZone (zoneId : ZoneId) (layerId : SceneLayerId)
    (effectId : EffectId) (controls : Finmap fun _ : String => X) (presetId : Option Uuid) :
    Except (ManagerError F) (SceneManager F X) :=
  match m.activeScene with
  | none => .error .noActiveScene
  | some scene =>
      match scene.zones.find? fun zone => zone.id = zoneId with
      | none => .error (.zoneNotActive zoneId)
      | some zone =>
          if zone.role = .display then .error (.displayFace zoneId)
          else
            let edited := m.editActiveZone zoneId fun zone =>
              some (applyEffect layerId effectId controls presetId zone)
            edited.elim (.error .noActiveScene) .ok

/-- `clear_zone_effect` -/
def clearZoneEffect (zoneId : ZoneId) : Option (SceneManager F X) :=
  m.editActiveZone zoneId fun zone =>
    some { zone with
      layers := []
      layersVersion := if zone.layers ≠ [] then saturatingSucc zone.layersVersion
        else zone.layersVersion
      controlsVersion := saturatingSucc zone.controlsVersion }

/-! ## Devices and layouts -/

/-- A scene without its faces of one display. -/
def withoutFaces (deviceId : DeviceId) (scene : Scene F X) : Scene F X :=
  { scene with zones := scene.zones.filter fun zone => zone.displayDevice ≠ some deviceId }

/-- `remove_display_zones_for_device` -/
def removeDisplayZonesForDevice (deviceId : DeviceId) : SceneManager F X × List (SceneId × Zone F X) :=
  let removed := m.scenes.values.flatMap fun scene =>
    (scene.zones.filter fun zone => zone.displayDevice = some deviceId).map fun zone =>
      (scene.id, zone)
  let m' := { m with scenes := m.scenes.mapValues (withoutFaces deviceId) }
  (m'.refreshIf (m.activeSceneId.any fun id => removed.any fun r => r.1 = id), removed)

/-- `sync_primary_zone_layout` -/
def syncPrimaryZoneLayout (layout : SpatialLayout F X) : SceneManager F X × Bool :=
  match m.activeSceneId with
  | none => (m, false)
  | some id =>
      match m.scenes.lookup id with
      | none => (m, false)
      | some scene =>
          let custom := sceneHasCustomLedZones scene
          let changed := scene.zones.any fun zone => (alignLedZone zone layout custom).2
          let scene := { scene with
            zones := scene.zones.map fun zone => (alignLedZone zone layout custom).1 }
          if changed then
            ((m.putScene id (bumpZonesRevision scene)).refreshResolvedZones, true)
          else (m.putScene id scene, false)

variable (migrations : EffectId → Option EffectId)

/-- `remap_zone_effect_ids` -/
def remapLayerEffectId (layer : SceneLayer F X) : SceneLayer F X × Nat :=
  match layer.source with
  | .effect effectId controls bindings presetId =>
      match migrations effectId with
      | some canonical => ({ layer with source := .effect canonical controls bindings presetId }, 1)
      | none => (layer, 0)
  | _ => (layer, 0)

/-- `remap_zone_effect_ids` with the version bump of its caller -/
def remapZoneEffectIds (zone : Zone F X) : Zone F X × Nat :=
  let migrated := (zone.layers.map fun layer => (remapLayerEffectId migrations layer).2).sum
  let layers := zone.layers.map fun layer => (remapLayerEffectId migrations layer).1
  if 0 < migrated then
    ({ zone with layers := layers, layersVersion := saturatingSucc zone.layersVersion }, migrated)
  else ({ zone with layers := layers }, 0)

/-- `remap_effect_ids`: the effects of the whole table and of the defaults are replaced together. -/
def remapEffectIds : SceneManager F X × Nat :=
  let count (zones : List (Zone F X)) : Nat :=
    (zones.map fun zone => (remapZoneEffectIds migrations zone).2).sum
  let remap (zones : List (Zone F X)) : List (Zone F X) :=
    zones.map fun zone => (remapZoneEffectIds migrations zone).1
  let migrated :=
    (m.scenes.values.map fun scene => count scene.zones).sum + count m.defaultDisplayZones
  let m := { m with
    scenes := m.scenes.mapValues fun scene =>
      bumpZonesRevisionIf (0 < count scene.zones) { scene with zones := remap scene.zones }
    defaultDisplayZones := remap m.defaultDisplayZones }
  (m.refreshResolvedZones.invalidateResolvedZones, migrated)

variable (layoutDeviceIds : String → Option String) (physicalDeviceIds : DeviceId → Option DeviceId)

/-- `remap_zone_device_bindings` -/
def remapZoneDeviceBindings (zone : Zone F X) : Zone F X × Nat :=
  let outputs := zone.layout.zones.map fun output =>
    { output with deviceId := (layoutDeviceIds output.deviceId).getD output.deviceId }
  let target := zone.displayTarget.map fun target =>
    { target with deviceId := (physicalDeviceIds target.deviceId).getD target.deviceId }
  ({ zone with layout := { zone.layout with zones := outputs }, displayTarget := target },
    zone.layout.zones.countP (fun output => (layoutDeviceIds output.deviceId).isSome) +
      if zone.displayTarget.any fun target => (physicalDeviceIds target.deviceId).isSome then 1
      else 0)

/-- `retargeted_display_zones` -/
def retargetedDisplayZones (physicalDeviceIds : DeviceId → Option DeviceId)
    (zones : List (Zone F X)) : List ZoneId :=
  (zones.filter fun zone => zone.displayTarget.any fun target =>
    (physicalDeviceIds target.deviceId).isSome).map Zone.id

/-- `newest_layer_millis` -/
def newestLayerMillis (zone : Zone F X) : Option Nat :=
  (zone.layers.mapM fun layer => uuidV7Millis layer.id.uuid).bind List.max?

variable (retargeted : List ZoneId)

/-- `prefer_retargeted` -/
def preferRetargeted (candidates : List (Zone F X × Nat)) : Option (Zone F X × Nat) :=
  (candidates.find? fun c => c.1.id ∈ retargeted).or candidates.head?

/-- `choose_survivor`: the zone of a group, with its position, that is kept. -/
def chooseSurvivor (group : List (Zone F X × Nat)) : Option (Zone F X × Nat) :=
  match group.filter fun c => c.1.layers ≠ [] with
  | [] => preferRetargeted retargeted group
  | [only] => some only
  | several =>
      match several.mapM fun c => newestLayerMillis c.1 with
      | none => preferRetargeted retargeted several
      | some assignedAt =>
          match several.filter fun c => newestLayerMillis c.1 = assignedAt.max? with
          | [only] => some only
          | latest => preferRetargeted retargeted latest

/-- The zones that are the face of one display, with their positions. -/
def faceGroup (zones : List (Zone F X)) (deviceId : DeviceId) : List (Zone F X × Nat) :=
  zones.zipIdx.filter fun c => c.1.displayDevice = some deviceId

/-- The zones of one display that give way to the survivor, each with the survivor's id. -/
def dropped (group : List (Zone F X × Nat)) : List (ZoneId × ZoneId) :=
  if group.length < 2 ∨ ¬ group.any fun c => c.1.id ∈ retargeted then []
  else
    match chooseSurvivor retargeted group with
    | none => []
    | some survivor => (group.filter fun c => c.2 ≠ survivor.2).map fun c => (c.1.id, survivor.1.id)

/-- The map `survivors` of `collapse_retargeted_display_zones` -/
def survivorMap (zones : List (Zone F X)) : Table ZoneId ZoneId :=
  ((zones.filterMap Zone.displayDevice).eraseDups.flatMap fun deviceId =>
    dropped retargeted (faceGroup zones deviceId)).foldl (fun t d => t.insert d.1 d.2) ∅

/-- `collapse_retargeted_display_zones` -/
def collapseRetargetedDisplayZones (scene : Scene F X) (retargeted : List ZoneId) : Scene F X × Nat :=
  if retargeted = [] then (scene, 0)
  else
    let survivors := survivorMap retargeted scene.zones
    ({ scene with
      zones := scene.zones.filter fun zone => (survivors.lookup zone.id).isNone
      unassignedBehavior := match scene.unassignedBehavior with
        | .fallback zoneId => .fallback ((survivors.lookup zoneId).getD zoneId)
        | behavior => behavior }, survivors.keys.length)

/-- The `retain` of `drop_retargeted_default_duplicates` -/
def dropDefaultDuplicates (retargeted : List ZoneId) (claimed : List DeviceId) :
    List (Zone F X) → List (Zone F X)
  | [] => []
  | zone :: rest =>
      match zone.targetDevice with
      | none => zone :: dropDefaultDuplicates retargeted claimed rest
      | some deviceId =>
          if zone.id ∉ retargeted then zone :: dropDefaultDuplicates retargeted claimed rest
          else if deviceId ∈ claimed then dropDefaultDuplicates retargeted claimed rest
          else zone :: dropDefaultDuplicates retargeted (deviceId :: claimed) rest

/-- `drop_retargeted_default_duplicates` -/
def dropRetargetedDefaultDuplicates (zones : List (Zone F X)) (retargeted : List ZoneId) :
    List (Zone F X) × Nat :=
  if retargeted = [] then (zones, 0)
  else
    let claimed := (zones.filter fun zone => zone.id ∉ retargeted).filterMap Zone.targetDevice
    let kept := dropDefaultDuplicates retargeted claimed zones
    (kept, zones.length - kept.length)

/-- `remap_device_bindings`: one scene's share of `remap_device_bindings`, with how much it
changed. -/
def remapSceneDevices (scene : Scene F X) : Scene F X × Nat :=
  let retargeted := retargetedDisplayZones physicalDeviceIds scene.zones
  let remapped := scene.zones.map (remapZoneDeviceBindings layoutDeviceIds physicalDeviceIds)
  let collapsed := collapseRetargetedDisplayZones { scene with zones := remapped.map Prod.fst } retargeted
  let migrated := (remapped.map Prod.snd).sum + collapsed.2
  (bumpZonesRevisionIf (0 < migrated) collapsed.1, migrated)

/-- `remap_device_bindings` -/
def remapDeviceBindings : SceneManager F X × Nat :=
  let remapScene := remapSceneDevices layoutDeviceIds physicalDeviceIds
  let remapped :=
    m.defaultDisplayZones.map (remapZoneDeviceBindings layoutDeviceIds physicalDeviceIds)
  let defaults := dropRetargetedDefaultDuplicates (remapped.map Prod.fst)
    (retargetedDisplayZones physicalDeviceIds m.defaultDisplayZones)
  let migrated := (m.scenes.values.map fun scene => (remapScene scene).2).sum +
    (remapped.map Prod.snd).sum + defaults.2
  let m := { m with
    scenes := m.scenes.mapValues fun scene => (remapScene scene).1
    defaultDisplayZones := defaults.1 }
  (if 0 < migrated then m.refreshResolvedZones.invalidateResolvedZones else m, migrated)

/-! ## Default display faces -/

/-- `set_default_display_zone` -/
def setDefaultDisplayZone (zone : Zone F X) : SceneManager F X :=
  match zone.targetDevice with
  | none => m
  | some deviceId =>
      let mine (existing : Zone F X) : Bool := existing.targetDevice = some deviceId
      let zones :=
        if m.defaultDisplayZones.any mine then
          modifyFirst mine (fun existing => { zone with id := existing.id }) m.defaultDisplayZones
        else m.defaultDisplayZones ++ [zone]
      { m with defaultDisplayZones := zones }.refreshResolvedZones

/-- `remove_default_display_zone` -/
def removeDefaultDisplayZone (deviceId : DeviceId) : SceneManager F X × Bool :=
  let kept := m.defaultDisplayZones.filter fun zone => zone.targetDevice ≠ some deviceId
  let removed : Bool := kept.length ≠ m.defaultDisplayZones.length
  ({ m with defaultDisplayZones := kept }.refreshIf removed, removed)

/-! ## Every operation -/

/-- A call of a mutating operation, with what it reads from the clock and the id generator. -/
inductive Op (F X : Type) where
  | create (scene : Scene F X)
  | update (scene : Scene F X)
  | delete (id : SceneId)
  | activate (id : SceneId) (transitionOverride : Option (TransitionSpec X)) (now : Nat)
  | deactivateCurrent
  | invalidateResolvedZones
  | remapEffectIds (migrations : EffectId → Option EffectId)
  | remapDeviceBindings (layoutDeviceIds : String → Option String)
      (physicalDeviceIds : DeviceId → Option DeviceId)
  | upsertPrimaryZone (zoneId : ZoneId) (layerId : SceneLayerId) (effectId : EffectId)
      (controls : Finmap fun _ : String => X) (presetId : Option Uuid)
      (fullScopeLayout : SpatialLayout F X)
  | upsertDisplayZone (zoneId : ZoneId) (layerId : SceneLayerId) (deviceId : DeviceId)
      (deviceName : String) (effectId : EffectId) (controls : Finmap fun _ : String => X)
      (layout : SpatialLayout F X)
  | ensureDisplayZoneSurface (zoneId : ZoneId) (deviceId : DeviceId) (deviceName : String)
      (layout : SpatialLayout F X)
  | clearDisplayZoneAssignment (zoneId : ZoneId) (deviceId : DeviceId) (deviceName : String)
      (layout : SpatialLayout F X)
  | createZone (sceneId : SceneId) (zoneId : ZoneId) (name : String) (color : Option String)
      (fallbackCanvas : Nat × Nat)
  | deleteZone (sceneId : SceneId) (zoneId : ZoneId)
  | updateZoneMeta (sceneId : SceneId) (zoneId : ZoneId) (patch : ZoneMetaPatch F)
  | assignOutputToZone (sceneId : SceneId) (zoneId : ZoneId) (output : Output F X)
      (placement : OutputPlacement)
  | unassignOutput (sceneId : SceneId) (outputId : String)
  | setUnassignedBehavior (sceneId : SceneId) (behavior : UnassignedBehavior)
  | updateZoneLayout (sceneId : SceneId) (zoneId : ZoneId) (layout : SpatialLayout F X)
  | patchDisplayZoneTarget (zoneId : ZoneId) (blendMode : Option BlendMode) (opacity : Option F)
  | insertZoneLayer (sceneId : SceneId) (zoneId : ZoneId) (layer : SceneLayer F X)
      (index : Option Nat) (expectedVersion : Option Nat)
  | replaceZoneLayerStack (sceneId : SceneId) (zoneId : ZoneId) (layers : List (SceneLayer F X))
  | removeZoneLayer (sceneId : SceneId) (zoneId : ZoneId) (layerId : SceneLayerId)
      (expectedVersion : Option Nat)
  | reorderZoneLayers (sceneId : SceneId) (zoneId : ZoneId) (layerIds : List SceneLayerId)
      (expectedVersion : Option Nat)
  | patchZoneLayerEffectControls (sceneId : SceneId) (zoneId : ZoneId) (layerId : SceneLayerId)
      (updates : Finmap fun _ : String => X) (expectedVersion : Option Nat)
  | patchZoneLayerControlsAndBindings (sceneId : SceneId) (zoneId : ZoneId)
      (layerId : SceneLayerId) (updates : Finmap fun _ : String => X)
      (clearBindings : List String) (expectedVersion : Option Nat)
  | removeDisplayZonesForDevice (deviceId : DeviceId)
  | patchZoneControls (zoneId : ZoneId) (updates : Finmap fun _ : String => X)
  | applyEffectToZone (zoneId : ZoneId) (layerId : SceneLayerId) (effectId : EffectId)
      (controls : Finmap fun _ : String => X) (presetId : Option Uuid)
  | clearZoneEffect (zoneId : ZoneId)
  | syncPrimaryZoneLayout (layout : SpatialLayout F X)
  | setDefaultDisplayZone (zone : Zone F X)
  | removeDefaultDisplayZone (deviceId : DeviceId)

/-- The state a fallible operation leaves behind. -/
def after {E : Type} (m : SceneManager F X) : Except E (SceneManager F X) → SceneManager F X
  | .ok m' => m'
  | .error _ => m

/-- The state an operation leaves behind, whether it succeeds or not. -/
def apply : Op F X → SceneManager F X
  | .create scene => m.after (m.create scene)
  | .update scene => m.after (m.update scene)
  | .delete id => m.after (m.delete id)
  | .activate id transitionOverride now => m.after (m.activate id transitionOverride now)
  | .deactivateCurrent => m.deactivateCurrent
  | .invalidateResolvedZones => m.invalidateResolvedZones
  | .remapEffectIds migrations => (m.remapEffectIds migrations).1
  | .remapDeviceBindings layoutDeviceIds physicalDeviceIds =>
      (m.remapDeviceBindings layoutDeviceIds physicalDeviceIds).1
  | .upsertPrimaryZone zoneId layerId effectId controls presetId layout =>
      m.after (m.upsertPrimaryZone zoneId layerId effectId controls presetId layout)
  | .upsertDisplayZone zoneId layerId deviceId deviceName effectId controls layout =>
      m.after (m.upsertDisplayZone zoneId layerId deviceId deviceName effectId controls layout)
  | .ensureDisplayZoneSurface zoneId deviceId deviceName layout =>
      m.after (m.ensureDisplayZoneSurface zoneId deviceId deviceName layout)
  | .clearDisplayZoneAssignment zoneId deviceId deviceName layout =>
      m.after (m.clearDisplayZoneAssignment zoneId deviceId deviceName layout)
  | .createZone sceneId zoneId name color fallbackCanvas =>
      m.after (m.createZone sceneId zoneId name color fallbackCanvas)
  | .deleteZone sceneId zoneId => m.after (m.deleteZone sceneId zoneId)
  | .updateZoneMeta sceneId zoneId patch => m.after (m.updateZoneMeta sceneId zoneId patch)
  | .assignOutputToZone sceneId zoneId output placement =>
      m.after (m.assignOutputToZone sceneId zoneId output placement)
  | .unassignOutput sceneId outputId => m.after (m.unassignOutput sceneId outputId)
  | .setUnassignedBehavior sceneId behavior => m.after (m.setUnassignedBehavior sceneId behavior)
  | .updateZoneLayout sceneId zoneId layout => m.after (m.updateZoneLayout sceneId zoneId layout)
  | .patchDisplayZoneTarget zoneId blendMode opacity =>
      (m.patchDisplayZoneTarget zoneId blendMode opacity).getD m
  | .insertZoneLayer sceneId zoneId layer index expectedVersion =>
      m.after (m.insertZoneLayer sceneId zoneId layer index expectedVersion)
  | .replaceZoneLayerStack sceneId zoneId layers =>
      m.after (m.replaceZoneLayerStack sceneId zoneId layers)
  | .removeZoneLayer sceneId zoneId layerId expectedVersion =>
      m.after (m.removeZoneLayer sceneId zoneId layerId expectedVersion)
  | .reorderZoneLayers sceneId zoneId layerIds expectedVersion =>
      m.after (m.reorderZoneLayers sceneId zoneId layerIds expectedVersion)
  | .patchZoneLayerEffectControls sceneId zoneId layerId updates expectedVersion =>
      m.after (m.patchZoneLayerEffectControls sceneId zoneId layerId updates expectedVersion)
  | .patchZoneLayerControlsAndBindings sceneId zoneId layerId updates clear expectedVersion =>
      m.after (m.patchZoneLayerControlsAndBindings sceneId zoneId layerId updates clear expectedVersion)
  | .removeDisplayZonesForDevice deviceId => (m.removeDisplayZonesForDevice deviceId).1
  | .patchZoneControls zoneId updates => (m.patchZoneControls zoneId updates).getD m
  | .applyEffectToZone zoneId layerId effectId controls presetId =>
      m.after (m.applyEffectToZone zoneId layerId effectId controls presetId)
  | .clearZoneEffect zoneId => (m.clearZoneEffect zoneId).getD m
  | .syncPrimaryZoneLayout layout => (m.syncPrimaryZoneLayout layout).1
  | .setDefaultDisplayZone zone => m.setDefaultDisplayZone zone
  | .removeDefaultDisplayZone deviceId => (m.removeDefaultDisplayZone deviceId).1

/-- The runs of a scene manager built either way. -/
def machine : Lib.Machine (SceneManager F X) (Op F X) where
  init m := m = new ∨ ∃ zoneId layout now, m = withDefaultLayout zoneId layout now
  step m op m' := m' = m.apply op

end SceneManager

end Hypercolor.Scenes
