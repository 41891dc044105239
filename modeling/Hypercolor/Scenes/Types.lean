import Mathlib.Data.Finmap
import Mathlib.Order.Lattice
import Mathlib.Data.Rat.Defs
import Mathlib.Algebra.Order.Ring.Rat
import Mathlib.Tactic

/-!
# Scenes, zones, outputs and layers

`hypercolor-types`: `scene.rs`, `layer.rs` and the parts of `spatial.rs` the scene manager reads.

* `F` stands for `f32`: values that are copied, compared, clamped and combined by operations the
  model leaves arbitrary (`Scalar`). Comparison is a linear order, so a NaN is not a value here and
  the two zeros are one.
* `X` stands for data that is only copied and compared as a whole: a control value or binding, an
  easing curve, the hardware side of an output, and so on.
* `Scene::validate` keeps its errors as data: a constructor holds what the message shows.
* Left out: a scene's description, metadata and enabled flag, which nothing here reads.
-/

namespace Hypercolor.Scenes

/-- `f32`, as far as this code uses it. -/
class Scalar (F : Type) extends LinearOrder F, OfScientific F, NatCast F, Add F, Mul F, Neg F where
  isFinite : F → Bool

instance : Scalar ℚ where
  isFinite _ := true

/-- The opaque values the code writes down itself. -/
class Literals (X : Type) where
  /-- `FitMode::Cover`. -/
  cover : X
  /-- Identity of the layout a fresh zone gets, from `empty_scene_zone_layout`. -/
  zoneLayout : BitVec 128 → X
  /-- Bilinear sampling, clamped edges. -/
  bilinearClamp : X
  /-- Linear easing in Oklab. -/
  linearOklab : X

instance : Literals Unit where
  cover := ()
  zoneLayout _ := ()
  bilinearClamp := ()
  linearOklab := ()

/-- `f32::clamp` -/
def clamp {F : Type} [Scalar F] (value lo hi : F) : F := max lo (min value hi)

def u64Max : Nat := 2 ^ 64 - 1

/-- `saturating_add(1)` -/
def saturatingSucc (n : Nat) : Nat := min (n + 1) u64Max

/-! ## Identifiers -/

abbrev Uuid := BitVec 128

/-- `uuid_v7_millis`: the creation time a version 7 UUID carries. -/
def uuidV7Millis (uuid : Uuid) : Option Nat :=
  if (uuid.toNat / 2 ^ 76) % 16 ≠ 7 then none else some (uuid.toNat / 2 ^ 80)

structure SceneId where
  uuid : Uuid
deriving DecidableEq

/-- `SceneId::DEFAULT` -/
def SceneId.default : SceneId := ⟨0⟩

structure ZoneId where
  uuid : Uuid
deriving DecidableEq

structure SceneLayerId where
  uuid : Uuid
deriving DecidableEq

structure DeviceId where
  uuid : Uuid
deriving DecidableEq

structure EffectId where
  uuid : Uuid
deriving DecidableEq

/-- `char::is_whitespace`. -/
def isWhitespace (c : Char) : Bool :=
  let n := c.toNat
  (9 ≤ n ∧ n ≤ 13) ∨ n = 32 ∨ n = 0x85 ∨ n = 0xA0 ∨ n = 0x1680 ∨ (0x2000 ≤ n ∧ n ≤ 0x200A) ∨
    n = 0x2028 ∨ n = 0x2029 ∨ n = 0x202F ∨ n = 0x205F ∨ n = 0x3000

/-- `s.trim().is_empty()`. -/
def blank (s : String) : Bool := s.toList.all isWhitespace

/-! ## Outputs and layouts -/

structure NormalizedPosition (F : Type) where
  x : F
  y : F
deriving DecidableEq

/-- `Output`: one device's placement on a zone's canvas. `hardware` is everything a placement edit
cannot touch besides the device (channel, topology, LED mapping, attachment); `style` is the rest of
what it can (shape, shape preset, sampling mode, edge behavior, brightness). -/
structure Output (F X : Type) where
  id : String
  name : String
  deviceId : String
  hardware : X
  position : NormalizedPosition F
  size : NormalizedPosition F
  rotation : F
  scale : F
  displayOrder : Int
  orientation : X
  style : X
deriving DecidableEq

/-- `SpatialLayout`: `identity` is the layout's id, name, description and version, `defaults` its
sampling mode and edge behavior. -/
structure SpatialLayout (F X : Type) where
  identity : X
  canvasWidth : Nat
  canvasHeight : Nat
  zones : List (Output F X)
  defaults : X
deriving DecidableEq

/-- The ids of the outputs a layout places. -/
def SpatialLayout.outputIds {F X : Type} (layout : SpatialLayout F X) : List String :=
  layout.zones.map Output.id

/-! ## Layers -/

/-- `BlendMode` -/
inductive BlendMode where
  | replace
  | alpha
  | add
  | screen
  | multiply
  | overlay
  | softLight
  | colorDodge
  | difference
  | tint
  | lumaReveal
deriving DecidableEq

/-- `blends_with_base` -/
def BlendMode.blendsWithBase (mode : BlendMode) : Bool := mode ≠ .replace

structure MediaPlayback (F X : Type) where
  speed : F
  loopMode : X
  startOffsetSecs : F
  autoPlay : Bool
deriving DecidableEq

/-- `LayerSource` -/
inductive LayerSource (F X : Type) where
  | effect (effectId : EffectId) (controls : Finmap fun _ : String => X)
      (controlBindings : Finmap fun _ : String => X) (presetId : Option Uuid)
  | media (assetId : Uuid) (playback : MediaPlayback F X)
  | screenRegion (viewport : X)
  | webViewport (url : String) (viewport : X) (render : X)
  | colorFill (rgba : F × F × F × F)
deriving DecidableEq

structure LayerTransform (F X : Type) where
  anchor : NormalizedPosition F
  scale : F × F
  rotation : F
  fit : X
deriving DecidableEq

structure LayerAdjust (F : Type) where
  brightness : F
  saturation : F
  hueShift : F
  tint : F × F × F × F
  tintStrength : F
  contrast : F
deriving DecidableEq

/-- `BindingSource` -/
inductive BindingSource (F X : Type) where
  | audioBand (band : X)
  | sensor (name : String)
  | time (rateHz : F) (wave : X)
  | constant (value : F)
deriving DecidableEq

structure BindingMap (F : Type) where
  sourceMin : F
  sourceMax : F
  targetMin : F
  targetMax : F
  clamp : Bool
deriving DecidableEq

structure LayerBinding (F X : Type) where
  target : X
  source : BindingSource F X
  map : BindingMap F
deriving DecidableEq

/-- `SceneLayer` -/
structure SceneLayer (F X : Type) where
  id : SceneLayerId
  name : Option String
  source : LayerSource F X
  blend : BlendMode
  opacity : F
  transform : LayerTransform F X
  adjust : LayerAdjust F
  bindings : List (LayerBinding F X)
  enabled : Bool
deriving DecidableEq

/-- What is wrong with a layer; each names the field it was found in. -/
inductive LayerError where
  | notFinite (field : String)
  | outOfRange (field : String)
  | negativeStartOffset
  | emptyUrl
  | emptySourceRange

section Layers

variable {F X : Type} [Scalar F] [Literals X]

/-- `normalize_f32` -/
def normalizeF32 (value lo hi fallback : F) : F :=
  if Scalar.isFinite value then clamp value lo hi else fallback

/-- `validate_finite` -/
def validateFinite (value : F) (field : String) : List LayerError :=
  if Scalar.isFinite value then [] else [.notFinite field]

/-- `validate_range` -/
def validateRange (value lo hi : F) (field : String) : List LayerError :=
  if Scalar.isFinite value ∧ ¬ (lo ≤ value ∧ value ≤ hi) then [.outOfRange field] else []

/-- The four channels of a color with their field names. -/
def channels (field : String) (rgba : F × F × F × F) : List (F × String) :=
  [(rgba.1, field ++ "[0]"), (rgba.2.1, field ++ "[1]"), (rgba.2.2.1, field ++ "[2]"),
    (rgba.2.2.2, field ++ "[3]")]

/-- `validate` -/
def MediaPlayback.validate (playback : MediaPlayback F X) : List LayerError :=
  validateFinite playback.speed "media.playback.speed" ++
  validateFinite playback.startOffsetSecs "media.playback.start_offset_secs" ++
  if Scalar.isFinite playback.startOffsetSecs ∧ playback.startOffsetSecs < (0.0 : F) then
    [.negativeStartOffset] else []

/-- `validate` -/
def LayerSource.validate : LayerSource F X → List LayerError
  | .media _ playback => playback.validate
  | .webViewport url _ _ => if blank url then [.emptyUrl] else []
  | .colorFill rgba => (channels "source.rgba" rgba).flatMap fun c =>
      validateFinite c.1 c.2 ++ validateRange c.1 0.0 1.0 c.2
  | .effect _ _ _ _ | .screenRegion _ => []

/-- `normalized` -/
def LayerTransform.normalized (t : LayerTransform F X) : LayerTransform F X where
  anchor := ⟨normalizeF32 t.anchor.x 0.0 1.0 0.5, normalizeF32 t.anchor.y 0.0 1.0 0.5⟩
  scale := (normalizeF32 t.scale.1 0.01 16.0 1.0, normalizeF32 t.scale.2 0.01 16.0 1.0)
  rotation := if Scalar.isFinite t.rotation then t.rotation else 0.0
  fit := t.fit

/-- `validate` -/
def LayerTransform.validate (t : LayerTransform F X) : List LayerError :=
  validateFinite t.anchor.x "transform.anchor.x" ++
  validateFinite t.anchor.y "transform.anchor.y" ++
  validateFinite t.scale.1 "transform.scale[0]" ++
  validateFinite t.scale.2 "transform.scale[1]" ++
  validateFinite t.rotation "transform.rotation" ++
  validateRange t.scale.1 0.01 16.0 "transform.scale[0]" ++
  validateRange t.scale.2 0.01 16.0 "transform.scale[1]"

/-- `default` -/
def LayerTransform.default : LayerTransform F X where
  anchor := ⟨0.5, 0.5⟩
  scale := (1.0, 1.0)
  rotation := 0.0
  fit := Literals.cover

/-- `normalized` -/
def LayerAdjust.normalized (a : LayerAdjust F) : LayerAdjust F where
  brightness := normalizeF32 a.brightness 0.0 4.0 1.0
  saturation := normalizeF32 a.saturation 0.0 4.0 1.0
  hueShift := if Scalar.isFinite a.hueShift then a.hueShift else 0.0
  tint :=
    (normalizeF32 a.tint.1 0.0 1.0 1.0, normalizeF32 a.tint.2.1 0.0 1.0 1.0,
      normalizeF32 a.tint.2.2.1 0.0 1.0 1.0, normalizeF32 a.tint.2.2.2 0.0 1.0 1.0)
  tintStrength := normalizeF32 a.tintStrength 0.0 1.0 0.0
  contrast := normalizeF32 a.contrast (-1.0) 1.0 0.0

/-- `validate` -/
def LayerAdjust.validate (a : LayerAdjust F) : List LayerError :=
  validateFinite a.brightness "adjust.brightness" ++
  validateFinite a.saturation "adjust.saturation" ++
  validateFinite a.hueShift "adjust.hue_shift" ++
  validateRange a.brightness 0.0 4.0 "adjust.brightness" ++
  validateRange a.saturation 0.0 4.0 "adjust.saturation" ++
  ((channels "adjust.tint" a.tint).flatMap fun c => validateFinite c.1 c.2) ++
  validateFinite a.tintStrength "adjust.tint_strength" ++
  validateFinite a.contrast "adjust.contrast" ++
  validateRange a.tintStrength 0.0 1.0 "adjust.tint_strength" ++
  validateRange a.contrast (-1.0) 1.0 "adjust.contrast"

/-- `default` -/
def LayerAdjust.default : LayerAdjust F where
  brightness := 1.0
  saturation := 1.0
  hueShift := 0.0
  tint := (1.0, 1.0, 1.0, 1.0)
  tintStrength := 0.0
  contrast := 0.0

/-- `validate` -/
def BindingSource.validate : BindingSource F X → List LayerError
  | .time rateHz _ => validateFinite rateHz "binding.source.rate_hz"
  | .constant value => validateFinite value "binding.source.value"
  | .audioBand _ | .sensor _ => []

/-- `validate` -/
def BindingMap.validate (m : BindingMap F) : List LayerError :=
  validateFinite m.sourceMin "binding.map.source_min" ++
  validateFinite m.sourceMax "binding.map.source_max" ++
  validateFinite m.targetMin "binding.map.target_min" ++
  validateFinite m.targetMax "binding.map.target_max" ++
  if m.sourceMin = m.sourceMax then [.emptySourceRange] else []

namespace SceneLayer

/-- `from_effect` -/
def fromEffect (id : SceneLayerId) (effectId : EffectId)
    (controls controlBindings : Finmap fun _ : String => X) (presetId : Option Uuid) :
        SceneLayer F X where
  id := id
  name := none
  source := .effect effectId controls controlBindings presetId
  blend := .replace
  opacity := 1.0
  transform := .default
  adjust := .default
  bindings := []
  enabled := true

/-- `normalized` -/
def normalized (layer : SceneLayer F X) : SceneLayer F X :=
  { layer with
    opacity := normalizeF32 layer.opacity 0.0 1.0 1.0
    transform := layer.transform.normalized
    adjust := layer.adjust.normalized }

/-- `validate` -/
def validate (layer : SceneLayer F X) : List LayerError :=
  validateFinite layer.opacity "opacity" ++ layer.source.validate ++ layer.transform.validate ++
    layer.adjust.validate ++
    layer.bindings.flatMap fun binding => binding.source.validate ++ binding.map.validate

omit [Literals X] in
@[simp] theorem normalized_id (layer : SceneLayer F X) : layer.normalized.id = layer.id := rfl

end SceneLayer

end Layers

/-- The effect a layer runs, if it runs one. -/
def SceneLayer.effectId? {F X : Type} (layer : SceneLayer F X) : Option EffectId :=
  match layer.source with
  | .effect effectId _ _ _ => some effectId
  | _ => none

/-! ## Zones and scenes -/

/-- `ZoneRole` -/
inductive ZoneRole where
  | custom
  | primary
  | display
deriving DecidableEq

/-- `DisplayFaceTarget` -/
structure DisplayFaceTarget (F : Type) where
  deviceId : DeviceId
  blendMode : BlendMode
  opacity : F
deriving DecidableEq

/-- `Zone` -/
structure Zone (F X : Type) where
  id : ZoneId
  name : String
  description : Option String
  layers : List (SceneLayer F X)
  layout : SpatialLayout F X
  brightness : F
  enabled : Bool
  color : Option String
  displayTarget : Option (DisplayFaceTarget F)
  role : ZoneRole
  controlsVersion : Nat
  layersVersion : Nat
deriving DecidableEq

/-- `UnassignedBehavior` -/
inductive UnassignedBehavior where
  | off
  | hold
  | fallback (zone : ZoneId)
deriving DecidableEq

/-- `SceneKind` -/
inductive SceneKind where
  | named
  | ephemeral
deriving DecidableEq

/-- `SceneMutationMode` -/
inductive SceneMutationMode where
  | live
  | snapshot
deriving DecidableEq

/-- `TransitionSpec`; `curve` is its easing and color space. -/
structure TransitionSpec (X : Type) where
  durationMs : Nat
  curve : X

/-- `Scene` -/
structure Scene (F X : Type) where
  id : SceneId
  name : String
  zones : List (Zone F X)
  zonesRevision : Nat
  transition : TransitionSpec X
  priority : Nat
  unassignedBehavior : UnassignedBehavior
  layoutId : Option String
  activationBrightness : Option F
  kind : SceneKind
  mutationMode : SceneMutationMode

section Targets

variable {F : Type} [Scalar F]

/-- `new` -/
def DisplayFaceTarget.new (deviceId : DeviceId) : DisplayFaceTarget F where
  deviceId := deviceId
  blendMode := .alpha
  opacity := 1.0

/-- `normalized` -/
def DisplayFaceTarget.normalized (target : DisplayFaceTarget F) : DisplayFaceTarget F :=
  { target with opacity := clamp target.opacity 0.0 1.0 }

end Targets

/-- The device a zone's display target names. -/
def Zone.targetDevice {F X : Type} (zone : Zone F X) : Option DeviceId :=
  zone.displayTarget.map DisplayFaceTarget.deviceId

/-- The display a zone is the face of: it needs the role as well as the target. -/
def Zone.displayDevice {F X : Type} (zone : Zone F X) : Option DeviceId :=
  if zone.role = .display then zone.targetDevice else none

/-- `effect_layer_id` -/
def effectLayerId {F X : Type} (zone : Zone F X) : Option EffectId :=
  zone.layers.findSome? SceneLayer.effectId?

namespace Scene

variable {F X : Type}

/-- `primary_zone` -/
def primaryZone (scene : Scene F X) : Option (Zone F X) :=
  scene.zones.find? fun zone => zone.role = .primary

/-- `display_zone_for` -/
def displayZoneFor (scene : Scene F X) (deviceId : DeviceId) : Option (Zone F X) :=
  scene.zones.find? fun zone => zone.displayDevice = some deviceId

/-- `blocks_runtime_mutation` -/
def blocksRuntimeMutation (scene : Scene F X) : Bool :=
  scene.kind = .named ∧ scene.mutationMode = .snapshot

end Scene

end Hypercolor.Scenes
