import Hypercolor.DeviceBinding.Ids
import Hypercolor.DeviceSettings.Store
import Hypercolor.Lib.LastWrite
import Mathlib.Data.List.Sort

/-!
# What is known of the bindings

The persisted layouts say of each layout id which segments its outputs name. The devices seen in a
complete sweep say what they are; a USB device without a portable claim and an SMBus device can be
compared with the layout ids and the fingerprints of earlier builds.
-/

namespace Hypercolor.DeviceBinding

open Lib
open Registry (DeviceId DeviceFingerprint PortableDeviceKey)

/-! ## Descriptions -/

/-- `DriverTransportKind` -/
inductive DriverTransportKind where
  | network | usb | smbus | midi | serial | virtual | bridge
  | custom (name : String)

/-- `DeviceTopologyHint`: the topologies as far as the shapes tell them apart. -/
inductive DeviceTopologyHint where
  | display (width height : UInt32)
  | leds
deriving DecidableEq

/-- `SegmentInfo` -/
structure SegmentInfo where
  name : String
  ledCount : UInt32
  topology : DeviceTopologyHint

/-- `DeviceInfo`, with its `DeviceOrigin` -/
structure DeviceInfo where
  id : DeviceId
  name : String
  model : Option String
  driverId : String
  backendId : String
  transport : DriverTransportKind
  protocolId : Option String
  segments : List SegmentInfo

/-- `PortableSegmentShape` -/
structure SegmentShape where
  name : String
  ledCount : UInt32
deriving DecidableEq

/-- The derived order of `PortableSegmentShape` -/
def SegmentShape.le (a b : SegmentShape) : Bool :=
  a.name < b.name || a.name = b.name && a.ledCount ≤ b.ledCount

/-- `PortableBindingClass` -/
inductive BindingClass where
  | claimlessUsb (owner : String) (vendorId productId : UInt16)
  | smBus (owner protocolOrModel : String) (address : UInt16)

/-! ## Layout ids -/

variable (info : DeviceInfo)

/-- `layout_owner_id` -/
def layoutOwnerId : String :=
  let driverId := trimmed info.driverId
  sanitizeComponent (if driverId = "" then trimmed info.backendId else driverId)

/-- `DeviceLifecycleManager::layout_device_id` -/
def layoutDeviceId : String :=
  layoutOwnerId info ++ ":" ++ sanitizeComponent info.name

variable (fingerprint : DeviceFingerprint)

/-- `canonical_layout_device_id`, with a fingerprint -/
def canonicalLayoutDeviceId : String :=
  let owner := layoutOwnerId info
  let value := asciiLowercase fingerprint.text
  match stripPrefix "net:" value with
  | some value =>
    match stripPrefix (owner ++ ":") value with
    | some own => owner ++ ":" ++ sanitizeComponent own
    | none => owner ++ ":" ++ value
  | none =>
  match stripPrefix "bridge:" value with
  | some value =>
    match stripPrefix (owner ++ ":") value with
    | some own => owner ++ ":" ++ sanitizeComponent own
    | none => layoutDeviceId info
  | none =>
  match stripPrefix "usb:" value with
  | some value => owner ++ ":" ++ sanitizeComponent ((stripPrefix (owner ++ ":") value).getD value)
  | none =>
  match stripPrefix "smbus:" value with
  | some value => owner ++ ":" ++ sanitizeComponent ((stripPrefix (owner ++ ":") value).getD value)
  | none =>
  match stripPrefix (owner ++ ":") value with
  | some value => owner ++ ":" ++ sanitizeComponent value
  | none => layoutDeviceId info

/-! ## Reading fingerprints and layout ids -/

/-- `parse_usb_fingerprint` -/
def parseUsbFingerprint (value expectedOwner : String) : Option (String × UInt16 × UInt16) := do
  let rest ← stripPrefix "usb:" value
  match splitAt rest ':' with
  | [] => none
  | first :: parts =>
    match parseFourDigitHex first with
    | some vendorId =>
      match parts with
      | product :: _ :: _ => return (expectedOwner, vendorId, ← parseFourDigitHex product)
      | _ => none
    | none =>
      match parts with
      | vendor :: product :: _ :: _ =>
        return (normalizedComponent first, ← parseFourDigitHex vendor, ← parseFourDigitHex product)
      | _ => none

/-- `parse_usb_layout_id` -/
def parseUsbLayoutId (value : String) : Option (String × UInt16 × UInt16) :=
  match splitAt value ':' with
  | owner :: vendor :: product :: _ :: _ => do
    return (normalizedComponent owner, ← parseFourDigitHex vendor, ← parseFourDigitHex product)
  | _ => none

/-- `parse_smbus_fingerprint` -/
def parseSmbusFingerprint (value expectedOwner : String) : Option (String × UInt16) := do
  let rest ← stripPrefix "smbus:" value
  let (identity, address) ← rsplitOnce rest ':'
  let owner := match splitOnce identity ':' with
    | some (owner, _) =>
      if normalizedComponent owner = expectedOwner then normalizedComponent owner else expectedOwner
    | none => expectedOwner
  return (owner, ← parseHex address)

/-- `parse_smbus_layout_id` -/
def parseSmbusLayoutId (value : String) : Option (String × UInt16) := do
  let (owner, remainder) ← splitOnce value ':'
  let (_, address) ← rsplitOnce remainder ':'
  return (normalizedComponent owner, ← parseHex address)

/-! ## Shapes -/

/-- `device_shape` -/
def deviceShape : List SegmentShape :=
  let shape := (info.segments.filter fun segment =>
    0 < segment.ledCount && segment.topology = .leds).map fun segment =>
      SegmentShape.mk (normalizedComponent segment.name) segment.ledCount
  shape.insertionSort fun a b => a.le b

/-- `u32::saturating_mul` -/
def saturatingMul (a b : UInt32) : UInt32 := UInt32.ofNat (min (a.toNat * b.toNat) (2 ^ 32 - 1))

/-- `display_surface_shapes` -/
def displaySurfaceShapes : List SegmentShape :=
  info.segments.filterMap fun segment =>
    match segment.topology with
    | .display width height =>
      let name := normalizedComponent segment.name
      if name = "" then none else some ⟨name, saturatingMul width height⟩
    | .leds => none

/-! ## Devices -/

/-- `CurrentBinding` -/
structure CurrentBinding where
  layoutDeviceId : String
  physicalDeviceId : DeviceId
  fingerprint : DeviceFingerprint
  deviceInfo : DeviceInfo
  bindingClass : BindingClass
  segmentShape : List SegmentShape
  displaySurfaceShapes : List SegmentShape

/-- `CurrentBinding::from_discovery`, its `class` -/
def bindingClassOf (hasPortableClaim : Bool) : Option BindingClass :=
  let owner := normalizedComponent info.driverId
  match info.transport with
  | .usb =>
    if hasPortableClaim then none
    else do
      let (owner, vendorId, productId) ← parseUsbFingerprint fingerprint.text owner
      return .claimlessUsb owner vendorId productId
  | .smbus => do
    let (owner, address) ← parseSmbusFingerprint fingerprint.text owner
    let protocolOrModel ← info.model <|> info.protocolId
    let protocolOrModel := asciiLowercase (trimmed protocolOrModel)
    if protocolOrModel = "" then none else some (.smBus owner protocolOrModel address)
  | _ => none

/-- `from_discovery` -/
def CurrentBinding.fromDiscovery (layoutDeviceId : String) (hasPortableClaim : Bool) :
    Option CurrentBinding := do
  let bindingClass ← bindingClassOf info fingerprint hasPortableClaim
  let segmentShape := deviceShape info
  if segmentShape = [] then none
  else some {
    layoutDeviceId
    physicalDeviceId := info.id
    fingerprint
    deviceInfo := info
    bindingClass
    segmentShape
    displaySurfaceShapes := DeviceBinding.displaySurfaceShapes info }

/-- `CurrentIdentity` -/
structure CurrentIdentity where
  physicalDeviceId : DeviceId
  fingerprint : DeviceFingerprint
  driverId : String

/-- `new` -/
def CurrentIdentity.new (physicalDeviceId : DeviceId) (fingerprint : DeviceFingerprint)
    (driverId : String) : CurrentIdentity :=
  ⟨physicalDeviceId, fingerprint, asciiLowercase (trimmed driverId)⟩

/-- `unscoped_legacy_fingerprint` -/
def CurrentIdentity.unscopedLegacyFingerprint (identity : CurrentIdentity) : Option String := do
  let (space, rest) ← splitOnce identity.fingerprint.text ':'
  if space ∉ ["usb", "smbus", "net", "bridge"] then none
  else
    let (driver, key) ← splitOnce rest ':'
    if key ≠ "" ∧ identity.driverId ≠ "" ∧ driver = identity.driverId then some (space ++ ":" ++ key)
    else none

/-- A device that a sweep saw: as the registry tracks it, with the layout id that its lifecycle has for
it, and the key it claims with whether that is quarantined. -/
structure SeenDevice where
  info : DeviceInfo
  fingerprint : DeviceFingerprint
  lifecycleLayoutId : Option String
  claim : Option (PortableDeviceKey × Bool)

namespace SeenDevice

variable (device : SeenDevice)

/-- `collect_current_bindings`, its `layout_device_id` -/
def layoutId : String :=
  device.lifecycleLayoutId.getD (canonicalLayoutDeviceId device.info device.fingerprint)

/-- `collect_current_bindings`, its `current` -/
def binding : Option CurrentBinding :=
  CurrentBinding.fromDiscovery device.info device.fingerprint device.layoutId device.claim.isSome

/-- `collect_current_bindings`, its `identities` -/
def identity : CurrentIdentity :=
  .new device.info.id device.fingerprint device.info.driverId

/-- The keys that the settings of the device may stand under. -/
def settingKeys : List String :=
  (DeviceSettings.deviceSettingsKeys {
    claim := device.claim.map fun (key, quarantined) => (key.text, quarantined)
    fingerprint := some device.fingerprint.text
    rawId := device.info.id.hyphenated }).all

end SeenDevice

/-! ## Evidence -/

/-- `PersistedBindingEvidence` -/
structure PersistedBindingEvidence where
  shapes : Table String (List (List SegmentShape))
  descriptorTokens : Table String (List (List String))
  displayTargetIds : Finset DeviceId

/-- `persisted_descriptor_matches` -/
def persistedDescriptorMatches (layoutDeviceId protocolOrModel : String)
    (evidence : PersistedBindingEvidence) : Bool :=
  let required := identityTokens protocolOrModel
  required ≠ [] && (evidence.descriptorTokens.lookup layoutDeviceId).any fun observed =>
      observed ≠ [] && observed.all fun tokens => required.all (· ∈ tokens)

/-- `legacy_id_matches_class` -/
def legacyIdMatchesClass (layoutDeviceId : String) (bindingClass : BindingClass)
    (evidence : PersistedBindingEvidence) : Bool :=
  match bindingClass with
  | .claimlessUsb owner vendorId productId =>
    (parseUsbLayoutId layoutDeviceId).any (· = (owner, vendorId, productId))
  | .smBus owner protocolOrModel address =>
    (parseSmbusLayoutId layoutDeviceId).any fun legacy =>
      legacy = (owner, address) && persistedDescriptorMatches layoutDeviceId protocolOrModel evidence

/-- `binding_fingerprint_matches_class` -/
def bindingFingerprintMatchesClass (value : String) : BindingClass → Bool
  | .claimlessUsb owner vendorId productId =>
    (parseUsbFingerprint value owner).any (· = (owner, vendorId, productId))
  | .smBus owner _ address => (parseSmbusFingerprint value owner).any (· = (owner, address))

/-- `persisted_shape_matches_binding` -/
def persistedShapeMatchesBinding (persisted : List SegmentShape) (binding : CurrentBinding) : Bool :=
  persisted.filter (· ∉ binding.displaySurfaceShapes) = binding.segmentShape

/-- `exact_fingerprint_evidence_matches` -/
def exactFingerprintEvidenceMatches (legacyLayoutId key : String) (binding : CurrentBinding) : Bool :=
  bindingFingerprintMatchesClass key binding.bindingClass &&
    canonicalLayoutDeviceId binding.deviceInfo ⟨key⟩ = legacyLayoutId

/-- `plan_layout_device_id_remaps`, its `matches`: the layout id reads like one the device had: its
class, and the segments its outputs name. -/
def looksLike (evidence : PersistedBindingEvidence) (legacyId : String)
    (shapes : List (List SegmentShape)) (binding : CurrentBinding) : Bool :=
  legacyIdMatchesClass legacyId binding.bindingClass evidence &&
    shapes.all (persistedShapeMatchesBinding · binding)

end Hypercolor.DeviceBinding
