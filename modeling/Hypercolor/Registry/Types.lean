import Hypercolor.Lib.Inverse
import Mathlib.Data.Finmap
import Mathlib.Data.UInt

/-!
# The device registry: what it stores

Devices are tracked under a `DeviceId`, found by the `DeviceFingerprint` a scanner names them with,
and, where the hardware proves a stable identity, claimed under a `PortableDeviceKey`.

The fields of a description that the registry only compares (family, transport, topologies, the
remaining capabilities) are one type parameter `X` with its equality test. A `HashMap<String,
String>` of metadata is a finite map, whose equality ignores the order of insertion.
-/

namespace Hypercolor.Registry

open Hypercolor.Lib

/-! ## Identifiers -/

/-- `DeviceId`, a UUID -/
structure DeviceId where
  uuid : BitVec 128
deriving DecidableEq, Repr

/-- `DeviceFingerprint` -/
structure DeviceFingerprint where
  text : String
deriving DecidableEq, Repr

/-- `PortableDeviceKey` -/
structure PortableDeviceKey where
  text : String
deriving DecidableEq, Repr

/-- `Uuid::to_string`: the digits of a UUID in groups of 8, 4, 4, 4 and 12. -/
def DeviceId.hyphenated (id : DeviceId) : String :=
  let digit (i : Nat) : Char :=
    "0123456789abcdef".toList.getD (id.uuid.toNat / 16 ^ (31 - i) % 16) '0'
  let group (start len : Nat) : String :=
    String.ofList ((List.range len).map fun i => digit (start + i))
  "-".intercalate [group 0 8, group 8 4, group 12 4, group 16 4, group 20 12]

/-- `DeviceFingerprint::mint(FingerprintNamespace::Bridge, "registry", ..)` -/
def DeviceId.fallbackFingerprint (id : DeviceId) : DeviceFingerprint :=
  ⟨"bridge:registry:" ++ id.hyphenated⟩

/-! ## Portable identity claims -/

/-- `IpAddr` -/
inductive IpAddr where
  | v4 (bits : BitVec 32)
  | v6 (bits : BitVec 128)
deriving DecidableEq, Repr

/-- `NetworkAttachment` -/
inductive NetworkAttachment where
  | peer (addr : IpAddr)
  | cloudInventory
deriving DecidableEq, Repr

/-- `PortableIdentityClaim` -/
inductive PortableIdentityClaim where
  | usbSerial (key : PortableDeviceKey) (raw topology : String)
  | macAddress (key : PortableDeviceKey) (raw : String) (attachment : NetworkAttachment)
  | driverIdentifier (key : PortableDeviceKey) (ns raw : String) (peer : IpAddr)
deriving DecidableEq, Repr

/-- `AttachmentEvidence` -/
inductive AttachmentEvidence where
  | usbTopology (topology : String)
  | networkPeer (peer : IpAddr)
  | unavailable

namespace PortableIdentityClaim

/-- `key` -/
def key : PortableIdentityClaim → PortableDeviceKey
  | usbSerial key _ _ => key
  | macAddress key _ _ => key
  | driverIdentifier key _ _ _ => key

/-- `evidence` -/
def evidence : PortableIdentityClaim → AttachmentEvidence
  | usbSerial _ _ topology => .usbTopology topology
  | macAddress _ _ (.peer addr) => .networkPeer addr
  | macAddress _ _ .cloudInventory => .unavailable
  | driverIdentifier _ _ _ peer => .networkPeer peer

end PortableIdentityClaim

/-- `proves_distinct_from` -/
def AttachmentEvidence.provesDistinctFrom : AttachmentEvidence → AttachmentEvidence → Bool
  | .usbTopology a, .usbTopology b => a != b
  | .networkPeer a, .networkPeer b => a != b
  | _, _ => false

/-! ## Device descriptions -/

/-- `ConnectionType` -/
inductive ConnectionType where
  | usb | smBus | network | bluetooth | bridge
deriving DecidableEq, Repr

/-- `SegmentInfo` -/
structure SegmentInfo (X : Type) where
  ledCount : UInt32
  /-- Name, topology, colour format and layout hint. -/
  rest : X
deriving BEq

/-- `DeviceCapabilities` -/
structure DeviceCapabilities (X : Type) where
  ledCount : UInt32
  supportsDirect : Bool
  supportsBrightness : Bool
  hasDisplay : Bool
  maxFps : UInt32
  /-- Display resolution, colour space and features. -/
  rest : X
deriving BEq

/-- `DeviceInfo` -/
structure DeviceInfo (X : Type) where
  id : DeviceId
  name : String
  vendor : String
  model : Option String
  connectionType : ConnectionType
  driverId : String
  backendId : String
  segments : List (SegmentInfo X)
  firmwareVersion : Option String
  capabilities : DeviceCapabilities X
  /-- Family, transport and protocol. -/
  rest : X
deriving BEq

/-- `total_led_count` -/
def DeviceInfo.totalLedCount {X : Type} (info : DeviceInfo X) : UInt32 :=
  (info.segments.map (·.ledCount)).sum

/-- The `HashMap<String, String>` of scanner metadata -/
abbrev Metadata := Finmap fun _ : String => String

/-! ## User settings -/

/-- An `f32` by its bits. -/
structure F32 where
  bits : BitVec 32
deriving Repr

namespace F32

/-- The bits without the sign. -/
def magnitude (x : F32) : Nat := x.bits.toNat % 2 ^ 31

def isNaN (x : F32) : Bool := 0x7F800000 < x.magnitude

def isNegative (x : F32) : Bool := 2 ^ 31 < x.bits.toNat

def zero : F32 := ⟨0⟩

def one : F32 := ⟨0x3F800000⟩

/-- Zeros of both signs are equal, and a NaN equals nothing. -/
instance : BEq F32 where
  beq x y := !x.isNaN && !y.isNaN && (x.bits == y.bits || (x.magnitude == 0 && y.magnitude == 0))

/-- `f32::clamp(0.0, 1.0)`: a NaN stays what it is. -/
def clampUnit (x : F32) : F32 :=
  if x.isNaN then x
  else if x.isNegative then zero
  else if one.magnitude < x.magnitude then one
  else x

end F32

/-- `DisplayRotation` -/
inductive DisplayRotation where
  | deg0 | deg90 | deg180 | deg270
deriving DecidableEq, Repr

/-- `DeviceUserSettings` -/
structure DeviceUserSettings where
  name : Option String
  enabled : Bool
  brightness : F32
  displayRotation : DisplayRotation
deriving BEq

/-- `default` -/
def DeviceUserSettings.default : DeviceUserSettings where
  name := none
  enabled := true
  brightness := F32.one
  displayRotation := .deg0

/-- `PortableDeviceOutput` -/
structure PortableDeviceOutput where
  disabled : Bool
  brightness : F32
  rotation : DisplayRotation
deriving BEq

/-! ## Tracked devices -/

/-- `DeviceState` -/
inductive DeviceState where
  | known | connected | active | reconnecting | disabled
deriving DecidableEq, Repr

/-- `is_renderable` -/
def DeviceState.isRenderable : DeviceState → Bool
  | connected | active => true
  | known | reconnecting | disabled => false

/-- `DiscoveryConnectBehavior` -/
inductive DiscoveryConnectBehavior where
  | autoConnect | deferred
deriving DecidableEq, Repr

/-- `merge` -/
def DiscoveryConnectBehavior.merge : DiscoveryConnectBehavior → DiscoveryConnectBehavior →
    DiscoveryConnectBehavior
  | .deferred, .deferred => .deferred
  | _, _ => .autoConnect

/-- `TrackedDevice` -/
structure TrackedDevice (X : Type) where
  info : DeviceInfo X
  observedName : String
  state : DeviceState
  connectBehavior : DiscoveryConnectBehavior
  userSettings : DeviceUserSettings
  revision : UInt64

/-- `DiscoveredDevice` -/
structure DiscoveredDevice (X : Type) where
  fingerprint : DeviceFingerprint
  info : DeviceInfo X
  metadata : Metadata
  connectBehavior : DiscoveryConnectBehavior
  claim : Option PortableIdentityClaim

/-- `u64::saturating_add(1)` -/
def saturatingSucc (n : UInt64) : UInt64 := if n + 1 = 0 then n else n + 1

/-- `bump_device_revision` -/
def bumpDeviceRevision {X : Type} (entry : TrackedDevice X) : TrackedDevice X :=
  { entry with revision := saturatingSucc entry.revision }

/-- `apply_user_settings_to_info` -/
def applyUserSettingsToInfo {X : Type} (info : DeviceInfo X) (settings : DeviceUserSettings) :
    DeviceInfo X :=
  { info with name := settings.name.getD info.name }

/-- The shape test of `preserve_resolved_device_shape` -/
def DeviceInfo.hasShape {X : Type} (info : DeviceInfo X) : Bool :=
  !info.segments.isEmpty || 0 < info.capabilities.ledCount || info.capabilities.hasDisplay

/-- `preserve_resolved_device_shape` -/
def preserveResolvedDeviceShape {X : Type} (incoming existing : DeviceInfo X) : DeviceInfo X :=
  if incoming.hasShape || !existing.hasShape then incoming
  else { incoming with segments := existing.segments, capabilities := existing.capabilities }

section

variable {X : Type} (info existing : DeviceInfo X) (settings : DeviceUserSettings)

@[simp] theorem applyUserSettingsToInfo_id : (applyUserSettingsToInfo info settings).id = info.id := rfl

@[simp] theorem preserveResolvedDeviceShape_id :
    (preserveResolvedDeviceShape info existing).id = info.id := by
  unfold preserveResolvedDeviceShape
  split_ifs <;> rfl

@[simp] theorem bumpDeviceRevision_info (entry : TrackedDevice X) :
    (bumpDeviceRevision entry).info = entry.info := rfl

end

/-! ## Collisions and refusals -/

/-- `PortableKeyCollision` -/
structure PortableKeyCollision where
  key : PortableDeviceKey
  existingDevice : DeviceId
  existingFingerprint : DeviceFingerprint
  existingClaim : PortableIdentityClaim
  incomingFingerprint : DeviceFingerprint
  incomingClaim : PortableIdentityClaim

/-- `PortableRebindError` -/
inductive PortableRebindError where
  | unknownDevice
  | unclaimed
  | targetActive

end Hypercolor.Registry
