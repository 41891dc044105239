import Hypercolor.Lib.Machine
import Hypercolor.Registry.Types

/-!
# The device registry: its operations

Every operation takes the write lock for its whole body, so a run of the registry is a sequence of
these functions, each applied to the maps the one before left. `Event.apply` is that step and
`machine` the runs from an empty registry.

The identifier a fresh UUID would get is part of the event: `fresh` is the draw that ends the loop
`while devices.contains_key(&id) { id = DeviceId::new() }`, hence not in use. Preparing output
settings keeps the write lock until they are published or dropped, so the two are one operation.
-/

namespace Hypercolor.Registry

open Hypercolor.Lib

/-! ## State -/

/-- `RegistryInner` -/
structure RegistryInner (X : Type) where
  devices : Table DeviceId (TrackedDevice X)
  fingerprints : Table DeviceFingerprint DeviceId
  idToFingerprint : Table DeviceId DeviceFingerprint
  metadataById : Table DeviceId Metadata
  claimsById : Table DeviceId PortableIdentityClaim
  portableKeyPins : Table PortableDeviceKey DeviceFingerprint
  quarantinedKeys : Finset PortableDeviceKey
  collisionLog : List PortableKeyCollision

/-- `DeviceRegistry` -/
structure DeviceRegistry (X : Type) where
  inner : RegistryInner X
  generation : UInt64

variable {X : Type}

/-- `new` -/
def DeviceRegistry.new : DeviceRegistry X where
  inner := ⟨∅, ∅, ∅, ∅, ∅, ∅, ∅, []⟩
  generation := 0

/-- `bump_generation`, whose `fetch_add` wraps: publish a changed state. -/
def DeviceRegistry.commit (r : DeviceRegistry X) (inner : RegistryInner X) : DeviceRegistry X :=
  ⟨inner, r.generation + 1⟩

namespace RegistryInner

/-! ## Portable keys -/

/-- `holder_present_claim` in `resolve_portable_fingerprint`: the device under the pinned
fingerprint, with its claim, when it is renderable. -/
def presentHolder (inner : RegistryInner X) (pinned : DeviceFingerprint) :
    Option (DeviceId × PortableIdentityClaim) :=
  (inner.fingerprints.lookup pinned).bind fun holderId =>
    (inner.devices.lookup holderId).bind fun holder =>
      if holder.state.isRenderable then
        (inner.claimsById.lookup holderId).map fun held => (holderId, held)
      else none

/-- The effect of a proven collision in `resolve_portable_fingerprint` and
`report_portable_key_collision` -/
def quarantine (inner : RegistryInner X) (collision : PortableKeyCollision) : RegistryInner X :=
  { inner with
    collisionLog := inner.collisionLog ++ [collision]
    quarantinedKeys := insert collision.key inner.quarantinedKeys
    portableKeyPins := inner.portableKeyPins.erase collision.key }

/-- `resolve_portable_fingerprint` -/
def resolvePortableFingerprint (inner : RegistryInner X) (fingerprint : DeviceFingerprint) :
    Option PortableIdentityClaim → RegistryInner X × DeviceFingerprint
  | none => (inner, fingerprint)
  | some claim =>
    if claim.key ∈ inner.quarantinedKeys then (inner, fingerprint)
    else
      match inner.portableKeyPins.lookup claim.key with
      | none =>
        ({ inner with portableKeyPins := inner.portableKeyPins.insert claim.key fingerprint },
            fingerprint)
      | some pinned =>
        if pinned = fingerprint then (inner, fingerprint)
        else
          match inner.presentHolder pinned with
          | some (holderId, held) =>
            if held.evidence.provesDistinctFrom claim.evidence then
              (inner.quarantine
                { key := claim.key
                  existingDevice := holderId
                  existingFingerprint := pinned
                  existingClaim := held
                  incomingFingerprint := fingerprint
                  incomingClaim := claim }, fingerprint)
            else (inner, pinned)
          | none => (inner, pinned)

variable (inner : RegistryInner X) (id : DeviceId)

/-- The first half of `store_portable_claim`, which drops the pin of a key that changed -/
def forgetChangedKey (claim : PortableIdentityClaim) : RegistryInner X :=
  match inner.claimsById.lookup id with
  | some previous =>
    if previous.key ≠ claim.key then
      { inner with portableKeyPins := inner.portableKeyPins.erase previous.key }
    else inner
  | none => inner

/-- The second half of `store_portable_claim`, which pins a key that has no pin -/
def pinUnpinned (claim : PortableIdentityClaim) : RegistryInner X :=
  if claim.key ∉ inner.quarantinedKeys ∧ claim.key ∉ inner.portableKeyPins then
    match inner.idToFingerprint.lookup id with
    | some canonical =>
      { inner with portableKeyPins := inner.portableKeyPins.insert claim.key canonical }
    | none => inner
  else inner

/-- `store_portable_claim` -/
def storePortableClaim : Option PortableIdentityClaim → RegistryInner X
  | none => inner
  | some claim =>
    let stored := (inner.forgetChangedKey id claim).pinUnpinned id claim
    { stored with claimsById := stored.claimsById.insert id claim }

/-! ## Memory modules -/

/-- `SmBusDramIdentity` -/
structure SmBusDramIdentity where
  busPath : String
  controllerKind : String
  firmwareName : String
  ledCount : UInt32
deriving DecidableEq

/-- `smbus_dram_identity` -/
def smbusDramIdentity (info : DeviceInfo X) (metadata : Metadata) : Option SmBusDramIdentity :=
  if info.connectionType ≠ .smBus ∨ info.model ≠ some "asus_aura_smbus_dram" then none
  else do
    let controllerKind ← metadata.lookup "controller_kind"
    if controllerKind ≠ "dram" then none
    else do
      let busPath ← metadata.lookup "bus_path"
      let firmwareName ← (metadata.lookup "firmware_name").or info.firmwareVersion
      some ⟨busPath, controllerKind, firmwareName, info.totalLedCount⟩

/-- Whether a tracked device is in use as the memory module looked for. -/
def isDramMatch (inner : RegistryInner X) (target : SmBusDramIdentity) (id : DeviceId)
    (tracked : TrackedDevice X) : Bool :=
  (tracked.state.isRenderable || tracked.state = .reconnecting) &&
    match inner.metadataById.lookup id with
    | some metadata => smbusDramIdentity tracked.info metadata = some target
    | none => false

/-- `find_single_renderable_smbus_dram_match`: the module, when exactly one device matches. -/
def findSingleRenderableSmbusDramMatch (inner : RegistryInner X) (info : DeviceInfo X)
    (metadata : Metadata) : Option DeviceId :=
  (smbusDramIdentity info metadata).bind fun target =>
    match inner.devices.entries.filter fun e => inner.isDramMatch target e.1 e.2 with
    | [e] => some e.1
    | _ => none

end RegistryInner

/-! ## Adding -/

/-- What an observation makes of the entry it refreshes. -/
def TrackedDevice.rediscovered (entry : TrackedDevice X) (id : DeviceId) (info : DeviceInfo X)
    (connectBehavior : DiscoveryConnectBehavior) : TrackedDevice X :=
  let updated := preserveResolvedDeviceShape { info with id } entry.info
  { entry with
    info := applyUserSettingsToInfo updated entry.userSettings
    observedName := updated.name
    connectBehavior }

variable (inner : RegistryInner X) (id : DeviceId)

/-- Metadata is replaced only by metadata. -/
def RegistryInner.putMetadata (metadata : Metadata) : RegistryInner X :=
  if metadata = ∅ then inner
  else { inner with metadataById := inner.metadataById.insert id metadata }

/-- What `add_entry` writes about a device, new or known -/
def RegistryInner.writeEntry (entry : TrackedDevice X)
    (metadata : Metadata) (claim : Option PortableIdentityClaim) : RegistryInner X :=
  (({ inner with devices := inner.devices.insert id entry }).putMetadata
    id metadata).storePortableClaim id claim

/-- The first half of the memory module branch of `add_entry` -/
def RegistryInner.moveFingerprint (fingerprint : DeviceFingerprint) : RegistryInner X :=
  let vacated :=
    match inner.idToFingerprint.lookup id with
    | some previous => inner.fingerprints.erase previous
    | none => inner.fingerprints
  { inner with
    idToFingerprint := inner.idToFingerprint.insert id fingerprint
    fingerprints := vacated.insert fingerprint id }

/-- The new entry of `add_entry` -/
def TrackedDevice.discovered (info : DeviceInfo X) (id : DeviceId)
    (connectBehavior : DiscoveryConnectBehavior) : TrackedDevice X where
  info := { info with id }
  observedName := info.name
  state := .known
  connectBehavior
  userSettings := DeviceUserSettings.default
  revision := 0

variable (inner : RegistryInner X) (info : DeviceInfo X) (fingerprint : DeviceFingerprint)
  (metadata : Metadata) (connectBehavior : DiscoveryConnectBehavior)
  (claim : Option PortableIdentityClaim) (fresh : DeviceId)

/-- The last part of `add_entry`, which inserts a new device -/
def RegistryInner.insertNew : RegistryInner X × DeviceId :=
  let id := if info.id ∈ inner.devices then fresh else info.id
  (({ inner with
      fingerprints := inner.fingerprints.insert fingerprint id
      idToFingerprint := inner.idToFingerprint.insert id fingerprint }).writeEntry
    id (.discovered info id connectBehavior) metadata claim, id)

/-- `add_entry` past the lookup by fingerprint -/
def RegistryInner.addUnknown : RegistryInner X × DeviceId :=
  match inner.findSingleRenderableSmbusDramMatch info metadata with
  | some existingId =>
    let moved := inner.moveFingerprint existingId fingerprint
    match moved.devices.lookup existingId with
    | some entry =>
      (moved.writeEntry existingId
        (bumpDeviceRevision (entry.rediscovered existingId info connectBehavior)) metadata claim,
        existingId)
    | none =>
      { moved with
        fingerprints := moved.fingerprints.erase fingerprint
        idToFingerprint := moved.idToFingerprint.erase existingId }.insertNew
        info fingerprint metadata connectBehavior claim fresh
  | none => inner.insertNew info fingerprint metadata connectBehavior claim fresh

namespace DeviceRegistry

/-- `entry_changed`, `fingerprint_changed`, `metadata_changed` and `claim_changed` in `add_entry`:
whether an observation says anything new about an entry. -/
def observationChanges [BEq X] (inner : RegistryInner X) (id : DeviceId)
    (entry updated : TrackedDevice X) (fingerprint : DeviceFingerprint) (metadata : Metadata)
    (claim : Option PortableIdentityClaim) : Bool :=
  (entry.info != updated.info || entry.observedName != updated.observedName
      || entry.connectBehavior != updated.connectBehavior)
    || inner.idToFingerprint.lookup id != some fingerprint
    || (metadata != ∅ && inner.metadataById.lookup id != some metadata)
    || claim.any fun claim => inner.claimsById.lookup id != some claim

variable [BEq X] (r : DeviceRegistry X) (info : DeviceInfo X)

/-- `add_entry` -/
def addEntry (rawFingerprint : DeviceFingerprint) (metadata : Metadata)
    (connectBehavior : DiscoveryConnectBehavior) (claim : Option PortableIdentityClaim)
    (fresh : DeviceId) : DeviceRegistry X × DeviceId :=
  let (inner, fingerprint) := r.inner.resolvePortableFingerprint rawFingerprint claim
  match inner.fingerprints.lookup fingerprint with
  | some existingId =>
    match inner.devices.lookup existingId with
    | some entry =>
      let updated := entry.rediscovered existingId info connectBehavior
      if observationChanges inner existingId entry updated fingerprint metadata claim then
        (r.commit ({ inner with
            idToFingerprint := inner.idToFingerprint.insert existingId fingerprint }.writeEntry
          existingId (bumpDeviceRevision updated) metadata claim), existingId)
      else ({ r with inner }, existingId)
    | none =>
      let (added, id) := { inner with fingerprints := inner.fingerprints.erase fingerprint }.addUnknown
        info fingerprint metadata connectBehavior claim fresh
      (r.commit added, id)
  | none =>
    let (added, id) := inner.addUnknown info fingerprint metadata connectBehavior claim fresh
    (r.commit added, id)

/-- `add_discovered` -/
def addDiscovered (r : DeviceRegistry X) (discovered : DiscoveredDevice X)
    (fresh : DeviceId) : DeviceRegistry X × DeviceId :=
  r.addEntry discovered.info discovered.fingerprint discovered.metadata
    discovered.connectBehavior discovered.claim fresh

/-- `add_with_fingerprint_and_metadata` -/
def addWithFingerprintAndMetadata (fingerprint : DeviceFingerprint) (metadata : Metadata)
    (fresh : DeviceId) :
    DeviceRegistry X × DeviceId :=
  r.addEntry info fingerprint metadata .autoConnect none fresh

/-- `add_with_fingerprint` -/
def addWithFingerprint (fingerprint : DeviceFingerprint) (fresh : DeviceId) :
    DeviceRegistry X × DeviceId :=
  r.addWithFingerprintAndMetadata info fingerprint ∅ fresh

/-- `add` -/
def add (fresh : DeviceId) : DeviceRegistry X × DeviceId :=
  r.addWithFingerprint info info.id.fallbackFingerprint fresh

/-! ## Removing and updating -/

variable (r : DeviceRegistry X) (id : DeviceId)

/-- `remove` -/
def remove : DeviceRegistry X × Option (TrackedDevice X) :=
  match r.inner.devices.lookup id with
  | some device =>
    let vacated :=
      match r.inner.idToFingerprint.lookup id with
      | some fingerprint => r.inner.fingerprints.erase fingerprint
      | none => r.inner.fingerprints.erase id.fallbackFingerprint
    (r.commit { r.inner with
      devices := r.inner.devices.erase id
      idToFingerprint := r.inner.idToFingerprint.erase id
      fingerprints := Table.retain (fun _ mapped => mapped ≠ id) vacated
      metadataById := r.inner.metadataById.erase id
      claimsById := r.inner.claimsById.erase id }, some device)
  | none => (r, none)

/-- Replace the entry of a tracked device. -/
def commitEntry (entry : TrackedDevice X) : DeviceRegistry X :=
  r.commit { r.inner with devices := r.inner.devices.insert id (bumpDeviceRevision entry) }

/-- `set_state` -/
def setState (state : DeviceState) : DeviceRegistry X × Bool :=
  match r.inner.devices.lookup id with
  | some entry =>
    if entry.state = state then (r, true)
    else (r.commitEntry id { entry with state }, true)
  | none => (r, false)

/-- `update_info` -/
def updateInfo (info : DeviceInfo X) : DeviceRegistry X × Option (TrackedDevice X) :=
  match r.inner.devices.lookup id with
  | some entry =>
    let updated := { entry with
      observedName := info.name
      info := applyUserSettingsToInfo { info with id } entry.userSettings }
    (r.commitEntry id updated, some (bumpDeviceRevision updated))
  | none => (r, none)

/-- `refresh_discovered` -/
def refreshDiscovered (discovered : DiscoveredDevice X) : DeviceRegistry X × Option (TrackedDevice X) :=
  if discovered.info.id ≠ id
      ∨ r.inner.idToFingerprint.lookup id ≠ some discovered.fingerprint then (r, none)
  else
    match r.inner.devices.lookup id with
    | some entry =>
      if entry.info.backendId ≠ discovered.info.backendId
          ∨ entry.info.driverId ≠ discovered.info.driverId then (r, none)
      else
        let updated := bumpDeviceRevision { entry with
          observedName := discovered.info.name
          info := applyUserSettingsToInfo discovered.info entry.userSettings
          connectBehavior := discovered.connectBehavior }
        (r.commit { r.inner with
          devices := r.inner.devices.insert id updated
          metadataById := r.inner.metadataById.insert id discovered.metadata }, some updated)
    | none => (r, none)

/-- `update_user_settings` -/
def updateUserSettings (name : Option String)
    (enabled : Option Bool) (brightness : Option F32) (displayRotation : Option DisplayRotation) :
    DeviceRegistry X × Option (TrackedDevice X) :=
  match r.inner.devices.lookup id with
  | some entry =>
    let settings : DeviceUserSettings :=
      { name := name.or entry.userSettings.name
        enabled := enabled.getD entry.userSettings.enabled
        brightness := (brightness.map F32.clampUnit).getD entry.userSettings.brightness
        displayRotation := displayRotation.getD entry.userSettings.displayRotation }
    let updated := { entry with
      userSettings := settings
      info := { entry.info with name := name.getD entry.info.name } }
    (r.commitEntry id updated, some (bumpDeviceRevision updated))
  | none => (r, none)

/-- `replace_user_settings` -/
def replaceUserSettings (r : DeviceRegistry X) (id : DeviceId)
    (settings : DeviceUserSettings) : DeviceRegistry X × Option (TrackedDevice X) :=
  match r.inner.devices.lookup id with
  | some entry =>
    let info := applyUserSettingsToInfo { entry.info with name := entry.observedName } settings
    if entry.userSettings == settings && entry.info == info then (r, some entry)
    else
      let updated := { entry with userSettings := settings, info }
      (r.commitEntry id updated, some (bumpDeviceRevision updated))
  | none => (r, none)

/-! ## Portable identities -/

variable (r : DeviceRegistry X)

/-- `seed_portable_identity` -/
def seedPortableIdentity (pins : Table PortableDeviceKey DeviceFingerprint)
    (quarantinedKeys : Finset PortableDeviceKey) : DeviceRegistry X :=
  { r with
    inner := { r.inner with
      -- the pins of this session win over the seeded ones
      portableKeyPins := r.inner.portableKeyPins ∪ pins
      quarantinedKeys := r.inner.quarantinedKeys ∪ quarantinedKeys } }

/-- `drain_portable_key_collisions` -/
def drainPortableKeyCollisions : DeviceRegistry X × List PortableKeyCollision :=
  ({ r with inner := { r.inner with collisionLog := [] } }, r.inner.collisionLog)

/-- `report_portable_key_collision` -/
def reportPortableKeyCollision (deviceId : DeviceId)
    (fingerprint : DeviceFingerprint) (existingClaim incomingClaim : PortableIdentityClaim) :
    DeviceRegistry X :=
  if existingClaim.key ∈ r.inner.quarantinedKeys then r
  else
    r.commit (r.inner.quarantine
      { key := existingClaim.key
        existingDevice := deviceId
        existingFingerprint := fingerprint
        existingClaim
        incomingFingerprint := fingerprint
        incomingClaim })

variable (inner : RegistryInner X)

/-- The removal of the replaced predecessor in `rebind_portable_identity` -/
def retirePredecessor (holderId : DeviceId) : RegistryInner X :=
  { inner with
    devices := inner.devices.erase holderId
    idToFingerprint := inner.idToFingerprint.erase holderId
    fingerprints := Table.retain (fun _ mapped => mapped ≠ holderId) inner.fingerprints
    metadataById := inner.metadataById.erase holderId
    claimsById := inner.claimsById.erase holderId }

/-- The predecessor, if there is one, is retired. -/
def retired : Option DeviceId → RegistryInner X
  | some holderId => retirePredecessor inner holderId
  | none => inner

/-- `inherited_settings` in `rebind_portable_identity` -/
def inheritSettings (entry : TrackedDevice X) (inherited : Option DeviceUserSettings) : TrackedDevice X :=
  match inherited with
  | some settings =>
    { entry with
      userSettings := settings
      info := applyUserSettingsToInfo { entry.info with name := entry.observedName } settings }
  | none => entry

/-- The other device that holds a fingerprint. -/
def otherHolder (id : DeviceId) (fingerprint : DeviceFingerprint) : Option DeviceId :=
  (inner.fingerprints.lookup fingerprint).filter (· ≠ id)

/-- `rebind_portable_identity` -/
def rebindPortableIdentity (r : DeviceRegistry X) (id : DeviceId) (fingerprint : DeviceFingerprint) :
    DeviceRegistry X × Except PortableRebindError (TrackedDevice X) :=
  match r.inner.devices.lookup id with
  | none => (r, .error .unknownDevice)
  | some entry =>
    match r.inner.claimsById.lookup id with
    | none => (r, .error .unclaimed)
    | some claim =>
      let holder := otherHolder r.inner id fingerprint
      let replaced := holder.bind r.inner.devices.lookup
      if replaced.any (·.state.isRenderable) then (r, .error .targetActive)
      else
        let moved := (retired r.inner holder).moveFingerprint id fingerprint
        let updated := bumpDeviceRevision (inheritSettings entry (replaced.map (·.userSettings)))
        (r.commit { moved with
          portableKeyPins := moved.portableKeyPins.insert claim.key fingerprint
          devices := moved.devices.insert id updated }, .ok updated)

/-! ## Output settings -/

/-- The `PortableDeviceOutput` built in `prepare_output_settings` -/
def observedOutput (entry : TrackedDevice X) : PortableDeviceOutput where
  disabled := !entry.userSettings.enabled
  brightness := entry.userSettings.brightness
  rotation := entry.userSettings.displayRotation

/-- The checks of `prepare_output_settings` -/
def prepareOutputSettings (expected desired : Table DeviceId PortableDeviceOutput) :
    Except String Unit := do
  expected.entries.forM fun ⟨id, expected⟩ =>
    match inner.devices.lookup id with
    | none => throw "device disappeared before output restoration"
    | some entry =>
      if observedOutput entry == expected then pure ()
      else throw "device output changed before setup restoration"
  if desired.keys.all (· ∈ expected) then pure () else throw "unobserved output target"

variable (devices : Table DeviceId (TrackedDevice X))

/-- One round of the loop of `PreparedDeviceOutput::publish`, with `changed`. -/
def publishOutput (changed : Bool) (id : DeviceId)
    (desired : PortableDeviceOutput) : Table DeviceId (TrackedDevice X) × Bool :=
  match devices.lookup id with
  | none => (devices, changed)
  | some entry =>
    if entry.userSettings.enabled != desired.disabled && entry.userSettings.brightness ==
      desired.brightness
        && entry.userSettings.displayRotation = desired.rotation then (devices, changed)
    else
      (devices.insert id (bumpDeviceRevision { entry with
        userSettings := { entry.userSettings with
          enabled := !desired.disabled
          brightness := desired.brightness
          displayRotation := desired.rotation } }), true)

/-- `PreparedDeviceOutput::publish` -/
def publishAll : List (Sigma fun _ : DeviceId => PortableDeviceOutput) →
      Table DeviceId (TrackedDevice X) × Bool :=
  List.foldl (fun acc e => publishOutput acc.1 acc.2 e.1 e.2) (devices, false)

/-- `prepare_output_settings` followed by `PreparedDeviceOutput::publish` -/
def publishOutputSettings (r : DeviceRegistry X)
    (expected desired : Table DeviceId PortableDeviceOutput) :
    DeviceRegistry X × Except String Unit :=
  match prepareOutputSettings r.inner expected desired with
  | .error e => (r, .error e)
  | .ok () =>
    let (devices, changed) := publishAll r.inner.devices desired.entries
    (if changed then r.commit { r.inner with devices } else r, .ok ())

end DeviceRegistry

/-! ## Runs -/

/-- One call of the registry. -/
inductive Event (X : Type) where
  | add (info : DeviceInfo X) (fresh : DeviceId)
  | addWithFingerprintAndMetadata (info : DeviceInfo X) (fingerprint : DeviceFingerprint)
      (metadata : Metadata) (fresh : DeviceId)
  | addDiscovered (discovered : DiscoveredDevice X) (fresh : DeviceId)
  | remove (id : DeviceId)
  | setState (id : DeviceId) (state : DeviceState)
  | updateInfo (id : DeviceId) (info : DeviceInfo X)
  | refreshDiscovered (id : DeviceId) (discovered : DiscoveredDevice X)
  | updateUserSettings (id : DeviceId) (name : Option String) (enabled : Option Bool)
      (brightness : Option F32) (displayRotation : Option DisplayRotation)
  | replaceUserSettings (id : DeviceId) (settings : DeviceUserSettings)
  | seedPortableIdentity (pins : Table PortableDeviceKey DeviceFingerprint)
      (quarantinedKeys : Finset PortableDeviceKey)
  | drainPortableKeyCollisions
  | reportPortableKeyCollision (deviceId : DeviceId) (fingerprint : DeviceFingerprint)
      (existingClaim incomingClaim : PortableIdentityClaim)
  | rebindPortableIdentity (id : DeviceId) (fingerprint : DeviceFingerprint)
  | publishOutputSettings (expected desired : Table DeviceId PortableDeviceOutput)

namespace Event

/-- A freshly drawn id is not in use. -/
def Allowed (r : DeviceRegistry X) : Event X → Prop
  | add _ fresh => fresh ∉ r.inner.devices
  | addWithFingerprintAndMetadata _ _ _ fresh => fresh ∉ r.inner.devices
  | addDiscovered _ fresh => fresh ∉ r.inner.devices
  | _ => True

instance (r : DeviceRegistry X) : (e : Event X) → Decidable (e.Allowed r)
  | add _ fresh => inferInstanceAs (Decidable (fresh ∉ r.inner.devices))
  | addWithFingerprintAndMetadata _ _ _ fresh =>
    inferInstanceAs (Decidable (fresh ∉ r.inner.devices))
  | addDiscovered _ fresh => inferInstanceAs (Decidable (fresh ∉ r.inner.devices))
  | remove _ | setState _ _ | updateInfo _ _ | refreshDiscovered _ _
  | updateUserSettings _ _ _ _ _ | replaceUserSettings _ _ | seedPortableIdentity _ _
  | drainPortableKeyCollisions | reportPortableKeyCollision _ _ _ _
  | rebindPortableIdentity _ _ | publishOutputSettings _ _ => inferInstanceAs (Decidable True)

/-- The registry after a call. -/
def apply [BEq X] (r : DeviceRegistry X) : Event X → DeviceRegistry X
  | add info fresh => (r.add info fresh).1
  | addWithFingerprintAndMetadata info fingerprint metadata fresh =>
    (r.addWithFingerprintAndMetadata info fingerprint metadata fresh).1
  | addDiscovered discovered fresh => (r.addDiscovered discovered fresh).1
  | remove id => (r.remove id).1
  | setState id state => (r.setState id state).1
  | updateInfo id info => (r.updateInfo id info).1
  | refreshDiscovered id discovered => (r.refreshDiscovered id discovered).1
  | updateUserSettings id name enabled brightness displayRotation =>
    (r.updateUserSettings id name enabled brightness displayRotation).1
  | replaceUserSettings id settings => (r.replaceUserSettings id settings).1
  | seedPortableIdentity pins quarantinedKeys => r.seedPortableIdentity pins quarantinedKeys
  | drainPortableKeyCollisions => r.drainPortableKeyCollisions.1
  | reportPortableKeyCollision deviceId fingerprint existingClaim incomingClaim =>
    r.reportPortableKeyCollision deviceId fingerprint existingClaim incomingClaim
  | rebindPortableIdentity id fingerprint => (r.rebindPortableIdentity id fingerprint).1
  | publishOutputSettings expected desired => (r.publishOutputSettings expected desired).1

end Event

/-- Any sequence of calls, from an empty registry. -/
def machine (X : Type) [BEq X] : Machine (DeviceRegistry X) (Event X) where
  init r := r = .new
  step r e r' := e.Allowed r ∧ r' = e.apply r

end Hypercolor.Registry
