import Hypercolor.Registry.Operations

/-!
# The device registry: what its operations leave alone

Resolving a fingerprint touches the pins, the quarantine and the collision log only; storing a claim
touches the pins and the claims; writing an entry touches no index. `Added` lists what `addEntry`
can do, with the state and the answer of each branch, under the invariant `Indexed` of the indexes.
-/

namespace Hypercolor.Registry

open Hypercolor.Lib Option AList DeviceRegistry

variable {X : Type}

variable {s s' : RegistryInner X} {id id' : DeviceId} {metadata : Metadata}

namespace RegistryInner

section Frames

variable (s : RegistryInner X) (fp : DeviceFingerprint) (id : DeviceId) (metadata : Metadata)
  (entry : TrackedDevice X) (claim : Option PortableIdentityClaim)

lemma resolvePortableFingerprint_eq : ∃ pins quarantined log,
    (s.resolvePortableFingerprint fp claim).1 = { s with
        portableKeyPins := pins, quarantinedKeys := quarantined, collisionLog := log } := by
  unfold resolvePortableFingerprint quarantine
  split
  · exact ⟨_, _, _, rfl⟩
  · split_ifs
    · exact ⟨_, _, _, rfl⟩
    · split
      · exact ⟨_, _, _, rfl⟩
      · split_ifs
        · exact ⟨_, _, _, rfl⟩
        · split
          · split_ifs <;> exact ⟨_, _, _, rfl⟩
          · exact ⟨_, _, _, rfl⟩

@[simp] theorem resolve_devices : (s.resolvePortableFingerprint fp claim).1.devices = s.devices := by
  obtain ⟨_, _, _, h⟩ := resolvePortableFingerprint_eq s fp claim
  rw [h]

@[simp] theorem resolve_fingerprints :
    (s.resolvePortableFingerprint fp claim).1.fingerprints = s.fingerprints := by
  obtain ⟨_, _, _, h⟩ := resolvePortableFingerprint_eq s fp claim
  rw [h]

@[simp] theorem resolve_byId :
    (s.resolvePortableFingerprint fp claim).1.idToFingerprint = s.idToFingerprint ∧
      (s.resolvePortableFingerprint fp claim).1.metadataById = s.metadataById ∧
      (s.resolvePortableFingerprint fp claim).1.claimsById = s.claimsById := by
  obtain ⟨_, _, _, h⟩ := resolvePortableFingerprint_eq s fp claim
  rw [h]
  exact ⟨rfl, rfl, rfl⟩

/-- Matching a memory module looks at the devices and their metadata. -/
lemma resolve_dramMatch (info : DeviceInfo X) :
    (s.resolvePortableFingerprint fp claim).1.findSingleRenderableSmbusDramMatch info
      metadata = s.findSingleRenderableSmbusDramMatch info metadata := by
  obtain ⟨_, _, _, h⟩ := resolvePortableFingerprint_eq s fp claim
  rw [h]
  rfl

lemma forgetChangedKey_eq (held : PortableIdentityClaim) : ∃ pins,
    s.forgetChangedKey id held = { s with portableKeyPins := pins } := by
  unfold forgetChangedKey
  split
  · split_ifs <;> exact ⟨_, rfl⟩
  · exact ⟨_, rfl⟩

lemma pinUnpinned_eq (held : PortableIdentityClaim) : ∃ pins,
    s.pinUnpinned id held = { s with portableKeyPins := pins } := by
  unfold pinUnpinned
  split_ifs
  · split <;> exact ⟨_, rfl⟩
  · exact ⟨_, rfl⟩

/-- The claims after a claim was stored: the new one, if there is one. -/
def storedClaims : Table DeviceId PortableIdentityClaim :=
  match claim with
  | some held => s.claimsById.insert id held
  | none => s.claimsById

lemma storePortableClaim_eq : ∃ pins, s.storePortableClaim id claim =
      { s with portableKeyPins := pins, claimsById := s.storedClaims id claim } := by
  unfold storePortableClaim storedClaims
  rcases claim with _ | held
  · exact ⟨_, rfl⟩
  · obtain ⟨_, hf⟩ := forgetChangedKey_eq s id held
    obtain ⟨pins, hp⟩ := pinUnpinned_eq (s.forgetChangedKey id held) id held
    refine ⟨pins, ?_⟩
    simp only [hp]
    rw [hf]

/-- The metadata after an observation. -/
def storedMetadata : Table DeviceId Metadata :=
  if metadata = ∅ then s.metadataById else s.metadataById.insert id metadata

lemma putMetadata_eq :
    s.putMetadata id metadata = { s with metadataById := s.storedMetadata id metadata } := by
  unfold putMetadata storedMetadata
  split_ifs <;> rfl

lemma writeEntry_eq : ∃ pins, s.writeEntry id entry metadata claim = { s with
        devices := s.devices.insert id entry
        metadataById := s.storedMetadata id metadata
        portableKeyPins := pins
        claimsById := s.storedClaims id claim } := by
  unfold writeEntry
  rw [putMetadata_eq]
  exact storePortableClaim_eq _ id claim

@[simp] theorem writeEntry_devices :
    (s.writeEntry id entry metadata claim).devices = s.devices.insert id entry := by
  obtain ⟨_, h⟩ := writeEntry_eq s id metadata entry claim
  rw [h]

@[simp] theorem writeEntry_fingerprints :
    (s.writeEntry id entry metadata claim).fingerprints = s.fingerprints := by
  obtain ⟨_, h⟩ := writeEntry_eq s id metadata entry claim
  rw [h]

@[simp] theorem writeEntry_idToFingerprint :
    (s.writeEntry id entry metadata claim).idToFingerprint = s.idToFingerprint := by
  obtain ⟨_, h⟩ := writeEntry_eq s id metadata entry claim
  rw [h]

@[simp] theorem writeEntry_metadataById :
    (s.writeEntry id entry metadata claim).metadataById = s.storedMetadata id metadata := by
  obtain ⟨_, h⟩ := writeEntry_eq s id metadata entry claim
  rw [h]

@[simp] theorem writeEntry_claimsById :
    (s.writeEntry id entry metadata claim).claimsById = s.storedClaims id claim := by
  obtain ⟨_, h⟩ := writeEntry_eq s id metadata entry claim
  rw [h]

@[simp] theorem writeEntry_quarantinedKeys :
    (s.writeEntry id entry metadata claim).quarantinedKeys = s.quarantinedKeys := by
  obtain ⟨_, h⟩ := writeEntry_eq s id metadata entry claim
  rw [h]

variable {s id metadata}

lemma mem_storedClaims {claim : Option PortableIdentityClaim}
    (h : id' ∈ s.storedClaims id claim) : id' = id ∨ id' ∈ s.claimsById := by
  rcases claim with _ | held
  · exact .inr h
  · exact (mem_insert _).mp h

lemma mem_storedMetadata (h : id' ∈ s.storedMetadata id metadata) : id' = id ∨ id' ∈ s.metadataById := by
  unfold storedMetadata at h
  split_ifs at h
  · exact .inr h
  · exact (mem_insert _).mp h

end Frames

/-! ## The invariant of the indexes -/

/-- The two indexes are inverse to each other over the tracked devices, every device carries its own
key, and metadata and claims are kept for tracked devices only. -/
structure Indexed (s : RegistryInner X) : Prop where
  inverse : Inverse s.fingerprints s.idToFingerprint
  tracked : ∀ id, id ∈ s.idToFingerprint ↔ id ∈ s.devices
  own_id : ∀ id entry, s.devices.lookup id = some entry → entry.info.id = id
  metadata : ∀ id, id ∈ s.metadataById → id ∈ s.devices
  claims : ∀ id, id ∈ s.claimsById → id ∈ s.devices

namespace Indexed

variable {fp : DeviceFingerprint}

section

variable (h : s.Indexed)
include h

lemma congr (hd : s'.devices = s.devices) (hf : s'.fingerprints = s.fingerprints)
    (hi : s'.idToFingerprint = s.idToFingerprint) (hm : s'.metadataById = s.metadataById)
    (hc : s'.claimsById = s.claimsById) : s'.Indexed := by
  constructor
  · rw [hf, hi]
    exact h.inverse
  · rw [hi, hd]
    exact h.tracked
  · rw [hd]
    exact h.own_id
  · rw [hm, hd]
    exact h.metadata
  · rw [hc, hd]
    exact h.claims

lemma resolve (fp : DeviceFingerprint) (claim : Option PortableIdentityClaim) :
    (s.resolvePortableFingerprint fp claim).1.Indexed :=
  h.congr (by simp) (by simp) (by simp) (by simp) (by simp)

/-- A fingerprint in the index names a tracked device. -/
lemma mem_of_fingerprint (hi : s.fingerprints.lookup fp = some id) : id ∈ s.devices :=
  (h.tracked id).mp (Table.mem_of_lookup ((h.inverse _ _).mp hi))

lemma exists_entry (hi : s.fingerprints.lookup fp = some id) : ∃ entry,
    s.devices.lookup id = some entry :=
  Table.exists_lookup (h.mem_of_fingerprint hi)

/-- A tracked device is held under a fingerprint. -/
lemma exists_fingerprint (hi : id ∈ s.devices) : ∃ fp, s.idToFingerprint.lookup id = some fp :=
  Table.exists_lookup ((h.tracked id).mpr hi)

lemma lookup_eq_none (hi : id ∉ s.devices) : s.idToFingerprint.lookup id = none :=
  AList.lookup_eq_none.mpr fun hm => hi ((h.tracked id).mp hm)

end

end Indexed

end RegistryInner

/-! ## What an observation does -/

/-- What `addEntry` makes of an observation that resolved to `fingerprint` in the state `s`. -/
inductive Added (r : DeviceRegistry X) (s : RegistryInner X) (fingerprint : DeviceFingerprint)
    (info : DeviceInfo X) (metadata : Metadata) (connectBehavior : DiscoveryConnectBehavior)
    (claim : Option PortableIdentityClaim) (fresh : DeviceId) :
    DeviceRegistry X × DeviceId → Prop where
  | unchanged {id : DeviceId} (hid : s.fingerprints.lookup fingerprint = some id)
      (hclaim : ∀ held, claim = some held → s.claimsById.lookup id = some held) :
      Added r s fingerprint info metadata connectBehavior claim fresh ({ r with inner := s }, id)
  | updated {id : DeviceId} {entry : TrackedDevice X}
      (hid : s.fingerprints.lookup fingerprint = some id)
      (hentry : s.devices.lookup id = some entry) :
      Added r s fingerprint info metadata connectBehavior claim fresh
        (r.commit ({ s with idToFingerprint := s.idToFingerprint.insert id fingerprint }.writeEntry id
          (bumpDeviceRevision (entry.rediscovered id info connectBehavior)) metadata claim), id)
  | moved {id : DeviceId} {entry : TrackedDevice X}
      (hfree : s.fingerprints.lookup fingerprint = none)
      (hmatch : s.findSingleRenderableSmbusDramMatch info metadata = some id)
      (hentry : s.devices.lookup id = some entry) :
      Added r s fingerprint info metadata connectBehavior claim fresh
        (r.commit ((s.moveFingerprint id fingerprint).writeEntry id
          (bumpDeviceRevision (entry.rediscovered id info connectBehavior)) metadata claim), id)
  | inserted (hfree : s.fingerprints.lookup fingerprint = none)
      (hmatch : s.findSingleRenderableSmbusDramMatch info metadata = none) :
      Added r s fingerprint info metadata connectBehavior claim fresh
        (r.commit (s.insertNew info fingerprint metadata connectBehavior claim fresh).1,
          (s.insertNew info fingerprint metadata connectBehavior claim fresh).2)

/-- One device is put under a fingerprint. -/
structure Placed (s s' : RegistryInner X) (id : DeviceId) (fingerprint : DeviceFingerprint) : Prop where
  devices : s'.devices = s.devices
  ids : s'.idToFingerprint = s.idToFingerprint.insert id fingerprint
  claims : s'.claimsById = s.claimsById
  pins : s'.portableKeyPins = s.portableKeyPins
  quarantined : s'.quarantinedKeys = s.quarantinedKeys

/-- Past its resolution an observation changes nothing, or places one device and writes it. -/
lemma Added.placed {r : DeviceRegistry X} {fingerprint : DeviceFingerprint} {info : DeviceInfo X}
    {connectBehavior : DiscoveryConnectBehavior} {claim : Option PortableIdentityClaim} {fresh : DeviceId}
    {added : DeviceRegistry X × DeviceId}
    (h : Added r s fingerprint info metadata connectBehavior claim fresh added) : added.1.inner = s ∨
      ∃ (s' : RegistryInner X) (entry : TrackedDevice X),
        added.1.inner = s'.writeEntry added.2 entry metadata claim ∧
          Placed s s' added.2 fingerprint := by
  cases h with
  | unchanged hid hclaim => exact .inl rfl
  | updated hid hentry | moved hfree hmatch hentry | inserted hfree hmatch =>
    exact .inr ⟨_, _, rfl, rfl, rfl, rfl, rfl, rfl⟩

/-- A memory module that matches is a tracked device. -/
lemma RegistryInner.exists_of_dramMatch {info : DeviceInfo X}
    (h : s.findSingleRenderableSmbusDramMatch info metadata = some id) :
    ∃ entry, s.devices.lookup id = some entry := by
  obtain ⟨t, -, h⟩ := bind_eq_some_iff.mp h
  split at h
  · rename_i e hf
    obtain rfl := some.inj h
    have hm : e ∈ s.devices.entries.filter fun e => s.isDramMatch t e.1 e.2 := by
      rw [hf]
      exact List.mem_singleton_self e
    exact ⟨e.2, mem_lookup_iff.mpr (List.mem_of_mem_filter hm)⟩
  · cases h

variable {fp : DeviceFingerprint}

section AddEntry

variable (r : DeviceRegistry X) (info : DeviceInfo X) (raw : DeviceFingerprint)
  (metadata : Metadata) (cb : DiscoveryConnectBehavior) (claim : Option PortableIdentityClaim)
  (fresh : DeviceId)

lemma added_addUnknown (hf : s.fingerprints.lookup fp = none) : Added r s fp info metadata cb claim fresh
      (r.commit (s.addUnknown info fp metadata cb claim fresh).1,
        (s.addUnknown info fp metadata cb claim fresh).2) := by
  unfold RegistryInner.addUnknown
  rcases hm : s.findSingleRenderableSmbusDramMatch info metadata with _ | id
  · exact .inserted hf hm
  · obtain ⟨entry, he⟩ := RegistryInner.exists_of_dramMatch hm
    have hmo : (s.moveFingerprint id fp).devices.lookup id = some entry := he
    simp only [hmo]
    exact .moved hf hm he

/-- **What an observation does**, branch by branch. -/
theorem added_addEntry [BEq X] (h : r.inner.Indexed) :
    Added r (r.inner.resolvePortableFingerprint raw claim).1
      (r.inner.resolvePortableFingerprint raw claim).2 info metadata cb claim fresh
      (r.addEntry info raw metadata cb claim fresh) := by
  have hs := h.resolve raw claim
  unfold addEntry
  generalize r.inner.resolvePortableFingerprint raw claim = resolved at hs ⊢
  obtain ⟨s, fp⟩ := resolved
  rcases hi : s.fingerprints.lookup fp with _ | id
  · simp only [hi]
    exact added_addUnknown r info metadata cb claim fresh hi
  · obtain ⟨entry, he⟩ := hs.exists_entry hi
    simp only [hi, he]
    split_ifs with hc
    · exact .updated hi he
    · refine .unchanged hi fun held hh => ?_
      -- a claim that is not stored yet would be a change
      rw [hh] at hc
      simp only [observationChanges, any_some, Bool.or_eq_true, not_or, bne_iff_ne, ne_eq, not_not] at hc
      exact hc.2

end AddEntry

/-! ## What a rebind does -/

/-- No renderable device but `id` holds a fingerprint. -/
def NoOtherRenderable (s : RegistryInner X) (id : DeviceId) (fingerprint : DeviceFingerprint) : Prop :=
  ∀ holderId holder, s.fingerprints.lookup fingerprint = some holderId → holderId ≠ id →
    s.devices.lookup holderId = some holder → holder.state.isRenderable = false

/-- What `rebindPortableIdentity` makes of a request. -/
inductive Rebound (r : DeviceRegistry X) (id : DeviceId) (fingerprint : DeviceFingerprint) :
    DeviceRegistry X × Except PortableRebindError (TrackedDevice X) → Prop where
  | refused (error : PortableRebindError)
      (hreason : r.inner.devices.lookup id = none ∨ r.inner.claimsById.lookup id = none ∨
        ¬NoOtherRenderable r.inner id fingerprint) :
      Rebound r id fingerprint (r, .error error)
  | done {entry updated : TrackedDevice X} {claim : PortableIdentityClaim}
      (hentry : r.inner.devices.lookup id = some entry)
      (hclaim : r.inner.claimsById.lookup id = some claim)
      (hheld : NoOtherRenderable r.inner id fingerprint) :
      Rebound r id fingerprint
        (r.commit { (retired r.inner
            (otherHolder r.inner id fingerprint)).moveFingerprint id fingerprint with
          portableKeyPins := (retired r.inner (otherHolder r.inner id
            fingerprint)).portableKeyPins.insert claim.key fingerprint
          devices := (retired r.inner
            (otherHolder r.inner id fingerprint)).devices.insert id updated },
          .ok updated)

lemma retired_pins (s : RegistryInner X) (holder : Option DeviceId) :
    (retired s holder).portableKeyPins = s.portableKeyPins := by
  rcases holder with _ | hid <;> rfl

lemma retired_quarantinedKeys (s : RegistryInner X) (holder : Option DeviceId) :
    (retired s holder).quarantinedKeys = s.quarantinedKeys := by
  rcases holder with _ | hid <;> rfl

lemma noOtherRenderable_iff : NoOtherRenderable s id fp ↔
    ((otherHolder s id fp).bind s.devices.lookup).any
        (·.state.isRenderable) = false := by
  rw [any_eq_false]
  simp only [bind_eq_some_iff, otherHolder, filter_eq_some_iff,
    decide_eq_true_eq]
  constructor
  · rintro h holder ⟨hid, ⟨ha, hn⟩, hh⟩
    simpa using h hid holder ha hn hh
  · intro h hid holder ha hn hh
    simpa using h holder ⟨hid, ⟨ha, hn⟩, hh⟩

/-- **What a rebind does**, branch by branch. -/
theorem rebound_rebind (r : DeviceRegistry X) (id : DeviceId) (fp : DeviceFingerprint) :
    Rebound r id fp (r.rebindPortableIdentity id fp) := by
  unfold rebindPortableIdentity
  rcases he : r.inner.devices.lookup id with _ | entry
  · exact .refused _ (.inl he)
  · rcases hc : r.inner.claimsById.lookup id with _ | claim
    · exact .refused _ (.inr (.inl hc))
    · dsimp only
      split_ifs with ha
      · refine .refused _ (.inr (.inr fun hh => ?_))
        rw [noOtherRenderable_iff, ha] at hh
        cases hh
      · exact .done he hc (noOtherRenderable_iff.mpr (eq_false_of_ne_true ha))

end Hypercolor.Registry
