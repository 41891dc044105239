import Hypercolor.Registry.Indexes

/-!
# The device registry: the pins follow the devices

A portable key is pinned to one fingerprint. `PinsFollow` says that the pin of an unquarantined key
stored on a tracked device is the fingerprint the device is held under now, and that a quarantined
key has no pin.

**Three operations break it, and no other** (`pins_follow`):

* a rebind of a device whose key is quarantined pins the key all the same;
* an observation without a claim that moves a memory module to another address leaves the pin of
  the key stored on it behind;
* seeding can pin a quarantined key, or quarantine a pinned one.

Each of the three is excluded by a condition on the state before the step (`Event.KeepsPins`), and
the condition is exact: a step from a good state ends in a good state if and only if it meets it.
-/

namespace Hypercolor.Registry

open Hypercolor.Lib AList DeviceRegistry RegistryInner Table

variable {X : Type}

variable {s' s : RegistryInner X}

namespace RegistryInner

/-- The unquarantined key stored on a device is pinned to the device's fingerprint. -/
def HeldPin (s : RegistryInner X) (id : DeviceId) : Prop :=
  ∀ claim, s.claimsById.lookup id = some claim → claim.key ∉ s.quarantinedKeys →
    ∃ fingerprint, s.idToFingerprint.lookup id = some fingerprint ∧
      s.portableKeyPins.lookup claim.key = some fingerprint

/-- Every stored key is pinned to its device, no two devices share one, and no quarantined key is
pinned. -/
structure PinsFollow (s : RegistryInner X) : Prop where
  held : ∀ id, s.HeldPin id
  unshared : ∀ id id' claim claim', s.claimsById.lookup id = some claim →
    s.claimsById.lookup id' = some claim' → claim.key = claim'.key →
      claim.key ∉ s.quarantinedKeys → id = id'
  unpinned : ∀ key ∈ s.quarantinedKeys, s.portableKeyPins.lookup key = none

/-- That no key is shared follows from the pins, since the indexes are inverse. -/
lemma PinsFollow.of_held (hin : Inverse s.fingerprints s.idToFingerprint) (hh : ∀ id, s.HeldPin id)
    (hu : ∀ key ∈ s.quarantinedKeys, s.portableKeyPins.lookup key = none) : s.PinsFollow where
  held := hh
  unpinned := hu
  unshared id id' claim claim' hi hi' hk hf := by
    obtain ⟨fp, ha, hp⟩ := hh id claim hi hf
    obtain ⟨fp', ha', hp'⟩ := hh id' claim' hi' (hk ▸ hf)
    rw [← hk, hp] at hp'
    obtain rfl := Option.some.inj hp'
    exact hin.symm.eq_of_lookup ha ha'

lemma PinsFollow.congr (h : s.PinsFollow) (hi : s'.idToFingerprint = s.idToFingerprint)
    (hc : s'.claimsById = s.claimsById) (hp : s'.portableKeyPins = s.portableKeyPins)
    (hq : s'.quarantinedKeys = s.quarantinedKeys) : s'.PinsFollow := by
  constructor
  · intro id
    rw [HeldPin, hi, hc, hp, hq]
    exact h.held id
  · rw [hc, hq]
    exact h.unshared
  · rw [hp, hq]
    exact h.unpinned

/-! ## Resolving a fingerprint -/

/-- What resolving does: the key is quarantined or proven so now, pinned already, or pinned here. -/
inductive Resolved (s : RegistryInner X) (raw : DeviceFingerprint) :
    Option PortableIdentityClaim → RegistryInner X × DeviceFingerprint → Prop where
  | unclaimed : Resolved s raw none (s, raw)
  | quarantined {claim : PortableIdentityClaim} (hkey : claim.key ∈ s.quarantinedKeys) :
      Resolved s raw (some claim) (s, raw)
  | pinned {claim : PortableIdentityClaim} {fingerprint : DeviceFingerprint}
      (hkey : claim.key ∉ s.quarantinedKeys)
      (hpin : s.portableKeyPins.lookup claim.key = some fingerprint) :
      Resolved s raw (some claim) (s, fingerprint)
  | first {claim : PortableIdentityClaim} (hkey : claim.key ∉ s.quarantinedKeys)
      (hpin : s.portableKeyPins.lookup claim.key = none) :
      Resolved s raw (some claim)
        ({ s with portableKeyPins := s.portableKeyPins.insert claim.key raw }, raw)
  | collided {claim : PortableIdentityClaim} {collision : PortableKeyCollision}
      {fingerprint : DeviceFingerprint} (hkey : claim.key ∉ s.quarantinedKeys)
      (hpin : s.portableKeyPins.lookup claim.key = some fingerprint)
      (hcollision : collision.key = claim.key) :
      Resolved s raw (some claim) (s.quarantine collision, raw)

lemma resolved_resolve (s : RegistryInner X) (raw : DeviceFingerprint)
    (claim : Option PortableIdentityClaim) :
    Resolved s raw claim (s.resolvePortableFingerprint raw claim) := by
  rcases claim with _ | claim
  · exact .unclaimed
  · unfold resolvePortableFingerprint
    dsimp only
    split_ifs with hk
    · exact .quarantined hk
    · rcases hp : s.portableKeyPins.lookup claim.key with _ | pinned
      · exact .first hk hp
      · dsimp only
        split_ifs with he
        · exact .pinned hk (he ▸ hp)
        · split
          · split_ifs
            · exact .collided hk hp rfl
            · exact .pinned hk hp
          · exact .pinned hk hp

lemma PinsFollow.quarantine (hi : Inverse s.fingerprints s.idToFingerprint)
    (h : s.PinsFollow) (collision : PortableKeyCollision) : (s.quarantine collision).PinsFollow := by
  refine .of_held hi (fun id claim hc hf => ?_) fun key hk => ?_
  · have hf' : claim.key ≠ collision.key ∧ claim.key ∉ s.quarantinedKeys := by
      simpa [RegistryInner.quarantine] using hf
    obtain ⟨fp, ha, hp⟩ := h.held id claim hc hf'.2
    refine ⟨fp, ha, ?_⟩
    simp only [RegistryInner.quarantine, lookup_erase_if]
    rwa [if_neg hf'.1]
  · simp only [RegistryInner.quarantine, lookup_erase_if]
    split_ifs with he
    · rfl
    · have hm : key ∈ s.quarantinedKeys := by
        simpa [RegistryInner.quarantine, he] using hk
      exact h.unpinned key hm

lemma PinsFollow.resolve (hi : s.Indexed) (h : s.PinsFollow) (raw : DeviceFingerprint)
    (claim : Option PortableIdentityClaim) : (s.resolvePortableFingerprint raw claim).1.PinsFollow := by
  have hre := resolved_resolve s raw claim
  generalize s.resolvePortableFingerprint raw claim = res at hre ⊢
  cases hre with
  | unclaimed | quarantined hk | pinned hk hp => exact h
  | @first claim hk hp =>
    refine .of_held hi.inverse (fun id held hh hf => ?_) fun key hq => ?_
    · obtain ⟨fp, ha, hp'⟩ := h.held id held hh hf
      refine ⟨fp, ha, ?_⟩
      -- a device that stores the key already would have a pin for it
      rw [lookup_insert_if, if_neg, hp']
      intro he
      rw [he, hp] at hp'
      cases hp'
    · rw [lookup_insert_if, if_neg]
      · exact h.unpinned key hq
      · intro he
        exact hk (he ▸ hq)
  | collided hk hp hc => exact h.quarantine hi.inverse _

variable {held : PortableIdentityClaim}

/-- After resolving, the key is quarantined or pinned to the fingerprint resolved. -/
lemma pinned_of_resolve {raw : DeviceFingerprint} (s : RegistryInner X) :
    held.key ∈ (s.resolvePortableFingerprint raw (some held)).1.quarantinedKeys ∨
      (s.resolvePortableFingerprint raw (some held)).1.portableKeyPins.lookup held.key =
        some (s.resolvePortableFingerprint raw (some held)).2 := by
  have hre := resolved_resolve s raw (some held)
  generalize s.resolvePortableFingerprint raw (some held) = res at hre ⊢
  cases hre with
  | quarantined hk => exact .inl hk
  | pinned hk hp => exact .inr hp
  | first hk hp => exact .inr (lookup_insert _)
  | collided hk hp hc => exact .inl (by simp [quarantine, hc])

/-! ## Storing a claim -/

/-- The pins after a claim was stored whose key was dealt with already: the pin of a key that
changed is gone. -/
lemma lookup_pins_store (s : RegistryInner X) (id : DeviceId)
    (hrd : held.key ∈ s.quarantinedKeys ∨ held.key ∈ s.portableKeyPins)
    (key : PortableDeviceKey) :
    (s.storePortableClaim id (some held)).portableKeyPins.lookup key =
      if ∃ prev, s.claimsById.lookup id = some prev ∧ prev.key ≠ held.key ∧
        key = prev.key then none else s.portableKeyPins.lookup key := by
  have hsk : ∀ t : RegistryInner X,
      held.key ∈ t.quarantinedKeys ∨ held.key ∈ t.portableKeyPins → t.pinUnpinned id held = t := by
    intro t ht
    refine if_neg fun hn => ?_
    exact ht.elim hn.1 hn.2
  unfold storePortableClaim forgetChangedKey
  rcases hp : s.claimsById.lookup id with _ | prev
  · simp [hsk s hrd]
  · by_cases hs : prev.key = held.key
    · simp [hs, hsk s hrd]
    · have hrd' : held.key ∈ s.quarantinedKeys ∨ held.key ∈ s.portableKeyPins.erase prev.key :=
        hrd.imp_right fun hm => mem_erase.mpr ⟨fun he => hs he.symm, hm⟩
      simp only [ne_eq, hs, not_false_eq_true, if_true]
      rw [hsk { s with portableKeyPins := s.portableKeyPins.erase prev.key } hrd', lookup_erase_if]
      simp [hs]

section Write

variable {id : DeviceId} {e : TrackedDevice X} {metadata : Metadata}
  {claim : Option PortableIdentityClaim} {fp : DeviceFingerprint}

lemma writeEntry_pins_none : (s.writeEntry id e metadata none).portableKeyPins = s.portableKeyPins := by
  unfold writeEntry
  rw [putMetadata_eq]
  rfl

lemma lookup_pins_write (hrd : held.key ∈ s.quarantinedKeys ∨ held.key ∈ s.portableKeyPins)
    (key : PortableDeviceKey) :
    (s.writeEntry id e metadata (some held)).portableKeyPins.lookup key =
      if ∃ previous, s.claimsById.lookup id = some previous ∧ previous.key ≠ held.key ∧
        key = previous.key then none else s.portableKeyPins.lookup key := by
  have hp := putMetadata_eq { s with devices := s.devices.insert id e } id metadata
  have hrd' : held.key ∈ ({ s with devices := s.devices.insert id e }.putMetadata id
        metadata).quarantinedKeys ∨
      held.key ∈ ({ s with devices := s.devices.insert id e }.putMetadata id
        metadata).portableKeyPins := by
    rw [hp]
    exact hrd
  rw [writeEntry, lookup_pins_store _ id hrd', hp]

lemma mem_pins_of_lookup {key : PortableDeviceKey} {fp : DeviceFingerprint}
    (h : s.portableKeyPins.lookup key = some fp) : key ∈ s.portableKeyPins :=
  Table.mem_of_lookup h

/-- **Writing an entry keeps the pins**, when those of the other devices are right, the key of the
observation was dealt with, and without one the device's own pin is right. -/
lemma PinsFollow.write (hin : Inverse s.fingerprints s.idToFingerprint)
    (ha : s.idToFingerprint.lookup id = some fp) (hos : ∀ id', id' ≠ id → s.HeldPin id')
    (hun : ∀ id' held held', s.claimsById.lookup id = some held →
      s.claimsById.lookup id' = some held' → held.key = held'.key → held.key ∉ s.quarantinedKeys →
        id = id')
    (hu : ∀ key ∈ s.quarantinedKeys, s.portableKeyPins.lookup key = none)
    (hrd : ∀ held, claim = some held → held.key ∈ s.quarantinedKeys ∨
      s.portableKeyPins.lookup held.key = some fp) (hk : claim = none → s.HeldPin id) :
    (s.writeEntry id e metadata claim).PinsFollow := by
  rcases claim with _ | held
  · have hcl : (s.writeEntry id e metadata none).claimsById = s.claimsById := by
      simp [storedClaims]
    refine .of_held (by simpa using hin) (fun id' => ?_) ?_
    · rw [HeldPin, hcl, writeEntry_pins_none, writeEntry_idToFingerprint, writeEntry_quarantinedKeys]
      by_cases hi : id' = id
      · exact hi ▸ hk rfl
      · exact hos id' hi
    · rw [writeEntry_pins_none, writeEntry_quarantinedKeys]
      exact hu
  · have hh := hrd held rfl
    have hrd' := hh.imp_right mem_pins_of_lookup
    refine .of_held (by simpa using hin) (fun id' => ?_) ?_
    · rw [HeldPin, writeEntry_claimsById, writeEntry_idToFingerprint, writeEntry_quarantinedKeys]
      intro claim hc hf
      rw [lookup_pins_write hrd']
      by_cases hi : id' = id
      · subst hi
        obtain rfl : held = claim := by simpa [storedClaims] using hc
        refine ⟨fp, ha, ?_⟩
        rw [if_neg]
        · exact hh.resolve_left hf
        · rintro ⟨prev, -, hn, he⟩
          exact hn he.symm
      · have hc' : s.claimsById.lookup id' = some claim := by
          simpa [storedClaims, lookup_insert_ne hi] using hc
        obtain ⟨fp', ha', hp'⟩ := hos id' hi claim hc' hf
        refine ⟨fp', ha', ?_⟩
        -- the pin that is dropped is not the other device's
        rw [if_neg, hp']
        rintro ⟨prev, hpr, -, he⟩
        exact hi (hun id' prev claim hpr hc' he.symm (he ▸ hf)).symm
    · intro key hke
      rw [lookup_pins_write hrd']
      split_ifs
      · rfl
      · exact hu key (by simpa using hke)

end Write

end RegistryInner

/-! ## Calls that are not about identity -/

/-- The maps of fingerprints, claims, pins and quarantine are the same. -/
structure SameIdentities (s s' : RegistryInner X) : Prop where
  fingerprints : s'.fingerprints = s.fingerprints
  ids : s'.idToFingerprint = s.idToFingerprint
  claims : s'.claimsById = s.claimsById
  pins : s'.portableKeyPins = s.portableKeyPins
  quarantined : s'.quarantinedKeys = s.quarantinedKeys
  tracked : ∀ id, id ∈ s.devices → id ∈ s'.devices

lemma SameIdentities.refl (s : RegistryInner X) : SameIdentities s s :=
  ⟨rfl, rfl, rfl, rfl, rfl, fun _ => id⟩

lemma SameIdentities.follow {s : RegistryInner X} (hs : SameIdentities s s')
    (h : s.PinsFollow) : s'.PinsFollow :=
  h.congr hs.ids hs.claims hs.pins hs.quarantined

section Frames

variable (r : DeviceRegistry X) (id : DeviceId)

lemma same_commitEntry (e : TrackedDevice X) : SameIdentities r.inner (r.commitEntry id e).inner :=
  ⟨rfl, rfl, rfl, rfl, rfl, fun _ h => (mem_insert _).mpr (.inr h)⟩

lemma same_setState (st : DeviceState) : SameIdentities r.inner (r.setState id st).1.inner := by
  unfold setState
  rcases he : r.inner.devices.lookup id with _ | e
  · exact .refl _
  · dsimp only
    split_ifs
    · exact .refl _
    · exact same_commitEntry r id _

lemma same_updateInfo (info : DeviceInfo X) : SameIdentities r.inner (r.updateInfo id info).1.inner := by
  unfold updateInfo
  rcases he : r.inner.devices.lookup id with _ | e
  · exact .refl _
  · exact same_commitEntry r id _

lemma same_refreshDiscovered (disc : DiscoveredDevice X) :
    SameIdentities r.inner (r.refreshDiscovered id disc).1.inner := by
  unfold refreshDiscovered
  split_ifs
  · exact .refl _
  · rcases he : r.inner.devices.lookup id with _ | e
    · exact .refl _
    · dsimp only
      split_ifs
      · exact .refl _
      · exact ⟨rfl, rfl, rfl, rfl, rfl, fun _ h => (mem_insert _).mpr (.inr h)⟩

lemma same_updateUserSettings (nm : Option String) (enabled : Option Bool)
    (bright : Option F32) (rotation : Option DisplayRotation) : SameIdentities r.inner
      (r.updateUserSettings id nm enabled bright rotation).1.inner := by
  unfold updateUserSettings
  rcases he : r.inner.devices.lookup id with _ | e
  · exact .refl _
  · exact same_commitEntry r id _

lemma same_replaceUserSettings [BEq X] (st : DeviceUserSettings) :
    SameIdentities r.inner (r.replaceUserSettings id st).1.inner := by
  unfold replaceUserSettings
  rcases he : r.inner.devices.lookup id with _ | e
  · exact .refl _
  · dsimp only
    split_ifs
    · exact .refl _
    · exact same_commitEntry r id _

variable {id' : DeviceId}

lemma mem_publishOutput {devices : Table DeviceId (TrackedDevice X)} {ch : Bool}
    {id : DeviceId} {de : PortableDeviceOutput} (h : id' ∈ devices) :
    id' ∈ (publishOutput devices ch id de).1 := by
  unfold publishOutput
  rcases he : devices.lookup id with _ | e
  · exact h
  · dsimp only
    split_ifs
    · exact h
    · exact (mem_insert _).mpr (.inr h)

lemma mem_publishAll (de : List (Sigma fun _ : DeviceId => PortableDeviceOutput)) :
    ∀ {acc : Table DeviceId (TrackedDevice X) × Bool}, id' ∈ acc.1 → id' ∈ (de.foldl
        (fun acc e => publishOutput acc.1 acc.2 e.1 e.2) acc).1 := by
  induction de with
  | nil => exact id
  | cons e es ih => exact fun h => ih (mem_publishOutput h)

lemma same_publishOutputSettings (exp de : Table DeviceId PortableDeviceOutput) :
    SameIdentities r.inner (r.publishOutputSettings exp de).1.inner := by
  unfold publishOutputSettings
  rcases hp : prepareOutputSettings r.inner exp de with _ | _
  · exact .refl _
  · dsimp only
    split_ifs
    · exact ⟨rfl, rfl, rfl, rfl, rfl, fun _ h => mem_publishAll de.entries h⟩
    · exact .refl _

end Frames

/-! ## The operations -/

/-- An observation without a claim that moves a memory module finds no unquarantined key stored on
it. -/
def KeepsModulePin (s : RegistryInner X) (raw : DeviceFingerprint) (info : DeviceInfo X)
    (metadata : Metadata) (claim : Option PortableIdentityClaim) : Prop :=
  claim = none → s.fingerprints.lookup raw = none →
    ∀ id, s.findSingleRenderableSmbusDramMatch info metadata = some id →
      ∀ held, s.claimsById.lookup id = some held → held.key ∈ s.quarantinedKeys

/-- A rebind that is not refused is of a device whose key is not quarantined. -/
def KeepsRebindPin (s : RegistryInner X) (id : DeviceId) (fingerprint : DeviceFingerprint) : Prop :=
  id ∈ s.devices → NoOtherRenderable s id fingerprint →
    ∀ held, s.claimsById.lookup id = some held → held.key ∉ s.quarantinedKeys

/-- Seeding leaves no key both pinned and quarantined. -/
def KeepsSeededPins (s : RegistryInner X) (pins : Table PortableDeviceKey DeviceFingerprint)
    (quarantinedKeys : Finset PortableDeviceKey) : Prop :=
  ∀ key ∈ s.quarantinedKeys ∪ quarantinedKeys, s.portableKeyPins.lookup key = none ∧
      pins.lookup key = none

/-- The condition on a call, in the state before it. -/
def Event.KeepsPins : Event X → DeviceRegistry X → Prop
  | add info _, r => KeepsModulePin r.inner info.id.fallbackFingerprint info ∅ none
  | addWithFingerprintAndMetadata info fingerprint metadata _, r =>
    KeepsModulePin r.inner fingerprint info metadata none
  | addDiscovered discovered _, r =>
    KeepsModulePin r.inner discovered.fingerprint discovered.info discovered.metadata discovered.claim
  | seedPortableIdentity pins quarantinedKeys, r => KeepsSeededPins r.inner pins quarantinedKeys
  | rebindPortableIdentity id fingerprint, r => KeepsRebindPin r.inner id fingerprint
  | _, _ => True

variable {r : DeviceRegistry X}

section Operations

variable {id fresh : DeviceId} {fp : DeviceFingerprint} {info : DeviceInfo X} {metadata : Metadata}
  {claim : Option PortableIdentityClaim}

variable {e : TrackedDevice X}

namespace RegistryInner

/-- Placing and writing one device keeps the pins, when without a claim its own pin is right. -/
lemma PinsFollow.place {t : RegistryInner X} (h : s.PinsFollow) (hp : Placed s t id fp)
    (hin : Inverse t.fingerprints t.idToFingerprint) (hrd : ∀ held, claim = some held →
      held.key ∈ s.quarantinedKeys ∨ s.portableKeyPins.lookup held.key = some fp)
    (hk : claim = none → ∀ held, s.claimsById.lookup id = some held → held.key ∉ s.quarantinedKeys →
      s.idToFingerprint.lookup id = some fp) : (t.writeEntry id e metadata claim).PinsFollow := by
  have ha : t.idToFingerprint.lookup id = some fp := by
    rw [hp.ids, lookup_insert]
  refine .write hin ha (fun id' hn held hh hf => ?_) ?_ ?_ ?_ fun hno held hh hf => ?_
  · rw [hp.claims] at hh
    rw [hp.quarantined] at hf
    rw [hp.ids, hp.pins, lookup_insert_ne hn]
    exact h.held id' held hh hf
  · rw [hp.claims, hp.quarantined]
    exact h.unshared id
  · rw [hp.pins, hp.quarantined]
    exact h.unpinned
  · rwa [hp.pins, hp.quarantined]
  · rw [hp.claims] at hh
    rw [hp.quarantined] at hf
    obtain ⟨fp', ha', hp'⟩ := h.held id held hh hf
    obtain rfl := Option.some.inj (ha'.symm.trans (hk hno held hh hf))
    exact ⟨fp', ha, hp.pins ▸ hp'⟩

/-- A module that moves without a claim leaves the pin of an unquarantined key behind. -/
lemma PinsFollow.not_moved (hs : s.Indexed) (h : s.PinsFollow) (hf : s.fingerprints.lookup fp = none)
    (haf : ((s.moveFingerprint id fp).writeEntry id e metadata none).PinsFollow)
    (held : PortableIdentityClaim) (hh : s.claimsById.lookup id = some held) :
    held.key ∈ s.quarantinedKeys := by
  by_contra hk
  obtain ⟨prev, ha, hp⟩ := h.held id held hh hk
  obtain ⟨cur, ha', hp'⟩ := haf.held id held (by simpa [storedClaims, moveFingerprint] using hh)
    (by simpa [moveFingerprint] using hk)
  rw [writeEntry_pins_none] at hp'
  have hc : cur = fp := by
    simpa [moveFingerprint] using ha'.symm
  obtain rfl : prev = cur := Option.mem_unique hp hp'
  rw [hc] at ha
  exact absurd ((hs.inverse _ _).mpr ha) (by rw [hf]; simp)

end RegistryInner

lemma follow_addEntry_iff [BEq X] (hr : r.inner.Indexed) (h : r.inner.PinsFollow)
    (raw : DeviceFingerprint) (connect : DiscoveryConnectBehavior) (hfr : fresh ∉ r.inner.devices) :
    (r.addEntry info raw metadata connect claim fresh).1.inner.PinsFollow ↔
      KeepsModulePin r.inner raw info metadata claim := by
  have hs := hr.resolve raw claim
  have hp := RegistryInner.PinsFollow.resolve hr h raw claim
  have hd := r.inner.resolve_devices raw claim
  have hrd : ∀ held, claim = some held →
      held.key ∈ (r.inner.resolvePortableFingerprint raw claim).1.quarantinedKeys ∨
        (r.inner.resolvePortableFingerprint raw claim).1.portableKeyPins.lookup held.key =
          some (r.inner.resolvePortableFingerprint raw claim).2 := by
    rintro held rfl
    exact pinned_of_resolve r.inner
  have hin := (sound_addEntry hr info raw metadata connect claim hfr).indexed.inverse
  have ha := added_addEntry r info raw metadata connect claim fresh hr
  generalize r.addEntry info raw metadata connect claim fresh = added at ha hin ⊢
  have hkn : ∀ id, (r.inner.resolvePortableFingerprint raw claim).1.fingerprints.lookup
      (r.inner.resolvePortableFingerprint raw claim).2 = some id →
        KeepsModulePin r.inner raw info metadata claim := by
    rintro id hi rfl hf
    cases hf.symm.trans hi
  cases ha with
  | unchanged hi hc => exact ⟨fun _ => hkn _ hi, fun _ => hp⟩
  | updated hi he =>
    refine ⟨fun _ => hkn _ hi, fun _ => hp.place ⟨rfl, rfl, rfl, rfl, rfl⟩ (hs.reindex hi).inverse hrd ?_⟩
    exact fun _ _ _ _ => (hs.inverse _ _).mp hi
  | inserted hf hm =>
    refine ⟨fun _ => ?_, fun _ => ?_⟩
    · rintro rfl - id hi
      cases hm.symm.trans hi
    · dsimp only [commit, insertNew] at hin ⊢
      rw [← hd] at hfr
      refine hp.place ⟨rfl, rfl, rfl, rfl, rfl⟩ (by simpa using hin) hrd fun _ held hh _ => ?_
      have hme := hs.claims _ (Table.mem_of_lookup hh)
      split_ifs at hme with ht
      · exact absurd hme hfr
      · exact absurd hme ht
  | @moved id e hf hm he =>
    constructor
    · rintro haf rfl - id' hi'
      obtain rfl := Option.mem_unique hm hi'
      exact h.not_moved hr hf haf
    · intro hk
      dsimp only [commit] at hin ⊢
      refine hp.place ⟨rfl, rfl, rfl, rfl, rfl⟩ (by simpa using hin) hrd ?_
      rintro rfl held hh hq
      exact absurd (hk rfl hf id hm held hh) hq

lemma RegistryInner.PinsFollow.retire (hs : s.Indexed) (h : s.PinsFollow) (id : DeviceId) :
    (retirePredecessor s id).PinsFollow := by
  refine .of_held (hs.retire id).inverse (fun id' held hh hk => ?_) h.unpinned
  simp only [retirePredecessor, lookup_erase_if] at hh ⊢
  split_ifs at hh ⊢ with hi
  exact h.held id' held hh hk

lemma RegistryInner.PinsFollow.retired (hs : s.Indexed) (h : s.PinsFollow)
    (holder : Option DeviceId) : (retired s holder).PinsFollow := by
  rcases holder with _ | hid
  · exact h
  · exact h.retire hs hid

lemma retired_claims_of_ne (id : DeviceId) (s : RegistryInner X) (fp : DeviceFingerprint) :
    (retired s (otherHolder s id fp)).claimsById.lookup id = s.claimsById.lookup id := by
  rcases hh : otherHolder s id fp with _ | hid
  · rfl
  · obtain ⟨-, hn⟩ := Option.filter_eq_some_iff.mp hh
    exact lookup_erase_ne fun he => of_decide_eq_true hn he.symm

section

variable (hr : r.inner.Indexed) (h : r.inner.PinsFollow)
include hr h

lemma follow_rebind_iff (id : DeviceId) (fp : DeviceFingerprint) :
    (r.rebindPortableIdentity id fp).1.inner.PinsFollow ↔ KeepsRebindPin r.inner id fp := by
  have hre := rebound_rebind r id fp
  generalize r.rebindPortableIdentity id fp = res at hre ⊢
  cases hre with
  | refused err hrs =>
    refine ⟨fun _ hm hh claim hcl => ?_, fun _ => h⟩
    rcases hrs with he | hu | ha
    · exact absurd hm (lookup_eq_none.mp he)
    · cases hu.symm.trans hcl
    · exact absurd hh ha
  | @done e updated claim he hcl hh =>
    have hm : id ∈ r.inner.devices := mem_of_lookup he
    obtain ⟨hi, hke, hf⟩ := indexed_retired hr hm fp
    have hp := h.retired hr (otherHolder r.inner id fp)
    have hc := retired_claims_of_ne id r.inner fp
    have hq := retired_quarantinedKeys r.inner (otherHolder r.inner id fp)
    generalize retired r.inner (otherHolder r.inner id fp) = u at hi hke hf hp hq ⊢ hc
    rw [hcl] at hc
    have hmo := hi.moveFingerprint hke hf
    constructor
    · intro haf _ _ held hh hk
      obtain rfl := Option.mem_unique hcl hh
      have hn := haf.unpinned claim.key (by
        show claim.key ∈ u.quarantinedKeys
        rw [hq]
        exact hk)
      simp [commit] at hn
    · intro hkp
      have hk : claim.key ∉ u.quarantinedKeys := by
        rw [hq]
        exact hkp hm hh claim hcl
      refine .of_held hmo.inverse (fun id' held hid' hf' => ?_) fun key hm' => ?_
      · have hid'' : u.claimsById.lookup id' = some held := hid'
        by_cases hid : id' = id
        · subst hid
          obtain rfl := Option.mem_unique hc hid''
          exact ⟨fp, lookup_insert _, lookup_insert _⟩
        · obtain ⟨fp', hat, hpi⟩ := hp.held id' held hid'' hf'
          refine ⟨fp', (lookup_insert_ne hid).trans hat, ?_⟩
          -- a device with the rebound key would be the rebound device
          refine (lookup_insert_ne fun heq => ?_).trans hpi
          exact hid (hp.unshared id' id held claim hid'' hc heq hf')
      · refine (lookup_insert_ne fun heq => ?_).trans (hp.unpinned key hm')
        exact hk (heq ▸ hm')

lemma follow_seed_iff (pins : Table PortableDeviceKey DeviceFingerprint) (qk : Finset PortableDeviceKey) :
    (r.seedPortableIdentity pins qk).inner.PinsFollow ↔ KeepsSeededPins r.inner pins qk := by
  constructor
  · intro ha key hk
    have hn : (r.inner.portableKeyPins ∪ pins).lookup key = none := ha.unpinned key hk
    rw [lookup_eq_none, mem_union, not_or] at hn
    exact ⟨lookup_eq_none.mpr hn.1, lookup_eq_none.mpr hn.2⟩
  · intro hke
    refine .of_held hr.inverse (fun id held hh hk => ?_) fun key hk => ?_
    · have hk' : held.key ∉ r.inner.quarantinedKeys := fun hm =>
        hk (Finset.mem_union_left _ hm)
      obtain ⟨fp, hat, hp⟩ := h.held id held hh hk'
      exact ⟨fp, hat, (lookup_union_left (mem_pins_of_lookup hp)).trans hp⟩
    · obtain ⟨hp, hs⟩ := hke key hk
      refine lookup_eq_none.mpr fun hm => ?_
      exact (mem_union.mp hm).elim (lookup_eq_none.mp hp) (lookup_eq_none.mp hs)

lemma follow_remove (id : DeviceId) : (r.remove id).1.inner.PinsFollow := by
  unfold remove
  rcases r.inner.devices.lookup id with _ | e
  · exact h
  · exact (h.retire hr id).congr rfl rfl rfl rfl

lemma follow_report (id : DeviceId) (fp : DeviceFingerprint) (ex inc : PortableIdentityClaim) :
    (r.reportPortableKeyCollision id fp ex inc).inner.PinsFollow := by
  unfold reportPortableKeyCollision
  split_ifs
  · exact h
  · exact h.quarantine hr.inverse _

end

end Operations

/-- **Step lemma**: from a state whose pins follow, a call keeps them so exactly when it meets the
condition. -/
lemma follow_apply_iff [BEq X] {e : Event X} (hr : r.inner.Indexed) (h : r.inner.PinsFollow)
    (ha : e.Allowed r) : (e.apply r).inner.PinsFollow ↔ e.KeepsPins r := by
  cases e with
  | add info fresh | addWithFingerprintAndMetadata info fp metadata fresh | addDiscovered disc fresh =>
    exact follow_addEntry_iff hr h _ _ ha
  | seedPortableIdentity pins qk => exact follow_seed_iff hr h pins qk
  | rebindPortableIdentity id fp => exact follow_rebind_iff hr h id fp
  | remove id => exact iff_of_true (follow_remove hr h id) trivial
  | reportPortableKeyCollision id fp ex inc =>
    exact iff_of_true (follow_report hr h id fp ex inc) trivial
  | setState id state => exact iff_of_true ((same_setState r id state).follow h) trivial
  | updateInfo id info => exact iff_of_true ((same_updateInfo r id info).follow h) trivial
  | refreshDiscovered id disc =>
    exact iff_of_true ((same_refreshDiscovered r id disc).follow h) trivial
  | updateUserSettings id nm enabled bright rotation =>
    exact iff_of_true ((same_updateUserSettings r id nm enabled bright rotation).follow h)
      trivial
  | replaceUserSettings id st =>
    exact iff_of_true ((same_replaceUserSettings r id st).follow h) trivial
  | drainPortableKeyCollisions => exact iff_of_true (h.congr rfl rfl rfl rfl) trivial
  | publishOutputSettings exp de =>
    exact iff_of_true ((same_publishOutputSettings r exp de).follow h) trivial

/-- **The pins follow the devices** in every state of a run whose steps meet the condition, and the
first step that does not meet it breaks them. -/
theorem pins_follow [BEq X] {r : DeviceRegistry X}
    (h : ((machine X).restrict Event.KeepsPins).Reachable r) : r.inner.PinsFollow ∧
      ∀ e : Event X, e.Allowed r → ((e.apply r).inner.PinsFollow ↔ e.KeepsPins r) := by
  have hf : r.inner.PinsFollow := by
    induction h with
    | init hi =>
      subst hi
      exact .of_held Inverse.empty (fun _ _ hc => nomatch hc)
        fun _ hke => absurd hke (Finset.notMem_empty _)
    | step hr hs ih =>
      obtain ⟨⟨ha, rfl⟩, hk⟩ := hs
      exact (follow_apply_iff (reachable_indexed hr.of_restrict) ih ha).mpr hk
  exact ⟨hf, fun e => follow_apply_iff (reachable_indexed h.of_restrict) hf⟩

/-- A claimed USB unit, for the examples. -/
def sampleUnit (uuid : BitVec 128) (fingerprint key topology : String) : DiscoveredDevice Unit where
  fingerprint := ⟨fingerprint⟩
  info := { sampleInfo with id := ⟨uuid⟩ }
  metadata := ∅
  connectBehavior := .autoConnect
  claim := some (.usbSerial ⟨key⟩ key topology)

/-- One unit is seen. -/
theorem pins_follow_seen :
    (Event.apply .new (.addDiscovered (sampleUnit 1 "usb:a" "K" "1-1") ⟨9⟩)).inner.PinsFollow := by
  have hrc : ((machine Unit).restrict Event.KeepsPins).Reachable
      (Event.apply .new (.addDiscovered (sampleUnit 1 "usb:a" "K" "1-1") ⟨9⟩)) :=
    (Machine.Reachable.init rfl).step (e := Event.addDiscovered (sampleUnit 1 "usb:a" "K" "1-1") ⟨9⟩)
      ⟨⟨by decide, rfl⟩, fun hn => nomatch hn⟩
  exact (pins_follow hrc).1

/-- Two units claim one key while both are present, so the key is quarantined; the second is rebound
and its key pinned again. -/
theorem rebind_pins_quarantined :
    ∃ r : DeviceRegistry Unit, (machine Unit).Reachable r ∧ ¬r.inner.PinsFollow := by
  have hrc := reachable_applyAll (.init rfl) (show AllowedAll .new
    [.addDiscovered (sampleUnit 1 "usb:a" "K" "1-1") ⟨9⟩, .setState ⟨1⟩ .connected,
      .addDiscovered (sampleUnit 2 "usb:b" "K" "1-2") ⟨9⟩,
      .rebindPortableIdentity ⟨2⟩ ⟨"usb:c"⟩] by decide)
  refine ⟨_, hrc, fun hf => ?_⟩
  have hn := hf.unpinned ⟨"K"⟩ (by decide)
  revert hn
  decide

end Hypercolor.Registry
