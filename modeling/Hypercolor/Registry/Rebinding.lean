import Hypercolor.Registry.Pins

/-!
# The device registry: a rebind is durable

A rebind puts a device under the fingerprint `F` of the hardware it replaces and pins its key `K`
there. `Bound` is what has to stay for the decision to hold: the device is held under `F`, `K` is
pinned to `F` and not quarantined, and no other device stores `K`.

**While `Bound` holds, an observation that carries `K` is the device's**, under whatever raw
fingerprint, unless it proves a collision; and **an observation without `K` is the device's exactly
when it does not miss it** (`rebind_durable`): it follows a pin to `F`, or it follows none and comes
under `F` raw, or it is taken for the same memory module at another address.

The predecessor's key stays pinned to `F` after the rebind, so the predecessor plugged in again is
one of those that do not miss.
-/

namespace Hypercolor.Registry

open Hypercolor.Lib Option AList RegistryInner DeviceRegistry

variable {X : Type}

/-! ## Which device an observation names -/

/-- Whether the renderable holder of a pinned fingerprint proves to be another unit. -/
def RegistryInner.provesCollision (s : RegistryInner X) (pinned : DeviceFingerprint)
    (claim : PortableIdentityClaim) : Bool :=
  (s.presentHolder pinned).any fun holder =>
    holder.2.evidence.provesDistinctFrom claim.evidence

/-- The pin an observation follows: that of its key, unless the key is quarantined or the observation
proves a collision. -/
def RegistryInner.followedPin (s : RegistryInner X) (raw : DeviceFingerprint)
    (claim : Option PortableIdentityClaim) : Option DeviceFingerprint :=
  claim.bind fun held =>
    if held.key ∈ s.quarantinedKeys then none
    else (s.portableKeyPins.lookup held.key).filter fun pinned =>
      pinned = raw || !s.provesCollision pinned held

/-- The fingerprint an observation goes by. -/
def RegistryInner.observedName (s : RegistryInner X) (raw : DeviceFingerprint)
    (claim : Option PortableIdentityClaim) : DeviceFingerprint :=
  (s.followedPin raw claim).getD raw

lemma resolve_snd (s : RegistryInner X) (raw : DeviceFingerprint) (claim : Option PortableIdentityClaim) :
    (s.resolvePortableFingerprint raw claim).2 = s.observedName raw claim := by
  unfold observedName followedPin resolvePortableFingerprint provesCollision
  rcases claim with _ | claim
  · rfl
  · dsimp only [bind_some]
    split_ifs with hk
    · rfl
    · rcases hp : s.portableKeyPins.lookup claim.key with _ | pinned
      · rfl
      · dsimp only
        split_ifs with he
        · simp [filter_some, he]
        · rcases hh : s.presentHolder pinned with _ | ⟨hid, held⟩
          · simp [filter_some, hh]
          · dsimp only
            split_ifs with hd
            · simp [filter_some, hh, hd, he]
            · simp [filter_some, hh, hd]

/-- An observation does not name a device: it goes by another fingerprint, and is not taken for the
device as a memory module that moved. -/
structure RegistryInner.Misses (s : RegistryInner X) (id : DeviceId)
    (fingerprint raw : DeviceFingerprint) (info : DeviceInfo X) (metadata : Metadata)
    (claim : Option PortableIdentityClaim) : Prop where
  name : s.observedName raw claim ≠ fingerprint
  module : s.fingerprints.lookup (s.observedName raw claim) = none →
    s.findSingleRenderableSmbusDramMatch info metadata ≠ some id

/-- The claim carries a key. -/
def Carries (key : PortableDeviceKey) (claim : Option PortableIdentityClaim) : Prop :=
  ∃ held, claim = some held ∧ held.key = key

/-! ## What a rebind sets up -/

/-- The device is held under the fingerprint its key is pinned to, and no other device stores the
key. -/
structure RegistryInner.Bound (s : RegistryInner X) (id : DeviceId) (key : PortableDeviceKey)
    (fingerprint : DeviceFingerprint) : Prop where
  held : s.idToFingerprint.lookup id = some fingerprint
  unquarantined : key ∉ s.quarantinedKeys
  pinned : s.portableKeyPins.lookup key = some fingerprint
  alone : ∀ id' claim, id' ≠ id → s.claimsById.lookup id' = some claim → claim.key ≠ key

variable {name fingerprint raw : DeviceFingerprint}

section Keeps

variable {s : RegistryInner X} {id id' : DeviceId} {key : PortableDeviceKey} {metadata : Metadata}
  {entry : TrackedDevice X} {claim : Option PortableIdentityClaim}

section

variable (h : s.Bound id key fingerprint)
include h

namespace RegistryInner

lemma Bound.same {s' : RegistryInner X} (hs : SameIdentities s s') : s'.Bound id key fingerprint := by
  constructor
  · rw [hs.ids]
    exact h.held
  · rw [hs.quarantined]
    exact h.unquarantined
  · rw [hs.pins]
    exact h.pinned
  · rw [hs.claims]
    exact h.alone

/-- An entry that is written is the device's under its key, another's under another key, or comes
without a claim. -/
lemma Bound.write (hr : ∀ held, claim = some held → held.key ∈ s.quarantinedKeys ∨ held.key ∈
      s.portableKeyPins) (hc : ∀ held, claim = some held → (held.key = key ↔ id' = id)) :
    (s.writeEntry id' entry metadata claim).Bound id key fingerprint := by
  rcases claim with _ | held
  · refine h.same ⟨by simp, by simp, by simp [storedClaims], writeEntry_pins_none, by simp,
      fun _ hm => ?_⟩
    rw [writeEntry_devices]
    exact (mem_insert _).mpr (.inr hm)
  · constructor
    · rw [writeEntry_idToFingerprint]
      exact h.held
    · rw [writeEntry_quarantinedKeys]
      exact h.unquarantined
    · rw [lookup_pins_write (hr held rfl), if_neg]
      · exact h.pinned
      · -- the device's own key does not change, and no other device has it
        rintro ⟨prev, hp, hn, rfl⟩
        by_cases hi : id' = id
        · exact hn ((hc held rfl).mpr hi).symm
        · exact h.alone id' prev hi hp rfl
    · intro o claim hoh hl
      rw [writeEntry_claimsById] at hl
      simp only [storedClaims, Table.lookup_insert_if] at hl
      split_ifs at hl with he
      · obtain rfl := some.inj hl
        exact fun hk => hoh (he.trans ((hc held rfl).mp hk))
      · exact h.alone o claim hoh hl

/-- A device is put under a fingerprint; the rebound one stays where it is. -/
lemma Bound.place {s' : RegistryInner X} (hp : Placed s s' id' name)
    (hn : id' = id → name = fingerprint) :
    s'.Bound id key fingerprint := by
  refine ⟨?_, hp.quarantined ▸ h.unquarantined, hp.pins ▸ h.pinned, hp.claims ▸ h.alone⟩
  rw [hp.ids, Table.lookup_insert_if]
  split_ifs with hi
  · rw [hn hi.symm]
  · exact h.held

/-- Resolving another key, or none, does not touch this one. -/
lemma Bound.resolve_other (hoh : ¬Carries key claim) :
    (s.resolvePortableFingerprint raw claim).1.Bound id key fingerprint := by
  have hr := resolved_resolve s raw claim
  generalize s.resolvePortableFingerprint raw claim = res at hr ⊢
  cases hr with
  | unclaimed | quarantined hk | pinned hk hp => exact h
  | @first held hk hp =>
    have hn : key ≠ held.key := fun he => hoh ⟨held, rfl, he.symm⟩
    exact ⟨h.held, h.unquarantined, (lookup_insert_ne hn).trans h.pinned, h.alone⟩
  | @collided held collision pinned hk hp hc =>
    have hn : key ≠ collision.key := fun he => hoh ⟨held, rfl, by rw [he, hc]⟩
    refine ⟨h.held, ?_, (lookup_erase_ne hn).trans h.pinned, h.alone⟩
    simp [quarantine, hn, h.unquarantined]

/-- Resolving the key leads to the fingerprint, or proves a collision. -/
lemma Bound.resolve_own (hca : Carries key claim)
    (hf : key ∉ (s.resolvePortableFingerprint raw claim).1.quarantinedKeys) :
    s.resolvePortableFingerprint raw claim = (s, fingerprint) := by
  obtain ⟨held, rfl, rfl⟩ := hca
  have hr := resolved_resolve s raw (some held)
  generalize s.resolvePortableFingerprint raw (some held) = res at hr hf ⊢
  cases hr with
  | quarantined hk => exact absurd hk h.unquarantined
  | pinned hk hp => rw [some.inj (hp.symm.trans h.pinned)]
  | first hk hp => cases hp.symm.trans h.pinned
  | collided hk hp hc =>
    exact absurd (by simp [quarantine, hc]) hf

end RegistryInner

end

end Keeps

/-! ## Observations after a rebind -/

section Observe

variable [BEq X] {r : DeviceRegistry X} {id : DeviceId} {key : PortableDeviceKey}
  {info : DeviceInfo X} {metadata : Metadata} {connectBehavior : DiscoveryConnectBehavior}
  {claim : Option PortableIdentityClaim} {fresh : DeviceId}

/-- The quarantine after an observation is the one after resolving. -/
lemma addEntry_quarantinedKeys (hr : r.inner.Indexed) :
    (r.addEntry info raw metadata connectBehavior claim fresh).1.inner.quarantinedKeys =
      (r.inner.resolvePortableFingerprint raw claim).1.quarantinedKeys := by
  obtain he | ⟨s', entry, he, hp⟩ :=
    (added_addEntry r info raw metadata connectBehavior claim fresh hr).placed
  · rw [he]
  · rw [he, writeEntry_quarantinedKeys, hp.quarantined]

/-- **Which tracked device an observation is of.** -/
theorem addEntry_eq_iff (hr : r.inner.Indexed) (hi : id ∈ r.inner.devices)
    (hfr : fresh ∉ r.inner.devices) :
    (r.addEntry info raw metadata connectBehavior claim fresh).2 = id ↔
      r.inner.fingerprints.lookup (r.inner.observedName raw claim) = some id ∨
        r.inner.fingerprints.lookup (r.inner.observedName raw claim) = none ∧
          r.inner.findSingleRenderableSmbusDramMatch info metadata = some id := by
  rw [← resolve_snd, ← r.inner.resolve_fingerprints raw claim,
    ← r.inner.resolve_dramMatch raw metadata claim info]
  have hd := r.inner.resolve_devices raw claim
  have ha := added_addEntry r info raw metadata connectBehavior claim fresh hr
  generalize r.addEntry info raw metadata connectBehavior claim fresh = added at ha ⊢
  rw [← hd] at hi hfr
  generalize r.inner.resolvePortableFingerprint raw claim = resolved at *
  cases ha with
  | unchanged hi' hc | updated hi' he => simp [hi']
  | moved hf hm he => simp [hf, hm]
  | inserted hf hm =>
    refine iff_of_false ?_ (by simp [hf, hm])
    dsimp only [insertNew]
    split_ifs with ht
    · rintro rfl
      exact hfr hi
    · rintro rfl
      exact ht hi

/-- **An observation that carries the key is the device's.** -/
theorem observe_own (hr : r.inner.Indexed) (h : r.inner.Bound id key fingerprint)
    (hca : Carries key claim) (hf : key ∉
      (r.addEntry info raw metadata connectBehavior claim fresh).1.inner.quarantinedKeys) :
    (r.addEntry info raw metadata connectBehavior claim fresh).2 = id ∧
      (r.addEntry info raw metadata connectBehavior claim fresh).1.inner.Bound id key fingerprint := by
  rw [addEntry_quarantinedKeys hr] at hf
  have ha := added_addEntry r info raw metadata connectBehavior claim fresh hr
  rw [h.resolve_own hca hf] at ha
  have hid : r.inner.fingerprints.lookup fingerprint = some id := (hr.inverse _ _).mpr h.held
  generalize r.addEntry info raw metadata connectBehavior claim fresh = added at ha ⊢
  cases ha with
  | @unchanged id' hid' hc =>
    obtain rfl := some.inj (hid.symm.trans hid')
    exact ⟨rfl, h⟩
  | @updated id' entry hid' he =>
    obtain rfl := some.inj (hid.symm.trans hid')
    have hi : { r.inner with idToFingerprint := r.inner.idToFingerprint.insert id fingerprint :
        RegistryInner X }.Bound id key fingerprint :=
      ⟨lookup_insert _, h.unquarantined, h.pinned, h.alone⟩
    obtain ⟨held, rfl, rfl⟩ := hca
    refine ⟨rfl, ?_⟩
    dsimp only [commit]
    refine hi.write (fun _ hh => ?_) fun _ hh => ?_
    · obtain rfl := some.inj hh
      exact .inr (mem_pins_of_lookup h.pinned)
    · obtain rfl := some.inj hh
      exact iff_of_true rfl rfl
  | moved hn hm he | inserted hn hm => cases hn.symm.trans hid

/-- **An observation without the key** leaves the rebind in force, if it does not move the device or
carries no claim to the device; and it is the device's exactly when it does not miss it. -/
lemma observe_other (hr : r.inner.Indexed) (h : r.inner.Bound id key fingerprint)
    (hoh : ¬Carries key claim) (hfr : fresh ∉ r.inner.devices) :
    ((r.addEntry info raw metadata connectBehavior claim fresh).2 ≠ id ↔
        r.inner.Misses id fingerprint raw info metadata claim) ∧
      ((r.inner.fingerprints.lookup (r.inner.observedName raw claim) = none →
          r.inner.findSingleRenderableSmbusDramMatch info metadata ≠ some id) →
        (claim = none ∨ r.inner.observedName raw claim ≠ fingerprint) →
          (r.addEntry info raw metadata connectBehavior claim fresh).1.inner.Bound id key
              fingerprint) := by
  have hid : r.inner.fingerprints.lookup fingerprint = some id := (hr.inverse _ _).mpr h.held
  have hiff : (r.addEntry info raw metadata connectBehavior claim fresh).2 = id ↔
      r.inner.observedName raw claim = fingerprint ∨
        r.inner.fingerprints.lookup (r.inner.observedName raw claim) = none ∧
          r.inner.findSingleRenderableSmbusDramMatch info metadata = some id :=
    (addEntry_eq_iff hr (hr.mem_of_fingerprint hid) hfr).trans
      (or_congr_left ⟨fun hl => hr.inverse.eq_of_lookup hl hid, fun he => he ▸ hid⟩)
  refine ⟨⟨fun hne => ?_, fun hmi he => ?_⟩, fun hmo hfa => ?_⟩
  · exact ⟨fun hn => hne (hiff.mpr (.inl hn)), fun hn hm => hne (hiff.mpr (.inr ⟨hn, hm⟩))⟩
  · exact (hiff.mp he).elim hmi.name fun hm => hmi.module hm.1 hm.2
  · have hb : (r.inner.resolvePortableFingerprint raw claim).1.Bound id key fingerprint :=
      h.resolve_other hoh
    have hat : (r.addEntry info raw metadata connectBehavior claim fresh).2 = id →
        r.inner.observedName raw claim = fingerprint := fun he =>
      (hiff.mp he).resolve_right fun hm => hmo hm.1 hm.2
    obtain he | ⟨s', entry, he, hp⟩ :=
      (added_addEntry r info raw metadata connectBehavior claim fresh hr).placed
    · rwa [he]
    · rw [he]
      refine (hb.place hp fun hi => (resolve_snd _ _ _).trans (hat hi)).write ?_ fun held hh => ?_
      · rintro held rfl
        rw [hp.quarantined, hp.pins]
        exact (pinned_of_resolve r.inner).imp_right mem_pins_of_lookup
      · -- an observation of the device itself, under its fingerprint, comes without a claim
        refine iff_of_false (fun hk => hoh ⟨held, hh, hk⟩) fun hi => ?_
        rcases hfa with hno | hne
        · cases hno.symm.trans hh
        · exact hne (hat hi)

end Observe

/-! ## Runs after a rebind -/

section Runs

/-- What a run after the rebind assumes of a call: the key is not quarantined by it, the device stays
tracked, is not rebound again, and is not seen under another key. `ours` tells which discoveries are
of the rebound hardware. -/
def Event.Undisturbed [BEq X] (ours : DiscoveredDevice X → Prop) (id : DeviceId) (key : PortableDeviceKey)
    (e : Event X) (r : DeviceRegistry X) : Prop :=
  key ∉ (e.apply r).inner.quarantinedKeys ∧ id ∈ (e.apply r).inner.devices ∧
    match e with
    | rebindPortableIdentity id' fingerprint =>
      id' = id → ∃ error, (r.rebindPortableIdentity id' fingerprint).2 = .error error
    | addDiscovered discovered _ =>
      ours discovered → ∀ held, discovered.claim = some held → held.key = key
    | _ => True

/-- The condition on a call: an observation of other hardware, made without the key, misses the
device, and one of the device itself without its key does not move it. -/
def Event.Spares (ours : DiscoveredDevice X → Prop) (id : DeviceId) (key : PortableDeviceKey)
    (fingerprint : DeviceFingerprint) (e : Event X) (r : DeviceRegistry X) : Prop :=
  match e with
  | add info _ => r.inner.Misses id fingerprint info.id.fallbackFingerprint info ∅ none
  | addWithFingerprintAndMetadata info raw metadata _ =>
    r.inner.Misses id fingerprint raw info metadata none
  | addDiscovered discovered _ => ¬Carries key discovered.claim →
    (¬ours discovered → r.inner.Misses id fingerprint discovered.fingerprint discovered.info
      discovered.metadata discovered.claim) ∧
    (ours discovered → r.inner.fingerprints.lookup
          (r.inner.observedName discovered.fingerprint discovered.claim) = none →
        r.inner.findSingleRenderableSmbusDramMatch discovered.info discovered.metadata ≠ some id)
  | _ => True

variable {r : DeviceRegistry X} {id fresh id' : DeviceId} {key : PortableDeviceKey}

/-- A registration without a claim that misses the device. -/
lemma RegistryInner.Bound.registered [BEq X] (hr : r.inner.Indexed)
    (h : r.inner.Bound id key fingerprint) {info : DeviceInfo X} {raw : DeviceFingerprint}
    {metadata : Metadata} (hf : fresh ∉ r.inner.devices)
    (hm : r.inner.Misses id fingerprint raw info metadata none) :
    (r.addEntry info raw metadata .autoConnect none fresh).1.inner.Bound id key fingerprint := by
  have hoh : ¬Carries key none := fun hc => by
    obtain ⟨held, ⟨⟩, -⟩ := hc
  exact (observe_other hr h hoh hf).2 hm.module (.inl rfl)

variable {ours : DiscoveredDevice X → Prop}

namespace RegistryInner

lemma Bound.discovered [BEq X] (hr : r.inner.Indexed)
    (h : r.inner.Bound id key fingerprint) {disc : DiscoveredDevice X} (hf : fresh ∉ r.inner.devices)
    (hca : (Event.addDiscovered disc fresh).Undisturbed ours id key r)
    (hs : (Event.addDiscovered disc fresh).Spares ours id key fingerprint r) :
    (r.addDiscovered disc fresh).1.inner.Bound id key fingerprint := by
  by_cases hc : Carries key disc.claim
  · exact (observe_own hr h hc hca.1).2
  · obtain ⟨hos, how⟩ := hs hc
    by_cases hours : ours disc
    · refine (observe_other hr h hc hf).2 (how hours) (.inl ?_)
      rcases hcl : disc.claim with _ | held
      · rfl
      · exact absurd ⟨held, hcl, hca.2.2 hours held hcl⟩ hc
    · exact (observe_other hr h hc hf).2 (hos hours).module (.inr (hos hours).name)

lemma Bound.removed (h : r.inner.Bound id key fingerprint) (hs : id ∈ (r.remove id').1.inner.devices) :
    (r.remove id').1.inner.Bound id key fingerprint := by
  unfold remove at hs ⊢
  rcases he : r.inner.devices.lookup id' with _ | entry
  · exact h
  · simp only [he] at hs
    have hn : id ≠ id' := (mem_erase.mp hs).1
    refine ⟨(lookup_erase_ne hn).trans h.held, h.unquarantined, h.pinned, ?_⟩
    intro o claim hoh hc
    have hc' : (r.inner.claimsById.erase id').lookup o = some claim := hc
    rw [Table.lookup_erase_if] at hc'
    split_ifs at hc'
    exact h.alone o claim hoh hc'

lemma Bound.seeded (h : r.inner.Bound id key fingerprint)
    {pins : Table PortableDeviceKey DeviceFingerprint} {qk : Finset PortableDeviceKey}
    (hk : key ∉ (r.seedPortableIdentity pins qk).inner.quarantinedKeys) :
    (r.seedPortableIdentity pins qk).inner.Bound id key fingerprint :=
  ⟨h.held, hk, (lookup_union_left (mem_pins_of_lookup h.pinned)).trans h.pinned, h.alone⟩

lemma Bound.reported (h : r.inner.Bound id key fingerprint) {ex inc : PortableIdentityClaim}
    (hk : key ∉ (r.reportPortableKeyCollision id' name ex inc).inner.quarantinedKeys) :
    (r.reportPortableKeyCollision id' name ex inc).inner.Bound id key fingerprint := by
  unfold reportPortableKeyCollision at hk ⊢
  split_ifs at hk ⊢ with hq
  · exact h
  · have hn : key ≠ ex.key := by
      rintro rfl
      exact hk (Finset.mem_insert_self _ _)
    exact ⟨h.held, hk, (lookup_erase_ne hn).trans h.pinned, h.alone⟩

end RegistryInner

variable {claim : PortableIdentityClaim}

/-- A claim that is left after a retirement was there before. -/
lemma lookup_retired_claims {s : RegistryInner X} {holder : Option DeviceId} {id : DeviceId}
    (h : (retired s holder).claimsById.lookup id = some claim) :
    s.claimsById.lookup id = some claim ∧ holder ≠ some id := by
  rcases holder with _ | hid
  · exact ⟨h, nofun⟩
  · have he : (s.claimsById.erase hid).lookup id = some claim := h
    rw [Table.lookup_erase_if] at he
    split_ifs at he with heq
    exact ⟨he, fun hh => heq (some.inj hh).symm⟩

/-- Another device is rebound. -/
lemma RegistryInner.Bound.rebound (h : r.inner.Bound id key fingerprint)
    (hs : id ∈ (r.rebindPortableIdentity id' name).1.inner.devices)
    (hoh : id' = id → ∃ e, (r.rebindPortableIdentity id' name).2 = .error e) :
    (r.rebindPortableIdentity id' name).1.inner.Bound id key fingerprint := by
  have hr := rebound_rebind r id' name
  generalize r.rebindPortableIdentity id' name = res at hr hs hoh ⊢
  cases hr with
  | refused e hrs => exact h
  | @done entry updated claim he hc hhe =>
    have hn : id ≠ id' := by
      rintro rfl
      obtain ⟨e, ⟨⟩⟩ := hoh rfl
    have hk : id ∈ (retired r.inner (otherHolder r.inner id' name)).devices :=
      ((mem_insert _).mp hs).resolve_left hn
    have hp := retired_pins r.inner (otherHolder r.inner id' name)
    have hq := retired_quarantinedKeys r.inner (otherHolder r.inner id' name)
    have hi : (retired r.inner (otherHolder r.inner id' name)).idToFingerprint.lookup id =
          some fingerprint := by
      rcases hh : otherHolder r.inner id' name with _ | hid
      · exact h.held
      · rw [hh] at hk
        exact (lookup_erase_ne (mem_erase.mp hk).1).trans h.held
    have hke : key ≠ claim.key := fun heq => h.alone id' claim hn.symm hc heq.symm
    refine ⟨(lookup_insert_ne hn).trans hi, ?_, ?_, fun o held hoh' hl => ?_⟩
    · exact fun hm => h.unquarantined (hq ▸ hm)
    · refine (lookup_insert_ne hke).trans ?_
      rw [hp]
      exact h.pinned
    · exact h.alone o held hoh' (lookup_retired_claims hl).1

/-- **Step lemma.** -/
theorem RegistryInner.Bound.step [BEq X] (hr : r.inner.Indexed)
    (h : r.inner.Bound id key fingerprint) {e : Event X} (ha : e.Allowed r)
    (hc : e.Undisturbed ours id key r) (hs : e.Spares ours id key fingerprint r) :
    (e.apply r).inner.Bound id key fingerprint := by
  cases e with
  | add info fresh | addWithFingerprintAndMetadata info raw metadata fresh =>
    exact h.registered hr ha hs
  | addDiscovered disc fresh => exact h.discovered hr ha hc hs
  | remove id' => exact h.removed hc.2.1
  | setState id' state => exact h.same (same_setState r id' state)
  | updateInfo id' info => exact h.same (same_updateInfo r id' info)
  | refreshDiscovered id' disc => exact h.same (same_refreshDiscovered r id' disc)
  | updateUserSettings id' name enabled bright rotation =>
    exact h.same (same_updateUserSettings r id' name enabled bright rotation)
  | replaceUserSettings id' st => exact h.same (same_replaceUserSettings r id' st)
  | seedPortableIdentity pins qk => exact h.seeded hc.1
  | drainPortableKeyCollisions => exact h.same ⟨rfl, rfl, rfl, rfl, rfl, fun _ hm => hm⟩
  | reportPortableKeyCollision id' name ex inc => exact h.reported hc.1
  | rebindPortableIdentity id' name => exact h.rebound hc.2.1 hc.2.2
  | publishOutputSettings exp de =>
    exact h.same (same_publishOutputSettings r exp de)

/-- A rebind of a device whose key is nobody else's and not quarantined binds it. -/
lemma bound_rebind {updated : TrackedDevice X} (hc : r.inner.claimsById.lookup id = some claim)
    (hd : (r.rebindPortableIdentity id fingerprint).2 = .ok updated)
    (hke : claim.key ∉ r.inner.quarantinedKeys)
    (ha : ∀ id' claim', id' ≠ id → r.inner.fingerprints.lookup fingerprint ≠ some id' →
      r.inner.claimsById.lookup id' = some claim' → claim'.key ≠ claim.key) :
    (r.rebindPortableIdentity id fingerprint).1.inner.Bound id claim.key fingerprint := by
  have hr := rebound_rebind r id fingerprint
  generalize r.rebindPortableIdentity id fingerprint = res at hr hd ⊢
  cases hr with
  | refused e hrs => cases hd
  | @done entry updated claim' he hc' hh =>
    obtain rfl := some.inj (hc.symm.trans hc')
    have hq := retired_quarantinedKeys r.inner (otherHolder r.inner id fingerprint)
    refine ⟨lookup_insert _, fun hm => hke (hq ▸ hm), lookup_insert _, ?_⟩
    intro id' held hn hl
    obtain ⟨hb, hk⟩ := lookup_retired_claims hl
    refine ha id' held hn (fun hat => hk ?_) hb
    simp [otherHolder, hat, filter_some, hn]

/-- **A rebind is durable** over every run that meets the condition: whatever carries the key is the
device, and what does not is the device exactly when it does not miss it. -/
theorem rebind_durable [BEq X] (hr : (machine X).Reachable r) {claim : PortableIdentityClaim}
    {updated : TrackedDevice X} (hclaim : r.inner.claimsById.lookup id = some claim)
    (hdone : (r.rebindPortableIdentity id fingerprint).2 = .ok updated)
    (hkey : claim.key ∉ r.inner.quarantinedKeys)
    (halone : ∀ id' claim', id' ≠ id → r.inner.fingerprints.lookup fingerprint ≠ some id' →
      r.inner.claimsById.lookup id' = some claim' → claim'.key ≠ claim.key)
    (ours : DiscoveredDevice X → Prop) {es : List (Event X)} {r' : DeviceRegistry X}
    (hrun : ((machine X).restrict fun e s => e.Undisturbed ours id claim.key s ∧
      e.Spares ours id claim.key fingerprint s).Run (r.rebindPortableIdentity id fingerprint).1 es r')
    (discovered : DiscoveredDevice X) {fresh : DeviceId} (hfresh : fresh ∉ r'.inner.devices) :
    (Carries claim.key discovered.claim →
        claim.key ∉ (r'.addDiscovered discovered fresh).1.inner.quarantinedKeys →
          (r'.addDiscovered discovered fresh).2 = id) ∧ (¬Carries claim.key discovered.claim →
        ((r'.addDiscovered discovered fresh).2 ≠ id ↔
          r'.inner.Misses id fingerprint discovered.fingerprint discovered.info
            discovered.metadata discovered.claim)) := by
  have hk : r'.inner.Indexed ∧ r'.inner.Bound id claim.key fingerprint := by
    clear hfresh
    induction hrun with
    | nil =>
      have hi := sound_rebindPortableIdentity (reachable_indexed hr) id fingerprint
      exact ⟨hi.indexed, bound_rebind hclaim hdone hkey halone⟩
    | snoc hrun hs ih =>
      obtain ⟨⟨ha, rfl⟩, hc, hsp⟩ := hs
      exact ⟨(sound_apply ih.1 ha).indexed, ih.2.step ih.1 ha hc hsp⟩
  obtain ⟨hi, hb⟩ := hk
  exact ⟨fun hca hf => (observe_own hi hb hca hf).1,
    fun hoh => (observe_other hi hb hoh hfresh).1⟩

end Runs

/-- Two units under fingerprints and keys of their own. -/
def twoUnits : DeviceRegistry Unit :=
  applyAll .new [.addDiscovered (sampleUnit 1 "usb:a" "K1" "1-1") ⟨9⟩,
    .addDiscovered (sampleUnit 2 "usb:b" "K2" "1-2") ⟨9⟩]

lemma reachable_twoUnits : (machine Unit).Reachable twoUnits :=
  reachable_applyAll (.init rfl) (show AllowedAll .new
    [.addDiscovered (sampleUnit 1 "usb:a" "K1" "1-1") ⟨9⟩,
      .addDiscovered (sampleUnit 2 "usb:b" "K2" "1-2") ⟨9⟩] by decide)

/-- The rebound unit is found again under a third raw fingerprint, after the other one was seen. -/
theorem rebind_durable_replugged : ((Event.apply (twoUnits.rebindPortableIdentity ⟨2⟩ ⟨"usb:c"⟩).1
      (.addDiscovered (sampleUnit 1 "usb:a" "K1" "1-1") ⟨9⟩)).addDiscovered
        (sampleUnit 7 "usb:d" "K2" "1-2") ⟨9⟩).2 = ⟨2⟩ := by
  have hd : (twoUnits.rebindPortableIdentity ⟨2⟩ ⟨"usb:c"⟩).2 = .ok
      (bumpDeviceRevision (.discovered (sampleUnit 2 "usb:b" "K2" "1-2").info ⟨2⟩ .autoConnect)) := rfl
  have he : ∀ e ∈ twoUnits.inner.claimsById.entries, e.1 ≠ ⟨2⟩ → e.2.key ≠ ⟨"K2"⟩ := by
    decide
  have hr : ((machine Unit).restrict fun e s =>
      e.Undisturbed (fun _ => False) ⟨2⟩ ⟨"K2"⟩ s ∧ e.Spares (fun _ => False) ⟨2⟩ ⟨"K2"⟩ ⟨"usb:c"⟩ s).Run
      (twoUnits.rebindPortableIdentity ⟨2⟩ ⟨"usb:c"⟩).1
      [.addDiscovered (sampleUnit 1 "usb:a" "K1" "1-1") ⟨9⟩] _ :=
    Machine.Run.nil.snoc ⟨⟨by decide, rfl⟩, ⟨by decide, by decide, False.elim⟩,
      fun _ => ⟨fun _ => ⟨by decide, fun hn => absurd hn (by decide)⟩, False.elim⟩⟩
  exact (rebind_durable reachable_twoUnits
    (show twoUnits.inner.claimsById.lookup ⟨2⟩ = some (.usbSerial ⟨"K2"⟩ "K2" "1-2") from rfl)
    hd (by decide)
    (fun id' claim' hne _ hc => he ⟨id', claim'⟩ (mem_lookup_iff.mp hc) hne)
    (fun _ => False) hr _ (by decide)).1 ⟨_, rfl, rfl⟩ (by decide)

/-- The predecessor, plugged in again, is taken for the device that replaced it; and a device rebound
under a quarantined key is not found again. -/
theorem rebind_not_durable :
    (∃ (r : DeviceRegistry Unit) (updated : TrackedDevice Unit), (machine Unit).Reachable r ∧
      (r.rebindPortableIdentity ⟨2⟩ ⟨"usb:a"⟩).2 = .ok updated ∧
      ((r.rebindPortableIdentity ⟨2⟩ ⟨"usb:a"⟩).1.addDiscovered
        (sampleUnit 1 "usb:a" "K1" "1-1") ⟨9⟩).2 = ⟨2⟩) ∧
    ∃ (r : DeviceRegistry Unit) (updated : TrackedDevice Unit), (machine Unit).Reachable r ∧
      (r.rebindPortableIdentity ⟨2⟩ ⟨"usb:c"⟩).2 = .ok updated ∧
      ((r.rebindPortableIdentity ⟨2⟩ ⟨"usb:c"⟩).1.addDiscovered
        (sampleUnit 7 "usb:b" "K" "1-2") ⟨9⟩).2 = ⟨7⟩ := by
  have hr := reachable_applyAll (.init rfl) (show AllowedAll .new
    [.addDiscovered (sampleUnit 1 "usb:a" "K" "1-1") ⟨9⟩, .setState ⟨1⟩ .connected,
      .addDiscovered (sampleUnit 2 "usb:b" "K" "1-2") ⟨9⟩] by decide)
  exact ⟨⟨twoUnits, _, reachable_twoUnits, rfl, by decide⟩, ⟨_, _, hr, rfl, by decide⟩⟩

end Hypercolor.Registry
