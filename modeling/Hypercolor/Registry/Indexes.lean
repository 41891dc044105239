import Hypercolor.Registry.Effects

/-!
# The device registry: the indexes agree

`Indexed` holds after every run (`reachable_indexed`), and so does what a cache keyed by the
generation relies on: **two states of a run with one generation have the same devices, indexes,
metadata and claims, as long as fewer than `2 ^ 64` changes lie between them**
(`indexes_agree`). The counter is a `u64` that wraps, so beyond that the generation comes back with
different devices.

The argument is one lemma per group of edits: an entry is written, an owner moves to another
fingerprint, a device goes.
-/

namespace Hypercolor.Registry

open Hypercolor.Lib AList DeviceRegistry

variable {X : Type}

variable {fresh id : DeviceId}

namespace RegistryInner.Indexed

variable {s : RegistryInner X} {fingerprint : DeviceFingerprint} {entry : TrackedDevice X}
  {metadata : Metadata} {claim : Option PortableIdentityClaim}

lemma empty : (new : DeviceRegistry X).inner.Indexed where
  inverse := Inverse.empty
  tracked _ := Iff.rfl
  own_id _ _ h := nomatch h
  metadata _ h := nomatch h
  claims _ h := nomatch h

/-- Writing an entry for a device that the reverse index already has. -/
lemma write (hi : Inverse s.fingerprints s.idToFingerprint)
    (ht : ∀ id', id' ∈ s.idToFingerprint ↔ id' = id ∨ id' ∈ s.devices)
    (how : ∀ id' entry', s.devices.lookup id' = some entry' → entry'.info.id = id')
    (hm : ∀ id', id' ∈ s.metadataById → id' ∈ s.devices)
    (hc : ∀ id', id' ∈ s.claimsById → id' ∈ s.devices) (hentry : entry.info.id = id) :
    (s.writeEntry id entry metadata claim).Indexed := by
  constructor
  · simpa using hi
  · intro id'
    simp [ht id']
  · intro id' entry' h
    rw [writeEntry_devices, Table.lookup_insert_if] at h
    split_ifs at h with he
    · obtain rfl := Option.some.inj h
      rw [hentry, he]
    · exact how id' entry' h
  · intro id' h
    rw [writeEntry_devices, mem_insert]
    rw [writeEntry_metadataById] at h
    exact (mem_storedMetadata h).imp_right (hm id')
  · intro id' h
    rw [writeEntry_devices, mem_insert]
    rw [writeEntry_claimsById] at h
    exact (mem_storedClaims h).imp_right (hc id')

section

variable (h : s.Indexed) (hid : id ∈ s.devices) (hentry : entry.info.id = id)
include h hid hentry

lemma writeEntry : (s.writeEntry id entry metadata claim).Indexed := by
  refine write h.inverse (fun id' => ?_) h.own_id h.metadata h.claims hentry
  rw [h.tracked]
  exact ⟨.inr, fun hor => hor.elim (fun he => he ▸ hid) fun hm => hm⟩

/-- Replacing the entry of a tracked device, and nothing else. -/
lemma putDevice : { s with devices := s.devices.insert id entry : RegistryInner X }.Indexed := by
  have hw : (s.writeEntry id entry ∅ none).Indexed := h.writeEntry hid hentry
  exact hw.congr (by simp) (by simp) (by simp) (by simp [storedMetadata]) (by simp [storedClaims])

/-- Replacing the entry and the metadata of a tracked device. -/
lemma refreshed : { s with
      devices := s.devices.insert id entry
      metadataById := s.metadataById.insert id metadata : RegistryInner X }.Indexed := by
  have hp := h.putDevice hid hentry
  refine ⟨hp.inverse, hp.tracked, hp.own_id, fun id' hid' => ?_, hp.claims⟩
  rw [mem_insert] at hid' ⊢
  exact hid'.imp_right (h.metadata id')

end

/-- A rediscovered device is indexed under the fingerprint it is held under. -/
lemma reindex (h : s.Indexed) (hid : s.fingerprints.lookup fingerprint = some id) :
    { s with idToFingerprint := s.idToFingerprint.insert id fingerprint : RegistryInner X }.Indexed where
  inverse := h.inverse.rebind hid
  tracked id' := by
    have hm := h.mem_of_fingerprint hid
    rw [mem_insert, h.tracked]
    exact ⟨fun hor => hor.elim (fun he => he ▸ hm) fun hm' => hm', .inr⟩
  own_id := h.own_id
  metadata := h.metadata
  claims := h.claims

lemma moveFingerprint (h : s.Indexed) (hid : id ∈ s.devices)
    (hf : ∀ id', s.fingerprints.lookup fingerprint = some id' → id' = id) :
    (s.moveFingerprint id fingerprint).Indexed := by
  obtain ⟨prev, hp⟩ := h.exists_fingerprint hid
  constructor
  · simp only [RegistryInner.moveFingerprint, hp]
    exact h.inverse.move hp hf
  · intro id'
    simp only [RegistryInner.moveFingerprint, mem_insert, h.tracked]
    exact ⟨fun hor => hor.elim (fun he => he ▸ hid) fun hm => hm, .inr⟩
  · exact h.own_id
  · exact h.metadata
  · exact h.claims

lemma insertNew {info : DeviceInfo X} {connect : DiscoveryConnectBehavior}
    (h : s.Indexed) (hf : s.fingerprints.lookup fingerprint = none) (hfr : fresh ∉ s.devices) :
    (s.insertNew info fingerprint metadata connect claim fresh).1.Indexed := by
  unfold RegistryInner.insertNew
  generalize hid : (if info.id ∈ s.devices then fresh else info.id) = id
  have hn : id ∉ s.devices := by
    subst hid
    split_ifs with hm
    · exact hfr
    · exact hm
  refine write (h.inverse.bind hf (h.lookup_eq_none hn)) (fun id' => ?_) h.own_id h.metadata h.claims rfl
  rw [mem_insert, h.tracked]

/-- A device goes, with everything kept for it. -/
lemma retire (h : s.Indexed) (id : DeviceId) : (retirePredecessor s id).Indexed where
  inverse := h.inverse.retain id
  tracked id' := by
    simp only [retirePredecessor, mem_erase, h.tracked]
  own_id id' entry' hentry := by
    simp only [retirePredecessor, Table.lookup_erase_if] at hentry
    split_ifs at hentry
    exact h.own_id id' entry' hentry
  metadata id' hm := by
    simp only [retirePredecessor, mem_erase] at hm ⊢
    exact hm.imp_right (h.metadata id')
  claims id' hm := by
    simp only [retirePredecessor, mem_erase] at hm ⊢
    exact hm.imp_right (h.claims id')

end RegistryInner.Indexed

/-! ## The operations -/

/-- The maps that the generation speaks about are the same. -/
structure SameBooks (s s' : RegistryInner X) : Prop where
  devices : s'.devices = s.devices
  fingerprints : s'.fingerprints = s.fingerprints
  ids : s'.idToFingerprint = s.idToFingerprint
  metadata : s'.metadataById = s.metadataById
  claims : s'.claimsById = s.claimsById

lemma SameBooks.refl (s : RegistryInner X) : SameBooks s s := ⟨rfl, rfl, rfl, rfl, rfl⟩

variable {s t : RegistryInner X}

lemma SameBooks.trans {u : RegistryInner X} (hs : SameBooks s t) (ht : SameBooks t u) : SameBooks s u :=
  ⟨ht.devices.trans hs.devices, ht.fingerprints.trans hs.fingerprints, ht.ids.trans hs.ids,
    ht.metadata.trans hs.metadata, ht.claims.trans hs.claims⟩

/-- What every operation does: the indexes stay in agreement, and the generation moves by one or the
maps are as they were. -/
structure Sound (r r' : DeviceRegistry X) : Prop where
  indexed : r'.inner.Indexed
  counted : r'.generation = r.generation + 1 ∨
    r'.generation = r.generation ∧ SameBooks r.inner r'.inner

variable {r r' : DeviceRegistry X}

lemma Sound.refl (h : r.inner.Indexed) : Sound r r := ⟨h, .inr ⟨rfl, .refl _⟩⟩

lemma Sound.commit (h : s.Indexed) : Sound r (r.commit s) := ⟨h, .inl rfl⟩

/-- Pins, quarantine and collision log are not counted. -/
lemma Sound.uncounted (h : r.inner.Indexed) (hs : SameBooks r.inner s) : Sound r { r with inner := s } :=
  ⟨h.congr hs.devices hs.fingerprints hs.ids hs.metadata hs.claims, .inr ⟨rfl, hs⟩⟩

variable {entry : TrackedDevice X}

section Operations

lemma Sound.commitEntry (h : r.inner.Indexed) (hid : id ∈ r.inner.devices)
    (hentry : entry.info.id = id) : Sound r (r.commitEntry id entry) :=
  .commit (h.putDevice hid hentry)

lemma mem_of_lookup (hentry : r.inner.devices.lookup id = some entry) : id ∈ r.inner.devices :=
  Table.mem_of_lookup hentry

lemma sound_addEntry [BEq X] (h : r.inner.Indexed) (info : DeviceInfo X)
    (raw : DeviceFingerprint) (metadata : Metadata) (connect : DiscoveryConnectBehavior)
    (claim : Option PortableIdentityClaim) (hfr : fresh ∉ r.inner.devices) :
    Sound r (r.addEntry info raw metadata connect claim fresh).1 := by
  have hs := h.resolve raw claim
  have hd := r.inner.resolve_devices raw claim
  have ha := added_addEntry r info raw metadata connect claim fresh h
  generalize r.addEntry info raw metadata connect claim fresh = added at ha ⊢
  cases ha with
  | unchanged hid hc =>
    exact .uncounted h ⟨by simp, by simp, by simp, by simp, by simp⟩
  | updated hid hentry =>
    refine .commit ((hs.reindex hid).writeEntry (hs.mem_of_fingerprint hid) ?_)
    simp [TrackedDevice.rediscovered]
  | moved hf hma hentry =>
    have hm := Table.mem_of_lookup hentry
    refine .commit ((hs.moveFingerprint hm fun id' hid' => ?_).writeEntry hm ?_)
    · cases hf.symm.trans hid'
    · simp [TrackedDevice.rediscovered]
  | inserted hf hma =>
    exact .commit (hs.insertNew hf (by rwa [hd]))

section

variable (h : r.inner.Indexed) (id : DeviceId)
include h

lemma sound_remove : Sound r (r.remove id).1 := by
  unfold remove
  rcases hentry : r.inner.devices.lookup id with _ | entry
  · exact .refl h
  · have hr := h.retire id
    obtain ⟨fingerprint, hf⟩ := h.exists_fingerprint (mem_of_lookup hentry)
    simp only [hf]
    refine .commit ⟨?_, hr.tracked, hr.own_id, hr.metadata, hr.claims⟩
    -- the retained index has lost the fingerprint of the device already
    have hd := (h.inverse.drop hf).retain id
    intro x y
    rw [hd x y, Table.lookup_erase_if]
    split_ifs with he
    · subst he
      simp
    · rfl

lemma sound_setState (st : DeviceState) : Sound r (r.setState id st).1 := by
  unfold setState
  rcases hentry : r.inner.devices.lookup id with _ | entry
  · exact .refl h
  · dsimp only
    split_ifs
    · exact .refl h
    · exact .commitEntry h (mem_of_lookup hentry) (h.own_id id entry hentry)

lemma sound_updateInfo (info : DeviceInfo X) : Sound r (r.updateInfo id info).1 := by
  unfold updateInfo
  rcases hentry : r.inner.devices.lookup id with _ | entry
  · exact .refl h
  · exact .commitEntry h (mem_of_lookup hentry) rfl

lemma sound_refreshDiscovered (disc : DiscoveredDevice X) : Sound r (r.refreshDiscovered id disc).1 := by
  unfold refreshDiscovered
  split_ifs with hoh
  · exact .refl h
  · rcases hentry : r.inner.devices.lookup id with _ | entry
    · exact .refl h
    · dsimp only
      split_ifs
      · exact .refl h
      · have hid : disc.info.id = id := by_contra fun hn => hoh (.inl hn)
        have hm := mem_of_lookup hentry
        refine .commit (RegistryInner.Indexed.refreshed h hm ?_)
        exact hid

lemma sound_updateUserSettings (nm : Option String) (enabled : Option Bool)
    (bright : Option F32) (rotation : Option DisplayRotation) :
    Sound r (r.updateUserSettings id nm enabled bright rotation).1 := by
  unfold updateUserSettings
  rcases hentry : r.inner.devices.lookup id with _ | entry
  · exact .refl h
  · exact .commitEntry h (mem_of_lookup hentry) (h.own_id id entry hentry)

lemma sound_replaceUserSettings [BEq X] (st : DeviceUserSettings) :
    Sound r (r.replaceUserSettings id st).1 := by
  unfold replaceUserSettings
  rcases hentry : r.inner.devices.lookup id with _ | entry
  · exact .refl h
  · dsimp only
    split_ifs
    · exact .refl h
    · exact .commitEntry h (mem_of_lookup hentry) (h.own_id id entry hentry)

lemma sound_reportPortableKeyCollision (fingerprint : DeviceFingerprint)
    (ex inc : PortableIdentityClaim) :
    Sound r (r.reportPortableKeyCollision id fingerprint ex inc) := by
  unfold reportPortableKeyCollision
  split_ifs
  · exact .refl h
  · exact .commit (h.congr rfl rfl rfl rfl rfl)

end

/-- What a rebind leaves of the tracked devices: nobody else holds the fingerprint. -/
lemma indexed_retired (h : r.inner.Indexed) (hid : id ∈ r.inner.devices)
    (fingerprint : DeviceFingerprint) : (retired r.inner (otherHolder r.inner id fingerprint)).Indexed ∧
      id ∈ (retired r.inner (otherHolder r.inner id fingerprint)).devices ∧
      ∀ id', (retired r.inner (otherHolder r.inner id fingerprint)).fingerprints.lookup fingerprint
          = some id' → id' = id := by
  rcases hho : otherHolder r.inner id fingerprint with _ | holderId
  · refine ⟨h, hid, fun id' hid' => ?_⟩
    by_contra hn
    have hh : r.inner.fingerprints.lookup fingerprint = some id' := hid'
    rw [otherHolder, hh] at hho
    simp [hn] at hho
  · obtain ⟨hh, hn⟩ := Option.filter_eq_some_iff.mp hho
    refine ⟨h.retire holderId, mem_erase.mpr ⟨?_, hid⟩, fun id' hid' => ?_⟩
    · exact fun he => of_decide_eq_true hn he.symm
    · obtain ⟨hid', hk⟩ := Table.lookup_retain_eq_some.mp hid'
      obtain rfl := Option.mem_unique hh hid'
      simp at hk

lemma inheritSettings_id (entry : TrackedDevice X) (inherited : Option DeviceUserSettings) :
    (inheritSettings entry inherited).info.id = entry.info.id := by
  rcases inherited with _ | st <;> rfl

lemma sound_rebindPortableIdentity (h : r.inner.Indexed) (id : DeviceId)
    (fingerprint : DeviceFingerprint) : Sound r (r.rebindPortableIdentity id fingerprint).1 := by
  unfold rebindPortableIdentity
  rcases hentry : r.inner.devices.lookup id with _ | entry
  · exact .refl h
  · rcases hc : r.inner.claimsById.lookup id with _ | claim
    · exact .refl h
    · dsimp only
      split_ifs
      · exact .refl h
      · obtain ⟨hr, hm, hf⟩ := indexed_retired h (mem_of_lookup hentry) fingerprint
        have hmo := hr.moveFingerprint hm hf
        refine .commit ((hmo.putDevice hm ?_).congr rfl rfl rfl rfl rfl)
        rw [bumpDeviceRevision_info, inheritSettings_id]
        exact h.own_id id entry hentry

/-! ## Output settings -/

/-- Devices that keep their ids keep the indexes in agreement. -/
lemma publishOutput_keeps {devices : Table DeviceId (TrackedDevice X)} {ch : Bool}
    {de : PortableDeviceOutput} (h : { t with devices : RegistryInner X }.Indexed) :
    { t with devices := (publishOutput devices ch id de).1 : RegistryInner X }.Indexed := by
  unfold publishOutput
  rcases hentry : devices.lookup id with _ | entry
  · exact h
  · dsimp only
    split_ifs
    · exact h
    · exact h.putDevice (Table.mem_of_lookup hentry) (h.own_id id entry hentry)

lemma publishAll_keeps (de : List (Sigma fun _ : DeviceId => PortableDeviceOutput)) :
    ∀ {acc : Table DeviceId (TrackedDevice X) × Bool},
      { t with devices := acc.1 : RegistryInner X }.Indexed → { t with devices := (de.foldl
          (fun acc e => publishOutput acc.1 acc.2 e.1 e.2) acc).1 :
        RegistryInner X }.Indexed := by
  induction de with
  | nil => exact id
  | cons e es ih => exact fun h => ih (publishOutput_keeps h)

lemma sound_publishOutputSettings (h : r.inner.Indexed) (exp de : Table DeviceId PortableDeviceOutput) :
    Sound r (r.publishOutputSettings exp de).1 := by
  unfold publishOutputSettings
  rcases prepareOutputSettings r.inner exp de with _ | _
  · exact .refl h
  · dsimp only
    split_ifs
    · exact .commit (publishAll_keeps de.entries (t := r.inner) h)
    · exact .refl h

end Operations

/-- **Step lemma.** -/
theorem sound_apply [BEq X] {e : Event X} (h : r.inner.Indexed) (ha : e.Allowed r) :
    Sound r (e.apply r) := by
  cases e with
  | add info fresh | addWithFingerprintAndMetadata info fingerprint metadata fresh
  | addDiscovered disc fresh => exact sound_addEntry h _ _ _ _ _ ha
  | remove id => exact sound_remove h id
  | setState id state => exact sound_setState h id state
  | updateInfo id info => exact sound_updateInfo h id info
  | refreshDiscovered id disc => exact sound_refreshDiscovered h id disc
  | updateUserSettings id nm enabled bright rotation =>
    exact sound_updateUserSettings h id nm enabled bright rotation
  | replaceUserSettings id st => exact sound_replaceUserSettings h id st
  | seedPortableIdentity pins qk | drainPortableKeyCollisions =>
    exact .uncounted h ⟨rfl, rfl, rfl, rfl, rfl⟩
  | reportPortableKeyCollision id fingerprint ex inc =>
    exact sound_reportPortableKeyCollision h id fingerprint ex inc
  | rebindPortableIdentity id fingerprint => exact sound_rebindPortableIdentity h id fingerprint
  | publishOutputSettings exp de => exact sound_publishOutputSettings h exp de

/-- **The indexes agree** in every reachable state. -/
theorem reachable_indexed [BEq X] (h : (machine X).Reachable r) : r.inner.Indexed := by
  refine h.invariant (I := fun r => r.inner.Indexed) ?_ ?_
  · rintro _ rfl
    exact RegistryInner.Indexed.empty
  · rintro s e _ hs ⟨ha, rfl⟩
    exact (sound_apply hs ha).indexed

/-! ## The generation -/

/-- A device without segments, for the examples. -/
def sampleInfo : DeviceInfo Unit where
  id := ⟨1⟩
  name := "Strip"
  vendor := ""
  model := none
  connectionType := .network
  driverId := "wled"
  backendId := "wled"
  segments := []
  firmwareVersion := none
  capabilities := ⟨0, true, false, false, 60, ()⟩
  rest := ()

section Generation

variable [BEq X]

/-- How many calls of a run moved the generation. -/
def mutations (r : DeviceRegistry X) : List (Event X) → Nat
  | [] => 0
  | e :: es => (if (e.apply r).generation = r.generation then 0 else 1) + mutations (e.apply r) es

/-- The registry after a list of calls. -/
def applyAll (r : DeviceRegistry X) (es : List (Event X)) : DeviceRegistry X :=
  es.foldl Event.apply r

/-- Every call of a list is allowed where it comes. -/
def AllowedAll (r : DeviceRegistry X) : List (Event X) → Prop
  | [] => True
  | e :: es => e.Allowed r ∧ AllowedAll (e.apply r) es

instance : (r : DeviceRegistry X) → (es : List (Event X)) → Decidable (AllowedAll r es)
  | _, [] => inferInstanceAs (Decidable True)
  | r, e :: es =>
    have := instDecidableAllowedAll (e.apply r) es
    inferInstanceAs (Decidable (e.Allowed r ∧ AllowedAll (e.apply r) es))

variable {es : List (Event X)}

lemma reachable_applyAll (hr : (machine X).Reachable r) (h : AllowedAll r es) :
    (machine X).Reachable (applyAll r es) := by
  induction es generalizing r with
  | nil => exact hr
  | cons e es ih => exact ih (hr.step ⟨h.1, rfl⟩) h.2

lemma applyAll_snoc (r : DeviceRegistry X) (es : List (Event X)) (e : Event X) :
    applyAll r (es ++ [e]) = e.apply (applyAll r es) := by
  simp [applyAll]

lemma mutations_snoc (r : DeviceRegistry X) (es : List (Event X)) (e : Event X) :
    mutations r (es ++ [e]) = mutations r es +
      if (e.apply (applyAll r es)).generation = (applyAll r es).generation then 0 else 1 := by
  induction es generalizing r with
  | nil =>
    rw [List.nil_append, mutations, mutations, mutations, Nat.zero_add, Nat.add_zero]
    rfl
  | cons e' es ih =>
    rw [List.cons_append, mutations, mutations, ih, Nat.add_assoc]
    rfl

/-- A run ends where its calls lead. -/
lemma eq_applyAll_of_run (h : (machine X).Run r es r') : r' = applyAll r es := by
  induction h with
  | nil => rfl
  | snoc _ hs ih =>
    rw [applyAll_snoc, ← ih]
    exact hs.2

lemma succ_ne_self (n : UInt64) : n + 1 ≠ n := by
  intro h
  have hn := congrArg UInt64.toNat h
  rw [UInt64.toNat_add] at hn
  have hon : (1 : UInt64).toNat = 1 := rfl
  omega

/-- **Run lemma**: the generation counts the mutations, and nothing moves without one. -/
theorem counted_run (hr : (machine X).Reachable r) (h : (machine X).Run r es r') :
    r'.generation = r.generation + UInt64.ofNat (mutations r es) ∧
      (mutations r es = 0 → SameBooks r.inner r'.inner) := by
  induction h with
  | nil => exact ⟨by simp [mutations], fun _ => .refl _⟩
  | @snoc es e t u hru hst ih =>
    obtain ⟨hc, hsa⟩ := ih
    obtain ⟨ha, rfl⟩ := hst
    have hsn := sound_apply (reachable_indexed (hru.reachable hr)) ha
    rw [mutations_snoc, ← eq_applyAll_of_run hru]
    rcases hsn.counted with hb | ⟨hs, hbk⟩
    · rw [if_neg (by rw [hb]; exact succ_ne_self _), hb, hc]
      refine ⟨?_, fun hz => nomatch hz⟩
      rw [UInt64.ofNat_add, UInt64.add_assoc]
      rfl
    · rw [if_pos hs, hs, Nat.add_zero]
      exact ⟨hc, fun hz => (hsa hz).trans hbk⟩

/-- **The registry's indexes agree, and the generation tells its states apart** between fewer than
`2 ^ 64` mutations. -/
theorem indexes_agree {r : DeviceRegistry X} (hr : (machine X).Reachable r) : r.inner.Indexed ∧
      ∀ es r', (machine X).Run r es r' → mutations r es < 2 ^ 64 →
        r'.generation = r.generation → SameBooks r.inner r'.inner := by
  refine ⟨reachable_indexed hr, fun es r' hru hf hs => ?_⟩
  obtain ⟨hc, hb⟩ := counted_run hr hru
  refine hb ?_
  have hz : UInt64.ofNat (mutations r es) = 0 := by
    rw [hs] at hc
    have hn := congrArg UInt64.toNat hc
    rw [UInt64.toNat_add, UInt64.toNat_ofNat_of_lt' hf] at hn
    apply UInt64.toNat_inj.mp
    rw [UInt64.toNat_ofNat_of_lt' hf]
    show mutations r es = 0
    omega
  have hn := congrArg UInt64.toNat hz
  rwa [UInt64.toNat_ofNat_of_lt' hf] at hn

/-- A settings update that changes nothing is a mutation all the same. -/
lemma touched_run (hentry : r.inner.devices.lookup id = some entry) (n : Nat) : ∃ r', (machine X).Run r
        (List.replicate n (Event.updateUserSettings id none none none none)) r' ∧
      r'.generation = r.generation + UInt64.ofNat n ∧
      ∃ entry', r'.inner.devices.lookup id = some entry' ∧ (0 < n → entry'.revision ≠ 0) := by
  induction n with
  | zero => exact ⟨r, .nil, by simp, entry, hentry, fun h => absurd h (lt_irrefl 0)⟩
  | succ n ih =>
    obtain ⟨t, hr, hc, entry', hl, -⟩ := ih
    rw [List.replicate_succ']
    refine ⟨_, hr.snoc ⟨trivial, rfl⟩, ?_⟩
    simp only [Event.apply, updateUserSettings, hl, commitEntry, commit, lookup_insert]
    refine ⟨?_, _, rfl, fun _ => ?_⟩
    · rw [hc, UInt64.ofNat_add, UInt64.add_assoc]
      rfl
    · simp only [bumpDeviceRevision, saturatingSucc]
      split_ifs with hm
      · intro hz
        rw [hz] at hm
        exact absurd hm (by decide)
      · exact hm

end Generation

/-- After `2 ^ 64` mutations the generation is the same and the devices are not. -/
theorem generation_comes_back : ∃ (r r' : DeviceRegistry Unit) (es : List (Event Unit)),
    (machine Unit).Reachable r ∧ (machine Unit).Run r es r' ∧ r'.generation = r.generation ∧
      r'.inner.devices ≠ r.inner.devices := by
  have hr := reachable_applyAll (.init rfl) (show AllowedAll .new [Event.add sampleInfo ⟨2⟩] by decide)
  obtain ⟨r', hru, hc, entry', hl, hre⟩ :=
    touched_run (show (Event.apply .new (.add sampleInfo ⟨2⟩)).inner.devices.lookup ⟨1⟩ =
      some (.discovered sampleInfo ⟨1⟩ .autoConnect) from rfl) (2 ^ 64)
  refine ⟨_, r', _, hr, hru, ?_, fun hs => ?_⟩
  · rw [hc]
    decide
  · rw [hs] at hl
    obtain rfl : entry' = .discovered sampleInfo ⟨1⟩ .autoConnect := (Option.some.inj hl).symm
    exact hre (by decide) rfl

/-- Seeing a device again as it is known leaves the books as they were. -/
theorem indexes_agree_rediscovered :
    SameBooks (Event.apply (.new : DeviceRegistry Unit) (.add sampleInfo ⟨2⟩)).inner
      (Event.apply (Event.apply .new (.add sampleInfo ⟨2⟩)) (.add sampleInfo ⟨3⟩)).inner := by
  have hr : (machine Unit).Reachable (Event.apply .new (.add sampleInfo ⟨2⟩)) :=
    (Machine.Reachable.init rfl).step ⟨by decide, rfl⟩
  exact (indexes_agree hr).2 [.add sampleInfo ⟨3⟩] _
    (Machine.Run.nil.snoc ⟨by decide, rfl⟩) (by decide) (by decide)

end Hypercolor.Registry
