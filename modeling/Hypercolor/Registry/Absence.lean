import Hypercolor.Registry.Scan

/-!
# Discovery scans: what a scan says about absence

**`absence_sound`**: the three lists of a scan are free of duplicates and disjoint; nothing is reported
vanished unless every scanner succeeded with gaps that name single devices; and no device is reported
vanished although its last fingerprint was reported, if the reports answer for each such device by the
registry before the scan (`Answers`).

A scanner names a device by the raw fingerprint it was discovered under. A device report goes by the
pin its key follows; a presence and a gap are looked up by the raw fingerprint alone. A device held
under another fingerprint than the one it was last discovered under, as pinned hardware on another port
is, answers to a device report and not to the other two: `present_reported_vanished`.

The proof carries, for one device, that it was seen or held, or that nothing heard so far answers for it
and the observations have spared what the registry knows of it (`Accounts`, `Spares`).
-/

namespace Hypercolor.Registry

open Hypercolor.Lib List AList ScanState RegistryInner

variable {X : Type}

/-! ## What is reported -/

/-- The observations of a task, in the order in which they come in. -/
def TaskResult.observations : TaskResult X → List (DiscoveryObservation X)
  | .finished _ _ batch => batch.observations
  | _ => []

/-- The fingerprints that the gaps of a task name. -/
def TaskResult.unverified : TaskResult X → List DeviceFingerprint
  | .finished _ _ batch => batch.gaps.filterMap CoverageGap.device
  | _ => []

/-- The device reports among observations. -/
def deviceReports (observations : List (DiscoveryObservation X)) : List (DiscoveredDevice X) :=
  observations.filterMap fun
    | .device discovered _ => some discovered
    | .present _ => none

/-- The claim that reports are merged under: the first one made under their fingerprint. -/
def firstClaim (reports : List (DiscoveredDevice X)) (fingerprint : DeviceFingerprint) :
    Option PortableIdentityClaim :=
  reports.findSome? fun report => if report.fingerprint = fingerprint then report.claim else none

/-- Some report is merged under a claim with the key. -/
def Carried (reports : List (DiscoveredDevice X)) (key : PortableDeviceKey) : Prop :=
  ∃ fingerprint, Carries key (firstClaim reports fingerprint)

/-- A device report leads to a device of the registry before the scan: it goes by the fingerprint that
the device is held under, and what its key follows is not up to the rest of the scan. The key is
quarantined; or no other device has it, and it is pinned to the reported fingerprint or no earlier report
carries it. -/
def RegistryInner.Leads (inner : RegistryInner X) (id : DeviceId) (earlier : List (DiscoveredDevice X))
    (report : DiscoveredDevice X) : Prop :=
  let claim := firstClaim (earlier ++ [report]) report.fingerprint
  inner.fingerprints.lookup (inner.observedName report.fingerprint claim) = some id ∧
    ∀ held, claim = some held → held.key ∉ inner.quarantinedKeys →
      (∀ pinned, inner.portableKeyPins.lookup held.key = some pinned → inner.Bound id held.key pinned) ∧
        (inner.portableKeyPins.lookup held.key = some report.fingerprint ∨ ¬Carried earlier held.key)

/-- Something heard answers for a device, by the registry before the scan: a gap or a presence names the
fingerprint that the device is held under, or a device report leads to it. -/
def RegistryInner.Answers (inner : RegistryInner X) (id : DeviceId) (gaps : List DeviceFingerprint)
    (heard : List (DiscoveryObservation X)) : Prop :=
  (∃ fingerprint, inner.fingerprints.lookup fingerprint = some id ∧
    (fingerprint ∈ gaps ∨ .present fingerprint ∈ heard)) ∨
  ∃ earlier report, earlier ++ [report] <+: deviceReports heard ∧ inner.Leads id earlier report

section Scan

variable [BEq X]

/-- The ids drawn during a batch are not in use. -/
def AllowedObservations (known : List DeviceId) : ScanState X → List (DiscoveryObservation X) → Prop
  | _, [] => True
  | s, observation :: rest =>
    (match observation with
      | .device _ fresh => fresh ∉ s.registry.inner.devices
      | .present _ => True) ∧ AllowedObservations known (s.observe known observation) rest

/-- The ids drawn during a scan are not in use. -/
def AllowedTasks (known : List DeviceId) : ScanState X → List (TaskResult X) → Prop
  | _, [] => True
  | s, task :: rest =>
    (match task with
      | .finished index name batch =>
        AllowedObservations known (s.begin index name batch) batch.observations
      | _ => True) ∧ AllowedTasks known (s.finish known task) rest

/-- A scanner that succeeded, with gaps that each name one device. -/
def TaskResult.Covers : TaskResult X → Prop
  | .finished _ _ batch => ∀ gap ∈ batch.gaps, gap.device.isSome
  | _ => False

/-- The fingerprint an observation is made under. -/
def DiscoveryObservation.fingerprint : DiscoveryObservation X → DeviceFingerprint
  | .device discovered _ => discovered.fingerprint
  | .present fingerprint => fingerprint

/-- A scanner reported a fingerprint: as a device, as present or in a gap. -/
def Reported (fingerprint : DeviceFingerprint) (tasks : List (TaskResult X)) : Prop :=
  ∃ index name batch, TaskResult.finished index name batch ∈ tasks ∧
    ((∃ observation ∈ batch.observations, observation.fingerprint = fingerprint) ∨
      ∃ gap ∈ batch.gaps, gap.device = some fingerprint)

end Scan

/-- New and reappeared devices were seen, each once; the ones known before reappeared. -/
structure Listed (known : List DeviceId) (s : ScanState X) : Prop where
  new_nodup : s.newDevices.Nodup
  reappeared_nodup : s.reappearedDevices.Nodup
  new : ∀ id ∈ s.newDevices, id ∈ s.seenIds ∧ id ∉ known
  reappeared : ∀ id ∈ s.reappearedDevices, id ∈ s.seenIds ∧ id ∈ known

variable {id fresh : DeviceId}

section Lists

variable {known : List DeviceId} {s : ScanState X}

lemma Listed.start (known : List DeviceId) (r : DeviceRegistry X) : Listed known (.start r) :=
  ⟨nodup_nil, nodup_nil, (fun _ h => nomatch h), (fun _ h => nomatch h)⟩

/-- The lists of ids and the scanners' reports are the same. -/
structure ScanState.SameLists (s s' : ScanState X) : Prop where
  new : s'.newDevices = s.newDevices
  reappeared : s'.reappearedDevices = s.reappearedDevices
  seen : s'.seenIds = s.seenIds
  held : s'.heldIds = s.heldIds
  reports : s'.scannerReports = s.scannerReports

lemma Listed.congr {s' : ScanState X} (h : Listed known s) (hn : s'.newDevices = s.newDevices)
    (hr : s'.reappearedDevices = s.reappearedDevices) (hs : s'.seenIds = s.seenIds) :
        Listed known s' := by
  constructor
  · rw [hn]
    exact h.new_nodup
  · rw [hr]
    exact h.reappeared_nodup
  · rw [hn, hs]
    exact h.new
  · rw [hr, hs]
    exact h.reappeared

/-- A device goes into one of the lists the first time it is seen. -/
lemma Listed.sight (h : Listed known s) (id : DeviceId) : Listed known (s.sight known id) := by
  unfold ScanState.sight
  split_ifs with hs hk
  · exact h
  · refine ⟨h.new_nodup, ?_, fun id' hi' => ?_, fun id' hi' => ?_⟩
    · rw [nodup_append_comm, singleton_append, nodup_cons]
      exact ⟨fun hm => hs (h.reappeared id hm).1, h.reappeared_nodup⟩
    · exact (h.new id' hi').imp_left (mem_cons_of_mem id)
    · rcases mem_append.mp hi' with hold | hn
      · exact (h.reappeared id' hold).imp_left (mem_cons_of_mem id)
      · obtain rfl := mem_singleton.mp hn
        exact ⟨mem_cons_self, hk⟩
  · refine ⟨?_, h.reappeared_nodup, fun id' hi' => ?_, fun id' hi' => ?_⟩
    · rw [nodup_append_comm, singleton_append, nodup_cons]
      exact ⟨fun hm => hs (h.new id hm).1, h.new_nodup⟩
    · rcases mem_append.mp hi' with hold | hn
      · exact (h.new id' hold).imp_left (mem_cons_of_mem id)
      · obtain rfl := mem_singleton.mp hn
        exact ⟨mem_cons_self, hk⟩
    · exact (h.reappeared id' hi').imp_left (mem_cons_of_mem id)

lemma mem_seen_sight {id' : DeviceId} : id' ∈ (s.sight known id).seenIds ↔ id' = id ∨
    id' ∈ s.seenIds := by
  unfold sight
  split_ifs with hs
  · exact ⟨.inr, fun hor => hor.elim (fun he => he ▸ hs) fun hm => hm⟩
  · exact mem_cons
  · exact mem_cons

@[simp] theorem sight_registry (id : DeviceId) : (s.sight known id).registry = s.registry := by
  unfold sight
  split_ifs <;> rfl

@[simp] theorem sight_heldIds (id : DeviceId) : (s.sight known id).heldIds = s.heldIds := by
  unfold sight
  split_ifs <;> rfl

@[simp] theorem sight_aggregated (id : DeviceId) : (s.sight known id).aggregated = s.aggregated := by
  unfold sight
  split_ifs <;> rfl

@[simp] theorem sight_scannerReports (id : DeviceId) :
    (s.sight known id).scannerReports = s.scannerReports := by
  unfold sight
  split_ifs <;> rfl

variable [BEq X]

/-- An observation sights one device or none. -/
lemma observe_cases (known : List DeviceId) (s : ScanState X) (observation : DiscoveryObservation X) :
    ∃ s', s.SameLists s' ∧
      (s.observe known observation = s' ∨ ∃ id, s.observe known observation = s'.sight known id) := by
  rcases observation with ⟨report, fresh⟩ | fingerprint
  · exact ⟨(s.applyDevice report fresh).1, ⟨rfl, rfl, rfl, rfl, rfl⟩, .inr ⟨_, rfl⟩⟩
  · refine ⟨s, ⟨rfl, rfl, rfl, rfl, rfl⟩, ?_⟩
    unfold ScanState.observe
    dsimp only
    split
    · exact .inr ⟨_, rfl⟩
    · exact .inl rfl

omit [BEq X] in
lemma notify_eq (before after : ScanState X) : ∃ progress,
    before.notify after = { after with progress } := by
  unfold notify
  dsimp only
  split_ifs <;> exact ⟨_, rfl⟩

end Lists

/-! ## What an observation leaves alone -/

section Frames

variable {s s' : RegistryInner X} {r : DeviceRegistry X} {info : DeviceInfo X} {raw : DeviceFingerprint}
  {metadata : Metadata} {connectBehavior : DiscoveryConnectBehavior} {key : PortableDeviceKey}
  {claim : Option PortableIdentityClaim} {fingerprint : DeviceFingerprint} {id' : DeviceId}

/-- A device's entry, claim and fingerprint are the same. -/
structure SameDevice (s s' : RegistryInner X) (id : DeviceId) : Prop where
  entry : s'.devices.lookup id = s.devices.lookup id
  claim : s'.claimsById.lookup id = s.claimsById.lookup id
  name : s'.idToFingerprint.lookup id = s.idToFingerprint.lookup id

lemma SameDevice.trans {s'' : RegistryInner X} (h : SameDevice s s' id) (h' : SameDevice s' s'' id) :
    SameDevice s s'' id :=
  ⟨h'.entry.trans h.entry, h'.claim.trans h.claim, h'.name.trans h.name⟩

/-- Whether a collision with the holder of a fingerprint is proven depends on the holder. -/
lemma SameDevice.provesCollision_eq (h : SameDevice s s' id)
    (hf : s.fingerprints.lookup fingerprint = some id)
    (hf' : s'.fingerprints.lookup fingerprint = some id) (held : PortableIdentityClaim) :
    s'.provesCollision fingerprint held = s.provesCollision fingerprint held := by
  unfold provesCollision presentHolder
  rw [hf, hf', Option.bind_some, Option.bind_some, h.entry, h.claim]

variable [BEq X]

/-- **An observation of another device leaves a tracked device alone.** -/
lemma same_addEntry (hr : r.inner.Indexed)
    (hne : (r.addEntry info raw metadata connectBehavior claim fresh).2 ≠ id) :
    SameDevice r.inner (r.addEntry info raw metadata connectBehavior claim fresh).1.inner id := by
  have hs : SameDevice r.inner (r.inner.resolvePortableFingerprint raw claim).1 id := by
    constructor <;> simp
  refine hs.trans ?_
  obtain he | ⟨t, entry, he, hp⟩ :=
    (added_addEntry r info raw metadata connectBehavior claim fresh hr).placed
  · rw [he]
    exact ⟨rfl, rfl, rfl⟩
  · rw [he]
    constructor
    · rw [writeEntry_devices, lookup_insert_ne hne.symm, hp.devices]
    · rw [writeEntry_claimsById, ← hp.claims]
      rcases claim with _ | held
      · rfl
      · exact lookup_insert_ne hne.symm
    · rw [writeEntry_idToFingerprint, hp.ids, lookup_insert_ne hne.symm]

omit [BEq X] in
/-- Resolving leaves the pin and the quarantine of a key it does not carry, and frees no key. -/
lemma untouched_resolve (s : RegistryInner X) (raw : DeviceFingerprint)
    (claim : Option PortableIdentityClaim) :
    s.quarantinedKeys ⊆ (s.resolvePortableFingerprint raw claim).1.quarantinedKeys ∧
      ∀ key, ¬Carries key claim →
        (key ∈ (s.resolvePortableFingerprint raw claim).1.quarantinedKeys → key ∈ s.quarantinedKeys) ∧
        (s.resolvePortableFingerprint raw claim).1.portableKeyPins.lookup key =
          s.portableKeyPins.lookup key := by
  have hre := resolved_resolve s raw claim
  generalize s.resolvePortableFingerprint raw claim = resolved at hre ⊢
  cases hre with
  | unclaimed | quarantined hk | pinned hk hp => exact ⟨subset_rfl, fun _ _ => ⟨id, rfl⟩⟩
  | @first held hk hp =>
    exact ⟨subset_rfl, fun key hoh => ⟨id, lookup_insert_ne fun he => hoh ⟨held, rfl, he.symm⟩⟩⟩
  | @collided held collision pinned hk hp hc =>
    refine ⟨Finset.subset_insert _ _, fun key hoh => ?_⟩
    have hn : key ≠ collision.key := fun he => hoh ⟨held, rfl, by rw [he, hc]⟩
    exact ⟨fun h => (Finset.mem_insert.mp h).resolve_left hn, lookup_erase_ne hn⟩

/-- **An observation without a key** does not pin the key. -/
lemma unpinned_addEntry (hr : r.inner.Indexed) (hoh : ¬Carries key claim)
    (hn : r.inner.portableKeyPins.lookup key = none) :
    (r.addEntry info raw metadata connectBehavior claim fresh).1.inner.portableKeyPins.lookup
        key = none := by
  have hp := (((untouched_resolve r.inner raw claim).2 key hoh).2).trans hn
  obtain he | ⟨t, entry, he, ht⟩ :=
    (added_addEntry r info raw metadata connectBehavior claim fresh hr).placed
  · rwa [he]
  · rw [he]
    rcases claim with _ | held
    · rw [writeEntry_pins_none, ht.pins, hp]
    · rw [lookup_pins_write, ht.pins, hp, ite_self]
      rw [ht.quarantined, ht.pins]
      exact (pinned_of_resolve r.inner).imp_right mem_pins_of_lookup

/-- **A key that is a device's own stays so** until an observation is the device's or proves a
collision. -/
lemma bound_addEntry (hr : r.inner.Indexed) (h : r.inner.Bound id key fingerprint)
    (hfr : fresh ∉ r.inner.devices)
    (hne : (r.addEntry info raw metadata connectBehavior claim fresh).2 ≠ id) :
    key ∈ (r.addEntry info raw metadata connectBehavior claim fresh).1.inner.quarantinedKeys ∨
      (r.addEntry info raw metadata connectBehavior claim fresh).1.inner.Bound id key fingerprint := by
  by_cases hca : Carries key claim
  · by_contra hno
    exact hne (observe_own hr h hca (not_or.mp hno).1).1
  · have hmi := (observe_other hr h hca hfr).1.mp hne
    exact .inr ((observe_other hr h hca hfr).2 hmi.module (.inr hmi.name))

/-- What observations of other devices leave alone, when they have carried certain keys. -/
structure Spares (s s' : RegistryInner X) (id : DeviceId) (carried : PortableDeviceKey → Prop) :
    Prop where
  indexed : s'.Indexed
  same : SameDevice s s' id
  quarantined : s.quarantinedKeys ⊆ s'.quarantinedKeys
  free : ∀ key, ¬carried key → key ∈ s'.quarantinedKeys → key ∈ s.quarantinedKeys
  unpinned : ∀ key, ¬carried key → s.portableKeyPins.lookup key = none →
    s'.portableKeyPins.lookup key = none
  bound : ∀ key fingerprint, s.Bound id key fingerprint →
    key ∈ s'.quarantinedKeys ∨ s'.Bound id key fingerprint

omit [BEq X] in
lemma Spares.trans {s'' : RegistryInner X} {carried carried' carried'' : PortableDeviceKey → Prop}
    (h : Spares s s' id carried) (h' : Spares s' s'' id carried')
        (hc : ∀ key, carried key → carried'' key)
    (hc' : ∀ key, carried' key → carried'' key) : Spares s s'' id carried'' where
  indexed := h'.indexed
  same := h.same.trans h'.same
  quarantined := h.quarantined.trans h'.quarantined
  free key hn hq := h.free key (fun h => hn (hc key h)) (h'.free key (fun h => hn (hc' key h)) hq)
  unpinned key hn hp :=
    h'.unpinned key (fun h => hn (hc' key h)) (h.unpinned key (fun h => hn (hc key h)) hp)
  bound key fingerprint hb :=
    (h.bound key fingerprint hb).elim (fun hq => .inl (h'.quarantined hq)) (h'.bound key fingerprint)

lemma spares_addEntry (hr : r.inner.Indexed) (hfr : fresh ∉ r.inner.devices)
    (hne : (r.addEntry info raw metadata connectBehavior claim fresh).2 ≠ id) :
    Spares r.inner (r.addEntry info raw metadata connectBehavior claim fresh).1.inner id
      (Carries · claim) where
  indexed := (sound_addEntry hr _ _ _ _ _ hfr).indexed
  same := same_addEntry hr hne
  quarantined := by
    rw [addEntry_quarantinedKeys hr]
    exact (untouched_resolve _ _ _).1
  free key hoh := by
    rw [addEntry_quarantinedKeys hr]
    exact ((untouched_resolve _ _ _).2 key hoh).1
  unpinned _ := unpinned_addEntry hr
  bound _ _ hb := bound_addEntry hr hb hfr hne

omit [BEq X] in
/-- A collision proven among the reports of one fingerprint is about the key they carry. -/
lemma spares_report (hr : r.inner.Indexed) {held : PortableIdentityClaim} (hc : claim = some held)
    (incoming : PortableIdentityClaim) :
    Spares r.inner (r.reportPortableKeyCollision id' raw held incoming).inner id (Carries · claim) := by
  have hx := (sound_reportPortableKeyCollision hr id' raw held incoming).indexed
  unfold DeviceRegistry.reportPortableKeyCollision at hx ⊢
  split_ifs at hx ⊢
  · exact ⟨hr, ⟨rfl, rfl, rfl⟩, subset_rfl, fun _ _ h => h, fun _ _ h => h, fun _ _ h => .inr h⟩
  · have hne : ∀ key, ¬Carries key claim → key ≠ held.key := fun key hoh he => hoh ⟨held, hc, he.symm⟩
    refine ⟨hx, ⟨rfl, rfl, rfl⟩, Finset.subset_insert _ _, fun key hoh hq => ?_, fun key hoh hp => ?_,
      fun key fp hb => ?_⟩
    · exact (Finset.mem_insert.mp hq).resolve_left (hne key hoh)
    · exact (lookup_erase_ne (hne key hoh)).trans hp
    · by_cases hn : key = held.key
      · exact .inl (Finset.mem_insert.mpr (.inl hn))
      · refine .inr ⟨hb.held, fun hq => ?_, (lookup_erase_ne hn).trans hb.pinned, hb.alone⟩
        exact hb.unquarantined ((Finset.mem_insert.mp hq).resolve_left hn)

end Frames

/-! ## A device that nothing has answered for -/

variable {inner now : RegistryInner X} {heard : List (DiscoveryObservation X)}
  {gaps : List DeviceFingerprint} {known : List DeviceId}
  {aggregated : Table DeviceFingerprint (DiscoveredDevice X)}

/-- A scan that started from `inner` has spared a device, and nothing it has heard answers for it. -/
structure Unanswered (inner : RegistryInner X) (id : DeviceId) (gaps : List DeviceFingerprint)
    (heard : List (DiscoveryObservation X)) (now : RegistryInner X)
    (aggregated : Table DeviceFingerprint (DiscoveredDevice X)) : Prop where
  before : inner.Indexed
  spares : Spares inner now id (Carried (deviceReports heard))
  names : ∀ fingerprint report, aggregated.lookup fingerprint = some report →
    report.fingerprint = fingerprint
  claims : ∀ fingerprint, (aggregated.lookup fingerprint).bind DiscoveredDevice.claim =
    firstClaim (deviceReports heard) fingerprint
  unanswered : ¬inner.Answers id gaps heard

lemma firstClaim_append (reports : List (DiscoveredDevice X)) (report : DiscoveredDevice X)
    (fingerprint : DeviceFingerprint) : firstClaim (reports ++ [report]) fingerprint =
      (firstClaim reports fingerprint).or
        (if report.fingerprint = fingerprint then report.claim else none) := by
  simp [firstClaim, findSome?_append]

namespace Unanswered

section

variable (h : Unanswered inner id gaps heard now aggregated)
include h

/-- The fingerprint of the device still leads to it. -/
lemma lookup_name {fingerprint : DeviceFingerprint}
    (hn : inner.fingerprints.lookup fingerprint = some id) :
    now.fingerprints.lookup fingerprint = some id :=
  (h.spares.indexed.inverse _ _).mpr (h.spares.same.name.trans ((h.before.inverse _ _).mp hn))

/-- **A report that leads to the device goes by its fingerprint** also now. -/
lemma lookup_observedName {report : DiscoveredDevice X}
    (hl : inner.Leads id (deviceReports heard) report) :
    now.fingerprints.lookup (now.observedName report.fingerprint
      (firstClaim (deviceReports heard ++ [report]) report.fingerprint)) = some id := by
  obtain ⟨hn, hk⟩ := hl
  generalize firstClaim (deviceReports heard ++ [report]) report.fingerprint = claim at hn hk ⊢
  suffices he : now.observedName report.fingerprint claim = inner.observedName report.fingerprint claim by
    rw [he]
    exact h.lookup_name hn
  unfold observedName followedPin
  rcases claim with _ | held
  · rfl
  · simp only [Option.bind_some]
    by_cases hq : held.key ∈ inner.quarantinedKeys
    · rw [if_pos hq, if_pos (h.spares.quarantined hq)]
    · obtain ⟨hb, hor⟩ := hk held rfl hq
      rw [if_neg hq]
      rcases hp : inner.portableKeyPins.lookup held.key with _ | pinned
      · have hs := h.spares.unpinned _ (hor.resolve_left fun he => by cases hp.symm.trans he) hp
        simp [hs]
      · have hbo := h.spares.bound _ _ (hb pinned hp)
        rcases hor with he | hs
        · -- the pin and the reported fingerprint are one, whether the key is quarantined by now or not
          obtain rfl := Option.some.inj (hp.symm.trans he)
          rcases hbo with hq' | hb'
          · simp [hq', Option.filter_some]
          · simp [hb'.unquarantined, hb'.pinned, Option.filter_some]
        · have hq' : held.key ∉ now.quarantinedKeys := fun hm => hq (h.spares.free _ hs hm)
          have hname := (h.before.inverse _ _).mpr (hb pinned hp).held
          rw [if_neg hq', (hbo.resolve_left hq').pinned, Option.filter_some, Option.filter_some,
            h.spares.same.provesCollision_eq hname (h.lookup_name hname)]

/-- Gaps and presences of other fingerprints. -/
lemma hear {gaps' : List DeviceFingerprint} {heard' : List (DiscoveryObservation X)}
    (hd : deviceReports heard' = deviceReports heard)
    (hn : ∀ name, now.fingerprints.lookup name = some id → name ∈ gaps' ∨ .present name ∈ heard' →
      name ∈ gaps ∨ .present name ∈ heard) : Unanswered inner id gaps' heard' now aggregated := by
  refine ⟨h.before, hd ▸ h.spares, h.names, hd ▸ h.claims, fun ha => ?_⟩
  rw [Answers, hd] at ha
  refine h.unanswered (ha.imp_left ?_)
  rintro ⟨name, hl, hor⟩
  exact ⟨name, hl, hn name (h.lookup_name hl) hor⟩

/-- A device report that goes to another device. -/
lemma device {report merged : DiscoveredDevice X} {later : RegistryInner X}
    (hraw : merged.fingerprint = report.fingerprint)
    (hclaim : merged.claim = firstClaim (deviceReports heard ++ [report]) report.fingerprint)
    (hs : Spares now later id (Carries · merged.claim))
    (hl : ¬inner.Leads id (deviceReports heard) report) :
    Unanswered inner id gaps (heard ++ [.device report fresh]) later
      (aggregated.insert report.fingerprint merged) := by
  have hd : deviceReports (heard ++ [.device report fresh]) = deviceReports heard ++ [report] := by
    simp [deviceReports]
  refine ⟨h.before, h.spares.trans hs ?_ fun key hc => ?_, fun fingerprint existing he => ?_,
    fun fingerprint => ?_, fun ha => ?_⟩
  · rintro key ⟨fingerprint, claim, hc, hk⟩
    exact ⟨fingerprint, claim, by rw [hd, firstClaim_append, hc]; rfl, hk⟩
  · exact ⟨report.fingerprint, by rwa [hd, ← hclaim]⟩
  · rw [Table.lookup_insert_if] at he
    split_ifs at he with heq
    · cases he
      exact hraw.trans heq.symm
    · exact h.names _ _ he
  · rw [Table.lookup_insert_if, hd]
    split_ifs with heq
    · exact heq ▸ hclaim
    · rw [h.claims, firstClaim_append, if_neg (Ne.symm heq), Option.or_none]
  · rw [Answers, hd] at ha
    rcases ha with ⟨name, hn, hor⟩ | ⟨earlier, report', hp, hl'⟩
    · exact h.unanswered (.inl ⟨name, hn, hor.imp_right fun hm => by simpa using hm⟩)
    · rcases prefix_concat_iff.mp hp with he | hp
      · obtain ⟨rfl, hone⟩ := append_inj' he rfl
        obtain rfl := singleton_inj.mp hone
        exact hl hl'
      · exact h.unanswered (.inr ⟨earlier, report', hp, hl'⟩)

end

end Unanswered

/-! ## Whole scans -/

/-- A scan has seen or held a device, or nothing it has heard answers for it. -/
def Accounts (inner : RegistryInner X) (id : DeviceId) (gaps : List DeviceFingerprint)
    (heard : List (DiscoveryObservation X)) (s : ScanState X) : Prop :=
  (id ∈ s.seenIds ∨ id ∈ s.heldIds) ∨ Unanswered inner id gaps heard s.registry.inner s.aggregated

namespace Accounts

variable {s : ScanState X}

lemma start {r : DeviceRegistry X} (hr : r.inner.Indexed) (id : DeviceId) :
    Accounts r.inner id [] [] (.start r) := by
  refine .inr ⟨hr, ⟨hr, ⟨rfl, rfl, rfl⟩, subset_rfl, fun _ _ h => h, fun _ _ h => h, fun _ _ h => .inr h⟩,
    fun _ _ h => ?_, fun _ => rfl, ?_⟩
  · cases h
  · rintro (⟨_, -, h | h⟩ | ⟨_, _, h, -⟩)
    · cases h
    · cases h
    · simp [deviceReports] at h

/-- A report is merged under the first claim made under its fingerprint. -/
lemma merged_eq (h : Unanswered inner id gaps heard s.registry.inner s.aggregated)
    (report : DiscoveredDevice X) : (s.merged report).fingerprint = report.fingerprint ∧
      (s.merged report).claim =
        firstClaim (deviceReports heard ++ [report]) report.fingerprint := by
  rw [firstClaim_append, if_pos rfl, ← h.claims]
  unfold ScanState.merged
  rcases ha : s.aggregated.lookup report.fingerprint with _ | existing
  · exact ⟨rfl, rfl⟩
  · have hn := h.names _ _ ha
    exact ⟨hn, rfl⟩

variable [BEq X]

lemma spares_applyDevice {report : DiscoveredDevice X} (hr : s.registry.inner.Indexed)
    (hfr : fresh ∉ s.registry.inner.devices) (hne : (s.applyDevice report fresh).2 ≠ id) :
    Spares s.registry.inner (s.applyDevice report fresh).1.registry.inner id
      (Carries · (s.merged report).claim) := by
  have ho : Spares s.registry.inner (s.registry.addDiscovered (s.merged report) fresh).1.inner id
      (Carries · (s.merged report).claim) := spares_addEntry hr hfr hne
  unfold applyDevice
  dsimp only
  split
  · rename_i held incoming hcol
    refine ho.trans (spares_report ho.indexed ?_ _) (fun _ h => h) fun _ h => h
    obtain ⟨existing, he, hk⟩ := Option.bind_eq_some_iff.mp hcol
    obtain ⟨held', hh, hk⟩ := Option.bind_eq_some_iff.mp hk
    obtain ⟨incoming', -, hk⟩ := Option.bind_eq_some_iff.mp hk
    split_ifs at hk
    cases hk
    simp [merged, he, mergeDiscovered, hh]
  · exact ho

lemma observe (h : Accounts inner id gaps heard s) (observation : DiscoveryObservation X)
    (ha : AllowedObservations known s [observation]) :
    Accounts inner id gaps (heard ++ [observation]) (s.observe known observation) := by
  rcases h with hs | h
  · obtain ⟨s', hl, he⟩ := observe_cases known s observation
    rw [← hl.seen, ← hl.held] at hs
    rcases he with he | ⟨id', he⟩
    · exact .inl (he ▸ hs)
    · rw [he]
      exact .inl (hs.imp (fun hs => mem_seen_sight.mpr (.inr hs)) fun hh => by rwa [sight_heldIds])
  · rcases observation with ⟨report, fresh⟩ | fingerprint
    · by_cases hne : (s.applyDevice report fresh).2 = id
      · exact .inl (.inl (mem_seen_sight.mpr (.inl hne.symm)))
      · obtain ⟨hraw, hclaim⟩ := merged_eq h report
        refine .inr ?_
        unfold ScanState.observe
        dsimp only
        rw [sight_registry, sight_aggregated]
        refine h.device hraw hclaim (spares_applyDevice h.spares.indexed ha.1 hne) fun hl => hne ?_
        have hname := h.lookup_observedName hl
        rw [← hclaim, ← hraw] at hname
        exact (addEntry_eq_iff h.spares.indexed (h.spares.indexed.mem_of_fingerprint hname)
          ha.1).mpr (.inl hname)
    · by_cases hl : s.registry.inner.fingerprints.lookup fingerprint = some id
      · refine .inl (.inl ?_)
        simp only [ScanState.observe, hl]
        exact mem_seen_sight.mpr (.inl rfl)
      · refine .inr ?_
        have hp : Unanswered inner id gaps (heard ++ [.present fingerprint]) s.registry.inner
            s.aggregated := h.hear (by simp [deviceReports]) fun name hn hor => hor.imp_right fun hm => by
          refine (mem_append.mp hm).resolve_right fun hm => hl ?_
          rwa [← show name = fingerprint by simpa using hm]
        unfold ScanState.observe
        dsimp only
        split
        · rwa [sight_registry, sight_aggregated]
        · exact hp

omit [BEq X] in
lemma mem_held_foldl {r : DeviceRegistry X} (fps : List DeviceFingerprint) : ∀ held : List DeviceId,
    id ∈ fps.foldl (fun held fp =>
        match r.inner.fingerprints.lookup fp with
        | some id => List.insert id held
        | none => held) held ↔
      id ∈ held ∨ ∃ fp ∈ fps, r.inner.fingerprints.lookup fp = some id := by
  induction fps with
  | nil => exact fun _ => by simp
  | cons fp rest ih =>
    intro held
    rw [foldl_cons, ih]
    rcases hl : r.inner.fingerprints.lookup fp with _ | id'
    · simp [hl]
    · simp [hl, mem_insert_iff, or_assoc, or_left_comm, eq_comm]

omit [BEq X] in
lemma begin (h : Accounts inner id gaps heard s) (index : Nat) (name : String)
    (batch : DiscoveryBatch X) :
    Accounts inner id (gaps ++ batch.gaps.filterMap CoverageGap.device) heard
      (s.begin index name batch) := by
  have hheld : id ∈ (s.begin index name batch).heldIds ↔ id ∈ s.heldIds ∨
      ∃ fp ∈ batch.gaps.filterMap CoverageGap.device, s.registry.inner.fingerprints.lookup fp = some id :=
    mem_held_foldl (r := s.registry) _ _
  rcases h with hs | h
  · exact .inl (hs.imp_right fun hh => hheld.mpr (.inl hh))
  · by_cases hn : ∃ fp ∈ batch.gaps.filterMap CoverageGap.device,
        s.registry.inner.fingerprints.lookup fp = some id
    · exact .inl (.inr (hheld.mpr (.inr hn)))
    · exact .inr (h.hear rfl fun name hl hor => hor.imp_left fun hm =>
        (mem_append.mp hm).resolve_right fun hm => hn ⟨name, hm, hl⟩)

end Accounts

/-- A scan that started from `inner` and has finished tasks, up to the observations it has heard. -/
structure Scanned (inner : RegistryInner X) (known : List DeviceId) (done : List (TaskResult X))
    (heard : List (DiscoveryObservation X)) (s : ScanState X) : Prop where
  listed : Listed known s
  covered : s.scannerReports.all (fun e => e.2.coversTarget) ↔ ∀ task ∈ done, task.Covers
  accounts : ∀ id, Accounts inner id (done.flatMap TaskResult.unverified) heard s

namespace Scanned

variable {s : ScanState X} {done : List (TaskResult X)}

/-- A task starts, or ends without having learned anything. -/
lemma report (h : Scanned inner known done heard s) {s' : ScanState X} (task : TaskResult X)
    {entry : Option Nat × ScannerScanReport} (hl : Listed known s')
    (hr : s'.scannerReports = s.scannerReports ++ [entry]) (hc : entry.2.coversTarget ↔ task.Covers)
    (ha : ∀ id, Accounts inner id (done.flatMap TaskResult.unverified ++ task.unverified) heard s') :
    Scanned inner known (done ++ [task]) heard s' := by
  refine ⟨hl, ?_, fun id => ?_⟩
  · rw [hr, all_append, Bool.and_eq_true, h.covered]
    simp [hc, or_imp, forall_and]
  · rw [flatMap_append, flatMap_singleton]
    exact ha id

variable [BEq X]

lemma observeAll (observations : List (DiscoveryObservation X)) :
    ∀ {s : ScanState X} {heard}, Scanned inner known done heard s →
      AllowedObservations known s observations →
        Scanned inner known done (heard ++ observations) (observeAll known s observations) := by
  induction observations with
  | nil =>
    intro s heard h _
    rwa [append_nil]
  | cons observation rest ih =>
    intro s heard h ha
    rw [← singleton_append, ← append_assoc]
    refine ih ⟨?_, ?_, fun id => (h.accounts id).observe observation ⟨ha.1, trivial⟩⟩ ha.2
    all_goals obtain ⟨s', hl, he⟩ := observe_cases known s observation
    · have hs' : Listed known s' := h.listed.congr hl.new hl.reappeared hl.seen
      rcases he with he | ⟨id, he⟩
      · rwa [he]
      · rw [he]
        exact hs'.sight id
    · rw [← h.covered, ← hl.reports]
      rcases he with he | ⟨id, he⟩
      · rw [he]
      · rw [he, sight_scannerReports]

/-- **Run lemma**: what a scan knows when its tasks have finished. -/
theorem finishAll (tasks : List (TaskResult X)) : ∀ {s : ScanState X} {done heard},
    Scanned inner known done heard s → AllowedTasks known s tasks →
      Scanned inner known (done ++ tasks) (heard ++ tasks.flatMap TaskResult.observations)
        (finishAll known s tasks) := by
  induction tasks with
  | nil =>
    intro s done heard h _
    rwa [flatMap_nil, append_nil, append_nil]
  | cons task rest ih =>
    intro s done heard h ha
    rw [flatMap_cons, ← append_assoc, ← singleton_append, ← append_assoc]
    refine ih ?_ ha.2
    rcases task with ⟨index, name, batch⟩ | ⟨index, name, error⟩ | error
    · obtain ⟨progress, hn⟩ := notify_eq (s.begin index name batch)
        (ScanState.observeAll known (s.begin index name batch) batch.observations)
      have hs : Scanned inner known (done ++ [.finished index name batch]) heard
          (s.begin index name batch) :=
        h.report _ (h.listed.congr rfl rfl rfl) rfl
          (by simp [ScannerScanReport.coversTarget, TaskResult.Covers])
          fun id => (h.accounts id).begin index name batch
      have hb := hs.observeAll batch.observations ha.1
      unfold ScanState.finish
      dsimp only
      rw [hn]
      exact ⟨hb.listed.congr rfl rfl rfl, hb.covered, hb.accounts⟩
    all_goals
      simp only [TaskResult.observations, append_nil]
      refine h.report _ (h.listed.congr rfl rfl rfl) rfl
        (by simp [ScannerScanReport.coversTarget, TaskResult.Covers]) fun id => ?_
      simp only [TaskResult.unverified, append_nil]
      exact h.accounts id

end Scanned

/-! ## The report -/

section Report

variable {r : DeviceRegistry X}

lemma mem_knownIds (hr : r.inner.Indexed) : id ∈ knownIds r ↔ id ∈ r.inner.devices := by
  rw [knownIds, mem_dedup]
  constructor
  · intro hi
    obtain ⟨e, he, rfl⟩ := mem_map.mp hi
    exact hr.mem_of_fingerprint (mem_lookup_iff.mpr he)
  · intro hi
    obtain ⟨fp, ha⟩ := hr.exists_fingerprint hi
    exact Table.mem_values_of_lookup ((hr.inverse _ _).mpr ha)

lemma mem_sortIds {ids : List DeviceId} : id ∈ sortIds ids ↔
    id ∈ ids := (perm_insertionSort _ ids).mem_iff

variable [BEq X] {tasks : List (TaskResult X)}

variable (hr : r.inner.Indexed) (ha : AllowedTasks (knownIds r) (.start r) tasks)
include hr ha

lemma scanned_fullScan : Scanned r.inner (knownIds r) tasks (tasks.flatMap TaskResult.observations)
    (finishAll (knownIds r) (.start r) tasks) := by
  simpa using (Scanned.mk (Listed.start (knownIds r) r) (by simp [ScanState.start])
    (Accounts.start hr) : Scanned r.inner (knownIds r) [] [] (.start r)).finishAll tasks ha

/-- Vanished devices: tracked before, neither seen nor held, with every target covered. -/
lemma mem_vanished_iff : id ∈ (fullScan r tasks).2.vanishedDevices ↔
    (∀ task ∈ tasks, task.Covers) ∧ id ∈ r.inner.devices ∧
      id ∉ (finishAll (knownIds r) (.start r) tasks).seenIds ∧
      id ∉ (finishAll (knownIds r) (.start r) tasks).heldIds := by
  rw [← (scanned_fullScan hr ha).covered, ← mem_knownIds hr]
  unfold fullScan
  dsimp only
  split_ifs with hc
  · rw [mem_sortIds, mem_filter, decide_eq_true_eq]
    exact (and_iff_right hc).symm
  · exact iff_of_false not_mem_nil fun h => hc h.1

/-- **A device that the scan answers for has not vanished.** -/
lemma not_answered_of_vanished (hv : id ∈ (fullScan r tasks).2.vanishedDevices) :
    ¬r.inner.Answers id (tasks.flatMap TaskResult.unverified)
      (tasks.flatMap TaskResult.observations) := by
  obtain ⟨-, -, hs, hh⟩ := (mem_vanished_iff hr ha).mp hv
  exact (((scanned_fullScan hr ha).accounts id).resolve_left fun hor => hor.elim hs hh).unanswered

omit hr ha [BEq X] in
/-- The three lists of a report are free of duplicates and pairwise disjoint. -/
structure DiscoveryReport.Separate (report : DiscoveryReport) : Prop where
  new_nodup : report.newDevices.Nodup
  reappeared_nodup : report.reappearedDevices.Nodup
  vanished_nodup : report.vanishedDevices.Nodup
  new_reappeared : report.newDevices.Disjoint report.reappearedDevices
  new_vanished : report.newDevices.Disjoint report.vanishedDevices
  reappeared_vanished : report.reappearedDevices.Disjoint report.vanishedDevices

lemma separate_fullScan : (fullScan r tasks).2.Separate := by
  have hl := (scanned_fullScan hr ha).listed
  have hv : ∀ id ∈ (fullScan r tasks).2.vanishedDevices, id ∈ knownIds r ∧
      id ∉ (finishAll (knownIds r) (.start r) tasks).seenIds := fun id hi => by
    obtain ⟨-, hm, hs, -⟩ := (mem_vanished_iff hr ha).mp hi
    exact ⟨(mem_knownIds hr).mpr hm, hs⟩
  refine ⟨hl.new_nodup, hl.reappeared_nodup, ?_, ?_, ?_, ?_⟩
  · unfold fullScan
    dsimp only
    split_ifs
    · rw [sortIds, (perm_insertionSort _ _).nodup_iff]
      exact (nodup_dedup _).filter _
    · exact nodup_nil
  · exact fun id hn hr => (hl.new id hn).2 (hl.reappeared id hr).2
  · exact fun id hn hi => (hl.new id hn).2 (hv id hi).1
  · exact fun id hr hi => (hv id hi).2 (hl.reappeared id hr).1

omit hr ha in
/-- **What a scan says about absence**: separate lists, nothing vanished without full coverage, and no
vanished device whose last fingerprint was reported, when by the registry before the scan some report
answers for each tracked device whose last fingerprint is reported. -/
theorem absence_sound {history : List (Event X)} (hhistory : AllowedAll .new history)
    {tasks : List (TaskResult X)}
    (hallowed : AllowedTasks (knownIds (applyAll .new history)) (.start (applyAll .new history))
      tasks) : (fullScan (applyAll .new history) tasks).2.Separate ∧
      (∀ id ∈ (fullScan (applyAll .new history) tasks).2.vanishedDevices, ∀ task ∈ tasks, task.Covers) ∧
      (((∀ task ∈ tasks, task.Covers) → ∀ id ∈ (applyAll .new history).inner.devices, ∀ fingerprint,
          lastDiscovered .new (fun _ => none) history id = some fingerprint → Reported fingerprint tasks →
            (applyAll .new history).inner.Answers id (tasks.flatMap TaskResult.unverified)
              (tasks.flatMap TaskResult.observations)) →
        ∀ id ∈ (fullScan (applyAll .new history) tasks).2.vanishedDevices, ∀ fingerprint,
          lastDiscovered .new (fun _ => none) history id = some fingerprint →
            ¬Reported fingerprint tasks) := by
  have hr := reachable_indexed (reachable_applyAll (.init rfl) hhistory)
  refine ⟨separate_fullScan hr hallowed, fun id hi => ((mem_vanished_iff hr hallowed).mp hi).1, ?_⟩
  intro hanswered id hv fingerprint hl hre
  obtain ⟨hc, hi, -⟩ := (mem_vanished_iff hr hallowed).mp hv
  exact not_answered_of_vanished hr hallowed hv (hanswered hc id hi fingerprint hl hre)

end Report

/-- A unit that was moved to another port, and is held under its pinned fingerprint. -/
def moved : List (Event Unit) :=
  [.addDiscovered (sampleUnit 1 "usb:a" "K" "1-1") ⟨9⟩,
    .addDiscovered (sampleUnit 5 "usb:z" "K" "1-7") ⟨9⟩]

/-- A complete scan by one scanner, which makes one observation. -/
def scan (observation : DiscoveryObservation Unit) : List (TaskResult Unit) :=
  [.finished 0 "usb" ⟨[observation], []⟩]

/-- Reported with its claim, the unit is found by its pin. -/
theorem absence_sound_moved : ¬ ∃ id ∈ (fullScan (applyAll .new moved)
      (scan (.device (sampleUnit 5 "usb:z" "K" "1-7") ⟨9⟩))).2.vanishedDevices, ∃ fingerprint,
    lastDiscovered .new (fun _ => none) moved id = some fingerprint ∧
      Reported fingerprint (scan (.device (sampleUnit 5 "usb:z" "K" "1-7") ⟨9⟩)) := by
  rintro ⟨id, hv, fingerprint, hl, hre⟩
  refine (absence_sound (show AllowedAll .new moved by decide)
    (show AllowedTasks _ _ (scan _) from ⟨⟨by decide, trivial⟩, trivial⟩)).2.2 ?_ id hv _ hl hre
  intro _ id hi _ _ _
  have hd : (applyAll .new moved).inner.devices.keys = [⟨1⟩] := by decide
  obtain rfl : id = ⟨1⟩ := mem_singleton.mp (hd ▸ AList.mem_keys.mp hi)
  refine .inr ⟨[], sampleUnit 5 "usb:z" "K" "1-7", prefix_rfl, by decide, fun held hh _ => ?_⟩
  cases hh
  refine ⟨fun pinned hp => ?_, .inr fun ⟨_, _, hc, _⟩ => by cases hc⟩
  have hp' : (applyAll .new moved).inner.portableKeyPins.lookup ⟨"K"⟩ = some ⟨"usb:a"⟩ := by decide
  obtain rfl := Option.some.inj (hp'.symm.trans hp)
  refine ⟨by decide, by decide, hp, fun id' claim hn hc => ?_⟩
  have hk : (applyAll .new moved).inner.claimsById.keys = [⟨1⟩] := by decide
  exact absurd (mem_singleton.mp (hk ▸ AList.mem_keys.mp (Table.mem_of_lookup hc))) hn

/-- Reported present where it was last discovered, it is reported vanished. -/
theorem present_reported_vanished :
    ∃ (history : List (Event Unit)) (tasks : List (TaskResult Unit)), AllowedAll .new history ∧
      AllowedTasks (knownIds (applyAll .new history)) (.start (applyAll .new history)) tasks ∧
      ∃ id ∈ (fullScan (applyAll .new history) tasks).2.vanishedDevices, ∃ fingerprint,
        lastDiscovered .new (fun _ => none) history id = some fingerprint ∧
          Reported fingerprint tasks := by
  refine ⟨moved, scan (.present ⟨"usb:z"⟩), by decide, ⟨⟨trivial, trivial⟩, trivial⟩, ⟨1⟩,
    by decide, ⟨"usb:z"⟩, by decide, ?_⟩
  exact ⟨0, "usb", _, mem_singleton_self _, .inl ⟨_, mem_singleton_self _, rfl⟩⟩

end Hypercolor.Registry
