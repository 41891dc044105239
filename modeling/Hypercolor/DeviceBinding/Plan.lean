import Hypercolor.DeviceBinding.Evidence

/-!
# The remaps of a sweep

A layout id that no comparable device has, and that reads like exactly one of them, becomes that device's
layout id, if nothing else stands for the device. Where one persisted setting key alone reads like the
fingerprint the device had then, the physical id and the setting keys follow.

* **`mem_planLayoutDeviceIdRemaps`**: which layout ids are remapped, by what the evidence says.
-/

namespace Hypercolor.DeviceBinding

open Lib List
open Registry (DeviceId DeviceFingerprint)

/-! ## Layout ids -/

/-- `plan_layout_device_id_remaps`, its `candidates`: the layout ids that read like comparable
devices, with the places of these. -/
def layoutCandidates (evidence : PersistedBindingEvidence) (current : List CurrentBinding) :
    List (String × List Nat) :=
  evidence.shapes.entries.filterMap fun ⟨legacyId, shapes⟩ =>
    if legacyId ∈ current.map (·.layoutDeviceId) then none
    else
      let found := (current.zipIdx.filter fun (binding, _) =>
        looksLike evidence legacyId shapes binding).map Prod.snd
      if found = [] then none else some (legacyId, found)

/-- `plan_layout_device_id_remaps`, its `claimant_count` -/
def claimantCount (evidence : PersistedBindingEvidence) (current : List CurrentBinding)
    (index : Nat) : Nat :=
  (current[index]?.any (·.layoutDeviceId ∈ evidence.shapes)).toNat +
    (layoutCandidates evidence current).countP (·.2 = [index])

/-- `plan_layout_device_id_remaps` -/
def planLayoutDeviceIdRemaps (evidence : PersistedBindingEvidence) (current : List CurrentBinding) :
    List (String × String) :=
  (layoutCandidates evidence current).filterMap fun (legacyId, found) =>
    match found with
    | [index] =>
      if claimantCount evidence current index = 1 then
        current[index]?.map fun binding => (legacyId, binding.layoutDeviceId)
      else none
    | _ => none

/-! ## Display targets -/

/-- `plan_unscoped_display_target_remaps`, its `claimants`: the ids of old fingerprints that no
device has now, with the devices that had these fingerprints. -/
def displayTargetClaimants (evidence : PersistedBindingEvidence) (identities : List CurrentIdentity) :
    List (DeviceId × DeviceId) :=
  identities.filterMap fun identity =>
    match identity.unscopedLegacyFingerprint with
    | none => none
    | some legacy =>
      let legacyId := stableDeviceId ⟨legacy⟩
      if legacyId ∈ identities.map (·.physicalDeviceId) ∨ legacyId ∉ evidence.displayTargetIds then none
      else some (legacyId, identity.physicalDeviceId)

/-- `plan_unscoped_display_target_remaps`: an id that two devices claim is left alone. -/
def planUnscopedDisplayTargetRemaps (evidence : PersistedBindingEvidence)
    (identities : List CurrentIdentity) : List (DeviceId × DeviceId) :=
  let claimants := displayTargetClaimants evidence identities
  claimants.filter fun (legacyId, _) => claimants.countP (·.1 = legacyId) = 1

/-! ## All remaps -/

/-- `DeviceBindingRemaps` -/
structure DeviceBindingRemaps where
  layoutDeviceIds : Table String String
  physicalDeviceIds : Table DeviceId DeviceId
  persistedSettingKeys : Table String String

/-- `build_binding_remaps`, its first loop: the devices whose layout ids are remapped, with the one
setting key that reads like an old fingerprint of theirs. A layout id that two devices have finds
the later one. -/
def rewrites (evidence : PersistedBindingEvidence) (current : List CurrentBinding)
    (persistedBindingKeys : List String) : List (String × CurrentBinding) :=
  let currentByLayoutId := collect (current.map fun binding => (binding.layoutDeviceId, binding))
  (planLayoutDeviceIdRemaps evidence current).filterMap fun (legacyId, canonicalId) =>
    match currentByLayoutId.lookup canonicalId with
    | none => none
    | some binding =>
      match persistedBindingKeys.filter (exactFingerprintEvidenceMatches legacyId · binding) with
      | [key] => some (key, binding)
      | _ => none

/-- What a rewrite says of physical ids. -/
def physicalWrite : String × CurrentBinding → DeviceId × DeviceId
  | (key, binding) => (stableDeviceId ⟨key⟩, binding.physicalDeviceId)

/-- What a rewrite says of setting keys. -/
def settingWrites : String × CurrentBinding → List (String × String)
  | (key, binding) =>
    [(key, binding.fingerprint.text),
      ((stableDeviceId ⟨key⟩).hyphenated, binding.physicalDeviceId.hyphenated)]

/-- `build_binding_remaps`: the maps are filled in the order of the evidence, which is any order. -/
def buildBindingRemaps (evidence : PersistedBindingEvidence) (current : List CurrentBinding)
    (identities : List CurrentIdentity) (persistedBindingKeys : List String) : DeviceBindingRemaps :=
  let rewrites := rewrites evidence current persistedBindingKeys
  { layoutDeviceIds := collect (planLayoutDeviceIdRemaps evidence current)
    physicalDeviceIds := merge (collect (planUnscopedDisplayTargetRemaps evidence identities))
      (collect (rewrites.map physicalWrite))
    persistedSettingKeys := collect (rewrites.flatMap settingWrites) }

/-! ## Sweeps -/

/-- What a complete sweep goes by. The registry tracks a device once, under one fingerprint. -/
structure Sweep where
  evidence : PersistedBindingEvidence
  seen : List SeenDevice
  keys : List String
  ids_nodup : (seen.map (·.info.id)).Nodup
  fingerprints_nodup : (seen.map (·.fingerprint)).Nodup
  keys_nodup : keys.Nodup

variable {o b : CurrentBinding}

namespace Sweep

variable (s : Sweep)

/-- `collect_current_bindings`, the bindings -/
def current : List CurrentBinding := s.seen.filterMap SeenDevice.binding

/-- `reconcile_complete_sweep`, its `remaps` -/
def remaps : DeviceBindingRemaps :=
  buildBindingRemaps s.evidence s.current (s.seen.map SeenDevice.identity) s.keys

variable {s}

/-- A comparable device is a seen one, under its own ids. -/
lemma mem_current : b ∈ s.current ↔ ∃ device ∈ s.seen, device.binding = some b := mem_filterMap

lemma binding_ids {d : SeenDevice} (h : d.binding = some b) :
    b.layoutDeviceId = d.layoutId ∧ b.physicalDeviceId = d.info.id ∧ b.fingerprint = d.fingerprint := by
  obtain ⟨bindingClass, -, hb⟩ := Option.bind_eq_some_iff.mp h
  obtain ⟨-, ⟨⟩⟩ := Option.ite_none_left_eq_some.mp hb
  exact ⟨rfl, rfl, rfl⟩

/-- Comparable devices with the same physical id are the same. -/
lemma current_ext_id (h : b ∈ s.current) (hoh : o ∈ s.current)
    (hi : b.physicalDeviceId = o.physicalDeviceId) : b = o := by
  obtain ⟨d, hd, hb⟩ := mem_current.mp h
  obtain ⟨d', hd', hb'⟩ := mem_current.mp hoh
  rw [(binding_ids hb).2.1, (binding_ids hb').2.1] at hi
  obtain rfl := inj_on_of_nodup_map s.ids_nodup hd hd' hi
  exact Option.some_inj.mp (hb.symm.trans hb')

/-- So are those with the same fingerprint. -/
lemma current_ext_fingerprint (h : b ∈ s.current) (hoh : o ∈ s.current)
    (hf : b.fingerprint = o.fingerprint) : b = o := by
  obtain ⟨d, hd, hb⟩ := mem_current.mp h
  obtain ⟨d', hd', hb'⟩ := mem_current.mp hoh
  rw [(binding_ids hb).2.2, (binding_ids hb').2.2] at hf
  obtain rfl := inj_on_of_nodup_map s.fingerprints_nodup hd hd' hf
  exact Option.some_inj.mp (hb.symm.trans hb')

lemma nodup_current (s : Sweep) : s.current.Nodup := by
  have hi : s.seen.Pairwise fun d o => d.info.id ≠ o.info.id := pairwise_map.mp s.ids_nodup
  refine pairwise_filterMap.mpr (hi.imp fun hn b hb o hoh he => hn ?_)
  rw [← (binding_ids hb).2.1, ← (binding_ids hoh).2.1, he]

end Sweep

/-! ## Which layout ids are remapped -/

section

variable {ev : PersistedBindingEvidence} {current : List CurrentBinding} {lg canonicalId : String}
  {i : Nat}

/-- A layout id with outputs that no comparable device has and that reads like one of them alone. -/
structure OnlyLike (evidence : PersistedBindingEvidence) (current : List CurrentBinding)
    (legacyId : String) (binding : CurrentBinding) : Prop where
  unused : ∀ other ∈ current, other.layoutDeviceId ≠ legacyId
  mem : binding ∈ current
  like : ∃ shapes, evidence.shapes.lookup legacyId = some shapes ∧
    looksLike evidence legacyId shapes binding ∧
    ∀ other ∈ current, looksLike evidence legacyId shapes other → other = binding

/-- The device has no outputs, and no other layout id reads like it alone. -/
structure Rebinds (evidence : PersistedBindingEvidence) (current : List CurrentBinding)
    (legacyId : String) (binding : CurrentBinding) : Prop where
  onlyLike : OnlyLike evidence current legacyId binding
  bare : binding.layoutDeviceId ∉ evidence.shapes
  alone : ∀ other, OnlyLike evidence current other binding → other = legacyId

lemma OnlyLike.unique (h : OnlyLike ev current lg b) (hoh : OnlyLike ev current lg o) : b = o := by
  obtain ⟨shapes, hs, hl, -⟩ := h.like
  obtain ⟨shapes', hs', -, hon⟩ := hoh.like
  obtain rfl := Option.some_inj.mp (hs.symm.trans hs')
  exact hon b h.mem hl

/-- A list without repetitions is one element. -/
lemma eq_singleton_iff {α : Type} {l : List α} (hl : l.Nodup) {x : α} :
    l = [x] ↔ x ∈ l ∧ ∀ y ∈ l, y = x := by
  constructor
  · rintro rfl
    exact ⟨mem_singleton_self x, fun y hy => mem_singleton.mp hy⟩
  · rintro ⟨hx, ha⟩
    exact perm_singleton.mp ((perm_ext_iff_of_nodup hl (nodup_singleton x)).mpr fun y =>
      ⟨fun hy => mem_singleton.mpr (ha y hy), fun hy => mem_singleton.mp hy ▸ hx⟩)

/-- The places of the devices that a layout id reads like. -/
lemma found_eq_singleton_iff (hc : current.Nodup) {p : CurrentBinding → Bool} :
    (current.zipIdx.filter fun (b, _) => p b).map Prod.snd = [i] ↔ ∃ b, current[i]? = some b ∧ p b ∧
        ∀ o ∈ current, p o → o = b := by
  have hn : ((current.zipIdx.filter fun (b, _) => p b).map Prod.snd).Nodup := by
    refine (filter_sublist.map Prod.snd).nodup ?_
    rw [zipIdx_map_snd]
    exact nodup_range'
  have hm : ∀ place, place ∈ (current.zipIdx.filter fun (b, _) => p b).map Prod.snd ↔
      ∃ b, current[place]? = some b ∧ p b := fun place => by
    simp only [mem_map, mem_filter, Prod.exists, exists_eq_right, mk_mem_zipIdx_iff_getElem?]
  rw [eq_singleton_iff hn, hm]
  constructor
  · rintro ⟨⟨b, hp, hb⟩, ha⟩
    refine ⟨b, hp, hb, fun o hoh hl => ?_⟩
    obtain ⟨place, hoh⟩ := mem_iff_getElem?.mp hoh
    obtain rfl := ha place ((hm place).mpr ⟨o, hoh, hl⟩)
    exact Option.some_inj.mp (hoh.symm.trans hp)
  · rintro ⟨b, hp, hb, ha⟩
    refine ⟨⟨b, hp, hb⟩, fun place hf => ?_⟩
    obtain ⟨o, hoh, hl⟩ := (hm place).mp hf
    obtain rfl := ha o (mem_of_getElem? hoh) hl
    exact (List.getElem?_inj (List.getElem?_eq_some_iff.mp hoh).1 hc).mp (hoh.trans hp.symm)

lemma mem_layoutCandidates (hc : current.Nodup) : (lg, [i]) ∈ layoutCandidates ev current ↔
      ∃ b, current[i]? = some b ∧ OnlyLike ev current lg b := by
  have hu : lg ∉ current.map (·.layoutDeviceId) ↔ ∀ o ∈ current, o.layoutDeviceId ≠ lg := by
    rw [mem_map]
    exact ⟨fun h o hoh heq => h ⟨o, hoh, heq⟩, fun h ⟨o, hoh, heq⟩ => h o hoh heq⟩
  rw [layoutCandidates, mem_filterMap]
  constructor
  · rintro ⟨⟨lg', shapes⟩, hen, hs⟩
    obtain ⟨he, hs⟩ := Option.ite_none_left_eq_some.mp hs
    obtain ⟨-, heq⟩ := Option.ite_none_left_eq_some.mp hs
    obtain ⟨rfl, hf⟩ := Prod.mk.inj (Option.some_inj.mp heq)
    obtain ⟨b, hp, hl, ha⟩ := (found_eq_singleton_iff hc).mp hf
    exact ⟨b, hp, hu.mp he, mem_of_getElem? hp, shapes, AList.mem_lookup_iff.mpr hen, hl, ha⟩
  · rintro ⟨b, hp, he, -, shapes, hsh, hl, ha⟩
    have hf := (found_eq_singleton_iff hc).mpr ⟨b, hp, hl, ha⟩
    refine ⟨⟨lg, shapes⟩, AList.mem_lookup_iff.mp hsh, ?_⟩
    dsimp only
    rw [if_neg (hu.mpr he), hf, if_neg (cons_ne_nil _ _)]

lemma nodup_layoutCandidates (ev : PersistedBindingEvidence) (current : List CurrentBinding) :
    (layoutCandidates ev current).Nodup := by
  refine pairwise_filterMap.mpr ((nodupKeys_iff_pairwise.mp ev.shapes.nodupKeys).imp ?_)
  rintro ⟨lg, shapes⟩ ⟨o, otherShapes⟩ hn candidate hc otherCandidate hoh rfl
  obtain ⟨-, hc⟩ := Option.ite_none_left_eq_some.mp hc
  obtain ⟨-, hc⟩ := Option.ite_none_left_eq_some.mp hc
  obtain ⟨-, hoh⟩ := Option.ite_none_left_eq_some.mp hoh
  obtain ⟨-, hoh⟩ := Option.ite_none_left_eq_some.mp hoh
  exact hn (Prod.mk.inj (Option.some_inj.mp (hc.trans hoh.symm))).1

/-- One claimant, where there is a claimant already. -/
lemma claimantCount_eq_one_iff (hcu : current.Nodup) (hpl : current[i]? = some b)
    (hon : OnlyLike ev current lg b) : claimantCount ev current i = 1 ↔ Rebinds ev current lg b := by
  have hca := (mem_layoutCandidates hcu).mpr ⟨b, hpl, hon⟩
  have hf : (lg, [i]) ∈ (layoutCandidates ev current).filter (·.2 = [i]) :=
    mem_filter.mpr ⟨hca, decide_eq_true rfl⟩
  have hn := (nodup_layoutCandidates ev current).filter (·.2 = [i])
  have hoe : (layoutCandidates ev current).countP (·.2 = [i]) = 1 ↔
      ∀ o, OnlyLike ev current o b → o = lg := by
    rw [countP_eq_length_filter, length_eq_one_iff]
    constructor
    · rintro ⟨candidate, ha⟩ o hoh
      have hm : (o, [i]) ∈ (layoutCandidates ev current).filter (·.2 = [i]) :=
        mem_filter.mpr ⟨(mem_layoutCandidates hcu).mpr ⟨b, hpl, hoh⟩, decide_eq_true rfl⟩
      rw [ha, mem_singleton] at hf hm
      exact (Prod.mk.inj (hm.trans hf.symm)).1
    · intro ha
      refine ⟨(lg, [i]), (eq_singleton_iff hn).mpr ⟨hf, ?_⟩⟩
      rintro ⟨o, found⟩ hm
      obtain ⟨hm, hfn⟩ := mem_filter.mp hm
      obtain rfl : found = [i] := of_decide_eq_true hfn
      obtain ⟨b', hpl', hoh⟩ := (mem_layoutCandidates hcu).mp hm
      obtain rfl := Option.some_inj.mp (hpl.symm.trans hpl')
      rw [ha o hoh]
  have hp : 0 < (layoutCandidates ev current).countP (·.2 = [i]) := by
    rw [countP_eq_length_filter]
    exact length_pos_of_mem hf
  rw [claimantCount, hpl, Option.any_some]
  constructor
  · intro hc
    by_cases how : b.layoutDeviceId ∈ ev.shapes
    · rw [decide_eq_true how] at hc
      simp only [Bool.toNat_true] at hc
      omega
    · rw [decide_eq_false how] at hc
      simp only [Bool.toNat_false, Nat.zero_add] at hc
      exact ⟨hon, how, hoe.mp hc⟩
  · intro h
    rw [decide_eq_false h.bare, hoe.mpr h.alone]
    rfl

/-- **Which layout ids are remapped.** -/
theorem mem_planLayoutDeviceIdRemaps (hcu : current.Nodup) :
    (lg, canonicalId) ∈ planLayoutDeviceIdRemaps ev current ↔
      ∃ b, Rebinds ev current lg b ∧ b.layoutDeviceId = canonicalId := by
  rw [planLayoutDeviceIdRemaps, mem_filterMap]
  constructor
  · rintro ⟨⟨o, found⟩, hc, hs⟩
    dsimp only at hs
    split at hs
    · obtain ⟨hcn, hs⟩ := Option.ite_none_right_eq_some.mp hs
      obtain ⟨b, hp, he⟩ := Option.map_eq_some_iff.mp hs
      obtain ⟨rfl, rfl⟩ := Prod.mk.inj he
      obtain ⟨b', hp', hon⟩ := (mem_layoutCandidates hcu).mp hc
      obtain rfl := Option.some_inj.mp (hp.symm.trans hp')
      exact ⟨b, (claimantCount_eq_one_iff hcu hp hon).mp hcn, rfl⟩
    · cases hs
  · rintro ⟨b, h, rfl⟩
    obtain ⟨i, hp⟩ := mem_iff_getElem?.mp h.onlyLike.mem
    refine ⟨(lg, [i]), (mem_layoutCandidates hcu).mpr ⟨b, hp, h.onlyLike⟩, ?_⟩
    dsimp only
    rw [if_pos ((claimantCount_eq_one_iff hcu hp h.onlyLike).mpr h), hp, Option.map_some]

end

end Hypercolor.DeviceBinding
