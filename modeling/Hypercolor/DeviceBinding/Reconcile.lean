import Hypercolor.DeviceBinding.Rewrites

/-!
# Whether a sweep takes a binding from a present device

* **`takes_nothing_iff`**: the exact condition under which the remaps of a sweep name no id of a present
  device and do not depend on the order of the devices and of the evidence.
* **`takes_from_silent_hub`**: a hub that has not reported its segments is not compared, and its bindings
  go to a hub of the same product that is plugged in beside it.
-/

namespace Hypercolor.DeviceBinding

open Lib List SeenDevice
open Registry (DeviceId DeviceFingerprint)

namespace Sweep

variable {s t : Sweep} {lg cid key : String} {b o : CurrentBinding}
  {d : SeenDevice} {pid tg : DeviceId}

/-! ## What is claimed -/

/-- Remaps that take nothing from a seen device. -/
structure TakesNothing (s : Sweep) : Prop where
  /-- No layout id, physical id or setting key of a seen device is remapped. -/
  sources : ∀ device ∈ s.seen, device.layoutId ∉ s.remaps.layoutDeviceIds ∧
    device.info.id ∉ s.remaps.physicalDeviceIds ∧
    ∀ key ∈ device.settingKeys, key ∉ s.remaps.persistedSettingKeys
  layoutTargets : ∀ legacyId, ∀ canonicalId ∈ s.remaps.layoutDeviceIds.lookup legacyId,
    ∃ device ∈ s.seen, canonicalId = device.layoutId
  physicalTargets : ∀ legacyId, ∀ id ∈ s.remaps.physicalDeviceIds.lookup legacyId,
    ∃ device ∈ s.seen, id = device.info.id
  settingTargets : ∀ legacyKey, ∀ key ∈ s.remaps.persistedSettingKeys.lookup legacyKey,
    ∃ device ∈ s.seen, key ∈ device.settingKeys
  /-- No two legacy layout ids share a target. -/
  apart : ∀ legacyId other canonicalId, s.remaps.layoutDeviceIds.lookup legacyId = some canonicalId →
    s.remaps.layoutDeviceIds.lookup other = some canonicalId → legacyId = other
  /-- A target had no outputs. -/
  bare : ∀ legacyId, ∀ canonicalId ∈ s.remaps.layoutDeviceIds.lookup legacyId,
    canonicalId ∉ s.evidence.shapes
  /-- No id is both source and target. -/
  layoutDisjoint : ∀ legacyId, ∀ canonicalId ∈ s.remaps.layoutDeviceIds.lookup legacyId,
    canonicalId ∉ s.remaps.layoutDeviceIds
  physicalDisjoint : ∀ legacyId, ∀ id ∈ s.remaps.physicalDeviceIds.lookup legacyId,
    id ∉ s.remaps.physicalDeviceIds
  settingDisjoint : ∀ legacyKey, ∀ key ∈ s.remaps.persistedSettingKeys.lookup legacyKey,
    key ∉ s.remaps.persistedSettingKeys
  /-- The order does not matter. -/
  unordered : ∀ t, s.Same t →
    (∀ id, t.remaps.layoutDeviceIds.lookup id = s.remaps.layoutDeviceIds.lookup id) ∧
    (∀ id, t.remaps.physicalDeviceIds.lookup id = s.remaps.physicalDeviceIds.lookup id) ∧
    ∀ key, t.remaps.persistedSettingKeys.lookup key = s.remaps.persistedSettingKeys.lookup key

/-! ## The condition -/

/-- No device that is left out of the comparison is in the way, and nothing is rewritten twice. -/
structure Unambiguous (s : Sweep) : Prop where
  /-- The layout id of a device that is not compared is not rebound. -/
  uncompared : ∀ device ∈ s.seen, device.binding = none → ∀ binding,
    ¬ Rebinds s.evidence s.current device.layoutId binding
  /-- Devices whose ids are rebound have different layout ids. -/
  targets : ∀ legacyId binding other otherBinding, Rebinds s.evidence s.current legacyId binding →
    Rebinds s.evidence s.current other otherBinding →
    binding.layoutDeviceId = otherBinding.layoutDeviceId → binding = otherBinding
  /-- A rewritten key, its physical id and the text of that are no seen device's. -/
  ids : ∀ legacyId binding key, s.Rewrites legacyId binding key → ∀ device ∈ s.seen,
    key ∉ device.settingKeys ∧ (oldId key).hyphenated ∉ device.settingKeys ∧ oldId key ≠ device.info.id
  /-- The device of a rewrite has its layout id to itself. -/
  alone : ∀ legacyId binding key, s.Rewrites legacyId binding key → ∀ other ∈ s.current,
    other.layoutDeviceId = binding.layoutDeviceId → other = binding
  /-- A key, and a physical id, is rewritten for one device only. -/
  once : ∀ legacyId binding key other otherBinding otherKey, s.Rewrites legacyId binding key →
    s.Rewrites other otherBinding otherKey → oldId key = oldId otherKey → binding = otherBinding

lemma Unambiguous.of_same (hs : s.Unambiguous) (h : s.Same t) : t.Unambiguous where
  uncompared d hd hn b hre := hs.uncompared d (h.seen.mem_iff.mpr hd) hn b (h.symm.rebinds hre)
  targets lg b o otherBinding hre hoh :=
    hs.targets lg b o otherBinding (h.symm.rebinds hre) (h.symm.rebinds hoh)
  ids lg b key hr d hd := hs.ids lg b key (h.symm.rewrites hr) d (h.seen.mem_iff.mpr hd)
  alone lg b key hr o hoh := hs.alone lg b key (h.symm.rewrites hr) o (h.mem_current.mpr hoh)
  once lg b key o otherBinding otherKey hr hoh :=
    hs.once lg b key o otherBinding otherKey (h.symm.rewrites hr) (h.symm.rewrites hoh)

/-! ## Layout ids -/

lemma lookup_layoutDeviceIds : s.remaps.layoutDeviceIds.lookup lg = some cid ↔
      ∃ b, Rebinds s.evidence s.current lg b ∧ b.layoutDeviceId = cid := by
  rw [← mem_planLayoutDeviceIdRemaps s.nodup_current]
  refine (iff_of_eq (congrArg (· = some cid) (Covers.collect _ lg))).trans
    (latest_eq_some_iff (fun cid o hm hoh => ?_) cid)
  obtain ⟨b, hb, rfl⟩ := (mem_planLayoutDeviceIdRemaps s.nodup_current).mp hm
  obtain ⟨b', hb', rfl⟩ := (mem_planLayoutDeviceIdRemaps s.nodup_current).mp hoh
  rw [hb.onlyLike.unique hb'.onlyLike]

lemma Same.lookup_layoutDeviceIds (h : s.Same t) (id : String) :
    t.remaps.layoutDeviceIds.lookup id = s.remaps.layoutDeviceIds.lookup id := by
  refine Option.ext fun cid => ?_
  rw [Sweep.lookup_layoutDeviceIds, Sweep.lookup_layoutDeviceIds]
  exact ⟨fun ⟨b, hb, he⟩ => ⟨b, h.symm.rebinds hb, he⟩,
    fun ⟨b, hb, he⟩ => ⟨b, h.rebinds hb, he⟩⟩

/-- A comparable device is a seen one. -/
lemma exists_seen (h : b ∈ s.current) : ∃ d ∈ s.seen, d.layoutId = b.layoutDeviceId ∧
    d.info.id = b.physicalDeviceId ∧ d.fingerprint = b.fingerprint := by
  obtain ⟨d, hd, hb⟩ := mem_current.mp h
  obtain ⟨hl, hi, hf⟩ := binding_ids hb
  exact ⟨d, hd, hl.symm, hi.symm, hf.symm⟩

/-! ## Display targets -/

lemma displayTargets (h : (pid, tg) ∈ planUnscopedDisplayTargetRemaps s.evidence (s.seen.map identity)) :
    (∀ d ∈ s.seen, d.info.id ≠ pid) ∧ ∃ d ∈ s.seen, tg = d.info.id := by
  obtain ⟨hc, -⟩ := mem_filter.mp h
  obtain ⟨ident, hi, hs⟩ := mem_filterMap.mp hc
  obtain ⟨claiming, hcl, rfl⟩ := mem_map.mp hi
  split at hs
  · cases hs
  · obtain ⟨hf, he⟩ := Option.ite_none_left_eq_some.mp hs
    obtain ⟨rfl, rfl⟩ := Prod.mk.inj (Option.some_inj.mp he)
    rw [not_or] at hf
    refine ⟨fun d hd hid => hf.1 (mem_map.mpr ⟨d.identity, ?_, hid⟩), claiming, hcl, rfl⟩
    exact mem_map_of_mem hd

lemma displayTargets_unique {o : DeviceId} {ids : List CurrentIdentity}
    (h : (pid, tg) ∈ planUnscopedDisplayTargetRemaps s.evidence ids)
    (hoh : (pid, o) ∈ planUnscopedDisplayTargetRemaps s.evidence ids) : tg = o := by
  obtain ⟨hm, hc⟩ := mem_filter.mp h
  obtain ⟨hmo, -⟩ := mem_filter.mp hoh
  rw [decide_eq_true_iff, countP_eq_length_filter, length_eq_one_iff] at hc
  obtain ⟨claimant, ha⟩ := hc
  have hf := ha ▸ mem_filter.mpr ⟨hm, decide_eq_true rfl⟩
  have hs := ha ▸ mem_filter.mpr ⟨hmo, decide_eq_true rfl⟩
  exact (Prod.mk.inj ((mem_singleton.mp hf).trans (mem_singleton.mp hs).symm)).2

lemma Same.displayTargets (h : s.Same t) :
    (planUnscopedDisplayTargetRemaps s.evidence (s.seen.map identity)).Perm
      (planUnscopedDisplayTargetRemaps t.evidence (t.seen.map identity)) := by
  have hi := h.seen.map identity
  have hc : (displayTargetClaimants s.evidence (s.seen.map identity)).Perm
      (displayTargetClaimants t.evidence (t.seen.map identity)) := by
    rw [displayTargetClaimants, displayTargetClaimants, h.displayTargetIds]
    simp only [(hi.map _).mem_iff]
    exact hi.filterMap _
  rw [planUnscopedDisplayTargetRemaps, planUnscopedDisplayTargetRemaps]
  simp only [hc.countP_eq]
  exact hc.filter _

lemma Same.latest_displayTargets (h : s.Same t) (id : DeviceId) :
    latest (planUnscopedDisplayTargetRemaps t.evidence (t.seen.map identity)) id =
      latest (planUnscopedDisplayTargetRemaps s.evidence (s.seen.map identity)) id :=
  latest_congr (fun _ => h.displayTargets.mem_iff.symm) fun _ _ => displayTargets_unique

/-! ## Physical ids and setting keys -/

lemma lookup_physicalDeviceIds (s : Sweep) (id : DeviceId) : s.remaps.physicalDeviceIds.lookup id =
      (latest ((rewrites s.evidence s.current s.keys).map physicalWrite) id).or
        (latest (planUnscopedDisplayTargetRemaps s.evidence (s.seen.map identity)) id) := by
  refine (lookup_merge _ _ id).trans ?_
  rw [Covers.collect, Covers.collect]

lemma lookup_persistedSettingKeys (s : Sweep) (key : String) : s.remaps.persistedSettingKeys.lookup key =
      latest ((rewrites s.evidence s.current s.keys).flatMap settingWrites) key := Covers.collect _ key

variable {v : String}

lemma mem_settingWrites : (key, v) ∈ settingWrites (lg, b) ↔ key = lg ∧ v = b.fingerprint.text ∨
      key = (oldId lg).hyphenated ∧ v = b.physicalDeviceId.hyphenated := by
  rw [settingWrites, mem_cons, mem_singleton, Prod.mk.injEq, Prod.mk.injEq]
  rfl

/-- A remapped physical id goes with a rewritten key, or a display zone targets it. -/
lemma of_lookup_physicalDeviceIds (h : s.remaps.physicalDeviceIds.lookup pid = some tg) :
    (∃ lg b key, s.Rewrites lg b key ∧ pid = oldId key ∧ tg = b.physicalDeviceId) ∨ (pid, tg) ∈
        planUnscopedDisplayTargetRemaps s.evidence (s.seen.map identity) := by
  rw [lookup_physicalDeviceIds, Option.or_eq_some_iff] at h
  rcases h with hw | ⟨-, hd⟩
  · obtain ⟨⟨key, b⟩, hm, ⟨⟩⟩ := mem_map.mp (mem_of_latest hw)
    obtain ⟨lg, hr⟩ := exists_rewrites hm
    exact .inl ⟨lg, b, key, hr, rfl, rfl⟩
  · exact .inr (mem_of_latest hd)

lemma of_lookup_persistedSettingKeys (h : s.remaps.persistedSettingKeys.lookup key = some v) :
    ∃ lg b legacyKey, s.Rewrites lg b legacyKey ∧ (key, v) ∈ settingWrites (legacyKey, b) := by
  rw [lookup_persistedSettingKeys] at h
  obtain ⟨⟨legacyKey, b⟩, hm, hw⟩ := mem_flatMap.mp (mem_of_latest h)
  obtain ⟨lg, hr⟩ := exists_rewrites hm
  exact ⟨lg, b, legacyKey, hr, hw⟩

/-! ## The condition is enough -/

section

variable (h : s.Unambiguous)
include h

namespace Unambiguous

/-- Under the condition, what is rewritten is the same in every order. -/
lemma mem_rewrites : (key, b) ∈ rewrites s.evidence s.current s.keys ↔ ∃ lg, s.Rewrites lg b key := by
  refine ⟨exists_rewrites, fun ⟨lg, hr⟩ => ?_⟩
  obtain ⟨rebound, hre, hl⟩ := hr.rebinds
  obtain ⟨o, hf⟩ := exists_found hr.mem
  obtain ⟨hoh, hs⟩ := mem_of_found hf
  obtain rfl := h.alone lg b key hr o hoh hs
  exact Sweep.mem_rewrites.mpr ⟨lg, rebound, hre, hl ▸ hf, hr.sole⟩

lemma rewrites_same (hs : s.Same t) (rewrite : String × CurrentBinding) :
    rewrite ∈ rewrites t.evidence t.current t.keys ↔ rewrite ∈ rewrites s.evidence s.current s.keys := by
  rw [h.mem_rewrites, (h.of_same hs).mem_rewrites]
  exact exists_congr fun lg => ⟨hs.symm.rewrites, hs.rewrites⟩

lemma physicalWrites_agree {o : DeviceId}
    (hm : (pid, tg) ∈ (rewrites s.evidence s.current s.keys).map physicalWrite)
    (hoh : (pid, o) ∈ (rewrites s.evidence s.current s.keys).map physicalWrite) : tg = o := by
  obtain ⟨⟨key, b⟩, hr, he⟩ := mem_map.mp hm
  obtain ⟨⟨ok, otherBinding⟩, hro, heo⟩ := mem_map.mp hoh
  obtain ⟨hi, rfl⟩ := Prod.mk.inj he
  obtain ⟨hio, rfl⟩ := Prod.mk.inj heo
  obtain ⟨lg, hrw⟩ := exists_rewrites hr
  obtain ⟨otherId, hrO⟩ := exists_rewrites hro
  rw [h.once _ _ _ _ _ _ hrw hrO (hi.trans hio.symm)]

lemma settingWrites_agree {o : String}
    (hm : (key, v) ∈ (rewrites s.evidence s.current s.keys).flatMap settingWrites)
    (hoh : (key, o) ∈ (rewrites s.evidence s.current s.keys).flatMap settingWrites) : v = o := by
  obtain ⟨⟨legacyKey, b⟩, hre, hw⟩ := mem_flatMap.mp hm
  obtain ⟨⟨ok, otherBinding⟩, hrO, hwo⟩ := mem_flatMap.mp hoh
  obtain ⟨lg, hr⟩ := exists_rewrites hre
  obtain ⟨otherId, hro⟩ := exists_rewrites hrO
  have hon := h.once _ _ _ _ _ _ hr hro
  rcases mem_settingWrites.mp hw with ⟨hk, rfl⟩ | ⟨hk, rfl⟩ <;>
    rcases mem_settingWrites.mp hwo with ⟨hko, rfl⟩ | ⟨hko, rfl⟩
  · rw [hon (by rw [← hk, ← hko])]
  · exact absurd (hk.symm.trans hko) (hr.sole.ne_hyphenated _)
  · exact absurd (hko.symm.trans hk) (hro.sole.ne_hyphenated _)
  · rw [hon (hyphenated_injective (hk.symm.trans hko))]

lemma unordered (hs : s.Same t) :
    (∀ id, t.remaps.layoutDeviceIds.lookup id = s.remaps.layoutDeviceIds.lookup id) ∧
      (∀ id, t.remaps.physicalDeviceIds.lookup id = s.remaps.physicalDeviceIds.lookup id) ∧
      ∀ key, t.remaps.persistedSettingKeys.lookup key = s.remaps.persistedSettingKeys.lookup key := by
  have hr := h.rewrites_same hs
  refine ⟨hs.lookup_layoutDeviceIds, fun id => ?_, fun key => ?_⟩
  · rw [lookup_physicalDeviceIds, lookup_physicalDeviceIds, hs.latest_displayTargets,
      latest_congr (fun _ => ?_) fun _ _ => (h.of_same hs).physicalWrites_agree]
    simp only [mem_map, hr]
  · rw [lookup_persistedSettingKeys, lookup_persistedSettingKeys]
    refine latest_congr (fun _ => ?_) fun _ _ => (h.of_same hs).settingWrites_agree
    simp only [mem_flatMap, hr]

lemma sources (hde : d ∈ s.seen) :
    d.layoutId ∉ s.remaps.layoutDeviceIds ∧ d.info.id ∉ s.remaps.physicalDeviceIds ∧
      ∀ key ∈ d.settingKeys, key ∉ s.remaps.persistedSettingKeys := by
  refine ⟨fun hm => ?_, fun hm => ?_, fun key hk hm => ?_⟩
  · obtain ⟨cid, hl⟩ := Table.exists_lookup hm
    obtain ⟨b, hre, -⟩ := lookup_layoutDeviceIds.mp hl
    rcases how : d.binding with _ | own
    · exact h.uncompared d hde how b hre
    · exact hre.onlyLike.unused own (mem_current.mpr ⟨d, hde, how⟩) (binding_ids how).1
  · obtain ⟨tg, hl⟩ := Table.exists_lookup hm
    rcases of_lookup_physicalDeviceIds hl with ⟨lg, b, key, hr, hi, -⟩ | hd
    · exact (h.ids lg b key hr d hde).2.2 hi.symm
    · exact (displayTargets hd).1 d hde rfl
  · obtain ⟨v, hl⟩ := Table.exists_lookup hm
    obtain ⟨lg, b, legacyKey, hr, hw⟩ := of_lookup_persistedSettingKeys hl
    obtain ⟨how, ht, -⟩ := h.ids lg b legacyKey hr d hde
    rcases mem_settingWrites.mp hw with ⟨rfl, -⟩ | ⟨rfl, -⟩
    · exact how hk
    · exact ht hk

end Unambiguous

end

/-- The settings of a device may stand under its fingerprint and under the text of its physical id. -/
lemma mem_settingKeys (d : SeenDevice) :
    d.fingerprint.text ∈ d.settingKeys ∧ d.info.id.hyphenated ∈ d.settingKeys := by
  simp only [settingKeys, DeviceSettings.deviceSettingsKeys, DeviceSettings.DeviceSettingsKeys.all]
  rcases d.claim with _ | ⟨claimed, _ | _⟩
  · simp
  · by_cases hs : d.fingerprint.text = claimed.text
    · simp [hs]
    · simp [hs]
  · simp

lemma exists_seen_of_lookup_layoutDeviceIds (h : s.remaps.layoutDeviceIds.lookup lg = some cid) :
    ∃ d ∈ s.seen, cid = d.layoutId := by
  obtain ⟨b, hr, rfl⟩ := lookup_layoutDeviceIds.mp h
  obtain ⟨d, hd, hl, -⟩ := exists_seen hr.onlyLike.mem
  exact ⟨d, hd, hl.symm⟩

lemma exists_seen_of_lookup_physicalDeviceIds (h : s.remaps.physicalDeviceIds.lookup pid = some tg) :
    ∃ d ∈ s.seen, tg = d.info.id := by
  rcases of_lookup_physicalDeviceIds h with ⟨lg, b, key, hr, -, rfl⟩ | hd
  · obtain ⟨d, hde, -, hi, -⟩ := exists_seen hr.mem
    exact ⟨d, hde, hi.symm⟩
  · exact (displayTargets hd).2

lemma exists_seen_of_lookup_persistedSettingKeys (h : s.remaps.persistedSettingKeys.lookup key = some v) :
    ∃ d ∈ s.seen, v ∈ d.settingKeys := by
  obtain ⟨lg, b, legacyKey, hr, hw⟩ := of_lookup_persistedSettingKeys h
  obtain ⟨d, hd, -, hi, hf⟩ := exists_seen hr.mem
  refine ⟨d, hd, ?_⟩
  rcases mem_settingWrites.mp hw with ⟨-, rfl⟩ | ⟨-, rfl⟩
  · exact hf ▸ (mem_settingKeys d).1
  · exact hi ▸ (mem_settingKeys d).2

lemma Unambiguous.takesNothing (h : s.Unambiguous) : s.TakesNothing where
  sources _ hd := h.sources hd
  layoutTargets _ _ hlk := exists_seen_of_lookup_layoutDeviceIds hlk
  physicalTargets _ _ hlk := exists_seen_of_lookup_physicalDeviceIds hlk
  settingTargets _ _ hlk := exists_seen_of_lookup_persistedSettingKeys hlk
  apart lg o cid hlk hoh := by
    obtain ⟨b, hr, rfl⟩ := lookup_layoutDeviceIds.mp hlk
    obtain ⟨ob, hor, hl⟩ := lookup_layoutDeviceIds.mp hoh
    obtain rfl := h.targets lg b o ob hr hor hl.symm
    exact hor.alone lg hr.onlyLike
  bare lg cid hlk := by
    obtain ⟨b, hr, rfl⟩ := lookup_layoutDeviceIds.mp hlk
    exact hr.bare
  layoutDisjoint _ _ hlk := by
    obtain ⟨d, hd, rfl⟩ := exists_seen_of_lookup_layoutDeviceIds hlk
    exact (h.sources hd).1
  physicalDisjoint _ _ hlk := by
    obtain ⟨d, hd, rfl⟩ := exists_seen_of_lookup_physicalDeviceIds hlk
    exact (h.sources hd).2.1
  settingDisjoint _ _ hlk := by
    obtain ⟨d, hd, hk⟩ := exists_seen_of_lookup_persistedSettingKeys hlk
    exact (h.sources hd).2.2 _ hk
  unordered _ hs := h.unordered hs

/-! ## The condition is needed -/

/-- What a rewrite writes stands in the maps, as some order has it last. -/
lemma TakesNothing.of_rewrites (h : s.TakesNothing) (hr : s.Rewrites lg b key) :
    s.remaps.physicalDeviceIds.lookup (oldId key) = some b.physicalDeviceId ∧
      s.remaps.persistedSettingKeys.lookup key = some b.fingerprint.text ∧
      s.remaps.persistedSettingKeys.lookup
        (oldId key).hyphenated = some b.physicalDeviceId.hyphenated := by
  obtain ⟨t, rest, hsa, -, hl⟩ := hr.exists_same_concat
  obtain ⟨-, hp, hs⟩ := h.unordered t hsa
  have hw : (rewrites t.evidence t.current t.keys).flatMap settingWrites =
      (rest.flatMap settingWrites ++ [(key, b.fingerprint.text)]) ++
        [((oldId key).hyphenated, b.physicalDeviceId.hyphenated)] := by
    rw [hl, flatMap_append, flatMap_singleton, append_assoc]
    rfl
  rw [← hp, ← hs, ← hs, lookup_physicalDeviceIds, lookup_persistedSettingKeys,
    lookup_persistedSettingKeys, hw, hl, map_append]
  refine ⟨?_, ?_, ?_⟩
  · exact congrArg (Option.or · _) ((latest_concat _ _ _ _).trans (if_pos rfl))
  · rw [latest_concat, if_neg (hr.sole.ne_hyphenated _).symm, latest_concat, if_pos rfl]
  · rw [latest_concat, if_pos rfl]

lemma TakesNothing.alone (h : s.TakesNothing) (hrw : s.Rewrites lg b key)
    (hoh : o ∈ s.current) (hl : o.layoutDeviceId = b.layoutDeviceId) : o = b := by
  obtain ⟨rebound, hr, -⟩ := hrw.rebinds
  obtain ⟨shapes, hsh, -, -⟩ := hr.onlyLike.like
  -- in an order that finds the other device, the key still goes to this one
  obtain ⟨t, -, hs, hf, -⟩ := exists_same_concat hoh hsh
  obtain ⟨-, -, hse⟩ := h.unordered t hs
  have hw := (hse key).trans (h.of_rewrites hrw).2.1
  rw [lookup_persistedSettingKeys] at hw
  obtain ⟨⟨legacyKey, writing⟩, hwt, hwr⟩ := mem_flatMap.mp (mem_of_latest hw)
  rcases mem_settingWrites.mp hwr with ⟨rfl, hfi⟩ | ⟨hk, -⟩
  · obtain ⟨otherId, otherRebound, hor, hfw, -⟩ := mem_rewrites.mp hwt
    obtain ⟨hm, hlw⟩ := mem_of_found hfw
    obtain rfl : b = writing :=
      current_ext_fingerprint hrw.mem (hs.mem_current.mpr hm) (congrArg DeviceFingerprint.mk hfi)
    rw [hl, hlw] at hf
    exact Option.some_inj.mp (hf.symm.trans hfw)
  · exact absurd hk (hrw.sole.ne_hyphenated _)

lemma TakesNothing.unambiguous (h : s.TakesNothing) : s.Unambiguous where
  uncompared d hd _ b hre :=
    (h.sources d hd).1 (Table.mem_of_lookup (lookup_layoutDeviceIds.mpr ⟨b, hre, rfl⟩))
  targets lg b o otherBinding hre hoh hl := by
    obtain rfl := h.apart lg o b.layoutDeviceId (lookup_layoutDeviceIds.mpr ⟨b, hre, rfl⟩)
      (lookup_layoutDeviceIds.mpr ⟨otherBinding, hoh, hl.symm⟩)
    exact hre.onlyLike.unique hoh.onlyLike
  ids lg b key hr d hd := by
    obtain ⟨-, hp, hs⟩ := h.sources d hd
    obtain ⟨hi, hk, ht⟩ := h.of_rewrites hr
    refine ⟨fun hm => hs key hm ?_, fun hm => hs _ hm ?_, fun he => hp ?_⟩
    · exact Table.mem_of_lookup hk
    · exact Table.mem_of_lookup ht
    · exact he ▸ Table.mem_of_lookup hi
  alone lg b key hr o hoh hl := h.alone hr hoh hl
  once lg b key o otherBinding otherKey hr hoh he := by
    have hi := (h.of_rewrites hr).1
    rw [he, (h.of_rewrites hoh).1] at hi
    exact current_ext_id hr.mem hoh.mem (Option.some_inj.mp hi.symm)

/-- **A sweep takes nothing from a seen device exactly where nothing is ambiguous.** -/
theorem takes_nothing_iff (s : Sweep) : s.TakesNothing ↔ s.Unambiguous :=
  ⟨TakesNothing.unambiguous, Unambiguous.takesNothing⟩

/-! ## Two hubs of one product -/

/-- A hub at a USB path, with the segments it has reported so far. -/
def hub (path : String) (segments : List SegmentInfo) : SeenDevice where
  info := {
    id := stableDeviceId ⟨"usb:corsair:1b1c:0c3f:" ++ path⟩
    name := "iCUE LINK System Hub"
    model := none
    driverId := "corsair"
    backendId := "usb"
    transport := .usb
    protocolId := none
    segments }
  fingerprint := ⟨"usb:corsair:1b1c:0c3f:" ++ path⟩
  lifecycleLayoutId := none
  claim := none

/-- The first hub has outputs and settings, and is silent yet; the second is new. -/
def twoHubs : Sweep where
  evidence := {
    shapes := (∅ : Table String (List (List SegmentShape))).insert "corsair:1b1c:0c3f:1-3" [[⟨"fan", 34⟩]]
    descriptorTokens := ∅
    displayTargetIds := ∅ }
  seen := [hub "1-3" [], hub "1-4" [⟨"Fan", 34, .leds⟩]]
  keys := ["usb:corsair:1b1c:0c3f:1-3"]
  ids_nodup := by decide +kernel
  fingerprints_nodup := by decide +kernel
  keys_nodup := nodup_singleton _

/-- Layout id, setting key and physical id of the silent hub go to the other hub. -/
theorem takes_from_silent_hub : ¬ twoHubs.TakesNothing ∧
      twoHubs.remaps.layoutDeviceIds.lookup (hub "1-3" []).layoutId = some "corsair:1b1c:0c3f:1-4" ∧
      twoHubs.remaps.persistedSettingKeys.lookup (hub "1-3" []).fingerprint.text =
        some "usb:corsair:1b1c:0c3f:1-4" ∧
      (twoHubs.remaps.physicalDeviceIds.lookup (hub "1-3" []).info.id).isSome := by
  have hl : twoHubs.remaps.layoutDeviceIds.lookup (hub "1-3" []).layoutId =
      some "corsair:1b1c:0c3f:1-4" := by decide +kernel
  refine ⟨fun h => ?_, hl, by decide +kernel, by decide +kernel⟩
  exact (h.sources (hub "1-3" []) mem_cons_self).1 (Table.mem_of_lookup hl)

end Sweep

end Hypercolor.DeviceBinding
