import Hypercolor.DeviceBinding.LogicalDevices
import Hypercolor.DeviceBinding.Reconcile
import Mathlib.Data.Finset.Image

/-!
# Replaying a binding migration

After a crash the journal has every store migrated once more.

* **`replays_iff`**: exactly when the order of the maps does not matter and a second migration does
  nothing.
* **`old_ids_meet`**: of the entries under two old ids of one device, the order decides which one stays.
-/

namespace Hypercolor.DeviceBinding

open Lib List
open Registry (DeviceId)

variable {K V P D S C : Type} [DecidableEq K]

/-- What an entry becomes that is taken out of its key and put under another one, if that is free. -/
def carried : K → V → V := fun _ value => value

/-- `remap_string_keys` -/
def remapStringKeys (values : Table String V) (remaps : List (String × String)) : Table String V × Nat :=
  remaps.foldl (Table.counted carried) (values, 0)

/-- `remap_settings_keys`, with the map in some order -/
def remapSettingsKeys (values : Table String V) (remaps : List (String × String)) :
    Table String V × Nat :=
  remaps.foldl (Table.counted carried) (values, 0)

/-- `prepare_device_binding_migration` of the display preferences, with the ids in some order -/
def prepareDeviceBindingMigration (preferences : Table DeviceId V) (ids : List (DeviceId × DeviceId)) :
    Option (Table DeviceId V × Nat) :=
  let (candidate, migrated) := ids.foldl (Table.counted carried) (preferences, 0)
  if migrated = 0 then none else some (candidate, migrated)

lemma remapStringKeys_fst (values : Table String V) (remaps : List (String × String)) :
    (remapStringKeys values remaps).1 = values.moves carried remaps := (Table.foldl_counted ..).1

lemma remapSettingsKeys_fst (values : Table String V) (remaps : List (String × String)) :
    (remapSettingsKeys values remaps).1 = values.moves carried remaps := (Table.foldl_counted ..).1

/-- Nothing is prepared where nothing moves. -/
lemma lookup_prepared (preferences : Table DeviceId V) (ids : List (DeviceId × DeviceId))
    (id : DeviceId) :
    ((prepareDeviceBindingMigration preferences ids).elim preferences Prod.fst).lookup id =
      (Table.moves carried ids preferences).lookup id := by
  obtain ⟨hm, hn⟩ := Table.foldl_counted (f := carried) ids preferences 0
  unfold prepareDeviceBindingMigration
  dsimp only
  split_ifs with h
  · refine (Table.lookup_moves_of_idle (fun m hm v hv => ?_) id).symm
    exact absurd (Table.mem_of_lookup hv) ((hn h).2 m hm)
  · exact congrArg (AList.lookup id) hm

variable (remaps : DeviceBindingRemaps)

/-- `DeviceBindingRemaps::remap_layout_device_id_set`: the ids of the set come in some order. -/
def remapLayoutDeviceIdSet (ids : Finset String) (order : List String) : Finset String :=
  let replacements := order.filterMap fun legacy =>
    (remaps.layoutDeviceIds.lookup legacy).map fun canonical => (legacy, canonical)
  replacements.foldl (fun ids (legacy, canonical) => insert canonical (ids.erase legacy)) ids

/-- What the stores have under device ids and keys, and the exclusions of each layout. -/
structure Stores (P D S C : Type) where
  profiles : Table String P
  preferences : Table DeviceId D
  devices : Table String S
  driverControls : Table String C
  exclusions : Table String (Finset String)

/-- `ComponentProfileStore::prepare_binding_migration`, what it goes through -/
def textRemaps : List (String × String) :=
  (pairs remaps.physicalDeviceIds).map fun (legacy, canonical) =>
      (legacy.hyphenated, canonical.hyphenated)

/-! ## What is to hold -/

/-- Every order replaces each id by what it is remapped to, once. -/
def Substitutes (ids : Finset String) : Prop :=
  ∀ order, order.toFinset = ids →
    let result := remapLayoutDeviceIdSet remaps ids order
    result = ids.image (fun id => (remaps.layoutDeviceIds.lookup id).getD id) ∧
      ∀ next, next.toFinset = result → remapLayoutDeviceIdSet remaps result next = result

variable (s : Sweep) (stores : Stores P D S C)

structure Replayed : Prop where
  profiles : Table.Settles carried (textRemaps s.remaps) stores.profiles
  preferences : Table.Settles carried (pairs s.remaps.physicalDeviceIds) stores.preferences
  devices : Table.Settles carried (pairs s.remaps.persistedSettingKeys) stores.devices
  driverControls : Table.Settles carried (pairs s.remaps.persistedSettingKeys) stores.driverControls
  exclusions : ∀ layout, ∀ ids ∈ stores.exclusions.lookup layout, Substitutes s.remaps ids

/-- In no store an entry moves to a key that is remapped, and entries that meet at a free key are
equal. -/
structure Unmet : Prop where
  profiles : Table.Harmless carried (textRemaps s.remaps) stores.profiles
  preferences : Table.Harmless carried (pairs s.remaps.physicalDeviceIds) stores.preferences
  devices : Table.Harmless carried (pairs s.remaps.persistedSettingKeys) stores.devices
  driverControls : Table.Harmless carried (pairs s.remaps.persistedSettingKeys) stores.driverControls

/-! ## The condition -/

lemma settles_carried {remaps : List (K × K)} {t : Table K V} (hn : (remaps.map Prod.fst).Nodup) :
    Table.Settles carried remaps t ↔ Table.Harmless carried remaps t :=
  Table.settles_iff (fun _ _ => rfl) (fun _ _ _ => rfl) hn

lemma nodup_textRemaps (remaps : DeviceBindingRemaps) : ((textRemaps remaps).map Prod.fst).Nodup := by
  have hn := (nodup_pairs remaps.physicalDeviceIds).map fun _ _ => hyphenated_injective
  rw [map_map] at hn
  rwa [textRemaps, map_map]

variable {s}

lemma target_not_source {lg c : String} (h : s.remaps.layoutDeviceIds.lookup lg = some c) :
    c ∉ s.remaps.layoutDeviceIds := by
  intro hc
  obtain ⟨b, hb, rfl⟩ := Sweep.lookup_layoutDeviceIds.mp h
  obtain ⟨c, hc⟩ := Table.exists_lookup hc
  obtain ⟨o, ho, -⟩ := Sweep.lookup_layoutDeviceIds.mp hc
  exact ho.onlyLike.unused b hb.onlyLike.mem rfl

variable {ids : Finset String}

lemma mem_remapLayoutDeviceIdSet (order : List String) (id : String) :
    id ∈ remapLayoutDeviceIdSet s.remaps ids order ↔
      (id ∈ ids ∧ (id ∈ order → id ∉ s.remaps.layoutDeviceIds)) ∨
        ∃ lg ∈ order, s.remaps.layoutDeviceIds.lookup lg = some id := by
  induction order generalizing ids with
  | nil => simp [remapLayoutDeviceIdSet]
  | cons lg order ih =>
    rcases hl : s.remaps.layoutDeviceIds.lookup lg with _ | c
    · have hn := AList.lookup_eq_none.mp hl
      rw [remapLayoutDeviceIdSet, filterMap_cons_none (by rw [hl]; rfl)]
      refine ih.trans ?_
      grind
    · have hm := Table.mem_of_lookup hl
      have hc := target_not_source hl
      rw [remapLayoutDeviceIdSet, filterMap_cons_some (by rw [hl]; rfl)]
      refine ih.trans ?_
      grind

lemma substitutes : Substitutes s.remaps ids := by
  rintro order rfl
  refine ⟨Finset.ext fun id => ?_, fun next hn => Finset.ext fun id => ?_⟩
  · rw [mem_remapLayoutDeviceIdSet]
    rw [Finset.mem_image]
    simp only [mem_toFinset]
    constructor
    · rintro (⟨hi, hs⟩ | ⟨lg, ho, hl⟩)
      · exact ⟨id, hi, by rw [AList.lookup_eq_none.mpr (hs hi)]; rfl⟩
      · exact ⟨lg, ho, by rw [hl]; rfl⟩
    · rintro ⟨lg, ho, rfl⟩
      rcases hl : s.remaps.layoutDeviceIds.lookup lg with _ | c
      · exact .inl ⟨ho, fun _ => AList.lookup_eq_none.mp hl⟩
      · exact .inr ⟨lg, ho, hl⟩
  · -- no id that is left is remapped
    have hs : ∀ id ∈ next, id ∉ s.remaps.layoutDeviceIds := fun id hi => by
      rw [← mem_toFinset, hn, mem_remapLayoutDeviceIdSet, mem_toFinset] at hi
      rcases hi with ⟨hi, hs⟩ | ⟨lg, -, hl⟩
      · exact hs hi
      · exact target_not_source hl
    rw [mem_remapLayoutDeviceIdSet]
    exact ⟨fun h => h.elim And.left fun ⟨lg, hm, hl⟩ => absurd (Table.mem_of_lookup hl) (hs lg hm),
      fun h => .inl ⟨h, hs id⟩⟩

/-- **When a migration can be replayed.** -/
theorem replays_iff (s : Sweep) (stores : Stores P D S C) : Replayed s stores ↔ Unmet s stores := by
  constructor
  · rintro ⟨hp, hf, hd, hc, -⟩
    exact ⟨(settles_carried (nodup_textRemaps _)).mp hp, (settles_carried (nodup_pairs _)).mp hf,
      (settles_carried (nodup_pairs _)).mp hd, (settles_carried (nodup_pairs _)).mp hc⟩
  · rintro ⟨hp, hf, hd, hc⟩
    exact ⟨(settles_carried (nodup_textRemaps _)).mpr hp, (settles_carried (nodup_pairs _)).mpr hf,
      (settles_carried (nodup_pairs _)).mpr hd, (settles_carried (nodup_pairs _)).mpr hc,
      fun _ _ _ => substitutes⟩

/-! ## Two old ids of one device -/

/-- A hub at another port than before, which an older build knew too. -/
def movedHub : Sweep where
  evidence := { Sweep.twoHubs.evidence with displayTargetIds := {stableDeviceId ⟨"usb:1b1c:0c3f:1-4"⟩} }
  seen := [Sweep.hub "1-4" [⟨"Fan", 34, .leds⟩]]
  keys := ["usb:corsair:1b1c:0c3f:1-3"]
  ids_nodup := by decide
  fingerprints_nodup := by decide
  keys_nodup := by decide

/-- Preferences under both old ids. -/
def twoPreferences : Stores Nat Nat Nat Nat where
  profiles := ∅
  preferences := collect [(stableDeviceId ⟨"usb:1b1c:0c3f:1-4"⟩, 1),
    (stableDeviceId ⟨"usb:corsair:1b1c:0c3f:1-3"⟩, 2)]
  devices := ∅
  driverControls := ∅
  exclusions := ∅

/-- The order decides which preference the hub keeps. -/
theorem old_ids_meet : ¬ Replayed movedHub twoPreferences := fun h =>
  absurd (h.preferences.same _ (reverse_perm _) (Sweep.hub "1-4" []).info.id) (by decide +kernel)

end Hypercolor.DeviceBinding
