import Hypercolor.Config.Manager
import Hypercolor.Registry.Types
import Mathlib.Data.List.DropRight

/-!
# The device settings

One row for each device, under its canonical key; an earlier build may have left a row under one of the
device's legacy keys. A row that says nothing but the defaults is not stored.

* **`read_resolve`**, **`readings_resolve_of_sharesNoKey`**: resolving a key moves rows, but no device
  reads anything else;
* **`read_setDeviceSettings`**, **`readings_setDeviceSettings_of_sharesNoKey`**: what a device reads once
  its row is set, and that the other devices read what they did.
-/

namespace Hypercolor.DeviceSettings

open Lib Config List Option AList
open Registry (DisplayRotation F32)

/-! ## One device's settings -/

/-- `DisplayRotation::is_upright` -/
def isUpright : DisplayRotation → Bool
  | .deg0 => true
  | _ => false

/-- The comparison with `0.999` in `is_default`: whether a brightness counts as full. -/
def nearlyFull (brightness : F32) : Bool :=
  !brightness.isNaN && brightness.bits.toNat < 2 ^ 31 && 0x3F7FBE77 ≤ brightness.magnitude

lemma clampUnit_clampUnit (br : F32) : br.clampUnit.clampUnit = br.clampUnit := by
  have hz : F32.zero.clampUnit = F32.zero := rfl
  have hon : F32.one.clampUnit = F32.one := rfl
  by_cases hn : br.isNaN
  · simp only [F32.clampUnit, hn, if_true]
  by_cases hne : br.isNegative
  · rw [show br.clampUnit = F32.zero by simp only [F32.clampUnit, hn, hne]; rfl, hz]
  by_cases hl : F32.one.magnitude < br.magnitude
  · rw [show br.clampUnit = F32.one by simp only [F32.clampUnit, hn, hne, hl]; rfl, hon]
  · have hs : br.clampUnit = br := by simp [F32.clampUnit, hn, hne, hl]
    rw [hs, hs]

lemma trim_eq_rdropWhile (s : List Char) :
    trim s = (s.dropWhile isWhitespace).rdropWhile isWhitespace := rfl

lemma trim_trim (s : List Char) : trim (trim s) = trim s := by
  have hf : (trim s).dropWhile isWhitespace = trim s := by
    rw [dropWhile_eq_self_iff]
    intro hp
    -- what is trimmed starts as what is left of the string starts
    have hfs : trim s <+: s.dropWhile isWhitespace := rdropWhile_prefix _ _
    rw [hfs.getElem hp]
    exact dropWhile_get_zero_not _ _ _
  rw [trim_eq_rdropWhile (trim s), hf, trim_eq_rdropWhile, rdropWhile_idempotent]

/-- `StoredDeviceSettings` -/
structure StoredDeviceSettings where
  name : Option String
  disabled : Bool
  brightness : F32
  rotation : DisplayRotation

namespace StoredDeviceSettings

/-- `default` -/
def default : StoredDeviceSettings where
  name := none
  disabled := false
  brightness := F32.one
  rotation := .deg0

/-- `normalized` -/
def normalized (settings : StoredDeviceSettings) : StoredDeviceSettings :=
  { settings with
    name := (settings.name.map fun name => String.ofList (trim name.toList)).filter (· ≠ "")
    brightness := settings.brightness.clampUnit }

/-- `is_default` -/
def isDefault (settings : StoredDeviceSettings) : Bool :=
  settings.name.isNone && !settings.disabled && nearlyFull settings.brightness &&
    isUpright settings.rotation

lemma normalized_normalized (st : StoredDeviceSettings) : st.normalized.normalized = st.normalized := by
  obtain ⟨nm, disabled, bright, rotation⟩ := st
  have hn : ∀ nm : String, String.ofList (trim (String.ofList (trim nm.toList)).toList) =
      String.ofList (trim nm.toList) := fun nm => by rw [String.toList_ofList, trim_trim]
  simp only [normalized, clampUnit_clampUnit, mk.injEq, and_true]
  cases nm with
  | none => rfl
  | some nm =>
    rw [map_some, filter_some]
    split
    · rename_i h
      rw [map_some, filter_some, hn, if_pos h]
    · rfl

end StoredDeviceSettings

open StoredDeviceSettings

/-! ## The store -/

/-- `DeviceSettingsStore`, its `snapshot.devices`: the rows, by their keys. -/
structure DeviceSettingsStore where
  devices : Table String (StoredDeviceSettings)

namespace DeviceSettingsStore

variable (store : DeviceSettingsStore) (key : String)

/-- `device_settings_for_key` -/
def deviceSettingsForKey : Option (StoredDeviceSettings) :=
  (store.devices.lookup key).map normalized

/-- `set_device_settings` -/
def setDeviceSettings (settings : StoredDeviceSettings) : DeviceSettingsStore :=
  let settings := settings.normalized
  if settings.isDefault then { devices := store.devices.erase key }
  else { devices := store.devices.insert key settings }

/-- `set_device_brightness` -/
def setDeviceBrightness (brightness : F32) : DeviceSettingsStore :=
  let settings := (store.deviceSettingsForKey key).getD .default
  store.setDeviceSettings key { settings with brightness }

/-- `set_device_name` -/
def setDeviceName (name : Option String) : DeviceSettingsStore :=
  let settings := (store.deviceSettingsForKey key).getD .default
  store.setDeviceSettings key { settings with name }

/-- `set_device_enabled` -/
def setDeviceEnabled (enabled : Bool) : DeviceSettingsStore :=
  let settings := (store.deviceSettingsForKey key).getD .default
  store.setDeviceSettings key { settings with disabled := !enabled }

/-- `adopt_legacy_device_key`: whether a row moved, too. -/
def adoptLegacyDeviceKey (canonical : String) (legacyKeys : List String) : DeviceSettingsStore × Bool :=
  if canonical ∈ store.devices then (store, false) else go legacyKeys
where
  go : List String → DeviceSettingsStore × Bool
    | [] => (store, false)
    | legacy :: rest =>
      if legacy = canonical then go rest
      else match store.devices.lookup legacy with
        | some settings => ({ devices := (store.devices.erase legacy).insert canonical settings }, true)
        | none => go rest

end DeviceSettingsStore

/-! ## The keys of a device -/

/-- `DeviceSettingsKeys` -/
structure DeviceSettingsKeys where
  canonical : String
  legacy : List String

/-- The keys a row of the device may stand under. -/
def DeviceSettingsKeys.all (keys : DeviceSettingsKeys) : List String := keys.canonical :: keys.legacy

/-- What the registry knows of a device: the key it claims and whether that key is quarantined, its
fingerprint, and its id. -/
structure DeviceIdentity where
  claim : Option (String × Bool)
  fingerprint : Option String
  rawId : String

/-- `device_settings_keys` -/
def deviceSettingsKeys (identity : DeviceIdentity) : DeviceSettingsKeys :=
  let claimKey := match identity.claim with
    | some (key, quarantined) => if quarantined then none else some key
    | none => none
  match claimKey, identity.fingerprint with
  | some canonical, some fingerprint =>
    ⟨canonical, (if fingerprint ≠ canonical then [fingerprint] else []) ++ [identity.rawId]⟩
  | some canonical, none | none, some canonical => ⟨canonical, [identity.rawId]⟩
  | none, none => ⟨identity.rawId, []⟩

/-- `resolve_device_settings_key` -/
def DeviceSettingsStore.resolveDeviceSettingsKey (store : DeviceSettingsStore)
    (identity : DeviceIdentity) : DeviceSettingsStore × String :=
  let keys := deviceSettingsKeys identity
  if keys.legacy = [] then (store, keys.canonical)
  else ((store.adoptLegacyDeviceKey keys.canonical keys.legacy).1, keys.canonical)

/-! ## What a device reads -/

namespace DeviceSettingsStore

variable (store : DeviceSettingsStore) (identity : DeviceIdentity)

/-- The settings of a device, through its resolved key. -/
def read : StoredDeviceSettings :=
  let (store, key) := store.resolveDeviceSettingsKey identity
  (store.deviceSettingsForKey key).getD .default

/-- The row an earlier build left, which a resolution adopts where the canonical row is absent. -/
def stale : Option StoredDeviceSettings :=
  let keys := deviceSettingsKeys identity
  (keys.legacy.filter (· ≠ keys.canonical)).findSome? fun legacy => store.devices.lookup legacy

/-- What the stale row says. -/
def staleReading : StoredDeviceSettings := ((store.stale identity).map normalized).getD .default

/-- What stands under the canonical key, without a resolution. -/
def direct : StoredDeviceSettings :=
  (store.deviceSettingsForKey (deviceSettingsKeys identity).canonical).getD .default

/-- Going through the legacy keys finds the stale row, if there is one, and moves it. -/
lemma adopt_go (can : String) (legacyKeys : List String) :
    (legacyKeys.filter (· ≠ can)).findSome? (store.devices.lookup ·) = none ∧
        adoptLegacyDeviceKey.go store can legacyKeys = (store, false) ∨ ∃ legacy ∈ legacyKeys, ∃ st,
        (legacyKeys.filter (· ≠ can)).findSome? (store.devices.lookup ·) = some st ∧
        adoptLegacyDeviceKey.go store can legacyKeys =
          ({ devices := (store.devices.erase legacy).insert can st }, true) := by
  induction legacyKeys with
  | nil => exact .inl ⟨rfl, rfl⟩
  | cons legacy rest ih =>
    rw [adoptLegacyDeviceKey.go]
    by_cases hs : legacy = can
    · rw [if_pos hs, filter_cons_of_neg (by simpa using hs)]
      rcases ih with hn | ⟨fd, hf, hm⟩
      · exact .inl hn
      · exact .inr ⟨fd, mem_cons_of_mem _ hf, hm⟩
    · rw [if_neg hs, filter_cons_of_pos (by simpa using hs), findSome?_cons]
      cases hr : store.devices.lookup legacy with
      | some st => exact .inr ⟨legacy, mem_cons_self, st, rfl, rfl⟩
      | none =>
        rcases ih with hn | ⟨fd, hf, hm⟩
        · exact .inl hn
        · exact .inr ⟨fd, mem_cons_of_mem _ hf, hm⟩

variable {store} {identity}

/-- What a resolution does to the rows. -/
lemma resolve_cases (store : DeviceSettingsStore) (identity : DeviceIdentity) :
    store.resolveDeviceSettingsKey identity = (store, (deviceSettingsKeys identity).canonical) ∧
        ((deviceSettingsKeys identity).canonical ∈ store.devices ∨ store.stale identity = none) ∨
      (deviceSettingsKeys identity).canonical ∉ store.devices ∧
        ∃ legacy ∈ (deviceSettingsKeys identity).legacy, ∃ settings,
            store.stale identity = some settings ∧
          store.resolveDeviceSettingsKey identity =
            (⟨(store.devices.erase legacy).insert (deviceSettingsKeys identity).canonical settings⟩,
              (deviceSettingsKeys identity).canonical) := by
  simp only [resolveDeviceSettingsKey, stale, adoptLegacyDeviceKey]
  obtain ⟨can, legacyKeys⟩ := deviceSettingsKeys identity
  by_cases hl : legacyKeys = []
  · subst hl
    exact .inl ⟨rfl, .inr rfl⟩
  rw [if_neg hl]
  by_cases hc : can ∈ store.devices
  · rw [if_pos hc]
    exact .inl ⟨rfl, .inl hc⟩
  rw [if_neg hc]
  rcases store.adopt_go can legacyKeys with ⟨hn, hg⟩ | ⟨legacy, hm, settings, hs, hg⟩
  · exact .inl ⟨by rw [hg], .inr hn⟩
  · exact .inr ⟨hc, legacy, hm, settings, hs, by rw [hg]⟩

/-- A device reads its canonical row, or else the stale one. -/
lemma read_eq : store.read identity =
    (((store.devices.lookup (deviceSettingsKeys identity).canonical).or (store.stale identity)).map
      normalized).getD .default := by
  rw [read]
  rcases store.resolve_cases identity with ⟨hs, hr⟩ | ⟨ha, legacy, -, st, hst, hm⟩
  · rw [hs]
    rcases hr with hr | hr
    · obtain ⟨st, hse⟩ := Table.exists_lookup hr
      simp only [deviceSettingsForKey, hse, some_or]
    · rw [hr, or_none]
      rfl
  · rw [hm, lookup_eq_none.mpr ha, none_or, hst]
    simp only [deviceSettingsForKey, lookup_insert]

/-- Devices that share no key. -/
def SharesNoKey (identity other : DeviceIdentity) : Prop :=
  (deviceSettingsKeys identity).all.Disjoint (deviceSettingsKeys other).all

variable {after : DeviceSettingsStore}

/-- The stale row depends on the rows under the keys that are not the canonical one. -/
lemma stale_congr (h : ∀ key ∈ (deviceSettingsKeys identity).legacy, key ≠ (deviceSettingsKeys
      identity).canonical → after.devices.lookup key = store.devices.lookup key) :
    after.stale identity = store.stale identity := by
  have hr : ∀ keys : List String, (∀ key ∈ keys, after.devices.lookup key = store.devices.lookup key) →
        keys.findSome? (after.devices.lookup ·) = keys.findSome? (store.devices.lookup ·) := by
    intro keys hke
    induction keys with
    | nil => rfl
    | cons key rest ih =>
      rw [findSome?_cons, findSome?_cons, hke key mem_cons_self,
        ih fun key hk => hke key (mem_cons_of_mem _ hk)]
  refine hr _ fun key hk => ?_
  obtain ⟨hm, hn⟩ := mem_filter.mp hk
  exact h key hm (of_decide_eq_true hn)

/-- What a device reads, and what stands under its canonical key, depend on the rows under its keys. -/
lemma readings_congr (h : ∀ key ∈ (deviceSettingsKeys identity).all, after.devices.lookup key =
      store.devices.lookup key) :
    after.read identity = store.read identity ∧ after.direct identity = store.direct identity := by
  have hc := h (deviceSettingsKeys identity).canonical mem_cons_self
  have hs : after.stale identity = store.stale identity :=
    stale_congr fun key hk _ => h key (mem_cons_of_mem _ hk)
  exact ⟨by rw [read_eq, read_eq, hc, hs], by
    rw [direct, direct, deviceSettingsForKey, deviceSettingsForKey, hc]⟩

/-! ## Resolving -/

/-- Resolving the key of a device changes nothing that it reads, and from then on it stands under the
canonical key. -/
theorem read_resolve (store : DeviceSettingsStore) (identity : DeviceIdentity) :
    (store.resolveDeviceSettingsKey identity).1.read identity = store.read identity ∧
      (store.resolveDeviceSettingsKey identity).1.direct identity = store.read identity := by
  rcases store.resolve_cases identity with ⟨hs, hr⟩ | ⟨ha, legacy, -, st, hst, hm⟩
  · refine ⟨by rw [hs], ?_⟩
    rw [read_eq, hs]
    rcases hr with hr | hr
    · obtain ⟨st, hse⟩ := Table.exists_lookup hr
      simp only [direct, deviceSettingsForKey, hse, some_or]
    · rw [hr, or_none]
      rfl
  · rw [hm, read_eq, read_eq, lookup_eq_none.mpr ha, hst]
    simp only [direct, deviceSettingsForKey, lookup_insert, some_or, none_or, and_self]

variable {o : DeviceIdentity}

/-- No other device reads anything else. -/
theorem readings_resolve_of_sharesNoKey (h : SharesNoKey identity o) :
    (store.resolveDeviceSettingsKey identity).1.read o = store.read o ∧
      (store.resolveDeviceSettingsKey identity).1.direct o = store.direct o := by
  refine readings_congr fun key hk => ?_
  rcases store.resolve_cases identity with ⟨hs, -⟩ | ⟨-, legacy, hl, settings, -, hm⟩
  · rw [hs]
  · have hc : key ≠ (deviceSettingsKeys identity).canonical := by
      rintro rfl
      exact h mem_cons_self hk
    have hn : key ≠ legacy := by
      rintro rfl
      exact h (mem_cons_of_mem _ hl) hk
    rw [hm]
    rw [lookup_insert_ne hc, lookup_erase_ne hn]

/-! ## Setting -/

/-- The settings a row says once it is set: the default, if it says nothing else. -/
def settled (settings : StoredDeviceSettings) : StoredDeviceSettings :=
  if settings.normalized.isDefault then .default else settings.normalized

lemma lookup_setDeviceSettings_of_ne {key o : String} (st : StoredDeviceSettings) (h : o ≠ key) :
    (store.setDeviceSettings key st).devices.lookup o = store.devices.lookup o := by
  rw [setDeviceSettings]
  split
  · exact lookup_erase_ne h
  · exact lookup_insert_ne h

variable (st : StoredDeviceSettings)

lemma stale_setDeviceSettings :
    (store.setDeviceSettings (deviceSettingsKeys identity).canonical st).stale identity =
      store.stale identity :=
  stale_congr fun _ _ hn => lookup_setDeviceSettings_of_ne st hn

lemma lookup_setDeviceSettings (key : String) (st : StoredDeviceSettings) :
    (store.setDeviceSettings key st).devices.lookup key =
      if st.normalized.isDefault then none else some st.normalized := by
  rw [setDeviceSettings]
  split
  · exact lookup_erase _ _
  · exact lookup_insert _

/-- What stands under the canonical key once a row is set. -/
lemma direct_setDeviceSettings :
    (store.setDeviceSettings (deviceSettingsKeys identity).canonical st).direct identity = settled
        st := by
  rw [direct, deviceSettingsForKey, lookup_setDeviceSettings, settled]
  split
  · rfl
  · exact normalized_normalized st

/-- What the device reads once a row is set: a row that is not stored lets the stale one through. -/
theorem read_setDeviceSettings :
    (store.setDeviceSettings (deviceSettingsKeys identity).canonical st).read identity =
      if st.normalized.isDefault then store.staleReading identity else st.normalized := by
  rw [read_eq, lookup_setDeviceSettings, stale_setDeviceSettings]
  split
  · rfl
  · exact normalized_normalized st

/-- No other device reads anything else. -/
theorem readings_setDeviceSettings_of_sharesNoKey (h : SharesNoKey identity o) :
    (store.setDeviceSettings (deviceSettingsKeys identity).canonical st).read o = store.read o ∧
      (store.setDeviceSettings (deviceSettingsKeys identity).canonical st).direct o = store.direct o := by
  refine readings_congr fun key hk => lookup_setDeviceSettings_of_ne st ?_
  rintro rfl
  exact h mem_cons_self hk

end DeviceSettingsStore

end Hypercolor.DeviceSettings
