import Hypercolor.DeviceSettings.Store
import Mathlib.Data.Finset.Insert

/-!
# What was last set for a device

The machine `settingUp` resolves and sets the settings of any devices, in any order, from any store. A
setting is made under the key that a resolution gave. Beside the store stands what was last set for
each device: before the first setting, what it reads at the start.

* **`reads_what_was_set`**: every device reads what was last set for it, as long as no device is set back
  to the default while a stale row is left behind its canonical row; that is the exact condition. No
  operation on one device changes what another one reads, under any condition.
* **`reset_brings_back_the_stale_row`**: without the condition the stale row comes back.
-/

set_option linter.unusedSectionVars false

namespace Hypercolor.DeviceSettings

open Lib Function

variable {D : Type} [DecidableEq D]

/-! ## Operations -/

/-- What can be set. -/
inductive Setting where
  | settings (settings : StoredDeviceSettings)
  | brightness (brightness : Registry.F32)
  | name (name : Option String)
  | enabled (enabled : Bool)

/-- The settings that are asked for, where those before are known. -/
def Setting.asked (before : StoredDeviceSettings) : Setting → StoredDeviceSettings
  | .settings x => x
  | .brightness x => { before with brightness := x }
  | .name x => { before with name := x }
  | .enabled x => { before with disabled := !x }

/-- The operation of the store that sets it. -/
def Setting.write (store : DeviceSettingsStore) (key : String) : Setting → DeviceSettingsStore
  | .settings x => store.setDeviceSettings key x
  | .brightness x => store.setDeviceBrightness key x
  | .name x => store.setDeviceName key x
  | .enabled x => store.setDeviceEnabled key x

inductive SettingsOp (D : Type) where
  | resolve (device : D)
  | set (device : D) (setting : Setting)

def SettingsOp.device : SettingsOp D → D
  | resolve device | set device _ => device

variable (identity : D → DeviceIdentity)

/-- What an operation does to the store. -/
def SettingsOp.apply (store : DeviceSettingsStore) : SettingsOp D → DeviceSettingsStore
  | resolve device => (store.resolveDeviceSettingsKey (identity device)).1
  | set device setting => setting.write store (deviceSettingsKeys (identity device)).canonical

/-- The store, the devices whose keys were resolved, and what was last set for each. -/
structure Setup (D : Type) where
  store : DeviceSettingsStore
  resolved : Finset D
  lastSet : D → StoredDeviceSettings

/-- One operation; nothing is set for a device whose key is not known. -/
def Setup.perform (s : Setup D) (op : SettingsOp D) : Option (Setup D) :=
  match op with
  | .resolve device =>
    some { s with store := op.apply identity s.store, resolved := insert device s.resolved }
  | .set device setting =>
    if device ∈ s.resolved then
      some { s with
        store := op.apply identity s.store
        lastSet := update s.lastSet device
          (DeviceSettingsStore.settled (setting.asked (s.lastSet device))) }
    else none

/-- Any operations on any store. -/
def settingUp : Machine (Setup D) (SettingsOp D) where
  init s := s.resolved = ∅ ∧ ∀ device, s.lastSet device = s.store.read (identity device)
  step s op t := s.perform identity op = some t

/-- No device is set back to the default while a row that says something else is left under one of its
legacy keys. -/
def NothingStale : SettingsOp D → Setup D → Prop
  | .resolve _, _ => True
  | .set device setting, s =>
    (setting.asked (s.store.read (identity device))).normalized.isDefault →
      s.store.staleReading (identity device) = .default

/-! ## One operation -/

namespace DeviceSettingsStore

variable {st : DeviceSettingsStore} {idy : DeviceIdentity}

/-- Every setting sets all of the settings, changed where it changes them. -/
lemma write_eq (setting : Setting) : setting.write st (deviceSettingsKeys idy).canonical =
      st.setDeviceSettings (deviceSettingsKeys idy).canonical (setting.asked (st.direct idy)) := by
  cases setting <;> rfl

end DeviceSettingsStore

open DeviceSettingsStore

variable {idy : D → DeviceIdentity} {s t : Setup D}

/-- The devices share no key with one another. -/
def KeepApart (identity : D → DeviceIdentity) : Prop :=
  Pairwise fun device other => SharesNoKey (identity device) (identity other)

/-- An operation on one device does not change what the others read. -/
lemma readings_apply_of_ne (hkeys : KeepApart idy) (st : DeviceSettingsStore)
    (op : SettingsOp D) {o : D} (h : op.device ≠ o) : (op.apply idy st).read (idy o) = st.read (idy o) ∧
      (op.apply idy st).direct (idy o) = st.direct (idy o) := by
  cases op with
  | resolve d => exact readings_resolve_of_sharesNoKey (hkeys h)
  | set d setting =>
    rw [SettingsOp.apply, write_eq]
    exact readings_setDeviceSettings_of_sharesNoKey _ (hkeys h)

/-- Every device reads what was last set for it, and once its key is resolved it finds that under its
canonical key. -/
structure UpToDate (identity : D → DeviceIdentity) (s : Setup D) : Prop where
  read : ∀ device, s.store.read (identity device) = s.lastSet device
  direct : ∀ device ∈ s.resolved, s.store.direct (identity device) = s.lastSet device

variable {d : D}

/-- A setting of an up-to-date device is read back exactly if nothing stale comes to light. -/
lemma read_set (h : UpToDate idy s) (hde : d ∈ s.resolved) (setting : Setting) :
    ((SettingsOp.set d setting).apply idy s.store).read (idy d) = settled (setting.asked (s.lastSet d)) ↔
      NothingStale idy (.set d setting) s := by
  rw [SettingsOp.apply, write_eq, read_setDeviceSettings, h.direct d hde, settled, NothingStale, h.read d]
  split <;> rename_i hd <;> simp [hd]

section

variable (hkeys : KeepApart idy) (h : UpToDate idy s)
include hkeys h

lemma upToDate_resolve (d : D) : UpToDate idy { s with
      store := (SettingsOp.resolve d).apply idy s.store
      resolved := insert d s.resolved } := by
  have hs := read_resolve s.store (idy d)
  constructor
  · intro o
    by_cases hoh : d = o
    · subst hoh
      exact hs.1.trans (h.read d)
    · exact (readings_apply_of_ne hkeys s.store (.resolve d) hoh).1.trans (h.read o)
  · intro o hm
    by_cases hoh : d = o
    · subst hoh
      exact hs.2.trans (h.read d)
    · have hb := Finset.mem_of_mem_insert_of_ne hm (Ne.symm hoh)
      exact (readings_apply_of_ne hkeys s.store (.resolve d) hoh).2.trans (h.direct o hb)

lemma upToDate_set (hd : d ∈ s.resolved) (setting : Setting) (hs : NothingStale idy (.set d setting) s) :
    UpToDate idy { s with
      store := (SettingsOp.set d setting).apply idy s.store
      lastSet := update s.lastSet d (settled (setting.asked (s.lastSet d))) } := by
  constructor
  · intro o
    dsimp only
    by_cases hoh : d = o
    · subst hoh
      rw [update_self]
      exact (read_set h hd setting).mpr hs
    · rw [update_of_ne (Ne.symm hoh)]
      exact (readings_apply_of_ne hkeys s.store (.set d setting) hoh).1.trans (h.read o)
  · intro o hm
    dsimp only
    by_cases hoh : d = o
    · subst hoh
      rw [update_self, SettingsOp.apply, write_eq, direct_setDeviceSettings, h.direct d hd]
    · rw [update_of_ne (Ne.symm hoh)]
      exact (readings_apply_of_ne hkeys s.store (.set d setting) hoh).2.trans (h.direct o hm)

/-- An operation on an up-to-date setup leaves it so if it meets the condition. -/
lemma upToDate_perform {op : SettingsOp D} (hop : s.perform idy op = some t)
    (hs : NothingStale idy op s) : UpToDate idy t := by
  cases op with
  | resolve d =>
    cases hop
    exact upToDate_resolve hkeys h d
  | set d setting =>
    obtain ⟨hd, ⟨⟩⟩ := Option.ite_none_right_eq_some.mp hop
    exact upToDate_set hkeys h hd setting hs

end

/-! ## Runs -/

lemma upToDate_of_reachable (hkeys : KeepApart idy)
    (h : ((settingUp idy).restrict (NothingStale idy)).Reachable s) : UpToDate idy s := by
  refine h.invariant (I := UpToDate idy) ?_ ?_
  · rintro s ⟨hre, hr⟩
    refine ⟨fun d => (hr d).symm, fun d hm => ?_⟩
    rw [hre] at hm
    exact absurd hm (Finset.notMem_empty d)
  · rintro s op t hs ⟨hop, hst⟩
    exact upToDate_perform hkeys hs hop hst

/-- **Every device reads what was last set for it** in every run that meets the condition, and a step
that does not meet it is read wrongly at once. No operation changes what another device reads. -/
theorem reads_what_was_set (identity : D → DeviceIdentity) (hkeys : KeepApart identity) :
    (∀ s, ((settingUp identity).restrict (NothingStale identity)).Reachable s →
      (∀ device, s.store.read (identity device) = s.lastSet device) ∧
      ∀ op t, s.perform identity op = some t →
        ((∀ device, t.store.read (identity device) = t.lastSet device) ↔ NothingStale identity op s)) ∧
    ∀ (store : DeviceSettingsStore) (op : SettingsOp D) (other : D), op.device ≠ other →
      (op.apply identity store).read (identity other) = store.read (identity other) := by
  refine ⟨fun s hs => ?_, fun store op other hn => (readings_apply_of_ne hkeys store op hn).1⟩
  have h := upToDate_of_reachable hkeys hs
  refine ⟨h.read, fun op t hop =>
    ⟨fun hr => ?_, fun hst => (upToDate_perform hkeys h hop hst).read⟩⟩
  cases op with
  | resolve device => trivial
  | set device setting =>
    obtain ⟨hd, ⟨⟩⟩ := Option.ite_none_right_eq_some.mp hop
    have hse := hr device
    dsimp only at hse
    rw [update_self] at hse
    exact (read_set h hd setting).mp hse

/-! ## Two rows of one device -/

/-- A shelf with a portable key, and a lamp without one. -/
def shelfAndLamp : Bool → DeviceIdentity
  | true => ⟨some ("net:aabbccddeeff", false), some "net:wled:shelf", "5f2b1f9e"⟩
  | false => ⟨none, some "net:wled:lamp", "9a370f4c"⟩

lemma keepApart_shelfAndLamp : KeepApart shelfAndLamp := by
  rintro (_ | _) (_ | _) hn
  · exact absurd rfl hn
  iterate 2 exact List.disjoint_left.mpr (by decide)
  · exact absurd rfl hn

/-- An earlier build left a dimmed row under the shelf's fingerprint. -/
def dimmed : StoredDeviceSettings := ⟨none, false, ⟨0x3F000000⟩, .deg0⟩

def named : StoredDeviceSettings := ⟨some "Desk", false, .one, .deg0⟩

/-- The rows an earlier build left: the dimmed one alone, or with one under the canonical key. -/
def dimmedShelf : DeviceSettingsStore := ⟨AList.singleton "net:wled:shelf" dimmed⟩

def namedShelf : DeviceSettingsStore := ⟨dimmedShelf.devices.insert "net:aabbccddeeff" named⟩

/-- A setup that starts with the store. -/
def Setup.start (identity : D → DeviceIdentity) (store : DeviceSettingsStore) : Setup D :=
  ⟨store, ∅, fun device => store.read (identity device)⟩

lemma Setup.reachable_start (idy : D → DeviceIdentity) (st : DeviceSettingsStore)
    {C : SettingsOp D → Setup D → Prop} : ((settingUp idy).restrict C).Reachable (start idy st) :=
  .init ⟨rfl, fun _ => rfl⟩

/-- The shelf adopts its old row and is named; the lamp has no row. -/
theorem reads_what_was_set_shelf : KeepApart shelfAndLamp ∧
    ∃ s, ([.resolve true, .set true (.name (some " Desk "))] : List (SettingsOp Bool)).foldlM
        (Setup.perform shelfAndLamp) (Setup.start shelfAndLamp dimmedShelf) = some s ∧
      s.store.read (shelfAndLamp true) = { dimmed with name := some "Desk" } ∧
      s.store.read (shelfAndLamp false) = .default := by
  have h := reads_what_was_set shelfAndLamp keepApart_shelfAndLamp
  obtain ⟨s, hs⟩ : ∃ s, (Setup.start shelfAndLamp dimmedShelf).perform shelfAndLamp (.resolve true) =
    some s := ⟨_, rfl⟩
  obtain ⟨t, ht⟩ : ∃ t, s.perform shelfAndLamp (.set true (.name (some " Desk "))) = some t := by
    cases hs
    exact ⟨_, rfl⟩
  have hre := (Setup.reachable_start shelfAndLamp dimmedShelf
    (C := NothingStale shelfAndLamp)).step ⟨hs, trivial⟩
  have hrc := hre.step ⟨ht, by
    cases hs
    exact fun hd => absurd hd (by decide +kernel)⟩
  have hr := (h.1 t hrc).1
  refine ⟨keepApart_shelfAndLamp, t, ?_, (hr true).trans ?_, (hr false).trans ?_⟩ <;>
    cases hs <;> cases ht <;> rfl

/-- **What was reset comes back.** The row under the canonical key is reset to the default, and the next
resolution adopts the row under the fingerprint, which the canonical row had kept out. -/
theorem reset_brings_back_the_stale_row :
    KeepApart shelfAndLamp ∧ ∃ s, (settingUp shelfAndLamp).Reachable s ∧ s.lastSet true = .default ∧
      s.store.read (shelfAndLamp true) = dimmed ∧ s.store.read (shelfAndLamp true) ≠ s.lastSet true := by
  have hr := Machine.Reachable.foldlM (M := settingUp shelfAndLamp) (fun _ _ _ h => h)
    (Setup.reachable_start shelfAndLamp namedShelf (C := fun _ _ => True)).of_restrict
    (rfl : [.resolve true, .set true (.settings .default)].foldlM (Setup.perform shelfAndLamp)
      (Setup.start shelfAndLamp namedShelf) = some _)
  refine ⟨keepApart_shelfAndLamp, _, hr, rfl, rfl, fun he => ?_⟩
  exact absurd (congrArg (·.brightness.bits) he) (by decide)

end Hypercolor.DeviceSettings
