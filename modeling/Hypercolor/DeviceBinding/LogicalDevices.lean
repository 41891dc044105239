import Hypercolor.DeviceBinding.Plan
import Hypercolor.Lib.Moves

/-!
# Logical devices under a binding migration

The migration gives the entries their new physical ids and moves those whose layout id is remapped, one
after the other, in the order of a hash map.

* **`migrates_iff`**: exactly when the order does not matter, every remapped entry ends under its new
  id and none is lost to another one that moves.
* **`chain_depends_on_order`**: of an entry that moves to the key of a second one that moves on, the
  order decides whether it survives.
-/

namespace Hypercolor.DeviceBinding

open Lib List AList Table
open Registry (DeviceId)

/-- `LogicalDeviceKind` -/
inductive LogicalDeviceKind where
  | default
  | segment

/-- `LogicalDevice` -/
structure LogicalDevice where
  id : String
  physicalDeviceId : DeviceId
  name : String
  ledStart : UInt32
  ledCount : UInt32
  enabled : Bool
  kind : LogicalDeviceKind

/-- `LogicalDeviceStoreAuthority`, its `entries`: the store puts every entry under its own id. -/
structure LogicalDevices where
  entries : Table String LogicalDevice
  keyed : ∀ key entry, entries.lookup key = some entry → entry.id = key

/-- The entries of a map in the order at hand. -/
def pairs {K V : Type} (t : Table K V) : List (K × V) := t.entries.map fun e => (e.1, e.2)

variable (remaps : DeviceBindingRemaps) (source : LogicalDevices)

/-- `prepare_binding_migration`, its loop over the values -/
def rehomed (entry : LogicalDevice) : LogicalDevice :=
  { entry with
    physicalDeviceId :=
      (remaps.physicalDeviceIds.lookup entry.physicalDeviceId).getD entry.physicalDeviceId }

/-- `prepare_binding_migration`, `entry.id.clone_from(canonical)` -/
def renamed (canonical : String) (entry : LogicalDevice) : LogicalDevice := { entry with id := canonical }

/-- `prepare_binding_migration`, its `has_exact_physical_remap` -/
def hasExactPhysicalRemap (legacy : String) : Bool :=
  (source.entries.lookup legacy).any fun entry => entry.physicalDeviceId ∈ remaps.physicalDeviceIds

/-- `prepare_binding_migration`, the body of its loop over the layout ids -/
def migrateEntry (state : Table String LogicalDevice × Nat) (remap : String × String) :
    Table String LogicalDevice × Nat :=
  if hasExactPhysicalRemap remaps source remap.1 then counted renamed state remap else state

/-- `prepare_binding_migration`: the candidate and the count, with the layout ids in some order.
Nothing is prepared where nothing migrated; what reserving the write can fail with is left out. -/
def prepareBindingMigration (order : List (String × String)) :
    Option (Table String LogicalDevice × Nat) :=
  let candidate := source.entries.mapValues (rehomed remaps)
  let migrated := source.entries.values.countP (·.physicalDeviceId ∈ remaps.physicalDeviceIds)
  let (candidate, migrated) := order.foldl (migrateEntry remaps source) (candidate, migrated)
  if migrated = 0 then none else some (candidate, migrated)

/-- The store after the migration. -/
def migrated (order : List (String × String)) : Table String LogicalDevice :=
  (prepareBindingMigration remaps source order).elim source.entries Prod.fst

/-! ## What is to hold -/

/-- The order of the layout ids does not matter, also to what is counted, every entry stands under its
own id, and one whose layout id is remapped leaves it and is found under the new one, unless an entry
that did not move is there. The others stay. -/
structure Migrates : Prop where
  same : ∀ order, order.Perm (pairs remaps.layoutDeviceIds) → ∀ key,
    (migrated remaps source order).lookup key =
      (migrated remaps source (pairs remaps.layoutDeviceIds)).lookup key
  keyed : ∀ order, order.Perm (pairs remaps.layoutDeviceIds) → ∀ key entry,
    (migrated remaps source order).lookup key = some entry → entry.id = key
  leaves : ∀ order, order.Perm (pairs remaps.layoutDeviceIds) → ∀ legacy canonical entry,
    remaps.layoutDeviceIds.lookup legacy = some canonical → legacy ≠ canonical →
    source.entries.lookup legacy = some entry →
    (migrated remaps source order).lookup legacy ≠ some (rehomed remaps entry)
  arrives : ∀ order, order.Perm (pairs remaps.layoutDeviceIds) → ∀ legacy canonical entry,
    remaps.layoutDeviceIds.lookup legacy = some canonical →
    source.entries.lookup legacy = some entry →
    (migrated remaps source order).lookup canonical = some (renamed canonical (rehomed remaps entry)) ∨
      ∃ other, source.entries.lookup canonical = some other ∧
        (migrated remaps source order).lookup canonical = some (rehomed remaps other)
  stays : ∀ order, order.Perm (pairs remaps.layoutDeviceIds) → ∀ key entry,
    key ∉ remaps.layoutDeviceIds → source.entries.lookup key = some entry →
    (migrated remaps source order).lookup key = some (rehomed remaps entry)
  counted : ∀ order, order.Perm (pairs remaps.layoutDeviceIds) →
    (prepareBindingMigration remaps source order).map Prod.snd =
      (prepareBindingMigration remaps source (pairs remaps.layoutDeviceIds)).map Prod.snd

/-- The physical ids of the entries are remapped too, no entry goes where another one leaves, and entries
that go to one free id differ in nothing else. -/
structure OneWay : Prop where
  exact : ∀ legacy canonical entry, remaps.layoutDeviceIds.lookup legacy = some canonical →
    legacy ≠ canonical → source.entries.lookup legacy = some entry →
    entry.physicalDeviceId ∈ remaps.physicalDeviceIds
  unchained : ∀ legacy canonical next, remaps.layoutDeviceIds.lookup legacy = some canonical →
    legacy ≠ canonical → legacy ∈ source.entries →
    remaps.layoutDeviceIds.lookup canonical = some next → canonical ∈ source.entries → next = canonical
  agreed : ∀ legacy other canonical entry otherEntry,
    remaps.layoutDeviceIds.lookup legacy = some canonical →
    remaps.layoutDeviceIds.lookup other = some canonical → canonical ∉ source.entries →
    source.entries.lookup legacy = some entry → source.entries.lookup other = some otherEntry →
    renamed canonical (rehomed remaps entry) = renamed canonical (rehomed remaps otherEntry)

/-! ## The moves -/

variable {remaps source} {order : List (String × String)} {key legacy can : String}
  {entry : LogicalDevice}

/-- The entries with their new physical ids. -/
def homed (remaps : DeviceBindingRemaps) (source : LogicalDevices) : Table String LogicalDevice :=
  source.entries.mapValues (rehomed remaps)

lemma lookup_homed (key : String) : (homed remaps source).lookup key =
    (source.entries.lookup key).map (rehomed remaps) :=
  lookup_mapValues _ _ _

lemma mem_homed : key ∈ homed remaps source ↔ key ∈ source.entries := by
  rw [← lookup_isSome, lookup_homed, Option.isSome_map, lookup_isSome]

lemma labelled : Table.Labelled renamed (homed remaps source) := fun key entry h => by
  rw [lookup_homed] at h
  obtain ⟨entry, he, rfl⟩ := Option.map_eq_some_iff.mp h
  rw [← source.keyed _ _ he]
  rfl

lemma renamed_renamed (key : String) (entry : LogicalDevice) :
    renamed key (renamed key entry) = renamed key entry := rfl

/-- The moves that the guard lets through. -/
def taken (remaps : DeviceBindingRemaps) (source : LogicalDevices) (order : List (String × String)) :
    List (String × String) :=
  order.filter fun remap => hasExactPhysicalRemap remaps source remap.1

/-- The loop counts the moves that the guard lets through. -/
lemma foldl_migrateEntry (order : List (String × String)) (state : Table String LogicalDevice × Nat) :
    order.foldl (migrateEntry remaps source) state =
      (taken remaps source order).foldl (counted renamed) state := by
  rw [taken, foldl_filter]
  rfl

/-- The store after the migration is what the moves come to. -/
lemma lookup_migrated (order : List (String × String)) (key : String) :
    (migrated remaps source order).lookup key =
      ((homed remaps source).moves renamed (taken remaps source order)).lookup key := by
  obtain ⟨ht, hc⟩ := foldl_counted (f := renamed) (taken remaps source order) (homed remaps source)
    (source.entries.values.countP (·.physicalDeviceId ∈ remaps.physicalDeviceIds))
  unfold migrated prepareBindingMigration
  dsimp only
  rw [foldl_migrateEntry]
  split_ifs with hz
  · obtain ⟨hn, hm⟩ := hc hz
    rw [lookup_moves_of_idle fun m hm' v hv =>
      absurd (mem_of_lookup hv) (hm m hm'), lookup_homed]
    show source.entries.lookup key = _
    rcases hl : source.entries.lookup key with _ | entry
    · rfl
    · have hp := countP_eq_zero.mp hn entry (mem_values_of_lookup hl)
      have he : remaps.physicalDeviceIds.lookup entry.physicalDeviceId = none :=
        lookup_eq_none.mpr fun h => hp (decide_eq_true h)
      rw [Option.map_some, rehomed, he]
      rfl
  · exact congrArg (AList.lookup key) ht

variable {K V : Type}

lemma mem_pairs [DecidableEq K] {t : Table K V} {k : K} {v : V} :
    (k, v) ∈ pairs t ↔ t.lookup k = some v := by
  rw [pairs, mem_map, ← Option.mem_def, mem_lookup_iff]
  constructor
  · rintro ⟨⟨k', v'⟩, hm, ⟨⟩⟩
    exact hm
  · exact fun hm => ⟨⟨k, v⟩, hm, rfl⟩

lemma nodup_pairs [DecidableEq K] (t : Table K V) : ((pairs t).map Prod.fst).Nodup := by
  rw [pairs, map_map]
  exact t.nodupKeys

lemma mem_taken : (legacy, can) ∈ taken remaps source (pairs remaps.layoutDeviceIds) ↔
    remaps.layoutDeviceIds.lookup legacy = some can ∧ ∃ entry, source.entries.lookup legacy = some entry ∧
        entry.physicalDeviceId ∈ remaps.physicalDeviceIds := by
  rw [taken, mem_filter, mem_pairs, hasExactPhysicalRemap]
  rcases source.entries.lookup legacy with _ | entry <;> simp

lemma nodup_taken (remaps : DeviceBindingRemaps) (source : LogicalDevices) :
    ((taken remaps source (pairs remaps.layoutDeviceIds)).map Prod.fst).Nodup :=
  (filter_sublist.map Prod.fst).nodup (nodup_pairs _)

/-! ## The condition -/

lemma OneWay.harmless (h : OneWay remaps source) :
    Table.Harmless renamed (taken remaps source (pairs remaps.layoutDeviceIds))
      (homed remaps source) where
  unchained := by
    rintro ⟨legacy, can⟩ hm ht hn ⟨_, next⟩ hm' rfl
    obtain ⟨hl', entry, he, -⟩ := mem_taken.mp hm'
    exact h.unchained legacy _ next (mem_taken.mp hm).1 hn (mem_homed.mp ht) hl' (mem_of_lookup he)
  agreed := by
    rintro ⟨legacy, can⟩ hm ⟨other, _⟩ hm' rfl hk v v' hv hv'
    rw [lookup_homed] at hv hv'
    obtain ⟨entry, he, rfl⟩ := Option.map_eq_some_iff.mp hv
    obtain ⟨otherEntry, ho, rfl⟩ := Option.map_eq_some_iff.mp hv'
    exact h.agreed legacy other can entry otherEntry (mem_taken.mp hm).1 (mem_taken.mp hm').1
      (fun hc => hk (mem_homed.mpr hc)) he ho

lemma OneWay.migrates (h : OneWay remaps source) : Migrates remaps source := by
  have hs := h.harmless.settles renamed_renamed labelled (nodup_taken remaps source)
  have hp : ∀ {order}, order.Perm (pairs remaps.layoutDeviceIds) →
      (taken remaps source order).Perm (taken remaps source (pairs remaps.layoutDeviceIds)) :=
    fun ho => ho.filter _
  refine ⟨fun order ho key => ?_, fun order ho key entry he => ?_,
    fun order ho legacy can entry hl hn he hm => ?_, fun order ho legacy can entry hl he => ?_,
    fun order ho key entry hk he => ?_, fun order ho => ?_⟩
  · rw [lookup_migrated, lookup_migrated]
    exact hs.same _ (hp ho) key
  · rw [lookup_migrated] at he
    rw [← labelled.moves renamed_renamed _ _ _ he]
    rfl
  · have hm' := mem_taken.mpr ⟨hl, entry, he, h.exact legacy can entry hl hn he⟩
    rw [lookup_migrated, hs.same _ (hp ho), lookup_moves_iff renamed_renamed labelled
      (nodup_taken remaps source) h.harmless] at hm
    rcases hm with ⟨-, hs⟩ | ⟨hk, -⟩
    · exact hn (hs _ hm' rfl).symm
    · exact hk (mem_homed.mpr (mem_of_lookup he))
  · have hen : (homed remaps source).lookup legacy = some (rehomed remaps entry) := by
      rw [lookup_homed, he, Option.map_some]
    rw [lookup_migrated, hs.same _ (hp ho)]
    rcases hc : source.entries.lookup can with _ | o
    · have hk : can ∉ source.entries := lookup_eq_none.mp hc
      have hn : legacy ≠ can := fun hlc => by
        rw [← hlc, he] at hc
        cases hc
      have hm := mem_taken.mpr ⟨hl, entry, he, h.exact legacy can entry hl hn he⟩
      exact .inl (hs.kept _ (.refl _) _ hm _ hen fun hr => hk (mem_homed.mp hr))
    · refine .inr ⟨o, rfl, ?_⟩
      have ho : (homed remaps source).lookup can = some (rehomed remaps o) := by
        rw [lookup_homed, hc, Option.map_some]
      refine lookup_moves_of_stays ho ?_
      rintro ⟨key, next⟩ hm hk
      obtain rfl : key = can := hk
      obtain ⟨hl', -⟩ := mem_taken.mp hm
      refine ⟨?_, labelled _ _ ho⟩
      by_cases hn : legacy = key
      · subst hn
        exact Option.some_inj.mp (hl'.symm.trans hl)
      · exact h.unchained legacy key next hl hn (mem_of_lookup he) hl' (mem_of_lookup hc)
  · rw [lookup_migrated, hs.same _ (hp ho)]
    refine lookup_moves_of_stays (by rw [lookup_homed, he, Option.map_some]) fun m hm hmk => ?_
    exact absurd (mem_of_lookup (hmk ▸ (mem_taken.mp hm).1)) hk
  · have hc : ∀ {order : List (String × String)}, order.Perm (pairs remaps.layoutDeviceIds) → ∀ n,
        (order.foldl (migrateEntry remaps source) (homed remaps source, n)).2 =
          n + (taken remaps source (pairs remaps.layoutDeviceIds)).length := fun ho n => by
      have hd := ((hp ho).map _).nodup_iff.mpr (nodup_taken remaps source)
      rw [foldl_migrateEntry, count_counted hd fun m hm => ?_, (hp ho).length_eq]
      obtain ⟨-, entry, he, -⟩ := mem_taken.mp ((hp ho).subset hm)
      exact mem_homed.mpr (mem_of_lookup he)
    unfold prepareBindingMigration
    dsimp only
    rw [show source.entries.mapValues (rehomed remaps) = homed remaps source from rfl, hc ho,
      hc (.refl _)]
    split_ifs
    all_goals rfl

lemma Migrates.oneWay (h : Migrates remaps source) : OneWay remaps source := by
  have hen : ∀ {key entry}, source.entries.lookup key = some entry →
      (homed remaps source).lookup key = some (rehomed remaps entry) := fun he => by
    rw [lookup_homed, he, Option.map_some]
  have hex : ∀ legacy can entry, remaps.layoutDeviceIds.lookup legacy = some can →
      legacy ≠ can → source.entries.lookup legacy = some entry →
      entry.physicalDeviceId ∈ remaps.physicalDeviceIds := by
    intro legacy can entry hl hn he
    by_contra hp
    -- the guard holds the entry back
    refine h.leaves _ (.refl _) legacy can entry hl hn he ?_
    rw [lookup_migrated]
    refine lookup_moves_of_stays (hen he) ?_
    rintro ⟨key, nx⟩ hm hk
    obtain rfl : key = legacy := hk
    obtain ⟨-, o, ho, hpo⟩ := mem_taken.mp hm
    obtain rfl := Option.some_inj.mp (he.symm.trans ho)
    exact absurd hpo hp
  have hh : Table.Harmless renamed (taken remaps source (pairs remaps.layoutDeviceIds))
      (homed remaps source) := by
    refine .of_same renamed_renamed labelled (nodup_taken remaps source) fun ms hms key => ?_
    -- an order whose moves come in the order of `ms`
    have hf : taken remaps source (ms ++ (pairs remaps.layoutDeviceIds).filter fun remap =>
        ! hasExactPhysicalRemap remaps source remap.1) = ms := by
      rw [taken, filter_append, filter_eq_self.mpr fun m hm =>
        (mem_filter.mp (hms.mem_iff.mp hm)).2, filter_filter]
      simp
    have hp := (hms.append_right _).trans (filter_append_perm _ (pairs remaps.layoutDeviceIds))
    have hs := h.same _ hp key
    rwa [lookup_migrated, lookup_migrated, hf] at hs
  refine ⟨hex, fun legacy can nx hl hn hm hl' hm' => ?_,
    fun legacy o can entry otherEntry hl ho hc he hoe => ?_⟩
  · obtain ⟨entry, he⟩ := exists_lookup hm
    obtain ⟨o, hoe⟩ := exists_lookup hm'
    by_contra hne
    exact hne (hh.unchained _ (mem_taken.mpr ⟨hl, entry, he, hex _ _ _ hl hn he⟩) (mem_homed.mpr hm) hn _
      (mem_taken.mpr ⟨hl', o, hoe, hex _ _ _ hl' (fun h => hne h.symm) hoe⟩) rfl)
  · have hn : ∀ {key entry}, source.entries.lookup key = some entry → key ≠ can :=
      fun he hk => hc (hk ▸ mem_of_lookup he)
    exact hh.agreed _ (mem_taken.mpr ⟨hl, entry, he, hex _ _ _ hl (hn he) he⟩) _
      (mem_taken.mpr ⟨ho, otherEntry, hoe, hex _ _ _ ho (hn hoe) hoe⟩) rfl
      (fun hr => hc (mem_homed.mp hr)) _ _ (hen he) (hen hoe)

/-- **When the migration is exact.** -/
theorem migrates_iff (remaps : DeviceBindingRemaps) (source : LogicalDevices) :
    Migrates remaps source ↔ OneWay remaps source :=
  ⟨Migrates.oneWay, OneWay.migrates⟩

/-! ## A chain -/

def segment (id : String) (ledStart : UInt32) : LogicalDevice :=
  ⟨id, ⟨1⟩, "Segment", ledStart, 10, true, .segment⟩

/-- Two segments of one device. -/
def twoSegments : LogicalDevices where
  entries := ((∅ : Table String LogicalDevice).insert "b" (segment "b" 10)).insert "a" (segment "a" 0)
  keyed key entry h := by
    by_cases ha : key = "a"
    · subst ha
      rw [lookup_insert] at h
      cases h
      rfl
    · rw [lookup_insert_ne ha] at h
      by_cases hb : key = "b"
      · subst hb
        rw [lookup_insert] at h
        cases h
        rfl
      · rw [lookup_insert_ne hb] at h
        cases h

/-- The first segment goes to the id of the second one, which goes on. -/
def chain : DeviceBindingRemaps where
  layoutDeviceIds := ((∅ : Table String String).insert "b" "c").insert "a" "b"
  physicalDeviceIds := (∅ : Table DeviceId DeviceId).insert ⟨1⟩ ⟨2⟩
  persistedSettingKeys := ∅

/-- **A chain depends on the order.** The first segment is lost when it moves first. -/
theorem chain_depends_on_order : ¬ ∀ remaps source, Migrates remaps source := by
  intro h
  have hs := (h chain twoSegments).same [("b", "c"), ("a", "b")] (.swap _ _ _) "b"
  have hf : (migrated chain twoSegments (pairs chain.layoutDeviceIds)).lookup "b" = none := by
    decide +kernel
  rw [hf] at hs
  exact absurd hs (by decide +kernel)

end Hypercolor.DeviceBinding
