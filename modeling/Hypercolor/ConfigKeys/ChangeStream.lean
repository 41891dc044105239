import Hypercolor.ConfigKeys.Registry
import Hypercolor.Lib.CommonPrefix
import Mathlib.Data.List.Dedup
import Mathlib.Data.List.Sort
import Mathlib.Data.String.Basic

/-!
# The change stream

Two config documents are compared leaf by leaf; one event says what changed.

* **`mem_collectChangedLeaves`**, **`nodup_collectChangedLeaves`**: each changed leaf is collected once.
* **`configChangedEvent_isSome`**: there is an event exactly if some leaf changed.
* **`key_of_event`**, **`prefix_sharedSegments_iff`**: its key is the most that the keys of the changed
  leaves share.
* **`values_of_event`**: it says something of the values only if a single leaf changed.
-/

namespace Hypercolor.ConfigKeys

open Lib List Json

variable {N : Type}

/-! ## Leaves -/

namespace Json

lemma isObject_iff {doc : Json N} : doc.isObject ↔ ∃ entries, doc = .object entries := by
  cases doc <;> simp [isObject]

lemma sizeOf_child (es : List (String × Json N)) (key : String) :
    sizeOf (child (.object es) key) < sizeOf (object es) := by
  have hv : sizeOf ((es.lookup key).getD (null : Json N)) < 1 + sizeOf es := by
    induction es with
    | nil =>
      change sizeOf (null : Json N) < _
      simp
    | cons e es ih =>
      obtain ⟨entryKey, value⟩ := e
      rw [lookup_cons]
      split
      · simp
        omega
      · simp only [cons.sizeOf_spec, Prod.mk.sizeOf_spec]
        omega
  simpa [child, get] using hv

end Json

variable [BEq N]

/-- The `BTreeSet` of `collect_changed_leaves`: the keys of either object, in order. -/
def eitherKeys (before after : List (String × Json N)) : List String :=
  ((before ++ after).map Prod.fst).dedup.insertionSort (· ≤ ·)

/-- `collect_changed_leaves`: the paths of the leaves that differ, by their segments. What is
missing counts as `null`. -/
def collectChangedLeaves (path : List String) : Json N → Json N → List (List String)
  | .object before, .object after =>
    (eitherKeys before after).flatMap fun key =>
      collectChangedLeaves (path ++ [key]) (child (.object before) key) (child (.object after) key)
  | previous, current => if previous.same current then [] else [path]
termination_by previous current => sizeOf previous + sizeOf current
decreasing_by
  exact Nat.add_lt_add (Json.sizeOf_child before key) (Json.sizeOf_child after key)

/-- A leaf at which two documents differ: objects that face each other are compared entry by entry,
and anything else is a leaf. -/
def ChangedLeaf : Json N → Json N → List String → Prop
  | previous, current, [] =>
    ¬(previous.isObject ∧ current.isObject) ∧ previous.same current = false
  | previous, current, key :: rest =>
    previous.isObject ∧ current.isObject ∧ ChangedLeaf (previous.child key) (current.child key) rest

/-! ## Events -/

/-- `HypercolorEvent::ConfigChanged` -/
structure ConfigChanged (N : Type) where
  key : String
  oldValue : Option (Json N)
  newValue : Json N

/-- `shared_prefix` -/
def sharedPrefix : List String → String
  | [] => ""
  | first :: rest => joinDots ((rest.map splitDots).foldl commonPrefix (splitDots first))

/-- `config_changed_event` -/
def configChangedEvent (previous current : Json N) : Option (ConfigChanged N) :=
  match (collectChangedLeaves [] previous current).map joinDots with
  | [] => none
  | [key] => some {
      key
      oldValue := (previous.lookup key).map (redactValue key)
      newValue := redactValue key ((current.lookup key).getD .null) }
  | keys => some { key := sharedPrefix keys, oldValue := none, newValue := .null }

/-! ## What is collected -/

variable {before after : List (String × Json N)} {key : String}

omit [BEq N] in
lemma mem_eitherKeys :
    key ∈ eitherKeys before after ↔ key ∈ before.map Prod.fst ∨ key ∈ after.map Prod.fst := by
  rw [eitherKeys, mem_insertionSort, mem_dedup, map_append, mem_append]

omit [BEq N] in
lemma nodup_eitherKeys (before after : List (String × Json N)) : (eitherKeys before after).Nodup :=
  (perm_insertionSort _ _).nodup_iff.mpr (nodup_dedup _)

omit [BEq N] in
lemma Json.child_of_not_mem {es : List (String × Json N)} (h : key ∉ es.map Prod.fst) :
    child (.object es) key = .null := by
  rw [child, Json.get, lookup_eq_none_of_not_mem h]
  rfl

/-- What is missing in both documents has not changed. -/
lemma not_changedLeaf_null (pt : List String) : ¬ChangedLeaf (.null : Json N) .null pt := by
  cases pt with
  | nil => exact fun h => absurd h.2 (by simp [same])
  | cons key rest => exact fun h => absurd h.1 Bool.false_ne_true

lemma mem_eitherKeys_of_changedLeaf {rest : List String}
    (h : ChangedLeaf (child (.object before) key) (child (.object after) key) rest) :
    key ∈ eitherKeys before after := by
  by_contra hk
  rw [mem_eitherKeys, not_or] at hk
  rw [child_of_not_mem hk.1, child_of_not_mem hk.2] at h
  exact not_changedLeaf_null rest h

variable {prev cur : Json N}

omit [BEq N] in
lemma not_both_objects (h : ∀ before after, prev = .object before → cur = .object after → False) :
    ¬(prev.isObject ∧ cur.isObject) := by
  rintro ⟨hp, hc⟩
  obtain ⟨before, hb⟩ := isObject_iff.mp hp
  obtain ⟨after, ha⟩ := isObject_iff.mp hc
  exact h before after hb ha

/-- Unless two objects face each other, the one leaf there can be is the whole. -/
lemma changedLeaf_iff_of_leaf (hl : ¬(prev.isObject ∧ cur.isObject)) (pt : List String) :
    ChangedLeaf prev cur pt ↔ pt = [] ∧ prev.same cur = false := by
  cases pt with
  | nil => exact ⟨fun h => ⟨rfl, h.2⟩, fun h => ⟨hl, h.2⟩⟩
  | cons key rest => exact ⟨fun h => absurd ⟨h.1, h.2.1⟩ hl, fun h => nomatch h.1⟩

/-- **Every changed leaf is collected**, and nothing else is. -/
theorem mem_collectChangedLeaves (pt : List String) (prev cur : Json N) (leaf : List String) :
    leaf ∈ collectChangedLeaves pt prev cur ↔ ∃ rest, leaf = pt ++ rest ∧ ChangedLeaf prev cur rest := by
  fun_induction collectChangedLeaves pt prev cur with
  | case1 pt before after ih =>
    rw [mem_flatMap]
    constructor
    · rintro ⟨key, -, hl⟩
      obtain ⟨rest, rfl, hr⟩ := (ih key).mp hl
      exact ⟨key :: rest, append_assoc .., rfl, rfl, hr⟩
    · rintro ⟨_ | ⟨key, rest⟩, rfl, hr⟩
      · exact absurd ⟨rfl, rfl⟩ hr.1
      · exact ⟨key, mem_eitherKeys_of_changedLeaf hr.2.2, (ih key).mpr
          ⟨rest, append_cons pt key rest, hr.2.2⟩⟩
  | case2 pt prev cur hl hs | case3 pt prev cur hl hs =>
    simp [changedLeaf_iff_of_leaf (not_both_objects hl), hs]

/-- Each once. -/
theorem nodup_collectChangedLeaves (pt : List String) (prev cur : Json N) :
    (collectChangedLeaves pt prev cur).Nodup := by
  fun_induction collectChangedLeaves pt prev cur with
  | case1 pt before after ih =>
    refine nodup_flatMap.mpr ⟨fun key _ => ih key, ?_⟩
    refine (nodup_eitherKeys before after).imp fun {key o} hn leaf hk hoh => ?_
    -- a leaf below one key is not below another one
    obtain ⟨rest, rfl, -⟩ := (mem_collectChangedLeaves _ _ _ _).mp hk
    obtain ⟨rest', he, -⟩ := (mem_collectChangedLeaves _ _ _ _).mp hoh
    rw [append_assoc, append_assoc, append_cancel_left_eq] at he
    exact hn (cons.inj he).1
  | case2 => exact nodup_nil
  | case3 => exact nodup_singleton _

/-! ## The event -/

lemma mem_changed {pt : List String} : pt ∈ collectChangedLeaves [] prev cur ↔
    ChangedLeaf prev cur pt := by
  rw [mem_collectChangedLeaves]
  exact ⟨fun ⟨_, he, h⟩ => he ▸ h, fun h => ⟨pt, rfl, h⟩⟩

/-- **There is an event exactly if some leaf changed.** -/
theorem configChangedEvent_isSome (prev cur : Json N) : (configChangedEvent prev cur).isSome ↔
      ∃ path, ChangedLeaf prev cur path := by
  simp only [← mem_changed]
  rw [configChangedEvent]
  rcases collectChangedLeaves [] prev cur with _ | ⟨f, _ | ⟨second, rest⟩⟩ <;> simp

/-- The segments that the keys of the changed leaves share, as far as their texts tell. -/
def sharedSegments (previous current : Json N) : List String :=
  match (collectChangedLeaves [] previous current).map (splitDots ∘ joinDots) with
  | [] => []
  | first :: rest => rest.foldl commonPrefix first

/-- They are the most that all of the changed leaves share. -/
theorem prefix_sharedSegments_iff (h : ∃ path, ChangedLeaf prev cur path)
    (q : List String) : q <+: sharedSegments prev cur ↔
      ∀ path, ChangedLeaf prev cur path → q <+: splitDots (joinDots path) := by
  simp only [← mem_changed] at h ⊢
  rw [sharedSegments]
  rcases hl : collectChangedLeaves [] prev cur with _ | ⟨f, rest⟩
  · rw [hl] at h
    exact absurd h.choose_spec not_mem_nil
  · simp [prefix_foldl_commonPrefix_iff]

variable {e : ConfigChanged N}

/-- The key of an event is what the changed leaves share. -/
theorem key_of_event (h : configChangedEvent prev cur = some e) :
    e.key = joinDots (sharedSegments prev cur) := by
  rw [configChangedEvent] at h
  rw [sharedSegments]
  rcases hl : collectChangedLeaves [] prev cur with _ | ⟨f, _ | ⟨second, rest⟩⟩ <;>
    rw [hl] at h
  · cases h
  · cases h
    exact (joinDots_splitDots _).symm
  · cases h
    simp only [map_cons, sharedPrefix, map_map, Function.comp_apply]

variable {prev' cur' : Json N}

/-- Two pairs of documents with the same changed leaves have events of the same kind and key. -/
lemma leaves_perm (h : ∀ pt, ChangedLeaf prev cur pt ↔ ChangedLeaf prev' cur' pt) :
    (collectChangedLeaves [] prev cur).Perm (collectChangedLeaves [] prev' cur') :=
  (perm_ext_iff_of_nodup (nodup_collectChangedLeaves _ _ _) (nodup_collectChangedLeaves _ _ _)).mpr
    fun pt => by rw [mem_changed, mem_changed, h]

lemma sharedSegments_congr (h : ∀ path, ChangedLeaf prev cur path ↔ ChangedLeaf prev' cur' path)
    (hc : ∃ path, ChangedLeaf prev cur path) : sharedSegments prev cur = sharedSegments prev' cur' := by
  refine eq_of_prefix_iff fun q => ?_
  rw [prefix_sharedSegments_iff hc, prefix_sharedSegments_iff ((exists_congr h).mp hc)]
  simp only [h]

/-- What an event says of the values: nothing, unless a single leaf changed. -/
theorem values_of_event (h : configChangedEvent prev cur = some e) :
    (∃ path, collectChangedLeaves [] prev cur = [path] ∧
        e.oldValue = (prev.lookup e.key).map (redactValue e.key) ∧
        e.newValue = redactValue e.key ((cur.lookup e.key).getD .null)) ∨
      (collectChangedLeaves [] prev cur).length ≠ 1 ∧ e.oldValue = none ∧ e.newValue = .null := by
  rw [configChangedEvent] at h
  rcases hl : collectChangedLeaves [] prev cur with _ | ⟨f, _ | ⟨second, rest⟩⟩ <;>
    rw [hl] at h
  · cases h
  · cases h
    exact .inl ⟨f, rfl, rfl, rfl⟩
  · cases h
    exact .inr ⟨by simp, rfl, rfl⟩

end Hypercolor.ConfigKeys
