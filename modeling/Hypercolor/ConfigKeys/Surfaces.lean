import Hypercolor.ConfigKeys.ChangeStream

/-!
# What the read surfaces tell

The config renders as a document, key by key, and as the events of its changes. Driver entries and
extension sections are secret: the surfaces show which there are, and of a key that is read or changed
whether it is there.

* **`surfaces_tell_no_value`**: two configs that differ in secret values alone render alike, but for
  whether a key is there; an event comes exactly for a change, under a key that every changed leaf
  shares.
* **`surfaces_tell_what_is_there`**: what is there does show, and a section named like a closed one with
  a dot after it renders in the clear.
-/

namespace Hypercolor.ConfigKeys

open List

variable {N V V' : Type}

/-! ## Configs -/

/-- `BTreeMap`: a map in the order of its keys. -/
structure SortedMap (V : Type) where
  entries : List (String × V)
  sorted : (entries.map Prod.fst).Pairwise (· < ·)

namespace SortedMap

def keys (m : SortedMap V) : List String := m.entries.map Prod.fst

/-- Maps with the same keys have them in the same order. -/
lemma keys_eq {m : SortedMap V} {m' : SortedMap V'} (h : ∀ key, key ∈ m.keys ↔ key ∈ m'.keys) :
    m.keys = m'.keys := by
  have hp : m.keys.Perm m'.keys :=
    (perm_ext_iff_of_nodup (m.sorted.imp ne_of_lt) (m'.sorted.imp ne_of_lt)).mpr h
  exact hp.eq_of_pairwise (fun _ _ _ _ ha hb => absurd ha hb.asymm) m.sorted m'.sorted

end SortedMap

/-- `Map::insert`: put a value under a key: in the place of the old one, or at the end. -/
def insertEntry : List (String × Json N) → String → Json N → List (String × Json N)
  | [], key, value => [(key, value)]
  | (other, old) :: rest, key, value =>
    if other = key then (key, value) :: rest else (other, old) :: insertEntry rest key value

/-- `DriverConfigEntry` -/
structure DriverConfigEntry (N : Type) where
  enabled : Bool
  settings : SortedMap (Json N)

/-- `DriverConfigEntry`, serialized: the settings stand beside the flag. -/
def DriverConfigEntry.toValue (entry : DriverConfigEntry N) : Json N :=
  .object (entry.settings.entries.foldl (fun fields (key, value) => insertEntry fields key value)
    [("enabled", .bool entry.enabled)])

/-- The names of the fields of a config, which no extension section has. -/
def fieldNames : List String :=
  ["schema_version", "daemon", "web", "mcp", "effect_engine", "rendering", "media", "audio", "capture",
    "input", "display", "discovery", "network", "drivers", "session"]

/-- `HypercolorConfig`: a config; the closed sections as they serialize. -/
structure HypercolorConfig (N : Type) where
  schemaVersion : Json N
  daemon : Json N
  web : Json N
  mcp : Json N
  effectEngine : Json N
  rendering : Json N
  media : Json N
  audio : Json N
  capture : Json N
  input : Json N
  display : Json N
  discovery : Json N
  network : Json N
  drivers : SortedMap (DriverConfigEntry N)
  session : Json N
  extensions : SortedMap (Json N)
  extensions_unmodelled : ∀ name ∈ extensions.keys, name ∉ fieldNames

namespace HypercolorConfig

variable (config : HypercolorConfig N)

/-- `drivers`, serialized -/
def driversValue : Json N :=
  .object (config.drivers.entries.map fun (driver, entry) => (driver, entry.toValue))

/-- The closed sections. -/
def sections : List (String × Json N) :=
  [("schema_version", config.schemaVersion), ("daemon", config.daemon), ("web", config.web),
    ("mcp", config.mcp), ("effect_engine", config.effectEngine), ("rendering", config.rendering),
    ("media", config.media), ("audio", config.audio), ("capture", config.capture),
    ("input", config.input), ("display", config.display), ("discovery", config.discovery),
    ("network", config.network), ("session", config.session)]

/-- `serde_json::to_value`, of a config -/
def toValue : Json N :=
  .object (config.sections.take 13 ++ ("drivers", config.driversValue) :: config.sections.drop 13 ++
    config.extensions.entries)

end HypercolorConfig

/-! ## The surfaces -/

/-- `redact_document` -/
def redactDocument : Json N → Json N
  | .object entries => .object (entries.map fun (key, value) => (key, redactValue key value))
  | document => document

/-- `show_config` -/
def showConfig (config : HypercolorConfig N) : Json N := redactDocument config.toValue

/-- `get_config_key`, its responses -/
inductive KeyRead (N : Type) where
  | malformed | notFound
  | found (value : Json N)

/-- `get_config_key` -/
def getConfigKey (config : HypercolorConfig N) (key : String) : KeyRead N :=
  if !isValidKey key then .malformed
  else match config.toValue.lookup key with
    | none => .notFound
    | some found => .found (redactValue key found)

/-- Two configs that differ only in the values of driver entries and of extension sections. -/
structure SameButSecrets (config config' : HypercolorConfig N) : Prop where
  sections : config.sections = config'.sections
  drivers : ∀ driver, driver ∈ config.drivers.keys ↔ driver ∈ config'.drivers.keys
  extensions : ∀ name, name ∈ config.extensions.keys ↔ name ∈ config'.extensions.keys

variable {config config' prev cur prev' cur' : HypercolorConfig N}

/-! ## What they render -/

lemma maskEntries_driversValue (h : SameButSecrets config config') :
    maskEntries config.driversValue = maskEntries config'.driversValue := by
  have hm : ∀ config : HypercolorConfig N, maskEntries config.driversValue =
      .object (config.drivers.keys.map fun driver => (driver, redactedMarker)) := fun config => by
    simp only [HypercolorConfig.driversValue, maskEntries, SortedMap.keys, map_map]
    rfl
  rw [hm, hm, SortedMap.keys_eq h.drivers]

variable {key : String}

/-- A driver's key, and an extension's, show nothing of their values. -/
lemma redactValue_of_secret (hs : firstSegment key ∉ declaredSectionRoots)
    (hk : key ≠ "drivers") (v : Json N) : redactValue key v = redactedMarker := by
  rw [redactValue_eq, if_neg hs, if_neg hk]

lemma map_redactValue_extensions (hs : ∀ nm ∈ config.extensions.keys, isRedacted nm) :
    config.extensions.entries.map (fun (key, value) => (key, redactValue key value)) =
      config.extensions.keys.map fun nm => (nm, redactedMarker) := by
  rw [SortedMap.keys, map_map]
  refine map_congr_left fun (nm, value) hm => ?_
  have hn : nm ∈ config.extensions.keys := mem_map.mpr ⟨_, hm, rfl⟩
  have hd : nm ≠ "drivers" := by
    rintro rfl
    exact config.extensions_unmodelled _ hn (by decide)
  exact congrArg (Prod.mk nm) (redactValue_of_secret ((isRedacted_iff nm).mp (hs nm hn)) hd value)

lemma redactValue_driversValue (h : SameButSecrets config config') :
    redactValue "drivers" config.driversValue = redactValue "drivers" config'.driversValue := by
  have hn : firstSegment "drivers" ∉ declaredSectionRoots := by decide +kernel
  rw [redactValue_eq, redactValue_eq, if_neg hn, if_neg hn, if_pos rfl, if_pos rfl,
    maskEntries_driversValue h]

/-- **The documents are the same**, as long as every extension section is secret. -/
theorem showConfig_eq (h : SameButSecrets config config')
    (hs : ∀ name ∈ config.extensions.keys, isRedacted name) : showConfig config = showConfig config' := by
  have he := SortedMap.keys_eq h.extensions
  simp only [showConfig, redactDocument, HypercolorConfig.toValue, map_append, map_cons]
  rw [map_redactValue_extensions hs, map_redactValue_extensions (he ▸ hs), he,
    redactValue_driversValue h, h.sections]

/-! ## What is read at a key -/

/-- Two configs agree on their closed sections. -/
lemma get_section_eq (h : SameButSecrets config config') {root : String}
    (hr : root ∈ declaredSectionRoots) : config.toValue.get root = config'.toValue.get root := by
  have hf : root ∈ fieldNames ∧ root ≠ "drivers" := by
    have ha : ∀ root ∈ declaredSectionRoots, root ∈ fieldNames ∧ root ≠ "drivers" := by decide
    exact ha root hr
  have hn : ∀ config : HypercolorConfig N, config.extensions.entries.lookup root = none := fun config =>
    lookup_eq_none_of_not_mem fun hm => config.extensions_unmodelled root hm hf.1
  simp only [HypercolorConfig.toValue, Json.get, lookup_append, lookup_cons, hn,
    beq_false_of_ne hf.2, h.sections]

lemma lookup_eq (doc : Json N) (key : String) :
    doc.lookup key = (doc.get (firstSegment key)).bind fun value =>
      (splitDots key).tail.foldlM Json.get value := by
  rw [Json.lookup, firstSegment]
  obtain ⟨f, rest, hs⟩ := exists_cons_of_ne_nil (splitDots_ne_nil key)
  rw [hs]
  rfl

section

variable (h : SameButSecrets config config')
include h

/-- What a key finds is the same, or is the drivers, or is masked whatever it is. -/
lemma lookup_cases (key : String) : config.toValue.lookup key = config'.toValue.lookup key ∨
      (config.toValue.lookup key = some config.driversValue ∧
        config'.toValue.lookup key = some config'.driversValue ∧
        redactValue key config.driversValue = redactValue key config'.driversValue) ∨
      ∀ v : Json N, redactValue key v = redactedMarker := by
  by_cases hs : firstSegment key ∈ declaredSectionRoots
  · exact .inl (by rw [lookup_eq, lookup_eq, get_section_eq h hs])
  by_cases hk : key = "drivers"
  · subst hk
    exact .inr (.inl ⟨rfl, rfl, redactValue_driversValue h⟩)
  · exact .inr (.inr fun v => redactValue_of_secret hs hk v)

/-- What a key finds renders alike, if it finds something in both configs or in neither. -/
lemma map_redactValue_eq (ht : (config.toValue.lookup key).isSome = (config'.toValue.lookup key).isSome) :
    (config.toValue.lookup key).map (redactValue key) =
      (config'.toValue.lookup key).map (redactValue key) := by
  rcases lookup_cases h key with hs | ⟨hf, hf', hm⟩ | hm
  · rw [hs]
  · rw [hf, hf', Option.map_some, Option.map_some, hm]
  · cases hf : config.toValue.lookup key <;> cases hf' : config'.toValue.lookup key <;>
      simp [hf, hf', hm] at ht ⊢

/-- What a key finds renders alike, where nothing counts as `null`. -/
lemma redactValue_getD_eq (key : String) : redactValue key ((config.toValue.lookup key).getD .null) =
      redactValue key ((config'.toValue.lookup key).getD .null) := by
  rcases lookup_cases h key with hs | ⟨hf, hf', hm⟩ | hm
  · rw [hs]
  · rw [hf, hf', Option.getD_some, Option.getD_some, hm]
  · rw [hm, hm]

/-- A key reads alike in both configs, if it is there in both or in neither. -/
lemma getConfigKey_eq (ht : (config.toValue.lookup key).isSome = (config'.toValue.lookup key).isSome) :
    getConfigKey config key = getConfigKey config' key := by
  have hr : ∀ config : HypercolorConfig N, getConfigKey config key =
      if !isValidKey key then .malformed
      else ((config.toValue.lookup key).map (redactValue key)).elim .notFound .found := fun config => by
    rw [getConfigKey]
    cases config.toValue.lookup key <;> rfl
  rw [hr, hr, map_redactValue_eq h ht]

end

/-! ## The events -/

variable [BEq N]

/-- The event of a change of configs. -/
def changeEvent (previous current : HypercolorConfig N) : Option (ConfigChanged N) :=
  configChangedEvent previous.toValue current.toValue

/-- A leaf of the documents changed. -/
def LeafChanged (previous current : HypercolorConfig N) (path : List String) : Prop :=
  ChangedLeaf previous.toValue current.toValue path

variable {e : ConfigChanged N}

/-- The events of two changes of the same leaves say the same, but for whether there is an old value. -/
lemma changeEvent_agrees (hpr : SameButSecrets prev prev') (hcu : SameButSecrets cur cur')
    (hl : ∀ pt, LeafChanged prev cur pt ↔ LeafChanged prev' cur' pt)
    {e' : ConfigChanged N} (he : changeEvent prev cur = some e) (he' : changeEvent prev' cur' = some e') :
    e.key = e'.key ∧ e.newValue = e'.newValue ∧
      (e.oldValue.isSome = e'.oldValue.isSome → e.oldValue = e'.oldValue) := by
  have hc := (configChangedEvent_isSome _ _).mp (Option.isSome_iff_exists.mpr ⟨e, he⟩)
  have hk : e.key = e'.key := by
    rw [key_of_event he, key_of_event he', sharedSegments_congr hl hc]
  have hp := leaves_perm hl
  refine ⟨hk, ?_⟩
  rcases values_of_event he with ⟨pt, hon, hold, hn⟩ | ⟨hm, hold, hn⟩
  · rcases values_of_event he' with ⟨pt', -, hold', hn'⟩ | ⟨hm', -, -⟩
    · rw [hold, hold', hn, hn', ← hk]
      exact ⟨redactValue_getD_eq hcu _, fun ht => map_redactValue_eq hpr (by
        rwa [Option.isSome_map, Option.isSome_map] at ht)⟩
    · rw [← hp.length_eq, hon] at hm'
      exact absurd rfl hm'
  · rcases values_of_event he' with ⟨pt', hon', -, -⟩ | ⟨-, hold', hn'⟩
    · rw [hp.length_eq, hon'] at hm
      exact absurd rfl hm
    · rw [hold, hold', hn, hn']
      exact ⟨rfl, fun _ => rfl⟩

/-- There is an old value exactly if a single leaf changed and was there before. -/
lemma oldValue_isSome (he : changeEvent prev cur = some e) : e.oldValue.isSome ↔
      (∃ pt, ∀ o, LeafChanged prev cur o ↔ o = pt) ∧ (prev.toValue.lookup e.key).isSome := by
  rcases values_of_event he with ⟨pt, hon, hold, -⟩ | ⟨hm, hold, -⟩
  · rw [hold, Option.isSome_map]
    refine ⟨fun h => ⟨⟨pt, fun o => ?_⟩, h⟩, And.right⟩
    rw [LeafChanged, ← mem_changed, hon, mem_singleton]
  · rw [hold]
    refine ⟨nofun, fun ⟨⟨pt, hp⟩, _⟩ => absurd ?_ hm⟩
    have hpe : (collectChangedLeaves [] prev.toValue cur.toValue).Perm [pt] :=
      (perm_ext_iff_of_nodup (nodup_collectChangedLeaves _ _ _) (nodup_singleton _)).mpr
        fun o => by rw [mem_changed, mem_singleton]; exact hp o
    exact hpe.length_eq

/-- The key of an event is a dotted prefix of every changed leaf. -/
lemma key_prefix (he : changeEvent prev cur = some e)
    (hd : ∀ path, LeafChanged prev cur path → ∀ segment ∈ path, '.' ∉ segment.toList) :
    ∃ shared, e.key = joinDots shared ∧ ∀ path, LeafChanged prev cur path → shared <+: path := by
  have hc := (configChangedEvent_isSome _ _).mp (Option.isSome_iff_exists.mpr ⟨e, he⟩)
  refine ⟨_, key_of_event he, fun path hp => ?_⟩
  have hpr := (prefix_sharedSegments_iff hc _).mp (prefix_refl _) path hp
  rwa [splitDots_joinDots ?_ (hd path hp)] at hpr
  -- the documents are objects, so that no leaf is the whole
  rintro rfl
  exact hp.1 ⟨rfl, rfl⟩

/-- **The surfaces tell no secret value.** -/
theorem surfaces_tell_no_value : (∀ config config' : HypercolorConfig N, SameButSecrets config config' →
      ((∀ name ∈ config.extensions.keys, isRedacted name) → showConfig config = showConfig config') ∧
      ∀ key, (config.toValue.lookup key).isSome = (config'.toValue.lookup key).isSome →
        getConfigKey config key = getConfigKey config' key) ∧
    (∀ previous current previous' current' : HypercolorConfig N, SameButSecrets previous previous' →
      SameButSecrets current current' →
      (∀ path, LeafChanged previous current path ↔ LeafChanged previous' current' path) →
      (changeEvent previous current).isSome = (changeEvent previous' current').isSome ∧
      ∀ event ∈ changeEvent previous current, ∀ event' ∈ changeEvent previous' current',
        event.key = event'.key ∧ event.newValue = event'.newValue ∧
          (event.oldValue.isSome = event'.oldValue.isSome → event.oldValue = event'.oldValue)) ∧
    ∀ previous current : HypercolorConfig N,
      ((changeEvent previous current).isSome ↔ ∃ path, LeafChanged previous current path) ∧
      ∀ event ∈ changeEvent previous current, (event.oldValue.isSome ↔
          (∃ path, ∀ other, LeafChanged previous current other ↔ other = path) ∧
            (previous.toValue.lookup event.key).isSome) ∧
        ((∀ path, LeafChanged previous current path → ∀ segment ∈ path, '.' ∉ segment.toList) →
          ∃ shared, event.key = joinDots shared ∧
            ∀ path, LeafChanged previous current path → shared <+: path) := by
  refine ⟨fun config config' h => ⟨showConfig_eq h, fun key => getConfigKey_eq h⟩, ?_, ?_⟩
  · intro previous current previous' current' hp hc hl
    refine ⟨?_, fun event he event' he' =>
      changeEvent_agrees hp hc hl he he'⟩
    rw [Bool.eq_iff_iff, changeEvent, changeEvent, configChangedEvent_isSome, configChangedEvent_isSome]
    exact exists_congr hl
  · exact fun previous current => ⟨configChangedEvent_isSome _ _, fun event he =>
      ⟨oldValue_isSome he, key_prefix he⟩⟩

/-! ## What does show -/

/-- A config with one extension section. -/
def withExtension (name : String) (value : Json Nat) (h : name ∉ fieldNames) : HypercolorConfig Nat where
  schemaVersion := .number 7
  daemon := .object [("port", .number 9420)]
  web := .object []
  mcp := .object []
  effectEngine := .object []
  rendering := .object []
  media := .object []
  audio := .object [("device", .string "default")]
  capture := .object []
  input := .object []
  display := .object []
  discovery := .object []
  network := .object []
  drivers := ⟨[], List.Pairwise.nil⟩
  session := .object []
  extensions := ⟨[(name, value)], pairwise_singleton _ _⟩
  extensions_unmodelled := fun other hmem => by
    rw [mem_singleton.mp hmem]
    exact h

lemma sameButSecrets_withExtension {nm : String} {h : nm ∉ fieldNames} (v v' : Json Nat) :
    SameButSecrets (withExtension nm v h) (withExtension nm v' h) where
  sections := rfl
  drivers := fun _ => Iff.rfl
  extensions := fun _ => Iff.rfl

/-- A config with a cloud section of these settings. -/
def cloud (settings : List (String × Json Nat)) : HypercolorConfig Nat :=
  withExtension "cloud" (.object settings) (by decide)

/-- The token of the cloud section is all that changes. -/
lemma leafChanged_cloud {old new : List (String × Json Nat)}
    (h : collectChangedLeaves [] (cloud old).toValue (cloud new).toValue = [["cloud", "token"]])
    (pt : List String) : LeafChanged (cloud old) (cloud new) pt ↔ pt = ["cloud", "token"] := by
  rw [LeafChanged, ← mem_changed, h, mem_singleton]

/-- Two tokens of the cloud section are not told apart. -/
theorem surfaces_tell_no_value_cloud :
    let config := cloud [("token", .string "a")]
    let config' := cloud [("token", .string "b")]
    showConfig config = showConfig config' ∧
      getConfigKey config "cloud.token" = getConfigKey config' "cloud.token" ∧
      (changeEvent config config').isSome = (changeEvent config' config).isSome :=
  have h := surfaces_tell_no_value (N := Nat)
  have hs := @sameButSecrets_withExtension "cloud" (by decide)
  ⟨(h.1 _ _ (hs _ _)).1 (by decide +kernel), (h.1 _ _ (hs _ _)).2 "cloud.token" rfl,
    (h.2.1 _ _ _ _ (hs _ _) (hs _ _) fun path => (leafChanged_cloud (by decide +kernel) path).trans
      (leafChanged_cloud (by decide +kernel) path).symm).1⟩

/-- The text of a string. -/
def Json.text : Json N → Option String
  | string s => some s
  | _ => none

def KeyRead.isFound : KeyRead N → Bool
  | found _ => true
  | _ => false

/-- **What is there shows**: a section named like a closed one renders in the clear; a key that is
missing is not found, whoever asks; and only a leaf that was there before has an old value. -/
theorem surfaces_tell_what_is_there :
    (∃ config config' : HypercolorConfig Nat, SameButSecrets config config' ∧
      showConfig config ≠ showConfig config') ∧
    (∃ (config config' : HypercolorConfig Nat) (key : String), SameButSecrets config config' ∧
      getConfigKey config key ≠ getConfigKey config' key) ∧
    ∃ previous current previous' current' : HypercolorConfig Nat,
      SameButSecrets previous previous' ∧ SameButSecrets current current' ∧
      (∀ path, LeafChanged previous current path ↔ LeafChanged previous' current' path) ∧
      changeEvent previous current ≠ changeEvent previous' current' := by
  refine ⟨?_, ?_, ?_⟩
  · refine ⟨withExtension "daemon.token" (.string "a") (by decide),
      withExtension "daemon.token" (.string "b") (by decide), sameButSecrets_withExtension _ _,
      fun h => ?_⟩
    have ht := congrArg (fun document => (document.get "daemon.token").bind Json.text) h
    exact absurd ht (by decide +kernel)
  · refine ⟨cloud [("token", .object [("id", .number 1)])], cloud [("token", .number 1)],
      "cloud.token.id", sameButSecrets_withExtension _ _, fun h => ?_⟩
    exact absurd (congrArg KeyRead.isFound h) (by decide +kernel)
  · refine ⟨cloud [], cloud [("token", .number 1)], cloud [("token", .number 2)],
      cloud [("token", .number 1)], sameButSecrets_withExtension _ _, sameButSecrets_withExtension _ _,
      fun path => (leafChanged_cloud (by decide +kernel) path).trans
        (leafChanged_cloud (by decide +kernel) path).symm, fun h => ?_⟩
    exact absurd (congrArg (Option.map (·.oldValue.isSome)) h) (by decide +kernel)

end Hypercolor.ConfigKeys
