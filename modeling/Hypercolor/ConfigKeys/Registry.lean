import Hypercolor.ConfigKeys.Json

/-!
# The registry of config keys

One table says for every key how its value renders and who may write it: the row of the most specific
pattern that matches the key.

* **`isRedacted_iff`**: a key renders in the clear exactly if its first segment is a closed section.
* **`redactValue_eq`**: what the value at a key renders as, by its first segment.
-/

namespace Hypercolor.ConfigKeys

open List

variable {N : Type}

/-! ## Patterns -/

/-- `KeyPattern` -/
inductive KeyPattern where
  | exact (key : String)
  | closedSection (root : String)
  | dynamicNamespace (root : String)
  | extensionsCatchAll
deriving DecidableEq

namespace KeyPattern

/-- `root` -/
def root : KeyPattern → String
  | exact key => key
  | closedSection root | dynamicNamespace root => root
  | extensionsCatchAll => ""

/-- `matches`, the case of a section and of a namespace: the key is the root, or continues it with a
dot. -/
def under (root key : String) : Bool :=
  key = root || root.toList.isPrefixOf key.toList && (key.toList.drop root.toList.length).head? = some '.'

/-- `matches` -/
def isMatch (key : String) : KeyPattern → Bool
  | .exact text => key = text
  | closedSection root | dynamicNamespace root => under root key
  | extensionsCatchAll => true

def isNamespace : KeyPattern → Bool
  | dynamicNamespace _ => true
  | _ => false

/-- `specificity` -/
def specificity : KeyPattern → Nat
  | exact _ => 3
  | closedSection _ => 2
  | dynamicNamespace _ => 1
  | extensionsCatchAll => 0

end KeyPattern

/-! ## The table -/

/-- `Redaction` -/
inductive Redaction where
  | plain | secret
deriving DecidableEq

/-- `ConfigKeyDescriptor` -/
structure ConfigKeyDescriptor where
  pattern : KeyPattern
  redaction : Redaction
deriving DecidableEq

namespace ConfigKeyDescriptor

/-- `config_key_registry`, its `sections` -/
def ofSection (root : String) : ConfigKeyDescriptor := ⟨.closedSection root, .plain⟩

/-- `config_key_registry`, its `exact` -/
def ofExact (key : String) : ConfigKeyDescriptor := ⟨.exact key, .plain⟩

/-- `config_key_registry`, its `namespaces` -/
def ofNamespace (root : String) : ConfigKeyDescriptor := ⟨.dynamicNamespace root, .secret⟩

def catchAll : ConfigKeyDescriptor := ⟨.extensionsCatchAll, .secret⟩

end ConfigKeyDescriptor

open ConfigKeyDescriptor

/-- `declared_section_roots` -/
def declaredSectionRoots : List String :=
  ["schema_version", "daemon", "web", "mcp", "effect_engine", "rendering", "media", "audio", "capture",
    "input", "display", "discovery", "network", "session"]

/-- `registry` -/
def registry : List ConfigKeyDescriptor :=
  declaredSectionRoots.map ofSection ++
    ["daemon.target_fps", "daemon.canvas_width", "daemon.canvas_height",
      "media.stream_private_network_allowlist", "discovery.mdns_enabled",
      "discovery.background_enabled", "discovery.scan_interval_secs", "session.enabled",
      "effect_engine.effect_error_fallback", "audio.enabled", "audio.device", "input.enabled",
      "input.keyboard", "input.mouse"].map ofExact ++ [ofNamespace "drivers", catchAll]

/-- `Iterator::max_by_key`: the last of the most specific rows. -/
def mostSpecific (best : ConfigKeyDescriptor) : List ConfigKeyDescriptor → ConfigKeyDescriptor
  | [] => best
  | row :: rows =>
    mostSpecific (if best.pattern.specificity ≤ row.pattern.specificity then row else best) rows

/-- `descriptor_for`: the catch-all matches every key, so that there is always a row. -/
def descriptorFor (key : String) : ConfigKeyDescriptor :=
  match registry.filter (·.pattern.isMatch key) with
  | [] => catchAll
  | row :: rows => mostSpecific row rows

/-- `is_redacted` -/
def isRedacted (key : String) : Bool := (descriptorFor key).redaction = .secret

/-- `redacted_marker` -/
def redactedMarker : Json N := .object [("redacted", .bool true)]

/-- `redact_value`, at the root of a namespace: the entries of an object, masked one by one. -/
def maskEntries : Json N → Json N
  | .object entries => .object (entries.map fun (entry, _) => (entry, redactedMarker))
  | _ => redactedMarker

/-- `redact_value` -/
def redactValue (key : String) (value : Json N) : Json N :=
  let descriptor := descriptorFor key
  if descriptor.redaction ≠ .secret then value
  else if key = descriptor.pattern.root && descriptor.pattern.isNamespace then maskEntries value
  else redactedMarker

/-! ## What a key matches -/

variable {root : String}

lemma under_iff (hro : '.' ∉ root.toList) (key : String) :
    KeyPattern.under root key ↔ (splitDots key).head? = some root := by
  have hsp : KeyPattern.under root key ↔
      key.toList = root.toList ∨ ∃ rest, key.toList = root.toList ++ '.' :: rest := by
    rw [KeyPattern.under, Bool.or_eq_true, decide_eq_true_eq, Bool.and_eq_true, isPrefixOf_iff_prefix,
      decide_eq_true_eq, String.toList_inj]
    refine or_congr Iff.rfl ⟨?_, ?_⟩
    · rintro ⟨⟨rest, hr⟩, hd⟩
      rw [← hr, drop_left, head?_eq_some_iff] at hd
      obtain ⟨rest', rfl⟩ := hd
      exact ⟨rest', hr.symm⟩
    · rintro ⟨rest, hr⟩
      exact ⟨⟨_, hr.symm⟩, by rw [hr, drop_left]; rfl⟩
  rw [hsp, splitDots, head?_map]
  constructor
  · rintro (hs | ⟨rest, hr⟩)
    · rw [hs, splitOn_eq_singleton hro]
      exact congrArg some String.ofList_toList
    · rw [hr, splitOn_append_cons_self_of_not_mem hro]
      exact congrArg some String.ofList_toList
  · intro hh
    obtain ⟨first, hf, hro'⟩ := Option.map_eq_some_iff.mp hh
    obtain ⟨rest, hr⟩ := head?_eq_some_iff.mp hf
    have ht : ['.'].intercalate (key.toList.splitOn '.') = key.toList := intercalate_splitOn '.'
    have hf' : first = root.toList := by rw [← hro', String.toList_ofList]
    rw [hr, hf'] at ht
    cases rest with
    | nil => exact .inl (by rw [← ht, intercalate_singleton])
    | cons second rest =>
      exact .inr ⟨_, by
        rw [← ht, intercalate_cons_cons, append_assoc, singleton_append]⟩

/-! ## The row of a key -/

lemma mostSpecific_spec (rows : List ConfigKeyDescriptor) (best : ConfigKeyDescriptor) :
    mostSpecific best rows ∈ best :: rows ∧
      ∀ row ∈ best :: rows, row.pattern.specificity ≤ (mostSpecific best rows).pattern.specificity := by
  induction rows generalizing best with
  | nil => exact ⟨mem_cons_self, fun row hr =>
    mem_singleton.mp hr ▸ Nat.le_refl _⟩
  | cons next rows ih =>
    rw [mostSpecific]
    split
    · rename_i hl
      obtain ⟨hme, hm⟩ := ih next
      refine ⟨mem_cons_of_mem _ hme, fun row hr => ?_⟩
      rcases mem_cons.mp hr with rfl | hr
      · exact Nat.le_trans hl (hm next mem_cons_self)
      · exact hm row hr
    · rename_i hlt
      obtain ⟨hme, hm⟩ := ih best
      refine ⟨?_, fun row hr => ?_⟩
      · rcases mem_cons.mp hme with he | hme
        · rw [he]
          exact mem_cons_self
        · exact mem_cons_of_mem _ (mem_cons_of_mem _ hme)
      · rcases mem_cons.mp hr with rfl | hr
        · exact hm row mem_cons_self
        · rcases mem_cons.mp hr with rfl | hr
          · exact Nat.le_trans (Nat.le_of_not_le hlt) (hm best mem_cons_self)
          · exact hm row (mem_cons_of_mem _ hr)

/-- The row of a key is in the table and matches it, and no row that matches it is more specific. -/
lemma descriptorFor_spec (key : String) :
    descriptorFor key ∈ registry ∧ (descriptorFor key).pattern.isMatch key ∧
      ∀ row ∈ registry, row.pattern.isMatch key →
        row.pattern.specificity ≤ (descriptorFor key).pattern.specificity := by
  have hc : catchAll ∈ registry.filter (·.pattern.isMatch key) := mem_filter.mpr ⟨by decide, by rfl⟩
  rw [descriptorFor]
  cases hr : registry.filter (·.pattern.isMatch key) with
  | nil =>
    rw [hr] at hc
    exact absurd hc not_mem_nil
  | cons best rows =>
    obtain ⟨hm, hma⟩ := mostSpecific_spec rows best
    rw [← hr] at hm hma
    obtain ⟨hre, hmt⟩ := mem_filter.mp hm
    exact ⟨hre, hmt, fun row hro hrm => hma row (mem_filter.mpr ⟨hro, hrm⟩)⟩

/-! ## What a key renders as -/

/-- The section that a key is about. -/
def firstSegment (key : String) : String := (splitDots key).headD ""

lemma under_iff_firstSegment (hr : '.' ∉ root.toList) (key : String) :
    KeyPattern.under root key ↔ firstSegment key = root := by
  rw [under_iff hr, firstSegment]
  obtain ⟨first, rest, hs⟩ := exists_cons_of_ne_nil (splitDots_ne_nil key)
  rw [hs, head?_cons, headD_cons, Option.some_inj]

variable {key : String}

/-- A key of a closed section has a row for that section or a row of its own, and both are plain. -/
lemma redaction_of_section (h : firstSegment key ∈ declaredSectionRoots) :
    (descriptorFor key).redaction = .plain := by
  obtain ⟨hre, -, hm⟩ := descriptorFor_spec key
  have hr : ∀ root ∈ declaredSectionRoots, '.' ∉ root.toList ∧
      ∃ row ∈ registry, row.pattern = .closedSection root := by decide +kernel
  obtain ⟨hd, row, hr, hp⟩ := hr _ h
  have hl := hm row hr (by rw [hp]; exact (under_iff_firstSegment hd key).mpr rfl)
  rw [hp] at hl
  have hpl : ∀ row ∈ registry, 2 ≤ row.pattern.specificity → row.redaction = .plain := by decide
  exact hpl _ hre hl

/-- Any other key is a driver's, or an extension's. -/
lemma descriptorFor_of_not_section (h : firstSegment key ∉ declaredSectionRoots) :
    descriptorFor key = ofNamespace "drivers" ∨ descriptorFor key = catchAll := by
  obtain ⟨hre, hm, -⟩ := descriptorFor_spec key
  have hr : ∀ row ∈ registry, row = ofNamespace "drivers" ∨ row = catchAll ∨
      (∃ root ∈ declaredSectionRoots, '.' ∉ root.toList ∧ row.pattern = .closedSection root) ∨
      firstSegment row.pattern.root ∈ declaredSectionRoots ∧
        row.pattern = .exact row.pattern.root := by decide +kernel
  rcases hr _ hre with hdr | hc | ⟨root, hro, hd, hp⟩ | ⟨ht, hp⟩
  · exact .inl hdr
  · exact .inr hc
  · rw [hp] at hm
    exact absurd ((under_iff_firstSegment hd key).mp hm ▸ hro) h
  · rw [hp] at hm
    exact absurd (of_decide_eq_true hm ▸ ht) h

/-- A key renders in the clear exactly if it is in a closed section. -/
theorem isRedacted_iff (key : String) : isRedacted key ↔ firstSegment key ∉ declaredSectionRoots := by
  rw [isRedacted, decide_eq_true_eq]
  constructor
  · intro hs hse
    rw [redaction_of_section hse] at hs
    exact absurd hs (by decide)
  · intro hn
    rcases descriptorFor_of_not_section hn with h | h <;> rw [h] <;> rfl

/-- What a value renders as: itself in a closed section, a marker for each driver, else one marker. -/
theorem redactValue_eq (key : String) (value : Json N) : redactValue key value =
      if firstSegment key ∈ declaredSectionRoots then value
      else if key = "drivers" then maskEntries value else redactedMarker := by
  by_cases hs : firstSegment key ∈ declaredSectionRoots
  · rw [if_pos hs, redactValue, redaction_of_section hs]
    rfl
  rw [if_neg hs, redactValue]
  rcases descriptorFor_of_not_section hs with hr | hr
  · rw [hr]
    by_cases hk : key = "drivers" <;>
      simp [ofNamespace, KeyPattern.root, KeyPattern.isNamespace, hk]
  · have hk : key ≠ "drivers" := by
      rintro rfl
      exact absurd hr (by decide +kernel)
    rw [hr, if_neg hk]
    simp [catchAll, KeyPattern.isNamespace]

end Hypercolor.ConfigKeys
