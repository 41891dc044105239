import Hypercolor.Lib.PrefixCode
import Hypercolor.Registry.Types

/-!
# Spatial layouts and their routing signature

The outputs of a layout as routing reads them, and the bytes `layout_routing_signature` feeds its
hasher. **`layoutBytes_inj`**: two layouts that feed it the same bytes have the same routing view, zone
by zone, so a signature without collisions tells apart all that a routing plan is compiled from. The
one field two such layouts can differ in is a zone's brightness outside `[0, 1]`, which is clamped
before it is hashed and before it is compiled.

A `usize` has 64 bits here.
-/

namespace Hypercolor.FrameRouting

open Lib Registry List

/-- A `Vec<u32>`, whose length is a `usize`. -/
abbrev Indices := { indices : List UInt32 // indices.length < 2 ^ 64 }

/-- `OutputComponent` -/
structure OutputComponent where
  templateId : String
  slotId : String
  instanceIndex : UInt32
  ledStart : Option UInt32
  ledCount : Option UInt32
  ledMapping : Option Indices

/-- `Output` -/
structure Output where
  id : String
  deviceId : String
  zoneName : Option String
  ledMapping : Option Indices
  attachment : Option OutputComponent
  brightness : Option F32

/-- `SpatialLayout` -/
structure SpatialLayout where
  id : String
  zones : List Output
  zones_len : zones.length < 2 ^ 64

/-- `DISPLAY_ZONE_NAME` -/
def displayZoneName : String := "Display"

variable (zone : Output)

/-- `is_display_zone` -/
def isDisplayZone : Bool := zone.zoneName == some displayZoneName

/-- `is_led_sampled_zone` -/
def isLedSampledZone : Bool := !isDisplayZone zone

/-- `should_use_ordered_routing` -/
def shouldUseOrderedRouting : Bool := isLedSampledZone zone

/-- `normalized_zone_brightness` -/
def normalizedZoneBrightness (brightness : Option F32) : F32 := (brightness.getD F32.one).clampUnit

/-! ## What the hasher is fed -/

/-- `impl Hash for str` -/
def hashStr (s : String) : List UInt8 := utf8 s ++ [0xFF]

/-- `impl Hash for usize` -/
def hashUsize (n : Nat) : List UInt8 := leBytes 8 n

/-- `impl Hash for u32` -/
def hashU32 (n : UInt32) : List UInt8 := leBytes 4 n.toNat

/-- `impl Hash for Option<T>` -/
def hashOption {α : Type} (code : α → List UInt8) : Option α → List UInt8 :=
  optionCode (hashUsize 0) (hashUsize 1) code

/-- `impl Hash for Vec<u32>` -/
def hashIndices (indices : Indices) : List UInt8 := listCode hashUsize hashU32 indices.1

/-- `hash_attachment` -/
def hashAttachment : Option OutputComponent → List UInt8
  | none => [0]
  | some attachment =>
      [1] ++ hashStr attachment.templateId ++ hashStr attachment.slotId ++
        hashU32 attachment.instanceIndex ++ hashOption hashU32 attachment.ledStart ++
        hashOption hashU32 attachment.ledCount ++ hashOption hashIndices attachment.ledMapping

def hashZone : List UInt8 :=
  hashStr zone.id ++ hashStr zone.deviceId ++ hashOption hashStr zone.zoneName ++
    hashOption hashIndices zone.ledMapping ++
    leBytes 4 (normalizedZoneBrightness zone.brightness).bits.toNat ++
    hashAttachment zone.attachment

/-- `layout_routing_signature`, the input of the hash -/
def layoutBytes (layout : SpatialLayout) : List UInt8 :=
  hashStr layout.id ++ hashUsize layout.zones.length ++ layout.zones.flatMap hashZone

/-- `layout_routing_signature` -/
def layoutRoutingSignature (hash : List UInt8 → UInt64) (layout : SpatialLayout) : UInt64 :=
  hash (layoutBytes layout)

/-! ## The bytes give the routing view back -/

/-- What routing reads of a zone. -/
structure ZoneView where
  id : String
  deviceId : String
  zoneName : Option String
  ledMapping : Option Indices
  brightness : F32
  attachment : Option OutputComponent

def Output.view : ZoneView :=
  ⟨zone.id, zone.deviceId, zone.zoneName, zone.ledMapping,
    normalizedZoneBrightness zone.brightness, zone.attachment⟩

variable {rest rest' : List UInt8}

/-- A count is told from what follows it. -/
lemma hashUsize_inj {n n' : Nat} (hn : n < 2 ^ 64) (hn' : n' < 2 ^ 64)
    (he : hashUsize n ++ rest = hashUsize n' ++ rest') : n = n' ∧ rest = rest' := by
  obtain ⟨hc, hr⟩ := append_inj he ((length_leBytes 8 n).trans (length_leBytes 8 n').symm)
  exact ⟨leBytes_inj hn hn' hc, hr⟩

lemma prefixFree_hashStr : PrefixFree hashStr := .terminated utf8_injective utf8_ne

lemma prefixFree_hashU32 : PrefixFree hashU32 := by
  refine .of_width ?_ fun n => length_leBytes 4 n.toNat
  intro n n' he
  exact UInt32.toNat_inj.mp (leBytes_inj n.toNat_lt n'.toNat_lt he)

lemma prefixFree_hashOption {α : Type} {code : α → List UInt8} (h : PrefixFree code) :
    PrefixFree (hashOption code) :=
  optionCode_prefixFree rfl (by decide) h

lemma prefixFree_hashIndices : PrefixFree hashIndices := by
  intro indices indices' rest rest' he
  obtain ⟨hi, hr⟩ := listCode_inj (fun _ _ _ _ hn hn' h => hashUsize_inj hn hn' h)
    prefixFree_hashU32 indices.2 indices'.2 he
  exact ⟨Subtype.ext hi, hr⟩

lemma prefixFree_hashAttachment : PrefixFree hashAttachment := by
  intro a a' rest rest' he
  rcases a with _ | ⟨templateId, slotId, instanceIndex, ledStart, ledCount, ledMapping⟩ <;>
    rcases a' with _ | ⟨templateId', slotId', instanceIndex', ledStart', ledCount', ledMapping'⟩ <;>
    simp only [hashAttachment, append_assoc, cons_append, nil_append, cons.injEq] at he
  · exact ⟨rfl, he.2⟩
  iterate 2 exact absurd he.1 (by decide)
  · obtain ⟨rfl, h₁⟩ := prefixFree_hashStr _ _ _ _ he.2
    obtain ⟨rfl, h₂⟩ := prefixFree_hashStr _ _ _ _ h₁
    obtain ⟨rfl, h₃⟩ := prefixFree_hashU32 _ _ _ _ h₂
    obtain ⟨rfl, h₄⟩ := prefixFree_hashOption prefixFree_hashU32 _ _ _ _ h₃
    obtain ⟨rfl, h₅⟩ := prefixFree_hashOption prefixFree_hashU32 _ _ _ _ h₄
    obtain ⟨rfl, hr⟩ := prefixFree_hashOption prefixFree_hashIndices _ _ _ _ h₅
    exact ⟨rfl, hr⟩

lemma brightness_bits_injective : Function.Injective fun bright : F32 => leBytes 4 bright.bits.toNat := by
  intro b b' he
  have hb := leBytes_inj b.bits.isLt b'.bits.isLt he
  exact congrArg F32.mk (BitVec.eq_of_toNat_eq hb)

/-- The bytes of a zone are those of its routing view. -/
lemma view_of_hashZone {z z' : Output} (he : hashZone z ++ rest = hashZone z' ++ rest') :
    z.view = z'.view ∧ rest = rest' := by
  simp only [hashZone, append_assoc] at he
  obtain ⟨hi, h₁⟩ := prefixFree_hashStr _ _ _ _ he
  obtain ⟨hd, h₂⟩ := prefixFree_hashStr _ _ _ _ h₁
  obtain ⟨hn, h₃⟩ := prefixFree_hashOption prefixFree_hashStr _ _ _ _ h₂
  obtain ⟨hm, h₄⟩ := prefixFree_hashOption prefixFree_hashIndices _ _ _ _ h₃
  obtain ⟨hb, h₅⟩ := PrefixFree.of_width brightness_bits_injective
    (fun b => length_leBytes 4 b.bits.toNat) _ _ _ _ h₄
  obtain ⟨ha, hr⟩ := prefixFree_hashAttachment _ _ _ _ h₅
  exact ⟨by rw [Output.view, Output.view, hi, hd, hn, hm, hb, ha], hr⟩

/-- The hashed bytes tell the views of the zones. -/
lemma views_of_hashZones {zs zs' : List Output} (hl : zs.length = zs'.length)
    (he : zs.flatMap hashZone = zs'.flatMap hashZone) : zs.map Output.view = zs'.map Output.view := by
  induction zs generalizing zs' with
  | nil => rw [length_eq_zero_iff.mp hl.symm]
  | cons z zs ih =>
    rcases zs' with _ | ⟨z', zs'⟩
    · simp at hl
    · obtain ⟨hv, ht⟩ := view_of_hashZone he
      rw [map_cons, map_cons, hv, ih (Nat.succ.inj hl) ht]

/-- Layouts with the same bytes have the same id and the same zones, as routing reads them. -/
theorem layoutBytes_inj {l l' : SpatialLayout} (he : layoutBytes l = layoutBytes l') :
    l.id = l'.id ∧ l.zones.map Output.view = l'.zones.map Output.view := by
  simp only [layoutBytes, append_assoc] at he
  obtain ⟨hi, h₁⟩ := prefixFree_hashStr _ _ _ _ he
  obtain ⟨hl, h₂⟩ := hashUsize_inj l.zones_len l'.zones_len h₁
  exact ⟨hi, views_of_hashZones hl h₂⟩

end Hypercolor.FrameRouting
