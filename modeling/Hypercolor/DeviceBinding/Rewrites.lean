import Hypercolor.DeviceBinding.Plan

/-!
# What is rewritten, and in which order

The maps of a sweep are filled in the order of the evidence, and a layout id finds the last of the
devices that have it.

* **`mem_rewrites`**: what is rewritten in the order at hand.
* **`Rewrites.exists_same_concat`**: for each rewrite there is an order in which it comes last, so
  that nothing replaces what it writes.
-/

namespace Hypercolor.DeviceBinding

open Lib List Option AList
open Registry (DeviceId DeviceFingerprint)

/-- The old physical id that goes with a key. -/
def oldId (key : String) : DeviceId := stableDeviceId ⟨key⟩

namespace Sweep

variable {s t : Sweep} {lg cid key : String} {bd o : CurrentBinding}

/-- One persisted key alone reads like the fingerprint that goes with the layout id. -/
structure SoleKey (s : Sweep) (legacyId : String) (binding : CurrentBinding) (key : String) : Prop where
  mem : key ∈ s.keys
  like : exactFingerprintEvidenceMatches legacyId key binding
  alone : ∀ other ∈ s.keys, exactFingerprintEvidenceMatches legacyId other binding → other = key

/-- The layout id is rebound to the layout id of the device, under which the key reads like an old
fingerprint of it. -/
structure Rewrites (s : Sweep) (legacyId : String) (binding : CurrentBinding) (key : String) : Prop where
  rebinds : ∃ rebound, Rebinds s.evidence s.current legacyId rebound ∧
    rebound.layoutDeviceId = binding.layoutDeviceId
  mem : binding ∈ s.current
  sole : s.SoleKey legacyId binding key

/-- The device that a layout id finds. -/
def found (s : Sweep) (canonicalId : String) : Option CurrentBinding :=
  latest (s.current.map fun binding => (binding.layoutDeviceId, binding)) canonicalId

lemma mem_of_found (h : s.found cid = some bd) : bd ∈ s.current ∧ bd.layoutDeviceId = cid := by
  obtain ⟨o, hoh, ⟨⟩⟩ := mem_map.mp (mem_of_latest h)
  exact ⟨hoh, rfl⟩

lemma exists_found (h : bd ∈ s.current) : ∃ o, s.found bd.layoutDeviceId = some o :=
  isSome_iff_exists.mp (latest_isSome.mpr ⟨bd, mem_map.mpr ⟨bd, h, rfl⟩⟩)

/-! ## The rewrites in the order at hand -/

lemma filter_eq_singleton_iff : s.keys.filter (exactFingerprintEvidenceMatches lg · bd) = [key] ↔
      s.SoleKey lg bd key := by
  rw [eq_singleton_iff (s.keys_nodup.filter _)]
  simp only [mem_filter]
  exact ⟨fun ⟨⟨hm, hli⟩, ha⟩ => ⟨hm, hli, fun o ho hl => ha o ⟨ho, hl⟩⟩,
    fun h => ⟨⟨h.mem, h.like⟩, fun o ho => h.alone o ho.1 ho.2⟩⟩

/-- What one remap of a layout id has rewritten. -/
def rewriteOf (s : Sweep) : String × String → Option (String × CurrentBinding)
  | (legacyId, canonicalId) =>
    match s.found canonicalId with
    | none => none
    | some binding =>
      match s.keys.filter (exactFingerprintEvidenceMatches legacyId · binding) with
      | [key] => some (key, binding)
      | _ => none

lemma rewriteOf_eq_some_iff : s.rewriteOf (lg, cid) = some (key, bd) ↔
      s.found cid = some bd ∧ s.SoleKey lg bd key := by
  rw [← filter_eq_singleton_iff, rewriteOf]
  constructor
  · intro h
    split at h
    · cases h
    · rename_i hf
      split at h
      · rename_i hk
        cases h
        exact ⟨hf, hk⟩
      · cases h
  · rintro ⟨hf, hk⟩
    rw [hf]
    dsimp only
    rw [hk]

lemma rewrites_eq (s : Sweep) : rewrites s.evidence s.current s.keys =
      (planLayoutDeviceIdRemaps s.evidence s.current).filterMap s.rewriteOf := by
  have hf : ∀ cid, (collect (s.current.map fun bd =>
      (bd.layoutDeviceId, bd))).lookup cid = s.found cid :=
    Covers.collect _
  refine filterMap_congr fun remap _ => ?_
  dsimp only
  rw [hf]
  rfl

/-- **What is rewritten in the order at hand**: for the devices that the layout ids find. -/
theorem mem_rewrites : (key, bd) ∈ rewrites s.evidence s.current s.keys ↔
      ∃ lg rebound, Rebinds s.evidence s.current lg rebound ∧
        s.found rebound.layoutDeviceId = some bd ∧ s.SoleKey lg bd key := by
  rw [rewrites_eq, mem_filterMap]
  constructor
  · rintro ⟨⟨lg, cid⟩, hp, hs⟩
    obtain ⟨rebound, hr, rfl⟩ := (mem_planLayoutDeviceIdRemaps s.nodup_current).mp hp
    exact ⟨lg, rebound, hr, rewriteOf_eq_some_iff.mp hs⟩
  · rintro ⟨lg, rebound, hr, hs⟩
    exact ⟨(lg, rebound.layoutDeviceId),
      (mem_planLayoutDeviceIdRemaps s.nodup_current).mpr ⟨rebound, hr, rfl⟩,
      rewriteOf_eq_some_iff.mpr hs⟩

lemma exists_rewrites (h : (key, bd) ∈ rewrites s.evidence s.current s.keys) :
    ∃ lg, s.Rewrites lg bd key := by
  obtain ⟨lg, rebound, hr, hf, hs⟩ := mem_rewrites.mp h
  obtain ⟨hm, hl⟩ := mem_of_found hf
  exact ⟨lg, ⟨rebound, hr, hl.symm⟩, hm, hs⟩

/-! ## Keys and physical ids read differently -/

/-- What has a start is not shorter than it. -/
lemma head_of_stripPrefix (st : String) {c : Char} (h : (stripPrefix st key).isSome)
    (hc : st.toList.head? = some c) : key.toList.head? = some c := by
  rw [stripPrefix] at h
  split at h
  · rename_i hs
    obtain ⟨tail, ht⟩ := isPrefixOf_iff_prefix.mp hs
    rw [← ht, head?_append, hc, some_or]
  · cases h

lemma isSome_of_any_bind {α β : Type} {o : Option α} {f : α → Option β} {p : β → Bool}
    (h : (o.bind f).any p) : o.isSome := by
  cases o with
  | none => cases h
  | some a => rfl

/-- A key that reads like a fingerprint starts with where the device is plugged in. -/
lemma head_of_matchesClass {bindingClass : BindingClass}
    (h : bindingFingerprintMatchesClass key bindingClass) :
    key.toList.head? = some 'u' ∨ key.toList.head? = some 's' := by
  cases bindingClass with
  | claimlessUsb ow vendorId productId =>
    exact .inl (head_of_stripPrefix "usb:" (isSome_of_any_bind h) rfl)
  | smBus ow protocolOrModel addr =>
    exact .inr (head_of_stripPrefix "smbus:" (isSome_of_any_bind h) rfl)

/-- So it is no text of a physical id. -/
lemma SoleKey.ne_hyphenated (h : s.SoleKey lg bd key) (id : DeviceId) : key ≠ id.hyphenated := by
  rintro rfl
  obtain ⟨n, hn, hh⟩ := head_hyphenated id
  have hd : ∀ n < 16, some (digitChar n) ≠ some 'u' ∧ some (digitChar n) ≠ some 's' := by decide
  have hl := h.like
  rw [exactFingerprintEvidenceMatches, Bool.and_eq_true] at hl
  rcases head_of_matchesClass hl.1 with hu | hs
  · exact (hd n hn).1 (hh.symm.trans hu)
  · exact (hd n hn).2 (hh.symm.trans hs)

/-! ## Other orders -/

/-- The same devices, evidence and keys, in some order. -/
structure Same (s t : Sweep) : Prop where
  shapes : s.evidence.shapes.entries.Perm t.evidence.shapes.entries
  tokens : s.evidence.descriptorTokens.entries.Perm t.evidence.descriptorTokens.entries
  displayTargetIds : s.evidence.displayTargetIds = t.evidence.displayTargetIds
  seen : s.seen.Perm t.seen
  keys : s.keys.Perm t.keys

namespace Same

section

variable (h : s.Same t)
include h

lemma symm : t.Same s := ⟨h.shapes.symm, h.tokens.symm, h.displayTargetIds.symm, h.seen.symm, h.keys.symm⟩

lemma mem_current : bd ∈ s.current ↔ bd ∈ t.current := (h.seen.filterMap _).mem_iff

lemma looksLike (lg : String) (shapes : List (List SegmentShape)) (bd : CurrentBinding) :
    looksLike s.evidence lg shapes bd = looksLike t.evidence lg shapes bd := by
  simp only [DeviceBinding.looksLike, legacyIdMatchesClass, persistedDescriptorMatches,
    perm_lookup h.tokens]

lemma onlyLike (hon : OnlyLike s.evidence s.current lg bd) : OnlyLike t.evidence t.current lg bd where
  unused o hoh := hon.unused o (h.mem_current.mpr hoh)
  mem := h.mem_current.mp hon.mem
  like := by
    obtain ⟨shapes, hs, hl, hoe⟩ := hon.like
    rw [perm_lookup h.shapes] at hs
    rw [h.looksLike] at hl
    refine ⟨shapes, hs, hl, fun o hoh hl => hoe o (h.mem_current.mpr hoh) ?_⟩
    rwa [h.looksLike]

lemma rebinds (hr : Rebinds s.evidence s.current lg bd) : Rebinds t.evidence t.current lg bd where
  onlyLike := h.onlyLike hr.onlyLike
  bare := fun hm => hr.bare ((mem_of_perm h.shapes).mpr hm)
  alone o hoh := hr.alone o (h.symm.onlyLike hoh)

lemma soleKey (hs : s.SoleKey lg bd key) : t.SoleKey lg bd key where
  mem := h.keys.mem_iff.mp hs.mem
  like := hs.like
  alone o hoh := hs.alone o (h.keys.mem_iff.mpr hoh)

theorem rewrites (hrw : s.Rewrites lg bd key) : t.Rewrites lg bd key where
  rebinds := by
    obtain ⟨rebound, hr, hl⟩ := hrw.rebinds
    exact ⟨rebound, h.rebinds hr, hl⟩
  mem := h.mem_current.mp hrw.mem
  sole := h.soleKey hrw.sole

end

end Same

/-- An element moved to the end. -/
lemma exists_perm_concat {α : Type*} {l : List α} {x : α} (h : x ∈ l) : ∃ rest, l.Perm (rest ++ [x]) := by
  obtain ⟨before, after, rfl⟩ := append_of_mem h
  refine ⟨before ++ after, ?_⟩
  rw [append_assoc]
  exact (perm_append_singleton x after).symm.append_left before

variable {shapes : List (List SegmentShape)}

/-- There is an order in which a device and a layout id come last. -/
lemma exists_same_concat (hm : bd ∈ s.current) (hsh : s.evidence.shapes.lookup lg = some shapes) :
    ∃ t es, s.Same t ∧ t.found bd.layoutDeviceId = some bd ∧
      t.evidence.shapes.entries = es ++ [⟨lg, shapes⟩] := by
  obtain ⟨d, hd, hb⟩ := mem_current.mp hm
  obtain ⟨seen, hs⟩ := exists_perm_concat hd
  obtain ⟨es, he⟩ := exists_perm_concat (mem_lookup_iff.mp hsh)
  refine ⟨{
      evidence := {
        shapes := ⟨es ++ [⟨lg, shapes⟩], (perm_nodupKeys he).mp s.evidence.shapes.nodupKeys⟩
        descriptorTokens := s.evidence.descriptorTokens
        displayTargetIds := s.evidence.displayTargetIds }
      seen := seen ++ [d]
      keys := s.keys
      ids_nodup := (hs.map _).nodup_iff.mp s.ids_nodup
      fingerprints_nodup := (hs.map _).nodup_iff.mp s.fingerprints_nodup
      keys_nodup := s.keys_nodup }, es, ⟨he, .refl _, rfl, hs, .refl _⟩, ?_, rfl⟩
  rw [found, current, filterMap_append, filterMap_cons_some hb, filterMap_nil, map_append, latest_append]
  simp only [map_cons, map_nil, latest, if_pos, none_or, some_or]

/-! ## A rewrite that comes last -/

lemma planLayoutDeviceIdRemaps_concat {es : List (Sigma fun _ : String => List (List SegmentShape))}
    (he : s.evidence.shapes.entries = es ++ [⟨lg, shapes⟩]) (hr : Rebinds s.evidence s.current lg bd) :
    ∃ remaps, planLayoutDeviceIdRemaps s.evidence s.current = remaps ++ [(lg, bd.layoutDeviceId)] := by
  have hs : s.evidence.shapes.lookup lg = some shapes :=
    mem_lookup_iff.mpr (he ▸ mem_append_right _ (mem_singleton_self _))
  obtain ⟨i, hp⟩ := mem_iff_getElem?.mp hr.onlyLike.mem
  obtain ⟨shapes', hs', hl, ha⟩ := hr.onlyLike.like
  obtain rfl := some_inj.mp (hs.symm.trans hs')
  have hf := (found_eq_singleton_iff s.nodup_current).mpr ⟨bd, hp, hl, ha⟩
  have hu : lg ∉ s.current.map (·.layoutDeviceId) := fun hm => by
    obtain ⟨o, hoh, heq⟩ := mem_map.mp hm
    exact hr.onlyLike.unused o hoh heq
  rw [planLayoutDeviceIdRemaps, layoutCandidates, he, filterMap_append, filterMap_append]
  refine ⟨_, congrArg (_ ++ ·) ?_⟩
  rw [filterMap_cons_some (b := (lg, [i])), filterMap_nil,
    filterMap_cons_some (b := (lg, bd.layoutDeviceId)), filterMap_nil]
  · dsimp only
    rw [if_pos ((claimantCount_eq_one_iff s.nodup_current hp hr.onlyLike).mpr hr), hp, map_some]
  · dsimp only
    rw [if_neg hu, hf, if_neg (cons_ne_nil _ _)]

/-- **In some order a rewrite comes last.** -/
theorem Rewrites.exists_same_concat (h : s.Rewrites lg bd key) :
    ∃ t rest, s.Same t ∧ t.found bd.layoutDeviceId = some bd ∧
      DeviceBinding.rewrites t.evidence t.current t.keys = rest ++ [(key, bd)] := by
  obtain ⟨rebound, hr, hl⟩ := h.rebinds
  obtain ⟨shapes, hsh, -, -⟩ := hr.onlyLike.like
  obtain ⟨t, entries, hs, hf, he⟩ := Sweep.exists_same_concat h.mem hsh
  obtain ⟨remaps, hre⟩ := planLayoutDeviceIdRemaps_concat he (hs.rebinds hr)
  refine ⟨t, remaps.filterMap t.rewriteOf, hs, hf, ?_⟩
  rw [rewrites_eq, hre, filterMap_append, hl,
    filterMap_cons_some (rewriteOf_eq_some_iff.mpr ⟨hf, hs.soleKey h.sole⟩), filterMap_nil]

end Sweep

end Hypercolor.DeviceBinding
