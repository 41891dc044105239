import Hypercolor.Lib.Bytes
import Hypercolor.Tinyuz.RoundTrip

/-!
# The window of a stream

The references of a stream are those that decoding meets on its bytes. Those of `compress` are the
ones it calls `out_dict` for: each reaches back over bytes already emitted and inside the window it
was given, and its length is never shortened below zero. The header declares the farthest distance
used, as a `u32`.

* **`references_window`** bounds every distance by what is declared, as far as a `u32` goes.
* **`declared_too_small`** is an input of four gibibytes where it does not go far enough.
-/

namespace Hypercolor.Tinyuz

open CodeWriter List Nat

/-- `declared_dict_size` -/
def declaredDictSize (code : List UInt8) : Option Nat :=
  if code.length < 4 then none else some (Lib.ofLe (code.take 4))

/-! ## The largest distance -/

namespace CodeWriter

variable (w : CodeWriter)

@[simp] theorem dictSizeMax_outType (bit : Bool) : (w.outType bit).dictSizeMax = w.dictSizeMax := by
  unfold outType
  dsimp only
  split <;> split <;> rfl

lemma dictSizeMax_foldl {α : Type} {f : CodeWriter → α → CodeWriter}
    (hf : ∀ v a, (f v a).dictSizeMax = v.dictSizeMax) (l : List α) :
    (l.foldl f w).dictSizeMax = w.dictSizeMax := by
  induction l generalizing w with
  | nil => rfl
  | cons a l ih => exact (ih (f w a)).trans (hf w a)

@[simp] theorem dictSizeMax_outGroups (rm pb groups : Nat) :
    (w.outGroups rm pb groups).dictSizeMax = w.dictSizeMax := by
  induction groups generalizing w with
  | zero => rfl
  | succ g ih =>
    rw [outGroups, ih, dictSizeMax_outType]
    exact w.dictSizeMax_foldl (fun v bit => v.dictSizeMax_outType _) _

@[simp] theorem dictSizeMax_outLen (v pb : Nat) :
    (w.outLen v pb).dictSizeMax = w.dictSizeMax := w.dictSizeMax_outGroups _ _ _

@[simp] theorem dictSizeMax_outDictPos (pos : Nat) : (w.outDictPos pos).dictSizeMax = w.dictSizeMax := by
  unfold outDictPos
  dsimp only
  split <;> simp [push]

@[simp] theorem dictSizeMax_outCtrl (ctrl : Nat) : (w.outCtrl ctrl).dictSizeMax = w.dictSizeMax := by
  unfold outCtrl
  dsimp only
  split <;> simp

@[simp] theorem dictSizeMax_outLiterals (data : List UInt8) :
    (w.outLiterals data).dictSizeMax = w.dictSizeMax := by
  unfold outLiterals
  dsimp only
  split
  · simp
  · refine w.dictSizeMax_foldl (fun v byte => ?_) data
    exact v.dictSizeMax_outType true

@[simp] theorem dictSizeMax_outDict (matchLen dist : Nat) :
    (w.outDict matchLen dist).dictSizeMax = max w.dictSizeMax dist := by
  unfold outDict
  dsimp only
  split <;> split <;> simp

@[simp] theorem dictSizeMax_flushed (inp : List UInt8) (ls cur : Nat) :
    (flushed inp ls cur w).dictSizeMax = w.dictSizeMax := by
  unfold flushed
  split <;> simp

/-- Flushing keeps the repeated distance, and its flag stays encodable. -/
lemma flushed_back (inp : List UInt8) (ls cur : Nat) :
    (flushed inp ls cur w).dictPosBack = w.dictPosBack ∧
      (w.haveDataBack → (flushed inp ls cur w).haveDataBack) := by
  unfold flushed
  split
  · obtain ⟨w₁, hw₁, he⟩ :=
      w.outLiterals_eq ((inp.drop ls).take (cur - ls))
    rw [he]
    exact ⟨hw₁.dictPosBack_eq, fun _ => rfl⟩
  · exact ⟨rfl, id⟩

end CodeWriter

/-! ## Every reference -/

/-- A reference over bytes already emitted, inside the window and no farther than `largest`, from
whose length `out_dict` subtracts no more than there is. -/
structure DictCall.Inside (call : DictCall) (window largest : Nat) : Prop where
  distance_pos : 1 ≤ call.distance
  emitted : call.distance ≤ call.emitted
  window : call.distance ≤ window
  largest : call.distance ≤ largest
  len : minMatchLen ≤ call.len
  long_len : call.same = false → bigPosForLen < call.distance → minMatchLen + 1 ≤ call.len

lemma compressLoop_window (inp : List UInt8) (window ls cur : Nat) (w : CodeWriter) :
    w.dictSizeMax ≤ (compressLoop inp window ls cur w).2.dictSizeMax ∧
    (compressLoop inp window ls cur w).2.dictSizeMax ≤ max w.dictSizeMax window ∧
    ∀ call ∈ dictCalls inp window ls cur w, call.Inside window
      (compressLoop inp window ls cur w).2.dictSizeMax := by
  fun_induction dictCalls inp window ls cur w with
  | case1 ls cur w hc len dist hma writer ih =>
    have hm := bestMatch_isMatch hma
    obtain ⟨hp, hd, -, hle, hln⟩ := hm
    obtain ⟨hcu, hw⟩ := Nat.le_min.mp hd
    have hf : writer.dictSizeMax = w.dictSizeMax := w.dictSizeMax_flushed inp ls cur
    have hl : compressLoop inp window ls cur w =
        compressLoop inp window (cur + len) (cur + len) (writer.outDict len dist) := by
      rw [compressLoop, if_pos hc]
      split <;> rename_i hma' <;> rw [hma] at hma' <;> cases hma'
      rfl
    rw [hl]
    obtain ⟨hlo, hh, hr⟩ := ih
    rw [dictSizeMax_outDict, hf] at hlo hh
    refine ⟨by omega, by omega, fun call hcall => ?_⟩
    rcases mem_cons.mp hcall with rfl | hcall
    · refine ⟨hp, hcu, hw, (le_max_right _ _).trans hlo, hle, fun hsa hbi => ?_⟩
      refine (hln hbi).resolve_right ?_
      rintro ⟨hre, hda⟩
      obtain ⟨hb, hs⟩ := flushed_back w inp ls cur
      simp [savedSame, writer, hb, hs hda, hre] at hsa
    · exact hr call hcall
  | case2 ls cur w hc hma ih =>
    have hl : compressLoop inp window ls cur w = compressLoop inp window ls (cur + 1) w := by
      rw [compressLoop, if_pos hc]
      split <;> rename_i hma'
      · simp [hma] at hma'
      · rfl
    rw [hl]
    exact ih
  | case3 ls cur w hc =>
    rw [compressLoop, if_neg hc]
    exact ⟨le_rfl, le_max_left _ _, fun call hcall => absurd hcall not_mem_nil⟩

/-- What the header declares: the farthest distance, as far as a `u32` goes. -/
lemma declaredDictSize_finish (w : CodeWriter) :
    declaredDictSize w.finish = some (min w.dictSizeMax (2 ^ 32 - 1)) := by
  have hlt : min w.dictSizeMax (2 ^ 32 - 1) < 256 ^ 4 :=
    Nat.lt_of_le_of_lt (Nat.min_le_right _ _) (by norm_num)
  have hf : w.finish = Lib.leBytes 4 (min w.dictSizeMax (2 ^ 32 - 1)) ++
      (w.outCtrl ctrlStreamEnd).code.drop dictSizeHeaderLen := by
    rw [finish, dictSizeMax_outCtrl]
    generalize min w.dictSizeMax (2 ^ 32 - 1) = header
    simp only [Lib.leBytes, Nat.shiftRight_eq_div_pow, Nat.div_div_eq_div_mul]
  have hl := Lib.length_leBytes 4 (min w.dictSizeMax (2 ^ 32 - 1))
  rw [declaredDictSize, hf, if_neg (by simp), take_left' hl, Lib.ofLe_leBytes_of_lt hlt]

/-- **The window bound**: of the references on the stream, and of the length arithmetic of the calls that
put them there. -/
theorem references_window (input : List UInt8) (params : Params) :
    ∃ declared, declaredDictSize (compress input params) = some declared ∧
      declared ≤ max 1 params.dictSize ∧
      (∀ ref ∈ decodedReferences input.length (.start (compress input params)),
        1 ≤ ref.distance ∧ ref.distance ≤ ref.emitted ∧ min ref.distance (2 ^ 32 - 1) ≤ declared) ∧
      decodedReferences input.length (.start (compress input params)) =
        (compressCalls input params).map (·.toReference) ∧
      ∀ call ∈ compressCalls input params, minMatchLen ≤ call.len ∧
        (call.same = false → bigPosForLen < call.distance → minMatchLen + 1 ≤ call.len) := by
  have hrefs := (decodes_compress input params le_rfl).2.2
  obtain ⟨hlw, hh, hr⟩ := compressLoop_window input (max params.dictSize 1) 0 0 (new params.literalLines)
  rw [hrefs, compress]
  unfold compressCalls
  generalize compressLoop input (max params.dictSize 1) 0 0 (new params.literalLines) = p
    at hlw hh hr
  obtain ⟨literalStart, w⟩ := p
  have hl : (if literalStart < input.length then w.outLiterals (input.drop literalStart)
      else w).dictSizeMax = w.dictSizeMax := by
    split <;> simp
  refine ⟨_, declaredDictSize_finish _, ?_, ?_, rfl, fun call hcall => ?_⟩
  · rw [hl]
    simp only [new] at hh
    omega
  · simp only [mem_map, forall_exists_index, and_imp, forall_apply_eq_imp_iff₂]
    intro call hcall
    obtain ⟨hp, he, -, hla, -⟩ := hr call hcall
    rw [hl]
    exact ⟨hp, he, min_le_min_right _ hla⟩
  · exact ⟨(hr call hcall).len, (hr call hcall).long_len⟩

/-! ## A header that is too small -/

/-- Both ends of `echo`. -/
def stamp : List UInt8 := [1, 2, 3]

/-- Three bytes, a gap, and the same three bytes. -/
def echo (gap : Nat) : List UInt8 := stamp ++ (replicate gap 0 ++ stamp)

variable {gap cur window i : Nat}

lemma length_echo (gap : Nat) : (echo gap).length = gap + 6 := by
  simp [echo, stamp]

lemma echo_head (h : i < 3) : (echo gap).getD i 0 = stamp.getD i 0 := getD_append _ _ _ _ h

lemma echo_rest (h : 3 ≤ i) : (echo gap).getD i 0 = (replicate gap 0 ++ stamp).getD (i - 3) 0 :=
  getD_append_right _ _ _ _ h

lemma echo_tail (h : i < 3) : (echo gap).getD (gap + 3 + i) 0 = (echo gap).getD i 0 := by
  have hs : gap + 3 + i - 3 - gap = i := by omega
  rw [echo_head h, echo_rest (by omega), getD_append_right _ _ _ _ (by simp; omega), length_replicate, hs]

/-- Only the first bytes of the two ends are ones. -/
lemma echo_one (hi : i ≤ gap + 3) (h : (echo gap).getD i 0 = (echo gap).getD (gap + 3) 0) :
    i = 0 ∨ i = gap + 3 := by
  have hon : (echo gap).getD (gap + 3) 0 = 1 := echo_tail (i := 0) (by decide)
  rw [hon] at h
  rcases lt_or_ge i 3 with hl | hge
  · rw [echo_head hl] at h
    interval_cases i <;> simp_all [stamp]
  · rcases eq_or_lt_of_le hi with rfl | hg
    · exact .inr rfl
    · rw [echo_rest hge, getD_append _ _ _ _ (by simp; omega)] at h
      simp [getD_eq_getElem?_getD, getElem?_replicate] at h
      split at h <;> simp at h

variable {inp : List UInt8} {maxLen dist : Nat}

lemma matchLenAt_ge {upTo : Nat} (hu : upTo ≤ maxLen)
    (hs : ∀ i < upTo, inp.getD (cur - dist + i) 0 = inp.getD (cur + i) 0) (len : Nat) :
    upTo ≤ matchLenAt inp cur maxLen dist len := by
  fun_induction matchLenAt inp cur maxLen dist len with
  | case1 len hm ih => exact ih
  | case2 len hst =>
    by_contra hl
    exact hst ⟨by omega, hs len (by omega)⟩

/-- The search finds something when there is something to find. -/
lemma scanDistances_isSome {maxDistance : Nat} {best : Option (Nat × Nat)}
    (h : best.isSome ∨ ∃ d, dist ≤ d ∧ d ≤ maxDistance ∧ minMatchLen + 1 ≤ matchLenAt inp
      cur maxLen d 0) : (scanDistances inp cur maxLen maxDistance best dist).isSome := by
  fun_induction scanDistances inp cur maxLen maxDistance best dist with
  | case1 best dist hd len minLen hc hm => rfl
  | case2 best dist hd len minLen hc hm ih => exact ih (.inl rfl)
  | case3 best dist hd len minLen hc ih =>
    refine ih ?_
    rcases h with hb | ⟨d, hg, hle, hl⟩
    · exact .inl hb
    · rcases eq_or_lt_of_le hg with rfl | hlt
      · refine .inl (Option.isSome_iff_ne_none.mpr fun hn => hc ⟨?_, by simp [hn]⟩)
        simp only [len, minLen]
        split <;> omega
      · exact .inr ⟨d, hlt, hle, hl⟩
  | case4 best dist hd =>
    rcases h with hb | ⟨d, hg, hle, -⟩
    · exact hb
    · omega

/-- A match that covers the start of the second end reaches back to the first. -/
lemma echo_match {rep len : Nat} {back : Bool}
    (hm : IsMatch (echo gap) cur window rep back len dist) (hcu : cur ≤ gap + 3)
    (hc : gap + 3 - cur < len) : dist = gap + 3 := by
  have hsp := (matchLenAt_spec (echo gap) cur (min ((echo gap).length - cur) maxMatchLen)
    dist 0 (Nat.zero_le _) (fun i hi => absurd hi (Nat.not_lt_zero i))).2
  have hb := (Nat.le_min.mp hm.distance_le).1
  have hp := hm.distance_pos
  have hs := hsp (gap + 3 - cur) (hm.len_eq ▸ hc)
  rw [show cur + (gap + 3 - cur) = gap + 3 by omega,
    show cur - dist + (gap + 3 - cur) = gap + 3 - dist by omega] at hs
  rcases echo_one (by omega) hs with h | h <;> omega

lemma echo_bestMatch (hw : gap + 3 ≤ window) (rep : Nat) (back : Bool) :
    bestMatch (echo gap) (gap + 3) window rep back ≠ none := by
  have hle : min ((echo gap).length - (gap + 3)) maxMatchLen = 3 := by
    rw [length_echo, maxMatchLen]
    omega
  have hl : 3 ≤ matchLenAt (echo gap) (gap + 3) 3 (gap + 3) 0 := by
    refine matchLenAt_ge le_rfl (fun i hi => ?_) 0
    rw [Nat.sub_self, Nat.zero_add, echo_tail hi]
  have hs : (scanDistances (echo gap) (gap + 3) 3 (min (gap + 3) window) none 1).isSome :=
    scanDistances_isSome (.inr ⟨gap + 3, by omega, le_min le_rfl hw, hl⟩)
  unfold bestMatch
  rw [hle]
  intro hn
  simp only [minMatchLen] at hn
  split_ifs at hn <;> simp_all

lemma echo_reference (hw : gap + 3 ≤ window) (ls : Nat) (hcu : cur ≤ gap + 3)
    (w : CodeWriter) : ∃ call ∈ dictCalls (echo gap) window ls cur w, call.distance = gap + 3 := by
  have hl := length_echo gap
  fun_induction dictCalls (echo gap) window ls cur w with
  | case1 ls cur w hc len dist hma writer ih =>
    have hm := bestMatch_isMatch hma
    by_cases hco : gap + 3 - cur < len
    · exact ⟨_, mem_cons_self, echo_match hm hcu hco⟩
    · obtain ⟨ref, href, hd⟩ := ih (by omega)
      exact ⟨ref, mem_cons_of_mem _ href, hd⟩
  | case2 ls cur w hc hma ih =>
    rcases eq_or_lt_of_le hcu with rfl | hlt
    · exact absurd hma (echo_bestMatch hw _ _)
    · exact ih hlt
  | case3 ls cur w hc => omega

/-- Two ends at least four gibibytes apart. -/
lemma declared_lt (hg : 2 ^ 32 ≤ gap + 3) : ∃ declared,
    declaredDictSize (compress (echo gap) ⟨gap + 3, true⟩) = some declared ∧
      ∃ ref ∈ decodedReferences (echo gap).length (.start (compress (echo gap) ⟨gap + 3, true⟩)),
        declared < ref.distance := by
  obtain ⟨call, hcall, hd⟩ := echo_reference (le_max_left (gap + 3) 1) 0 (zero_le _) (new true)
  rw [(decodes_compress (echo gap) ⟨gap + 3, true⟩ le_rfl).2.2]
  refine ⟨_, declaredDictSize_finish _, call.toReference, mem_map_of_mem hcall, ?_⟩
  rw [hd]
  omega

/-- The header says less than the distance. -/
theorem declared_too_small : ¬ ∀ (input : List UInt8) (params : Params) (declared : Nat),
    declaredDictSize (compress input params) = some declared →
      ∀ ref ∈ decodedReferences input.length (.start (compress input params)),
        ref.distance ≤ declared := by
  intro h
  obtain ⟨declared, hd, ref, href, hl⟩ := declared_lt (le_add_right (2 ^ 32) 3)
  exact absurd (h _ _ declared hd ref href) (Nat.not_le_of_lt hl)

end Hypercolor.Tinyuz
