import Hypercolor.Tinyuz.Stream

/-!
# Decompression inverts compression

* **`decompress_compress`**: every byte string comes back from its compressed stream, for every
  dictionary size, with and without literal lines, under every output limit that admits it.
* `decodes_compress`: the back-references that decoding meets on the stream are those that
  `compress` called `out_dict` for.

The decoder runs in lockstep with the symbols of the stream. `Decodes maxOut input refs out dictPosBack
haveDataBack s` says: a decoder that has produced `out`, remembers `dictPosBack` and
`haveDataBack`, and has `s` left on its stream meets `refs` and ends with `input`. One rule per item
(`decodes_literals`, `decodes_line`, `decodes_dictSyms`, `decodes_end`) prepends the item's symbols;
`compressLoop_advances` chains them along the parse, with the prefix of the input before
`literalStart` as the output so far.
-/

namespace Hypercolor.Tinyuz

open Lib.FlagTape List CodeWriter

/-! ## The references of a stream -/

/-- A back-reference, with the number of bytes before it. -/
structure Reference where
  emitted : Nat
  len : Nat
  distance : Nat

/-- The reference that takes the decoder from `d` to `d'`, if one does: no other item adds to the output
and leaves the literal flag down. -/
def stepReferences (d d' : Decoder) : List Reference :=
  if d'.haveDataBack ∨ d'.out.length ≤ d.out.length then []
  else [⟨d.out.length, d'.out.length - d.out.length, d'.dictPosBack⟩]

/-- The references that decoding meets, in order. -/
def decodedReferences (maxOut : Nat) (d : Decoder) : List Reference :=
  match _hstep : decodeStep maxOut d with
  | .error _ => []
  | .ok none => []
  | .ok (some d') => stepReferences d d' ++ decodedReferences maxOut d'
termination_by d.reader.bitsLeft
decreasing_by exact (decodeStep_later _hstep).bits

/-- The decoder of a stream, past its header. -/
def Decoder.start (code : List UInt8) : Decoder where
  reader := { code := code, pos := dictSizeHeaderLen, types := 0, typeCount := 0 }
  out := []
  dictPosBack := 1
  haveDataBack := false

/-- A call of `out_dict`: its reference, and whether the repeat flag stands for the distance. -/
structure DictCall extends Reference where
  same : Bool

/-- The writer before the reference at `cursor`: pending literals are out. -/
def flushed (input : List UInt8) (literalStart cursor : Nat) (writer : CodeWriter) : CodeWriter :=
  if literalStart < cursor then
    writer.outLiterals ((input.drop literalStart).take (cursor - literalStart)) else writer

/-- The calls of `out_dict` in `compressLoop`, in order. -/
def dictCalls (input : List UInt8) (window literalStart cursor : Nat) (writer : CodeWriter) :
    List DictCall :=
  if cursor < input.length then
    match h : bestMatch input cursor window writer.dictPosBack writer.haveDataBack with
    | some (len, distance) =>
        let writer := flushed input literalStart cursor writer
        ⟨⟨cursor, len, distance⟩, savedSame writer.haveDataBack writer.dictPosBack distance⟩ ::
          dictCalls input window (cursor + len) (cursor + len) (writer.outDict len distance)
    | none => dictCalls input window literalStart (cursor + 1) writer
  else []
termination_by input.length - cursor
decreasing_by
  · have := (bestMatch_isMatch h).len_ge
    simp only [minMatchLen] at this
    omega
  · omega

/-- The calls of `out_dict` that `compress` makes. -/
def compressCalls (input : List UInt8) (params : Params) : List DictCall :=
  dictCalls input (max params.dictSize 1) 0 0 (new params.literalLines)

/-! ## The decoder against a tape -/

/-- From this state, with `s` left on the stream, the decoder meets `refs` and ends with `input`. -/
def Decodes (maxOut : Nat) (input : List UInt8) (refs : List Reference) (out : List UInt8)
    (dictPosBack : Nat) (haveDataBack : Bool) (s : List Sym) : Prop :=
  ∀ r, Reads r s → decodeLoop maxOut ⟨r, out, dictPosBack, haveDataBack⟩ = .ok input ∧
    decodedReferences maxOut ⟨r, out, dictPosBack, haveDataBack⟩ = refs

variable {maxOut len distance dictPosBack matchLen cursor window a b : Nat} {d d' : Decoder}
variable {refs : List Reference}

/-- One item, and what decoding makes of the rest. -/
lemma decodes_of_step {input : List UInt8} (h : decodeStep maxOut d = .ok (some d'))
    (hd : decodeLoop maxOut d' = .ok input ∧ decodedReferences maxOut d' = refs) :
    decodeLoop maxOut d = .ok input ∧ decodedReferences maxOut d = stepReferences d d' ++ refs := by
  rw [decodeLoop, decodedReferences]
  constructor <;> split <;> rename_i hs <;> rw [h] at hs <;> cases hs
  · exact hd.1
  · rw [hd.2]

lemma decodes_of_end (h : decodeStep maxOut d = .ok none) :
    decodeLoop maxOut d = .ok d.out ∧ decodedReferences maxOut d = [] := by
  rw [decodeLoop, decodedReferences]
  constructor <;> split <;> rename_i hs <;> rw [h] at hs <;> cases hs

@[simp] lemma length_copyBack (start i n : Nat) (out : List UInt8) :
    (copyBack start i n out).length = out.length + n := by
  induction n generalizing i out with
  | zero => rfl
  | succ n ih =>
      rw [copyBack, ih, length_append, length_singleton]
      omega

variable {r : CodeReader} {haveDataBack same : Bool}

lemma readSame_reads {s : List Sym} (hs : haveDataBack = false → same = false)
    (h : Reads r (sameSyms haveDataBack same ++ s)) :
    ∃ r', readSame r haveDataBack = .ok (same, r') ∧ Reads r' s := by
  unfold readSame
  cases haveDataBack with
  | false => exact ⟨r, by simp [hs rfl], h⟩
  | true => exact readBit_reads h

section items

variable {input out : List UInt8} {s : List Sym}

theorem decodes_literal {byte : UInt8} (hro : out.length < maxOut)
    (h : Decodes maxOut input refs (out ++ [byte]) dictPosBack true s) :
    Decodes maxOut input refs out dictPosBack haveDataBack (.flag true :: .byte byte :: s) := by
  intro r hr
  obtain ⟨r₁, hbi, hr₁⟩ := readBit_reads hr
  obtain ⟨r₂, hb, hr₂⟩ := readByte_reads hr₁
  refine decodes_of_step ?_ (h r₂ hr₂)
  rw [decodeStep, Lib.bind_of_eq_ok hbi]
  simp only [if_true]
  rw [if_neg (by omega), Lib.bind_of_eq_ok hb]

theorem decodes_literals (data : List UInt8) (hr : out.length + data.length ≤ maxOut)
    (hn : data ≠ []) (h : Decodes maxOut input refs (out ++ data) dictPosBack true s) :
    Decodes maxOut input refs out dictPosBack haveDataBack
      ((data.flatMap fun byte => [.flag true, .byte byte]) ++ s) := by
  induction data generalizing out haveDataBack with
  | nil => exact absurd rfl hn
  | cons x data ih =>
      simp only [length_cons] at hr
      refine decodes_literal (by omega) ?_
      rcases eq_or_ne data [] with rfl | hd
      · exact h
      · refine ih ?_ hd (by simpa using h)
        simp only [length_append, length_singleton]
        omega

/-- The front of a reference or control code, read off the tape: type flag, length, distance. -/
lemma decodeStep_reads {dictPos : Nat} (hsa : haveDataBack = false → same = false)
    (hr : Reads r (.flag false :: (lenSyms len lenPackBits ++ (sameSyms haveDataBack same ++ ((if
      same then [] else dictPosSyms dictPos) ++ s))))) :
    ∃ r', Reads r' s ∧ decodeStep maxOut ⟨r, out, dictPosBack, haveDataBack⟩ =
      decodeReference maxOut ⟨r', out, dictPosBack, false⟩ (if same then dictPosBack else dictPos)
        (if !same && decide (dictPos > bigPosForLen) then len + 1 else len) := by
  obtain ⟨r₁, hb, hr₁⟩ := readBit_reads hr
  obtain ⟨r₂, hl, hr₂⟩ := unpackLen_reads (by decide) hr₁
  obtain ⟨r₃, hf, hr₃⟩ := readSame_reads hsa hr₂
  have hl' : r₁.unpackLen 1 = .ok (len, r₂) := hl
  have hs : ∀ {pos savedLen r'}, readSavedPos r₂ haveDataBack dictPosBack len = .ok (pos, savedLen, r') →
      decodeStep maxOut ⟨r, out, dictPosBack, haveDataBack⟩ =
        decodeReference maxOut ⟨r', out, dictPosBack, false⟩ pos savedLen := by
    intro pos savedLen r' hp
    rw [decodeStep, Lib.bind_of_eq_ok hb]
    simp only [Bool.false_eq_true, if_false]
    rw [Lib.bind_of_eq_ok hl', Lib.bind_of_eq_ok hp]
  cases same with
  | false =>
      obtain ⟨r₄, hp, hr₄⟩ := unpackDictPos_reads hr₃
      refine ⟨r₄, hr₄, hs ?_⟩
      rw [readSavedPos, Lib.bind_of_eq_ok hf]
      simp only [Bool.false_eq_true, if_false]
      rw [Lib.bind_of_eq_ok hp]
      simp
  | true =>
      refine ⟨r₃, hr₃, hs ?_⟩
      rw [readSavedPos, Lib.bind_of_eq_ok hf]
      rfl

/-- A control code, read off the tape. -/
lemma decodeStep_ctrl {ctrl : Nat} (hr : Reads r (ctrlSyms haveDataBack ctrl ++ s)) :
    ∃ r', Reads r' s ∧ decodeStep maxOut ⟨r, out, dictPosBack, haveDataBack⟩ =
      decodeCtrl maxOut ⟨r', out, dictPosBack, false⟩ ctrl := by
  have hr' : Reads r (.flag false :: (lenSyms ctrl lenPackBits ++ (sameSyms haveDataBack false ++
      ((if false then [] else dictPosSyms 0) ++ s)))) := by
    simpa [ctrlSyms] using hr
  obtain ⟨r', hrd, hs⟩ := decodeStep_reads (fun _ => rfl) hr'
  exact ⟨r', hrd, hs⟩

theorem decodes_end : Decodes maxOut out [] out dictPosBack haveDataBack
    (ctrlSyms haveDataBack ctrlStreamEnd) := by
  intro r hr
  rw [← append_nil (ctrlSyms _ _)] at hr
  obtain ⟨r', -, hs⟩ := decodeStep_ctrl hr
  exact decodes_of_end hs

theorem decodes_line (data : List UInt8) (hl : minLiteralLineLen ≤ data.length)
    (hro : out.length + data.length ≤ maxOut)
    (h : Decodes maxOut input refs (out ++ data) dictPosBack true s) :
    Decodes maxOut input refs out dictPosBack haveDataBack (ctrlSyms haveDataBack ctrlLiteralLine ++
      (lenSyms (data.length - minLiteralLineLen) posPackBits ++ (data.map .byte ++ s))) := by
  intro r hr
  obtain ⟨r₁, hr₁, hs⟩ := decodeStep_ctrl hr
  obtain ⟨r₂, hu, hr₂⟩ := unpackLen_reads (by decide) hr₁
  obtain ⟨ht, hb, hr₃⟩ := reads_bytes (by simp [minLiteralLineLen] at hl; omega) hr₂
  refine decodes_of_step ?_ (h _ hr₃)
  rw [hs, decodeCtrl, if_pos rfl, Lib.bind_of_eq_ok (show r₁.unpackLen 2 = _ from hu)]
  simp only [Nat.sub_add_cancel hl]
  rw [if_neg (by omega), if_neg (by omega), ht]

/-- A literal run, in whichever form the writer chose. -/
lemma decodes_litSyms (literalLines : Bool) (data : List UInt8) (hn : data ≠ [])
    (hr : out.length + data.length ≤ maxOut)
    (h : Decodes maxOut input refs (out ++ data) dictPosBack true s) :
    Decodes maxOut input refs out dictPosBack haveDataBack
      (litSyms literalLines haveDataBack data ++ s) := by
  unfold litSyms
  split
  · rename_i hl
    simp only [Bool.and_eq_true, decide_eq_true_eq] at hl
    simp only [append_assoc]
    exact decodes_line data hl.2 hr h
  · exact decodes_literals data hr hn h

/-- The length unit a long distance borrows is given back. -/
lemma savedLen_restored (hle : minMatchLen ≤ matchLen)
    (hl : distance > bigPosForLen → minMatchLen + 1 ≤ matchLen ∨ same) :
    (if !same && decide (distance > bigPosForLen) then savedLen same matchLen distance + 1
      else savedLen same matchLen distance) + minMatchLen = matchLen := by
  unfold savedLen
  by_cases hb : (!same && decide (distance > bigPosForLen))
  · simp only [if_pos hb]
    simp only [Bool.and_eq_true, Bool.not_eq_true', decide_eq_true_eq] at hb
    rcases hl hb.2 with h | h
    · omega
    · rw [h] at hb
      exact absurd hb.1 (by decide)
  · simp only [if_neg hb]
    omega

/-- A reference the search may return, with the copy it stands for. -/
lemma decodes_dictSyms (hp : 1 ≤ distance) (hb : distance ≤ out.length) (hle : minMatchLen ≤ matchLen)
    (hl : distance > bigPosForLen → minMatchLen + 1 ≤ matchLen ∨ savedSame haveDataBack
      dictPosBack distance) (hro : out.length + matchLen ≤ maxOut)
    (h : Decodes maxOut input refs (copyBack (out.length - distance) 0 matchLen out) distance false s) :
    Decodes maxOut input (⟨out.length, matchLen, distance⟩ :: refs) out dictPosBack haveDataBack
      (dictSyms haveDataBack dictPosBack matchLen distance ++ s) := by
  intro r hr
  have hsa : haveDataBack = false → savedSame haveDataBack dictPosBack distance = false := by
    rintro rfl
    simp [savedSame]
  have hr' : Reads r (.flag false ::
      (lenSyms (savedLen (savedSame haveDataBack dictPosBack distance) matchLen distance)
        lenPackBits ++ (sameSyms haveDataBack (savedSame haveDataBack dictPosBack distance) ++
        ((if savedSame haveDataBack dictPosBack distance then [] else dictPosSyms distance) ++
          s)))) := by
    simpa [dictSyms] using hr
  obtain ⟨r', hrd, hst⟩ := decodeStep_reads hsa hr'
  have hd : (if savedSame haveDataBack dictPosBack distance then dictPosBack else distance) =
      distance := by
    split
    · rename_i hs
      simp only [savedSame, Bool.and_eq_true, beq_iff_eq] at hs
      exact hs.1
    · rfl
  have hstep : decodeStep maxOut ⟨r, out, dictPosBack, haveDataBack⟩ =
      .ok (some ⟨r', copyBack (out.length - distance) 0 matchLen out, distance, false⟩) := by
    rw [hst, hd, decodeReference, if_pos (by omega)]
    simp only [savedLen_restored hle hl]
    rw [if_neg (by omega), if_neg (by omega)]
  have hpos : 0 < matchLen := Nat.lt_of_lt_of_le (by decide) hle
  simpa [stepReferences, hpos.ne'] using decodes_of_step hstep (h r' hrd)

end items

/-! ## The copy of a match -/

/-- Up to the common length, the bytes at the two positions agree. -/
lemma matchLenAt_spec (input : List UInt8) (cursor maxLen distance len : Nat) (hl : len ≤ maxLen)
    (hs : ∀ i < len, input.getD (cursor - distance + i) 0 = input.getD (cursor + i) 0) :
    matchLenAt input cursor maxLen distance len ≤ maxLen ∧
      ∀ i < matchLenAt input cursor maxLen distance len,
        input.getD (cursor - distance + i) 0 = input.getD (cursor + i) 0 := by
  fun_induction matchLenAt input cursor maxLen distance len with
  | case1 len hm ih =>
      refine ih hm.1 fun i hi => ?_
      rcases Nat.lt_succ_iff_lt_or_eq.mp hi with h | rfl
      · exact hs i h
      · exact hm.2
  | case2 len hst => exact ⟨hl, hs⟩

variable {input : List UInt8}

/-- Copying byte by byte from the prefix extends it by the match, overlap included. -/
lemma copyBack_take (hp : 1 ≤ distance) (hb : distance ≤ cursor) (n i : Nat)
    (hl : cursor + i + n ≤ input.length)
    (hs : ∀ j < i + n, input.getD (cursor - distance + j) 0 = input.getD (cursor + j) 0) :
    copyBack (cursor - distance) i n (input.take (cursor + i)) = input.take (cursor + i + n) := by
  induction n generalizing i with
  | zero => rfl
  | succ n ih =>
      have hi : cursor + i < input.length := by omega
      have hc : (input.take (cursor + i)).getD (cursor - distance + i) 0 = input[cursor + i] := by
        rw [getD_eq_getElem?_getD, getElem?_take_of_lt (by omega),
          ← getD_eq_getElem?_getD, hs i (by omega), getD_eq_getElem _ _ hi]
      have hn : input.take (cursor + i) ++ [input[cursor + i]] = input.take (cursor + (i + 1)) :=
        (take_append_getElem hi)
      rw [copyBack, hc, hn, ih (i + 1) (by omega) (fun j hj => hs j (by omega))]
      congr 1
      omega

/-- The copy of a match found at `cursor`. -/
lemma copyBack_isMatch {rep : Nat} (hc : cursor < input.length)
    (h : IsMatch input cursor window rep haveDataBack len distance) : cursor + len ≤ input.length ∧
      copyBack (cursor - distance) 0 len (input.take cursor) = input.take (cursor + len) := by
  obtain ⟨hle, hs⟩ := matchLenAt_spec input cursor (min (input.length - cursor) maxMatchLen)
    distance 0 (Nat.zero_le _) (by simp)
  rw [← h.len_eq] at hle hs
  have hd := h.distance_le
  have hl : cursor + len ≤ input.length := by omega
  exact ⟨hl, copyBack_take h.distance_pos (by omega) len 0 (by omega) (by simpa using hs)⟩

/-! ## The parse -/

/-- The pending literals, as bytes of the input. -/
lemma take_append_pending {ls : Nat} (h : ls ≤ cursor) :
    input.take ls ++ (input.drop ls).take (cursor - ls) = input.take cursor := by
  rw [← take_add, Nat.add_sub_cancel' h]

section parse

/-- Between `w` and `w'` the writer has put out symbols for the input from `a` to `b`, `refs` among them:
a decoder that stands at `a` with the variables of `w` gets to `b` with those of `w'`. -/
def Advances (maxOut : Nat) (input : List UInt8) (a : Nat) (w : CodeWriter) (refs : List Reference)
    (b : Nat) (w' : CodeWriter) : Prop :=
  ∃ s, w'.tape = w.tape.emits s ∧
    ∀ t rest, Decodes maxOut input rest (input.take b) w'.dictPosBack w'.haveDataBack t →
      Decodes maxOut input (refs ++ rest) (input.take a) w.dictPosBack w.haveDataBack (s ++ t)

lemma Advances.refl (a : Nat) (w : CodeWriter) : Advances maxOut input a w [] a w :=
  ⟨[], rfl, fun _ _ => id⟩

lemma Advances.trans {c : Nat} {w₁ w₂ w₃ : CodeWriter} {refs' : List Reference}
    (h₁ : Advances maxOut input a w₁ refs b w₂) (h₂ : Advances maxOut input b w₂ refs' c w₃) :
    Advances maxOut input a w₁ (refs ++ refs') c w₃ := by
  obtain ⟨s, hs, hdec₁⟩ := h₁
  obtain ⟨t, ht, hdec₂⟩ := h₂
  refine ⟨s ++ t, by rw [ht, hs, Writer.emits_append], fun u rest hu => ?_⟩
  rw [append_assoc, append_assoc]
  exact hdec₁ _ _ (hdec₂ u rest hu)

section

variable (hmax : input.length ≤ maxOut)
include hmax

/-- A literal run of the input. -/
lemma outLiterals_advances (hl : a < b) (hb : b ≤ input.length) (w : CodeWriter) :
    Advances maxOut input a w [] b (w.outLiterals ((input.drop a).take (b - a))) := by
  obtain ⟨w₁, hw₁, he⟩ := w.outLiterals_eq ((input.drop a).take (b - a))
  rw [he]
  refine ⟨_, hw₁.tape_eq, fun t rest ht => ?_⟩
  rw [← take_append_pending hl.le] at ht
  simp only [hw₁.dictPosBack_eq] at ht
  refine decodes_litSyms w.literalLines _ ?_ ?_ ht
  · intro hn
    have := congrArg length hn
    simp only [length_take, length_drop, length_nil] at this
    omega
  · simp only [length_take, length_drop]
    omega

/-- A match of the input. -/
lemma outDict_advances {w : CodeWriter} (hcr : cursor < input.length) (hd : haveDataBack → w.haveDataBack)
    (hm : IsMatch input cursor window w.dictPosBack haveDataBack len distance) :
    Advances maxOut input cursor w [⟨cursor, len, distance⟩] (cursor + len) (w.outDict len distance) := by
  obtain ⟨w₁, hw₁, he⟩ := w.outDict_eq len distance
  obtain ⟨hl, hc⟩ := copyBack_isMatch hcr hm
  have hdi := hm.distance_le
  have hta : (input.take cursor).length = cursor := length_take_of_le hcr.le
  rw [he]
  refine ⟨_, hw₁.tape_eq, fun t rest ht => ?_⟩
  rw [singleton_append]
  nth_rewrite 1 [← hta]
  refine decodes_dictSyms hm.distance_pos (by omega) hm.len_ge (fun hbi => ?_) (by omega) ?_
  · rcases hm.long_len hbi with h | ⟨h, hb⟩
    · exact .inl h
    · exact .inr (by simp [savedSame, h, hd hb])
  · rw [hta, hc]
    exact ht

omit hmax in
lemma dictCalls_of_match {ls : Nat} {w : CodeWriter} (hc : cursor < input.length)
    (hm : bestMatch input cursor window w.dictPosBack w.haveDataBack = some (len, distance)) :
    let flushed := flushed input ls cursor w
    dictCalls input window ls cursor w =
      ⟨⟨cursor, len, distance⟩, savedSame flushed.haveDataBack flushed.dictPosBack distance⟩ ::
        dictCalls input window (cursor + len) (cursor + len) (flushed.outDict len distance) := by
  rw [dictCalls, if_pos hc]
  split <;> rename_i hs <;> rw [hm] at hs <;> cases hs
  rfl

omit hmax in
lemma dictCalls_of_none {ls : Nat} {w : CodeWriter} (hc : cursor < input.length)
    (hm : bestMatch input cursor window w.dictPosBack w.haveDataBack = none) :
    dictCalls input window ls cursor w = dictCalls input window ls (cursor + 1) w := by
  rw [dictCalls, if_pos hc]
  split <;> rename_i hs
  · rw [hm] at hs
    cases hs
  · rfl

/-- The parsing loop, from any point of the parse. -/
lemma compressLoop_advances (window ls cursor : Nat) (w : CodeWriter)
    (hle : ls ≤ cursor) (hi : cursor ≤ input.length) :
    (compressLoop input window ls cursor w).1 ≤ input.length ∧
      Advances maxOut input ls w ((dictCalls input window ls cursor w).map (·.toReference))
        (compressLoop input window ls cursor w).1 (compressLoop input window ls cursor w).2 := by
  fun_induction compressLoop input window ls cursor w with
  | case1 ls cursor w hc len distance hma writer ih =>
      have hm := bestMatch_isMatch hma
      have he := (copyBack_isMatch hc hm).1
      obtain ⟨hb, hr⟩ := ih le_rfl he
      rw [dictCalls_of_match hc hma, map_cons, ← singleton_append]
      refine ⟨hb, Advances.trans ?_ hr⟩
      by_cases hl : ls < cursor
      · have hw : writer = w.outLiterals ((input.drop ls).take (cursor - ls)) := if_pos hl
        obtain ⟨w₁, hw₁, heq⟩ := w.outLiterals_eq ((input.drop ls).take (cursor - ls))
        rw [hw]
        refine (outLiterals_advances hmax hl hi w).trans ?_
        rw [heq]
        rw [← hw₁.dictPosBack_eq] at hm
        exact outDict_advances hmax hc (fun _ => rfl) hm
      · obtain rfl : ls = cursor := by omega
        have hw : writer = w := if_neg hl
        rw [hw]
        exact outDict_advances hmax hc (fun h => h) hm
  | case2 ls cursor w hc hma ih =>
      rw [dictCalls_of_none hc hma]
      exact ih (by omega) (by omega)
  | case3 ls cursor w hc =>
      rw [dictCalls, if_neg hc]
      exact ⟨by omega, Advances.refl _ _⟩

/-- The whole writer, before the stream end. -/
lemma compress_advances (params : Params) : ∃ w, compress input params = w.finish ∧
      Advances maxOut input 0 (new params.literalLines)
        ((compressCalls input params).map (·.toReference)) input.length w := by
  obtain ⟨hb, ha⟩ := compressLoop_advances hmax (max params.dictSize 1) 0 0
    (new params.literalLines) le_rfl (Nat.zero_le _)
  refine ⟨_, rfl, ?_⟩
  unfold compressCalls
  generalize compressLoop input (max params.dictSize 1) 0 0 (new params.literalLines) = p
    at hb ha
  obtain ⟨ls, w⟩ := p
  rw [← append_nil (map _ _)]
  refine ha.trans ?_
  split
  · rename_i hl
    have h := outLiterals_advances hmax hl le_rfl w
    rwa [take_of_length_le (by simp)] at h
  · obtain rfl : ls = input.length := by omega
    exact .refl _ _

end

end parse

/-- What decoding makes of a compressed stream, past its header. -/
lemma decodes_compress (input : List UInt8) (params : Params) {maxOut : Nat}
    (hmax : input.length ≤ maxOut) :
    dictSizeHeaderLen ≤ (compress input params).length ∧
      decodeLoop maxOut (.start (compress input params)) = .ok input ∧
      decodedReferences maxOut (.start (compress input params)) =
        (compressCalls input params).map (·.toReference) := by
  obtain ⟨w, hw, s, ht, hd⟩ := compress_advances hmax params
  have hc := (w.wrote_outCtrl ctrlStreamEnd).tape_eq
  rw [ht, ← Writer.emits_append] at hc
  have hr : (new params.literalLines).tape.Ready := ⟨by simp [tape, new], by simp [tape, new]⟩
  have hco : (w.outCtrl ctrlStreamEnd).code = replicate dictSizeHeaderLen 0 ++
      (pack 0 (s ++ ctrlSyms w.haveDataBack ctrlStreamEnd)).2 :=
    (congrArg Writer.code hc).trans (Writer.emits_code hr _)
  rw [take_length] at hd
  have he := hd _ [] decodes_end
  rw [append_nil] at he
  refine ⟨by simp [hw, finish, dictSizeHeaderLen], he _ ⟨0, by decide, rfl, by simp, ?_⟩⟩
  -- past the header, the stream is the packing of the symbols written
  simp [hw, finish, hco, dictSizeHeaderLen]

/-- **Round trip.** Decompressing a compressed stream gives the input back, for every input,
every parameters and every output limit that admits the input. -/
theorem decompress_compress (input : List UInt8) (params : Params) (maxOut : Nat)
    (hmax : input.length ≤ maxOut) : decompress (compress input params) maxOut = .ok input := by
  obtain ⟨hl, hd, -⟩ := decodes_compress input params hmax
  rw [decompress, if_neg (Nat.not_lt.mpr hl)]
  exact hd

/-- A run with a repeat that overlaps itself. -/
theorem decompress_compress_overlap : [7, 7, 7, 7, 7].length ≤ 5 ∧
      decompress (compress [7, 7, 7, 7, 7] ⟨4096, true⟩) 5 = .ok [7, 7, 7, 7, 7] :=
  ⟨by decide, decompress_compress [7, 7, 7, 7, 7] ⟨4096, true⟩ 5 (by decide)⟩

end Hypercolor.Tinyuz
