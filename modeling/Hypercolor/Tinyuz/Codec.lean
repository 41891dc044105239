import Mathlib.Tactic
import Hypercolor.Lib.Fallible

/-!
# The tinyuz codec of the wireless fan receivers

`tinyuz.rs` of the Lian Li wireless driver: the stream writer `CodeWriter`, the greedy parser
`compress` with its match search `best_match`, the stream reader `CodeReader` and the decoder
`decompress`.

* A stream is a 4-byte dictionary size followed by a code stream that mixes *type bytes* (bit
  flags, filled LSB first) with literal and position bytes. A type byte is allocated the moment
  its first flag is written and later flags fill it in place, so `CodeWriter.outType` edits a byte
  that other bytes may already follow.
* `usize` values are naturals: every quantity the writer handles is bounded by the length of the
  input, and the shifts of the reader stay below `2 ^ 11`. Bytes are `UInt8`.
* The loops of the source are recursive functions that stop for the source's own reason: the
  cursor of the parser advances, the reader consumes at least one flag per item
  (`decodeStep_later`). No loop carries fuel.
-/

namespace Hypercolor.Tinyuz

/-! ## Constants -/

def dictSizeHeaderLen : Nat := 4
def minLiteralLineLen : Nat := 15
def minMatchLen : Nat := 2
def typeBitsPerByte : Nat := 8
/-- Distances above this borrow one length unit; the decoder adds it back. -/
def bigPosForLen : Nat := (1 <<< 11) + (1 <<< 9) + (1 <<< 7) - 1
def lenPackBits : Nat := 1
def posPackBits : Nat := 2
def ctrlLiteralLine : Nat := 1
def ctrlClipEnd : Nat := 2
def ctrlStreamEnd : Nat := 3
/-- Longest match the reference encoder emits. -/
def maxMatchLen : Nat := 1024 * 64 - 1

/-- `tinyuz.rs` `Params`: compression parameters. -/
structure Params where
  /-- Dictionary (window) size in bytes. -/
  dictSize : Nat
  /-- Emit literal-line control codes for long incompressible runs. -/
  literalLines : Bool

/-! ## The stream writer -/

/-- `tinyuz.rs` `CodeWriter`: bit-flag and byte writer. -/
structure CodeWriter where
  code : List UInt8
  typesIndex : Nat
  typeCount : Nat
  dictPosBack : Nat
  haveDataBack : Bool
  dictSizeMax : Nat
  literalLines : Bool

/-- `saved_same_pos` of `out_dict`: the distance repeats and the flag for it is encodable. -/
def savedSame (haveDataBack : Bool) (dictPosBack distance : Nat) : Bool :=
  (dictPosBack == distance) && haveDataBack

/-- `len` of `out_dict`: a long distance that is written out borrows one length unit. -/
def savedLen (same : Bool) (matchLen distance : Nat) : Nat :=
  if !same && decide (distance > bigPosForLen) then matchLen - minMatchLen - 1
  else matchLen - minMatchLen

namespace CodeWriter

/-- `new` -/
def new (literalLines : Bool) : CodeWriter where
  code := List.replicate dictSizeHeaderLen 0
  typesIndex := 0
  typeCount := 0
  dictPosBack := 1
  haveDataBack := false
  dictSizeMax := 1
  literalLines := literalLines

variable (w : CodeWriter)

/-- Append one stream byte: the source's `self.code.push`. -/
def push (byte : UInt8) : CodeWriter :=
  { w with code := w.code ++ [byte] }

/-- `out_type`: write one type flag, allocating a type byte when none is open. -/
def outType (bit : Bool) : CodeWriter :=
  let w := if w.typeCount = 0 then
      { w with typesIndex := w.code.length, code := w.code ++ [0] } else w
  let w := if bit then
      { w with code := w.code.modify w.typesIndex (· ||| UInt8.ofNat (1 <<< w.typeCount)) } else w
  { w with typeCount := if w.typeCount + 1 = typeBitsPerByte then 0 else w.typeCount + 1 }

/-- The first loop of `out_len`: strip the per-group bias, counting the groups. -/
def lenGroups (packBits remaining count : Nat) : Nat × Nat :=
  let groupMax := 1 <<< (count * packBits)
  if remaining < groupMax then (remaining, count)
  else lenGroups packBits (remaining - groupMax) (count + 1)
termination_by remaining
decreasing_by
  have h : 0 < 1 <<< (count * packBits) := by
    rw [Nat.one_shiftLeft]
    exact Nat.two_pow_pos _
  omega

/-- The second loop of `out_len`: the groups, most significant first, each with its continue
flag. -/
def outGroups (w : CodeWriter) (remaining packBits : Nat) : Nat → CodeWriter
  | 0 => w
  | group + 1 =>
      let w := (List.range packBits).foldl
        (fun w bit => w.outType (((remaining >>> (group * packBits + bit)) &&& 1) == 1)) w
      outGroups (w.outType (decide (group > 0))) remaining packBits group

/-- `out_len`: varint: `packBits` value bits then one continue bit per group. -/
def outLen (value packBits : Nat) : CodeWriter :=
  let (remaining, count) := lenGroups packBits value 1
  w.outGroups remaining packBits count

/-- `out_dict_pos` -/
def outDictPos (savedPos : Nat) : CodeWriter :=
  let long := decide (savedPos ≥ 1 <<< 7)
  let pos := if long then savedPos - 1 <<< 7 else savedPos
  let low := UInt8.ofNat (pos &&& 0x7F)
  let w := w.push (low ||| if long then 0x80 else 0)
  if long then w.outLen (pos >>> 7) posPackBits else w

/-- `out_ctrl` -/
def outCtrl (ctrl : Nat) : CodeWriter :=
  let w := w.outType false
  let w := w.outLen ctrl lenPackBits
  let w := if w.haveDataBack then w.outType false else w
  w.outDictPos 0

/-- `out_literals` -/
def outLiterals (data : List UInt8) : CodeWriter :=
  let w := if w.literalLines && decide (data.length ≥ minLiteralLineLen) then
      let w := w.outCtrl ctrlLiteralLine
      let w := w.outLen (data.length - minLiteralLineLen) posPackBits
      { w with code := w.code ++ data }
    else
      data.foldl (fun w byte => (w.outType true).push byte) w
  { w with haveDataBack := true }

/-- `out_dict`: emit a reference to `matchLen` bytes at `distance` (1-based) back. -/
def outDict (matchLen distance : Nat) : CodeWriter :=
  let w := w.outType false
  let w := { w with dictSizeMax := max w.dictSizeMax distance }
  let savedSamePos := savedSame w.haveDataBack w.dictPosBack distance
  let w := w.outLen (savedLen savedSamePos matchLen distance) lenPackBits
  let w := if w.haveDataBack then w.outType savedSamePos else w
  let w := if !savedSamePos then w.outDictPos distance else w
  { w with haveDataBack := false, dictPosBack := distance }

/-- `finish`: close the stream and fill in the dictionary size it used (`u32::to_le_bytes`). -/
def finish : List UInt8 :=
  let w := w.outCtrl ctrlStreamEnd
  let header := min w.dictSizeMax (2 ^ 32 - 1)
  [UInt8.ofNat header, UInt8.ofNat (header >>> 8), UInt8.ofNat (header >>> 16),
    UInt8.ofNat (header >>> 24)] ++ w.code.drop dictSizeHeaderLen

end CodeWriter

/-! ## The greedy parser -/

/-- The closure `match_len_at` of `best_match`: how far the bytes from `cursor - distance` agree
with those from `cursor`, from `len` on and up to `maxLen`. -/
def matchLenAt (input : List UInt8) (cursor maxLen distance len : Nat) : Nat :=
  if len < maxLen ∧ input.getD (cursor - distance + len) 0 = input.getD (cursor + len) 0 then
    matchLenAt input cursor maxLen distance (len + 1)
  else len
termination_by maxLen - len

/-- The distance loop of `best_match`, from `distance` on. -/
def scanDistances (input : List UInt8) (cursor maxLen maxDistance : Nat)
    (best : Option (Nat × Nat)) (distance : Nat) : Option (Nat × Nat) :=
  if distance ≤ maxDistance then
    let len := matchLenAt input cursor maxLen distance 0
    let minLen := if distance > bigPosForLen then minMatchLen + 1 else minMatchLen
    if len ≥ minLen ∧ best.all (fun b => len > b.1) then
      if len = maxLen then some (len, distance)
      else scanDistances input cursor maxLen maxDistance (some (len, distance)) (distance + 1)
    else scanDistances input cursor maxLen maxDistance best (distance + 1)
  else best
termination_by maxDistance + 1 - distance

/-- The shortest match worth taking at the repeat distance: a long distance written without the
shortcut borrows a length unit. -/
def repeatMinLen (haveDataBack : Bool) (repeatDistance : Nat) : Nat :=
  if !haveDataBack && decide (repeatDistance > bigPosForLen) then minMatchLen + 1 else minMatchLen

lemma minMatchLen_le_repeatMinLen (haveDataBack : Bool) (rd : Nat) :
    minMatchLen ≤ repeatMinLen haveDataBack rd := by
  unfold repeatMinLen
  split <;> omega

/-- `tinyuz.rs` `best_match`: longest match over the window, preferring the repeat distance when
nearly as long. -/
def bestMatch (input : List UInt8) (cursor window repeatDistance : Nat) (haveDataBack : Bool) :
    Option (Nat × Nat) :=
  let maxLen := min (input.length - cursor) maxMatchLen
  if maxLen < minMatchLen then none
  else
    let maxDistance := min cursor window
    let best := scanDistances input cursor maxLen maxDistance none 1
    if repeatDistance ≥ 1 ∧ repeatDistance ≤ maxDistance then
      let len := matchLenAt input cursor maxLen repeatDistance 0
      if len ≥ repeatMinLen haveDataBack repeatDistance ∧
        best.all (fun b => len + 1 ≥ b.1) then some (len, repeatDistance)
      else best
    else best

/-! ### What the match search returns -/

/-- A match the search may return: a distance inside the window, the exact common length there,
at least two, and at least three for a long distance unless the repeat shortcut applies. -/
structure IsMatch (input : List UInt8) (cursor window repeatDistance : Nat) (haveDataBack : Bool)
    (len distance : Nat) : Prop where
  distance_pos : 1 ≤ distance
  distance_le : distance ≤ min cursor window
  len_eq : len = matchLenAt input cursor (min (input.length - cursor) maxMatchLen) distance 0
  len_ge : minMatchLen ≤ len
  long_len : distance > bigPosForLen →
    minMatchLen + 1 ≤ len ∨ (distance = repeatDistance ∧ haveDataBack)

variable {dist len bits pb savedLen sp : Nat}

variable (inp : List UInt8) (cur window rep : Nat) (haveDataBack : Bool)

/-- A length the distance loop accepts, as a match. -/
lemma isMatch_of_scanned (hp : 1 ≤ dist) (hd : dist ≤ min cur window)
    (hl : matchLenAt inp cur (min (inp.length - cur) maxMatchLen) dist 0 ≥ if
      dist > bigPosForLen then minMatchLen + 1 else minMatchLen) :
    IsMatch inp cur window rep haveDataBack
      (matchLenAt inp cur (min (inp.length - cur) maxMatchLen) dist 0) dist where
  distance_pos := hp
  distance_le := hd
  len_eq := rfl
  len_ge := by split at hl <;> omega
  long_len := fun h => .inl (by rwa [if_pos h] at hl)

/-- The distance loop returns its starting candidate or a match of the window. -/
lemma scanDistances_isMatch (best : Option (Nat × Nat)) (dist : Nat) (hp : 1 ≤ dist)
    (hb : ∀ b ∈ best, IsMatch inp cur window rep haveDataBack b.1 b.2) :
    ∀ b ∈ scanDistances inp cur (min (inp.length - cur) maxMatchLen) (min cur window) best dist,
      IsMatch inp cur window rep haveDataBack b.1 b.2 := by
  fun_induction scanDistances inp cur (min (inp.length - cur) maxMatchLen)
      (min cur window) best dist with
  | case1 best dist hd len minLen hc hm =>
      rintro b ⟨⟩
      exact isMatch_of_scanned _ _ _ _ _ hp hd hc.1
  | case2 best dist hd len minLen hc hm ih =>
      refine ih (by omega) ?_
      rintro b ⟨⟩
      exact isMatch_of_scanned _ _ _ _ _ hp hd hc.1
  | case3 best dist hd len minLen hc ih => exact ih (by omega) hb
  | case4 best dist hd => exact hb

variable {haveDataBack : Bool}

/-- Everything the parser relies on about a match it is handed. -/
lemma bestMatch_isMatch {inp : List UInt8} {cur window rep : Nat}
    (h : bestMatch inp cur window rep haveDataBack = some (len, dist)) :
    IsMatch inp cur window rep haveDataBack len dist := by
  have hs := scanDistances_isMatch inp cur window rep haveDataBack none 1 le_rfl (by simp)
  unfold bestMatch at h
  simp only at h
  split_ifs at h with hm hr hl
  · obtain ⟨rfl, rfl⟩ : _ ∧ _ := by simpa using h
    have hg := minMatchLen_le_repeatMinLen haveDataBack rep
    refine ⟨hr.1, hr.2, rfl, by omega, fun hbi => ?_⟩
    -- without the shortcut a long distance was searched with the larger bound
    cases hb : haveDataBack with
    | false => exact .inl (by simpa [repeatMinLen, hb, hbi] using hl.1)
    | true => exact .inr ⟨rfl, rfl⟩
  · exact hs (len, dist) h
  · exact hs (len, dist) h

/-- The parsing loop of `compress`: pending literals run from `literalStart` to `cursor`. -/
def compressLoop (input : List UInt8) (window : Nat) (literalStart cursor : Nat)
    (writer : CodeWriter) : Nat × CodeWriter :=
  if cursor < input.length then
    match h : bestMatch input cursor window writer.dictPosBack writer.haveDataBack with
    | some (len, distance) =>
        let writer := if literalStart < cursor then
          writer.outLiterals ((input.drop literalStart).take (cursor - literalStart)) else writer
        compressLoop input window (cursor + len) (cursor + len) (writer.outDict len distance)
    | none => compressLoop input window literalStart (cursor + 1) writer
  else (literalStart, writer)
termination_by input.length - cursor
decreasing_by
  · have := (bestMatch_isMatch h).len_ge
    simp only [minMatchLen] at this
    omega
  · omega

/-- `tinyuz.rs` `compress`: compress `input` into a tinyuz stream the firmware can decode. -/
def compress (input : List UInt8) (params : Params) : List UInt8 :=
  let window := max params.dictSize 1
  let (literalStart, writer) := compressLoop input window 0 0 (CodeWriter.new params.literalLines)
  let writer := if literalStart < input.length then
    writer.outLiterals (input.drop literalStart) else writer
  writer.finish

/-! ## The stream reader -/

/-- `tinyuz.rs` `DecodeError`: decoder failures. -/
inductive DecodeError where
  /-- The stream ended before its stream-end control code. -/
  | truncated
  /-- A reference reached before the start of the output. -/
  | badDistance
  /-- A control code the format does not define. -/
  | unknownControl (ctrl : Nat)
  /-- Output exceeded the caller's limit. -/
  | outputTooLarge (limit : Nat)
deriving DecidableEq, Repr

/-- `tinyuz.rs` `CodeReader`: sequential reader of a code stream; `pos` is the source's `at`. -/
structure CodeReader where
  code : List UInt8
  pos : Nat
  types : Nat
  typeCount : Nat

variable {r r' : CodeReader}

namespace CodeReader

/-- `read_byte` -/
def readByte (r : CodeReader) : Except DecodeError (UInt8 × CodeReader) :=
  match r.code[r.pos]? with
  | none => .error .truncated
  | some byte => .ok (byte, { r with pos := r.pos + 1 })

/-- `read_lowbits`: take `bitCount` flags, fetching the next type byte when too few are left. The
result carries the flags in its low bits and whatever follows them above. -/
def readLowbits (r : CodeReader) (bitCount : Nat) : Except DecodeError (Nat × CodeReader) :=
  let count := r.typeCount
  let result := r.types
  if count ≥ bitCount then
    .ok (result, { r with typeCount := count - bitCount, types := result >>> bitCount })
  else do
    let (byte, r) ← r.readByte
    let fresh := byte.toNat
    let needed := bitCount - count
    .ok (result ||| (fresh <<< count),
      { r with typeCount := typeBitsPerByte - needed, types := fresh >>> needed })

/-- `read_bit` -/
def readBit (r : CodeReader) : Except DecodeError (Bool × CodeReader) := do
  let (bits, r) ← r.readLowbits 1
  .ok ((bits &&& 1) == 1, r)

/-- Flags and bytes still to be consumed, in bits. -/
def bitsLeft (r : CodeReader) : Nat :=
  typeBitsPerByte * (r.code.length - r.pos) + r.typeCount

/-- `r'` reads the same input further on, by `used` bits at least. -/
structure Later (used : Nat) (r r' : CodeReader) : Prop where
  code : r'.code = r.code
  bits : r'.bitsLeft + used ≤ r.bitsLeft
  pos : r.pos ≤ r.code.length → r'.pos ≤ r'.code.length

lemma Later.trans {m n : Nat} {r'' : CodeReader} (h : Later m r r') (h' : Later n r' r'') :
    Later m r r'' where
  code := h'.code.trans h.code
  bits := by
    have hm := h.bits
    have hn := h'.bits
    omega
  pos := fun hp => h'.pos (h.pos hp)

lemma Later.refl (r : CodeReader) : Later 0 r r := ⟨rfl, le_rfl, id⟩

lemma readByte_later {byte : UInt8} (h : r.readByte = .ok (byte, r')) : Later 1 r r' := by
  unfold readByte at h
  split at h
  · cases h
  · rename_i hg
    cases h
    have hl : r.pos < r.code.length := (List.getElem?_eq_some_iff.mp hg).1
    refine ⟨rfl, ?_, fun _ => hl⟩
    simp only [bitsLeft, typeBitsPerByte]
    omega

lemma readLowbits_later {bitCount : Nat} (hp : 0 < bitCount)
    (h : r.readLowbits bitCount = .ok (bits, r')) : Later 1 r r' := by
  unfold readLowbits at h
  simp only at h
  split at h
  · cases h
    refine ⟨rfl, ?_, id⟩
    simp only [bitsLeft]
    omega
  · obtain ⟨⟨byte, r₁⟩, hb, ⟨⟩⟩ := Lib.bind_eq_ok.mp h
    have hl := readByte_later hb
    refine ⟨hl.code, ?_, hl.pos⟩
    unfold readByte at hb
    split at hb
    · cases hb
    · rename_i hg
      cases hb
      have hlt : r.pos < r.code.length := (List.getElem?_eq_some_iff.mp hg).1
      simp only [bitsLeft, typeBitsPerByte]
      omega

lemma readBit_later {bit : Bool} (h : r.readBit = .ok (bit, r')) : Later 1 r r' := by
  obtain ⟨⟨bits, r₁⟩, hb, ⟨⟩⟩ := Lib.bind_eq_ok.mp h
  exact readLowbits_later Nat.one_pos hb

/-- The loop of `unpack_len` with the value read so far. -/
def unpackLenFrom (r : CodeReader) (packBits value : Nat) : Except DecodeError (Nat × CodeReader) :=
  match h : r.readLowbits (packBits + 1) with
  | .error e => .error e
  | .ok (bits, r') =>
      let group := bits &&& ((1 <<< packBits) - 1)
      let value := (value <<< packBits) + group
      if bits &&& (1 <<< packBits) = 0 then .ok (value, r')
      else unpackLenFrom r' packBits (value + 1)
termination_by r.bitsLeft
decreasing_by exact (readLowbits_later (Nat.succ_pos _) h).bits

lemma unpackLenFrom_of_readLowbits (h : r.readLowbits (pb + 1) = .ok (bits, r')) (v : Nat) :
    r.unpackLenFrom pb v =
      if bits &&& (1 <<< pb) = 0 then
        .ok ((v <<< pb) + (bits &&& ((1 <<< pb) - 1)), r')
      else r'.unpackLenFrom pb
        ((v <<< pb) + (bits &&& ((1 <<< pb) - 1)) + 1) := by
  rw [unpackLenFrom]
  split
  · rename_i hr
    rw [h] at hr
    cases hr
  · rename_i hr
    rw [h] at hr
    cases hr
    rfl

/-- `unpack_len` -/
def unpackLen (r : CodeReader) (packBits : Nat) : Except DecodeError (Nat × CodeReader) :=
  r.unpackLenFrom packBits 0

/-- `unpack_dict_pos` -/
def unpackDictPos (r : CodeReader) : Except DecodeError (Nat × CodeReader) := do
  let (byte, r) ← r.readByte
  let byte := byte.toNat
  if byte < 1 <<< 7 then .ok (byte, r)
  else
    let (high, r) ← r.unpackLen 2
    .ok (((byte &&& 0x7F) ||| (high <<< 7)) + 1 <<< 7, r)

lemma unpackLenFrom_later {v : Nat} (h : r.unpackLenFrom pb v = .ok (len, r')) : Later 1 r r' := by
  fun_induction unpackLenFrom r pb v with
  | case1 r v e hr => cases h
  | case2 r v bits r₁ hr g v' hs =>
      obtain ⟨-, rfl⟩ : _ ∧ r₁ = r' := by simpa using h
      exact readLowbits_later (Nat.succ_pos _) hr
  | case3 r v bits r₁ hr g v' hm ih =>
      exact (readLowbits_later (Nat.succ_pos _) hr).trans (ih h)

lemma unpackDictPos_later {dictPos : Nat} (h : r.unpackDictPos = .ok (dictPos, r')) : Later 1 r r' := by
  obtain ⟨⟨byte, r₁⟩, hb, h⟩ := Lib.bind_eq_ok.mp h
  simp only at h
  split at h
  · cases h
    exact readByte_later hb
  · obtain ⟨⟨high, r₂⟩, hh, ⟨⟩⟩ := Lib.bind_eq_ok.mp h
    exact (readByte_later hb).trans (unpackLenFrom_later hh)

end CodeReader

/-! ## The decoder -/

/-- The variables of the `decompress` loop. -/
structure Decoder where
  reader : CodeReader
  out : List UInt8
  dictPosBack : Nat
  haveDataBack : Bool

/-- The byte-by-byte copy of a reference: the source may overlap the bytes being written. -/
def copyBack (start : Nat) : Nat → Nat → List UInt8 → List UInt8
  | _, 0, out => out
  | i, n + 1, out => copyBack start (i + 1) n (out ++ [out.getD (start + i) 0])

/-- `have_data_back && reader.read_bit()?`: the flag is in the stream only after a literal. -/
def readSame (r : CodeReader) (haveDataBack : Bool) : Except DecodeError (Bool × CodeReader) :=
  if haveDataBack then r.readBit else .ok (false, r)

/-- The `saved_pos` expression of `decompress`: the repeated distance when the previous item was
a literal and its flag is set, else a distance read from the stream, which gives a long one its
length unit back. -/
def readSavedPos (r : CodeReader) (haveDataBack : Bool) (dictPosBack savedLen : Nat) :
    Except DecodeError (Nat × Nat × CodeReader) := do
  let (same, r) ← readSame r haveDataBack
  if same then .ok (dictPosBack, savedLen, r)
  else
    let (dictPos, r) ← r.unpackDictPos
    .ok (dictPos, if dictPos > bigPosForLen then savedLen + 1 else savedLen, r)

variable (maxOut : Nat) (d : Decoder)

/-- The match on a control code in `decompress`; `none` is the end of the stream. -/
def decodeCtrl (ctrl : Nat) : Except DecodeError (Option Decoder) :=
  if ctrl = ctrlLiteralLine then do
    let (extra, r) ← d.reader.unpackLen 2
    let len := extra + minLiteralLineLen
    if r.pos + len > r.code.length then .error .truncated
    else if d.out.length + len > maxOut then .error (.outputTooLarge maxOut)
    else .ok (some { d with
      reader := { r with pos := r.pos + len }
      out := d.out ++ (r.code.drop r.pos).take len
      haveDataBack := true })
  else if ctrl = ctrlClipEnd then
    .ok (some { d with dictPosBack := 1, reader := { d.reader with typeCount := 0 } })
  else if ctrl = ctrlStreamEnd then .ok none
  else .error (.unknownControl ctrl)

/-- What `decompress` does with a decoded reference: distance zero is a control code, any other
copies from the output so far. -/
def decodeReference (savedPos savedLen : Nat) : Except DecodeError (Option Decoder) :=
  if savedPos ≠ 0 then
    let len := savedLen + minMatchLen
    if savedPos > d.out.length then .error .badDistance
    else if d.out.length + len > maxOut then .error (.outputTooLarge maxOut)
    else .ok (some { d with
      dictPosBack := savedPos
      out := copyBack (d.out.length - savedPos) 0 len d.out })
  else decodeCtrl maxOut d savedLen

/-- One turn of the `decompress` loop: the state after the item, or `none` at the stream end. -/
def decodeStep : Except DecodeError (Option Decoder) := do
  let (literal, r) ← d.reader.readBit
  if literal then
    if d.out.length ≥ maxOut then .error (.outputTooLarge maxOut)
    else
      let (byte, r) ← r.readByte
      .ok (some { d with reader := r, out := d.out ++ [byte], haveDataBack := true })
  else
    let (savedLen, r) ← r.unpackLen 1
    let (savedPos, savedLen, r) ← readSavedPos r d.haveDataBack d.dictPosBack savedLen
    decodeReference maxOut { d with reader := r, haveDataBack := false } savedPos savedLen

lemma readSavedPos_later {dictPosBack : Nat}
    (h : readSavedPos r haveDataBack dictPosBack savedLen = .ok (sp, len, r')) : r.Later 0 r' := by
  obtain ⟨⟨same, r₁⟩, hs, h⟩ := Lib.bind_eq_ok.mp h
  have h₁ : r.Later 0 r₁ := by
    unfold readSame at hs
    split at hs
    · exact (CodeReader.Later.refl r).trans (CodeReader.readBit_later hs)
    · cases hs
      exact .refl r
  simp only at h
  split at h
  · cases h
    exact h₁
  · obtain ⟨⟨dictPos, r₂⟩, hp, ⟨⟩⟩ := Lib.bind_eq_ok.mp h
    exact h₁.trans (CodeReader.unpackDictPos_later hp)

variable {maxOut : Nat} {d d' : Decoder}

lemma decodeCtrl_later {ctrl : Nat} (h : decodeCtrl maxOut d ctrl = .ok (some d')) :
    d.reader.Later 0 d'.reader := by
  unfold decodeCtrl at h
  split_ifs at h with hl hc hen
  · obtain ⟨⟨extra, r₁⟩, he, h⟩ := Lib.bind_eq_ok.mp h
    have h₁ := CodeReader.unpackLenFrom_later he
    simp only at h
    split_ifs at h with ht
    cases h
    refine (CodeReader.Later.refl _).trans (h₁.trans (n := 0) ⟨rfl, ?_, fun _ => not_lt.mp ht⟩)
    simp only [CodeReader.bitsLeft, typeBitsPerByte]
    omega
  · cases h
    refine ⟨rfl, ?_, id⟩
    simp only [CodeReader.bitsLeft, typeBitsPerByte]
    omega
  · cases h

lemma decodeReference_later (h : decodeReference maxOut d sp savedLen = .ok (some d')) :
    d.reader.Later 0 d'.reader := by
  unfold decodeReference at h
  simp only at h
  split_ifs at h
  · cases h
    exact .refl _
  · exact decodeCtrl_later h

/-- Every item consumes at least its type flag, so the decoding loop ends. -/
theorem decodeStep_later (h : decodeStep maxOut d = .ok (some d')) : d.reader.Later 1 d'.reader := by
  obtain ⟨⟨literal, r₁⟩, hbi, h⟩ := Lib.bind_eq_ok.mp h
  have h₁ := CodeReader.readBit_later hbi
  simp only at h
  split at h
  · split at h
    · cases h
    · obtain ⟨⟨byte, r₂⟩, hb, ⟨⟩⟩ := Lib.bind_eq_ok.mp h
      exact h₁.trans (CodeReader.readByte_later hb)
  · obtain ⟨⟨savedLen, r₂⟩, hl, h⟩ := Lib.bind_eq_ok.mp h
    obtain ⟨⟨sp, savedLen', r₃⟩, hp, h⟩ := Lib.bind_eq_ok.mp h
    have h₂ := CodeReader.unpackLenFrom_later hl
    exact h₁.trans (h₂.trans ((readSavedPos_later hp).trans (decodeReference_later h)))

/-- The loop of `decompress`. -/
def decodeLoop (maxOut : Nat) (d : Decoder) : Except DecodeError (List UInt8) :=
  match _hstep : decodeStep maxOut d with
  | .error e => .error e
  | .ok none => .ok d.out
  | .ok (some d') => decodeLoop maxOut d'
termination_by d.reader.bitsLeft
decreasing_by exact (decodeStep_later _hstep).bits

/-- `tinyuz.rs` `decompress`: decompress a stream. -/
def decompress (code : List UInt8) (maxOut : Nat) : Except DecodeError (List UInt8) :=
  if code.length < dictSizeHeaderLen then .error .truncated
  else decodeLoop maxOut
    { reader := { code := code, pos := dictSizeHeaderLen, types := 0, typeCount := 0 }
      out := []
      dictPosBack := 1
      haveDataBack := false }

end Hypercolor.Tinyuz
