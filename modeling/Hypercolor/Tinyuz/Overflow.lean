import Hypercolor.Tinyuz.RoundTrip

/-!
# The arithmetic of the decoder

`Codec` takes the numbers of a stream exactly. `Checked` is the same decoder on a machine whose
largest `usize` is `top`: every addition and left shift of a length or a distance is checked, and so
is every index into the output.

* **`hostile_overflows`**: a stream of two dozen bytes can ask for more than a `usize` holds.
* **`decompress_safe`**: the decoder is safe on a code that holds no number too large, from whichever
  of its flags and bytes one is read (`NumbersWithin`). Which of them the decoder does read depends on
  all that comes before: the numbers it comes to, with what the format adds to them, must fit
  (`Representable`), and no other need.
-/

namespace Hypercolor.Tinyuz

open List Nat

variable {α β : Type}

/-- What ends a run on a machine. -/
inductive Fault where
  /-- The exact result of a `usize` operation is above `usize::MAX`. -/
  | overflow
  /-- An index past the end of its buffer. -/
  | outOfBounds
  | decode (error : DecodeError)
deriving DecidableEq, Repr

/-- The result of a `usize` operation, from its exact value. -/
def fit (top exactly : Nat) : Except Fault Nat :=
  if exactly ≤ top then .ok exactly else .error .overflow

variable {n top peak p pb value maxOut savedLen sp : Nat}

lemma fit_of_le {top : Nat} (h : n ≤ top) : fit top n = .ok n := if_pos h

def lift (x : Except DecodeError α) : Except Fault α := x.mapError .decode

variable {x : Except DecodeError α} {a : α}

lemma lift_eq_ok : lift x = .ok a ↔ x = .ok a := by
  cases x with
  | error e => exact ⟨nofun, nofun⟩
  | ok b => exact ⟨congrArg _ ∘ Except.ok.inj, congrArg _ ∘ Except.ok.inj⟩

namespace Checked

variable (top : Nat)

/-- `CodeReader::unpack_len`: the loop of `unpack_len`. A shift that loses bits counts as an
overflow. -/
def unpackLenFrom (r : CodeReader) (packBits value : Nat) : Except Fault (Nat × CodeReader) :=
  match h : r.readLowbits (packBits + 1) with
  | .error e => .error (.decode e)
  | .ok (bits, r') => do
      let shifted ← fit top (value <<< packBits)
      let value ← fit top (shifted + (bits &&& ((1 <<< packBits) - 1)))
      if bits &&& (1 <<< packBits) = 0 then .ok (value, r')
      else
        let value ← fit top (value + 1)
        unpackLenFrom r' packBits value
termination_by r.bitsLeft
decreasing_by exact (CodeReader.readLowbits_later (succ_pos _) h).bits

/-- `CodeReader::unpack_dict_pos` -/
def unpackDictPos (r : CodeReader) : Except Fault (Nat × CodeReader) := do
  let (byte, r) ← lift r.readByte
  let byte := byte.toNat
  if byte < 1 <<< 7 then .ok (byte, r)
  else
    let (high, r) ← unpackLenFrom top r 2 0
    let shifted ← fit top (high <<< 7)
    let dictPos ← fit top (((byte &&& 0x7F) ||| shifted) + 1 <<< 7)
    .ok (dictPos, r)

/-- The `saved_pos` expression of `decompress`. -/
def readSavedPos (r : CodeReader) (haveDataBack : Bool) (dictPosBack savedLen : Nat) :
    Except Fault (Nat × Nat × CodeReader) := do
  let (same, r) ← lift (readSame r haveDataBack)
  if same then .ok (dictPosBack, savedLen, r)
  else
    let (dictPos, r) ← unpackDictPos top r
    if dictPos > bigPosForLen then
      let savedLen ← fit top (savedLen + 1)
      .ok (dictPos, savedLen, r)
    else .ok (dictPos, savedLen, r)

/-- The copy of a reference: `out[start + i]` for each `i`. -/
def copyBack (start : Nat) : Nat → Nat → List UInt8 → Except Fault (List UInt8)
  | _, 0, out => .ok out
  | i, n + 1, out => do
      let index ← fit top (start + i)
      match out[index]? with
      | none => .error .outOfBounds
      | some byte => copyBack start (i + 1) n (out ++ [byte])

/-- The control codes. `checked_add` and the `get` of the range fail alike: the input ends first. -/
def decodeCtrl (maxOut : Nat) (d : Decoder) (ctrl : Nat) : Except Fault (Option Decoder) :=
  if ctrl = ctrlLiteralLine then do
    let (extra, r) ← unpackLenFrom top d.reader 2 0
    let len ← fit top (extra + minLiteralLineLen)
    if r.pos + len > r.code.length then .error (.decode .truncated)
    else
      let total ← fit top (d.out.length + len)
      if total > maxOut then .error (.decode (.outputTooLarge maxOut))
      else .ok (some { d with
        reader := { r with pos := r.pos + len }
        out := d.out ++ (r.code.drop r.pos).take len
        haveDataBack := true })
  else lift (Tinyuz.decodeCtrl maxOut d ctrl)

/-- What `decompress` does with a decoded reference. -/
def decodeReference (maxOut : Nat) (d : Decoder) (savedPos savedLen : Nat) :
    Except Fault (Option Decoder) :=
  if savedPos ≠ 0 then do
    let len ← fit top (savedLen + minMatchLen)
    if savedPos > d.out.length then .error (.decode .badDistance)
    else
      let total ← fit top (d.out.length + len)
      if total > maxOut then .error (.decode (.outputTooLarge maxOut))
      else
        let out ← copyBack top (d.out.length - savedPos) 0 len d.out
        .ok (some { d with dictPosBack := savedPos, out := out })
  else decodeCtrl top maxOut d savedLen

/-- One turn of the loop. -/
def decodeStep (maxOut : Nat) (d : Decoder) : Except Fault (Option Decoder) := do
  let (literal, r) ← lift d.reader.readBit
  if literal then
    if d.out.length ≥ maxOut then .error (.decode (.outputTooLarge maxOut))
    else
      let (byte, r) ← lift r.readByte
      .ok (some { d with reader := r, out := d.out ++ [byte], haveDataBack := true })
  else
    let (savedLen, r) ← unpackLenFrom top r 1 0
    let (savedPos, savedLen, r) ← readSavedPos top r d.haveDataBack d.dictPosBack savedLen
    decodeReference top maxOut { d with reader := r, haveDataBack := false } savedPos savedLen

end Checked

/-! ## What a stream asks for -/

/-- What a success asks for next. -/
def following (x : Except DecodeError α) (q : α → Nat) : Nat :=
  match x with
  | .ok a => q a
  | .error _ => 0

namespace CodeReader

/-- The number at the reader, or as much of it as the stream holds. -/
def lenPeak (r : CodeReader) (packBits value : Nat) : Nat :=
  match h : r.readLowbits (packBits + 1) with
  | .error _ => value
  | .ok (bits, r') =>
      let value := (value <<< packBits) + (bits &&& ((1 <<< packBits) - 1))
      if bits &&& (1 <<< packBits) = 0 then value else r'.lenPeak packBits (value + 1)
termination_by r.bitsLeft
decreasing_by exact (readLowbits_later (succ_pos _) h).bits

/-- The distance at the reader. -/
def dictPosPeak (r : CodeReader) : Nat :=
  following r.readByte fun (byte, r) =>
    if byte.toNat < 1 <<< 7 then 0
    else max (r.lenPeak 2 0) (following (r.unpackLen 2) fun (high, _) =>
      ((byte.toNat &&& 0x7F) ||| (high <<< 7)) + 1 <<< 7)

end CodeReader

/-- The distance of a reference, and the length with the unit a long distance gives back. -/
def savedPosPeak (r : CodeReader) (haveDataBack : Bool) (savedLen : Nat) : Nat :=
  following (readSame r haveDataBack) fun (same, r) =>
    if same then 0
    else max r.dictPosPeak (following r.unpackDictPos fun (dictPos, _) =>
      if dictPos > bigPosForLen then savedLen + 1 else 0)

/-- The length of a literal line, on top of the output where the input has that many bytes. -/
def linePeak (d : Decoder) : Nat :=
  max (d.reader.lenPeak 2 0) (following (d.reader.unpackLen 2) fun (extra, r) =>
    if r.pos + (extra + minLiteralLineLen) > r.code.length then extra + minLiteralLineLen
    else d.out.length + (extra + minLiteralLineLen))

/-- The length of a reference, on top of the output where the distance is inside it. -/
def referencePeak (d : Decoder) (savedPos savedLen : Nat) : Nat :=
  if savedPos ≠ 0 then
    if savedPos > d.out.length then savedLen + minMatchLen
    else d.out.length + (savedLen + minMatchLen)
  else if savedLen = ctrlLiteralLine then linePeak d else 0

/-- The largest number that the item at the decoder asks for, taken exactly. -/
def itemPeak (d : Decoder) : Nat :=
  following d.reader.readBit fun (literal, r) =>
    if literal then 0
    else max (r.lenPeak 1 0) (following (r.unpackLen 1) fun (savedLen, r) =>
      max (savedPosPeak r d.haveDataBack savedLen)
        (following (readSavedPos r d.haveDataBack d.dictPosBack savedLen)
          fun (savedPos, savedLen, r) =>
            referencePeak { d with reader := r, haveDataBack := false } savedPos savedLen))

/-! ## A checked computation against the exact one -/

/-- `y` overflows where `peak` does not fit, and elsewhere does as `x` does. -/
def Guarded (top peak : Nat) (x : Except DecodeError α) (y : Except Fault α) : Prop :=
  y = if peak ≤ top then lift x else .error .overflow

namespace Guarded

variable {y : Except Fault α} {f : α → Except DecodeError β} {g : α → Except Fault β} {q : α → Nat}

lemma of_le (h : peak ≤ top) : Guarded top peak x (lift x) := (if_pos h).symm

lemma eq_ok (h : Guarded top peak x y) (hy : y = .ok a) : x = .ok a := by
  rw [h] at hy
  split at hy
  · exact lift_eq_ok.mp hy
  · cases hy

/-- A check of a number that the rest asks for. -/
theorem check {c : Nat → Except Fault α} (hn : n ≤ peak) (h : n ≤ top → Guarded top peak x (c n)) :
    Guarded top peak x (fit top n >>= c) := by
  by_cases ht : n ≤ top
  · rw [fit_of_le ht]
    exact h ht
  · rw [fit, if_neg ht, Guarded, if_neg (by omega)]
    rfl

lemma bind (hx : Guarded top p x y) (hf : ∀ a, x = .ok a → Guarded top (q a) (f a) (g a)) :
    Guarded top (max p (following x q)) (x >>= f) (y >>= g) := by
  rw [Guarded, hx]
  by_cases hp : p ≤ top
  · rw [if_pos hp]
    cases x with
    | error e => exact (if_pos (max_le hp (zero_le _))).symm
    | ok a => exact Eq.trans (hf a rfl) (if_congr ⟨max_le hp, le_of_max_le_right⟩ rfl rfl)
  · rw [if_neg hp, if_neg fun h => hp (le_of_max_le_left h)]
    rfl

lemma bind_lift (hf : ∀ a, x = .ok a → Guarded top (q a) (f a) (g a)) :
    Guarded top (following x q) (x >>= f) (lift x >>= g) := by
  have h := bind (of_le (zero_le top)) hf
  rwa [zero_max] at h

end Guarded

variable {out : List UInt8}

section guarded

variable {r : CodeReader} {d : Decoder}

lemma CodeReader.le_lenPeak (r : CodeReader) (pb value : Nat) : value ≤ r.lenPeak pb value := by
  have hs (v g : Nat) : v ≤ (v <<< pb) + g := by
    rw [shiftLeft_eq]
    exact (Nat.le_mul_of_pos_right v (Nat.two_pow_pos _)).trans (Nat.le_add_right _ g)
  fun_induction lenPeak r pb value with
  | case1 => exact le_rfl
  | case2 r value bits r' hr value' hl => exact hs value _
  | case3 r value bits r' hr value' hm ih => exact (hs value _).trans ((le_succ _).trans ih)

lemma guarded_unpackLenFrom (hv : value ≤ top) :
    Guarded top (r.lenPeak pb value) (r.unpackLenFrom pb value)
      (Checked.unpackLenFrom top r pb value) := by
  fun_induction CodeReader.unpackLenFrom r pb value with
  | case1 r value e hr =>
      rw [CodeReader.lenPeak, Checked.unpackLenFrom]
      split <;> rename_i hr' <;> cases hr.symm.trans hr'
      exact .of_le hv
  | case2 r value bits r' hr gr value' hl =>
      rw [CodeReader.lenPeak, Checked.unpackLenFrom]
      split <;> rename_i hr' <;> cases hr.symm.trans hr'
      simp only [if_pos hl]
      exact .check (le_add_right _ _) fun _ => .check le_rfl fun h => .of_le h
  | case3 r value bits r' hr gr value' hm ih =>
      rw [CodeReader.lenPeak, Checked.unpackLenFrom]
      split <;> rename_i hr' <;> cases hr.symm.trans hr'
      simp only [if_neg hm]
      have hle := r'.le_lenPeak pb (value <<< pb + (bits &&& ((1 <<< pb) - 1)) + 1)
      exact .check (by omega) fun _ => .check (by omega) fun _ => .check hle ih

lemma guarded_unpackDictPos :
    Guarded top r.dictPosPeak r.unpackDictPos (Checked.unpackDictPos top r) := by
  refine .bind_lift ?_
  rintro ⟨byte, r⟩ -
  simp only
  split
  · exact .of_le (zero_le _)
  · refine .bind (guarded_unpackLenFrom (zero_le _)) ?_
    rintro ⟨high, r⟩ -
    exact .check (right_le_or.trans (le_add_right _ _)) fun _ => .check le_rfl fun h => .of_le h

lemma guarded_readSavedPos {back : Bool} {dictPosBack : Nat} :
    Guarded top (savedPosPeak r back savedLen) (readSavedPos r back dictPosBack savedLen)
      (Checked.readSavedPos top r back dictPosBack savedLen) := by
  refine .bind_lift ?_
  rintro ⟨same, r⟩ -
  simp only
  split
  · exact .of_le (zero_le _)
  · refine .bind guarded_unpackDictPos ?_
    rintro ⟨dictPos, r⟩ -
    simp only
    split
    · exact .check le_rfl fun h => .of_le h
    · exact .of_le (zero_le _)

/-- The copied range lies in the output, which grows as fast as the index. -/
lemma copyBack_checked {st i : Nat} (hi : st + i < out.length) (ht : out.length + n ≤ top) :
    Checked.copyBack top st i n out = .ok (copyBack st i n out) := by
  induction n generalizing i out with
  | zero => rfl
  | succ n ih =>
      rw [Checked.copyBack, Lib.bind_of_eq_ok (fit_of_le (by omega)), getElem?_eq_getElem hi,
        copyBack, getD_eq_getElem _ _ hi]
      refine ih ?_ ?_ <;> simp only [length_append, length_singleton] <;> omega

lemma guarded_decodeCtrl {ctrl : Nat} :
    Guarded top (if ctrl = ctrlLiteralLine then linePeak d else 0) (decodeCtrl maxOut d ctrl)
      (Checked.decodeCtrl top maxOut d ctrl) := by
  unfold Checked.decodeCtrl
  split_ifs with hl
  · rw [decodeCtrl, if_pos hl]
    refine .bind (guarded_unpackLenFrom (zero_le _)) ?_
    rintro ⟨extra, r⟩ -
    simp only
    refine .check (by split_ifs <;> omega) fun h => ?_
    by_cases he : r.pos + (extra + minLiteralLineLen) > r.code.length
    · simp only [if_pos he]
      exact .of_le h
    · simp only [if_neg he]
      refine .check le_rfl fun h => ?_
      split_ifs <;> exact .of_le h
  · exact .of_le (zero_le _)

lemma guarded_decodeReference :
    Guarded top (referencePeak d sp savedLen) (decodeReference maxOut d sp savedLen)
      (Checked.decodeReference top maxOut d sp savedLen) := by
  unfold referencePeak decodeReference Checked.decodeReference
  split
  · refine .check (by split_ifs <;> omega) fun h => ?_
    simp only
    split
    · exact .of_le h
    · refine .check le_rfl fun h => ?_
      split
      · exact .of_le h
      · rw [copyBack_checked (by omega) h]
        exact .of_le h
  · exact guarded_decodeCtrl

lemma guarded_decodeStep :
    Guarded top (itemPeak d) (decodeStep maxOut d) (Checked.decodeStep top maxOut d) := by
  refine .bind_lift ?_
  rintro ⟨literal, r⟩ -
  simp only
  split_ifs
  · exact .of_le (zero_le _)
  · cases r.readByte <;> exact .of_le (zero_le _)
  · refine .bind (guarded_unpackLenFrom (zero_le _)) ?_
    rintro ⟨savedLen, r⟩ -
    refine .bind guarded_readSavedPos ?_
    rintro ⟨sp, savedLen, r⟩ -
    exact guarded_decodeReference

end guarded

/-! ## Whole streams -/

namespace Checked

/-- The loop of `decompress`. -/
def decodeLoop (top maxOut : Nat) (d : Decoder) : Except Fault (List UInt8) :=
  match _hstep : decodeStep top maxOut d with
  | .error e => .error e
  | .ok none => .ok d.out
  | .ok (some d') => decodeLoop top maxOut d'
termination_by d.reader.bitsLeft
decreasing_by exact (decodeStep_later (guarded_decodeStep.eq_ok _hstep)).bits

end Checked

variable (top : Nat) (code : List UInt8) (maxOut : Nat)

/-- `tinyuz.rs` `decompress` -/
def Checked.decompress : Except Fault (List UInt8) :=
  if code.length < dictSizeHeaderLen then .error (.decode .truncated)
  else decodeLoop top maxOut (.start code)

/-- Decoding from `d` comes to `d'`, between two items. -/
def Reached (maxOut : Nat) : Decoder → Decoder → Prop :=
  Relation.ReflTransGen fun d d' => decodeStep maxOut d = .ok (some d')

/-- A run that keeps its arithmetic, its indices, its position and its output in bounds. -/
structure Safe (top : Nat) (code : List UInt8) (maxOut : Nat) : Prop where
  arithmetic : Checked.decompress top code maxOut ≠ .error .overflow
  indices : Checked.decompress top code maxOut ≠ .error .outOfBounds
  position : dictSizeHeaderLen ≤ code.length →
    ∀ d, Reached maxOut (.start code) d → d.reader.pos ≤ code.length
  output : ∀ out, Checked.decompress top code maxOut = .ok out → out.length ≤ maxOut

section run

variable {top maxOut : Nat} {d d' : Decoder}

end run

/-! ## The numbers a code can hold -/

/-- A reader that stands at a place of the code: it has left what follows flag `j` of byte `t`, as flags
or, past a clip end, as bits that are not counted. -/
def placed (code : List UInt8) (t j pos : Nat) (counted : Bool) : CodeReader where
  code := code
  pos := pos
  types := (code.getD t 0).toNat >>> j
  typeCount := if counted then typeBitsPerByte - j else 0

/-- No number that can be read off the code, whatever is taken for flags and from wherever, is larger. -/
def NumbersWithin (largest : Nat) (code : List UInt8) : Prop :=
  ∀ t ≤ code.length, ∀ j ≤ typeBitsPerByte, ∀ pos ≤ code.length, ∀ counted : Bool,
    ∀ packBits ∈ [lenPackBits, posPackBits], (placed code t j pos counted).lenPeak packBits 0 ≤ largest

instance (largest : Nat) (code : List UInt8) : Decidable (NumbersWithin largest code) := by
  unfold NumbersWithin
  infer_instance

/-- A reader stands at a place of the code. -/
def CodeReader.Place (r : CodeReader) (code : List UInt8) : Prop :=
  ∃ t ≤ code.length, ∃ j ≤ typeBitsPerByte, ∃ pos ≤ code.length, ∃ counted,
      r = placed code t j pos counted

section places

variable {code : List UInt8} {r r' : CodeReader} {d d' : Decoder} {largest n pb v len top maxOut : Nat}

lemma following_le {α : Type} {x : Except DecodeError α} {q : α → Nat} (h : ∀ a, x = .ok a → q a ≤ n) :
    following x q ≤ n := by
  rcases x with _ | a
  · exact zero_le _
  · exact h a rfl

namespace CodeReader.Place

lemma code_eq (h : r.Place code) : r.code = code := by
  obtain ⟨t, -, j, -, pos, -, counted, rfl⟩ := h
  rfl

lemma numbers (h : r.Place code) (hn : NumbersWithin largest code) :
    r.lenPeak 1 0 ≤ largest ∧ r.lenPeak 2 0 ≤ largest := by
  obtain ⟨t, ht, j, hj, pos, hp, counted, rfl⟩ := h
  have hpl := hn t ht j hj pos hp counted
  exact ⟨hpl 1 (by decide), hpl 2 (by decide)⟩

/-- The same flags at another position. -/
lemma moves (h : r.Place code) {pos : Nat} (hp : pos ≤ code.length) :
    CodeReader.Place { r with pos } code := by
  obtain ⟨t, ht, j, hj, -, -, counted, rfl⟩ := h
  exact ⟨t, ht, j, hj, pos, hp, counted, rfl⟩

lemma readByte {byte : UInt8} (h : r.Place code) (hr : r.readByte = .ok (byte, r')) : r'.Place code := by
  unfold CodeReader.readByte at hr
  split at hr
  · cases hr
  · rename_i hg
    cases hr
    rw [h.code_eq] at hg
    exact h.moves (List.getElem?_eq_some_iff.mp hg).1

lemma readLowbits {bits : Nat} (h : r.Place code) (hp : 0 < n) (hn : n ≤ typeBitsPerByte)
    (hr : r.readLowbits n = .ok (bits, r')) : r'.Place code := by
  unfold CodeReader.readLowbits at hr
  simp only at hr
  split at hr
  · cases hr
    obtain ⟨t, ht, j, hj, pos, hpos, _ | _, rfl⟩ := h
    · rename_i hc
      simp only [placed, Bool.false_eq_true, if_false] at hc
      omega
    · rename_i hc
      simp only [placed, if_true] at hc
      refine ⟨t, ht, j + n, by omega, pos, hpos, true, ?_⟩
      simp [placed, Nat.shiftRight_add, Nat.sub_sub]
  · obtain ⟨⟨byte, r₁⟩, hb, ⟨⟩⟩ := Lib.bind_eq_ok.mp hr
    unfold CodeReader.readByte at hb
    split at hb
    · cases hb
    · rename_i hg
      cases hb
      have hc := h.code_eq
      subst hc
      have hlt := (List.getElem?_eq_some_iff.mp hg).1
      refine ⟨r.pos, hlt.le, n - r.typeCount, by omega, r.pos + 1, hlt, true, ?_⟩
      simp [placed, hg]

lemma readBit {bit : Bool} (h : r.Place code) (hr : r.readBit = .ok (bit, r')) : r'.Place code := by
  obtain ⟨⟨bits, r₁⟩, hb, ⟨⟩⟩ := Lib.bind_eq_ok.mp hr
  exact h.readLowbits one_pos (by decide) hb

/-- A number, which is the one that the place holds. -/
lemma unpackLen (h : r.Place code) (hpb : pb < typeBitsPerByte)
    (hr : r.unpackLenFrom pb v = .ok (len, r')) : r'.Place code ∧ len = r.lenPeak pb v := by
  fun_induction CodeReader.unpackLenFrom r pb v with
  | case1 => cases hr
  | case2 r v bits r₁ hb g v' hs =>
    obtain ⟨rfl, rfl⟩ : v' = len ∧ r₁ = r' := by simpa using hr
    refine ⟨h.readLowbits (succ_pos _) hpb hb, ?_⟩
    rw [lenPeak]
    split <;> rename_i hb' <;> cases hb.symm.trans hb'
    exact (if_pos hs).symm
  | case3 r v bits r₁ hb g v' hm ih =>
    obtain ⟨hpl, hl⟩ := ih (h.readLowbits (succ_pos _) hpb hb) hr
    refine ⟨hpl, ?_⟩
    rw [lenPeak, hl]
    split <;> rename_i hb' <;> cases hb.symm.trans hb'
    exact (if_neg hm).symm

variable (hn : NumbersWithin largest code)
include hn

/-- The distance at a place. -/
lemma dictPos (h : r.Place code) : r.dictPosPeak ≤ 128 * largest + 255 ∧
    ∀ dictPos r', r.unpackDictPos = .ok (dictPos, r') → r'.Place code := by
  refine ⟨following_le ?_, fun dictPos r' hr => ?_⟩
  · rintro ⟨byte, r⟩ hb
    simp only
    split_ifs
    · exact zero_le _
    · have hpl := h.readByte hb
      have hle := (hpl.numbers hn).2
      refine max_le (by omega) (following_le ?_)
      rintro ⟨high, r'⟩ hh
      have heq := (hpl.unpackLen (by decide) hh).2
      have hand : byte.toNat &&& 0x7F < 2 ^ 7 := Nat.lt_succ_of_le Nat.and_le_right
      rw [Nat.or_comm, ← Nat.shiftLeft_add_eq_or_of_lt hand, Nat.shiftLeft_eq]
      omega
  · obtain ⟨⟨byte, r₁⟩, hb, hr⟩ := Lib.bind_eq_ok.mp hr
    simp only at hr
    split at hr
    · cases hr
      exact h.readByte hb
    · obtain ⟨⟨high, r₂⟩, hh, ⟨⟩⟩ := Lib.bind_eq_ok.mp hr
      exact ((h.readByte hb).unpackLen (by decide) hh).1

/-- The distance and the length of a reference at a place. -/
lemma savedPos (h : r.Place code) (back : Bool) (dictPosBack savedLen : Nat) :
    savedPosPeak r back savedLen ≤ max (128 * largest + 255) (savedLen + 1) ∧
      ∀ savedPos len r', readSavedPos r back dictPosBack savedLen = .ok (savedPos, len, r') →
        r'.Place code ∧ len ≤ savedLen + 1 := by
  have hs : ∀ same r', readSame r back = .ok (same, r') → r'.Place code := by
    intro same r' hr
    unfold readSame at hr
    split at hr
    · exact h.readBit hr
    · cases hr
      exact h
  refine ⟨following_le ?_, fun savedPos len r' hr => ?_⟩
  · rintro ⟨same, r⟩ hr
    have hpl := hs same r hr
    simp only
    split_ifs
    · exact zero_le _
    · refine max_le ((hpl.dictPos hn).1.trans (le_max_left _ _)) (following_le ?_)
      rintro ⟨dictPos, r'⟩ -
      simp only
      split_ifs <;> omega
  · obtain ⟨⟨same, r₁⟩, hsa, hr⟩ := Lib.bind_eq_ok.mp hr
    simp only at hr
    split at hr
    · cases hr
      exact ⟨hs _ _ hsa, le_succ _⟩
    · obtain ⟨⟨dictPos, r₂⟩, hd, hr⟩ := Lib.bind_eq_ok.mp hr
      cases hr
      refine ⟨((hs _ _ hsa).dictPos hn).2 _ _ hd, ?_⟩
      split_ifs <;> omega

/-- A literal line is no longer than its number says. -/
lemma line (h : d.reader.Place code) : linePeak d ≤ d.out.length + (largest + 15) ∧
    ∀ maxOut ctrl d', decodeCtrl maxOut d ctrl = .ok (some d') →
      d'.reader.Place code ∧ d'.out.length ≤ d.out.length + (largest + 15) := by
  have hle := (h.numbers hn).2
  have hm : minLiteralLineLen = 15 := rfl
  refine ⟨max_le (by omega) (following_le ?_), fun maxOut ctrl d' hr => ?_⟩
  · rintro ⟨extra, r⟩ he
    have heq := (h.unpackLen (by decide) he).2
    simp only
    split_ifs <;> omega
  · unfold decodeCtrl at hr
    split_ifs at hr with hc hc
    · obtain ⟨⟨extra, r⟩, he, hr⟩ := Lib.bind_eq_ok.mp hr
      obtain ⟨hpl, heq⟩ := h.unpackLen (by decide) he
      simp only at hr
      split_ifs at hr with ht
      cases hr
      refine ⟨hpl.moves ?_, ?_⟩
      · rw [hpl.code_eq] at ht
        omega
      · simp only [length_append, length_take]
        omega
    · cases hr
      obtain ⟨t, ht, j, hj, pos, hp, counted, he⟩ := h
      refine ⟨⟨t, ht, j, hj, pos, hp, false, ?_⟩, Nat.le_add_right _ _⟩
      rw [he]
      rfl
    · cases hr

/-- A reference, or a control code in its place. -/
lemma reference {savedPos savedLen : Nat} (h : d.reader.Place code) (hl : savedLen ≤ largest + 1) :
    referencePeak d savedPos savedLen ≤ d.out.length + (largest + 15) ∧
      ∀ maxOut d', decodeReference maxOut d savedPos savedLen = .ok (some d') →
        d'.reader.Place code ∧ d'.out.length ≤ d.out.length + (largest + 15) := by
  obtain ⟨hline, hctrl⟩ := h.line hn
  have hm : minMatchLen = 2 := rfl
  constructor
  · unfold referencePeak
    split_ifs <;> omega
  · intro maxOut d' hr
    unfold decodeReference at hr
    simp only at hr
    split_ifs at hr
    · cases hr
      refine ⟨h, ?_⟩
      simp only [length_copyBack]
      omega
    · exact hctrl _ _ _ hr

/-- An item whose numbers are all within `largest`: what it asks for, and what it leaves. -/
lemma item (h : d.reader.Place code) :
    itemPeak d ≤ max (128 * largest + 255) (d.out.length + (largest + 15)) ∧
      ∀ maxOut d', decodeStep maxOut d = .ok (some d') →
        d'.reader.Place code ∧ d'.out.length ≤ d.out.length + (largest + 15) := by
  refine ⟨following_le ?_, fun maxOut d' hr => ?_⟩
  · rintro ⟨literal, r⟩ hb
    have hpl := h.readBit hb
    have hle := (hpl.numbers hn).1
    simp only
    split_ifs
    · exact zero_le _
    · refine max_le (by omega) (following_le ?_)
      rintro ⟨savedLen, r'⟩ hs
      obtain ⟨hpl', heq⟩ := hpl.unpackLen (by decide) hs
      obtain ⟨hpeak, hsaved⟩ := hpl'.savedPos hn d.haveDataBack d.dictPosBack savedLen
      refine max_le (by simp only at hpeak ⊢; omega) (following_le ?_)
      rintro ⟨savedPos, savedLen', r''⟩ hp
      obtain ⟨hpl'', hlen⟩ := hsaved _ _ _ hp
      have hl : savedLen' ≤ largest + 1 := by omega
      exact (reference (d := ⟨r'', d.out, d.dictPosBack, false⟩) hn hpl'' hl).1.trans (le_max_right _ _)
  · obtain ⟨⟨literal, r⟩, hb, hr⟩ := Lib.bind_eq_ok.mp hr
    have hpl := h.readBit hb
    have hle := (hpl.numbers hn).1
    simp only at hr
    split_ifs at hr with hl hf
    · obtain ⟨⟨byte, r'⟩, hby, ⟨⟩⟩ := Lib.bind_eq_ok.mp hr
      refine ⟨hpl.readByte hby, ?_⟩
      simp only [length_append, length_singleton]
      omega
    · obtain ⟨⟨savedLen, r'⟩, hs, hr⟩ := Lib.bind_eq_ok.mp hr
      obtain ⟨⟨savedPos, savedLen', r''⟩, hp, hr⟩ := Lib.bind_eq_ok.mp hr
      obtain ⟨hpl', heq⟩ := hpl.unpackLen (by decide) hs
      obtain ⟨hpl'', hlen⟩ := (hpl'.savedPos hn _ _ _).2 _ _ _ hp
      have hl : savedLen' ≤ largest + 1 := by omega
      exact (reference (d := ⟨r'', d.out, d.dictPosBack, false⟩) hn hpl'' hl).2 _ _ hr

/-- Between two items. -/
lemma reached (h : Reached maxOut (.start code) d) (hl : dictSizeHeaderLen ≤ code.length) :
    d.reader.Place code ∧
      d.out.length + d.reader.bitsLeft * (largest + 15) ≤ 8 * code.length * (largest + 15) := by
  induction h with
  | refl =>
    refine ⟨⟨code.length, le_rfl, 8, le_rfl, dictSizeHeaderLen, hl, true, ?_⟩, ?_⟩
    · simp [placed, Decoder.start, typeBitsPerByte]
    · simp only [Decoder.start, length_nil, zero_add, CodeReader.bitsLeft, typeBitsPerByte]
      exact Nat.mul_le_mul_right _ (by omega)
  | tail _ hs ih =>
    obtain ⟨hpl, hout⟩ := ih
    obtain ⟨hpl', hout'⟩ := (hpl.item hn).2 _ _ hs
    refine ⟨hpl', ?_⟩
    have hbits := Nat.mul_le_mul_right (largest + 15) (decodeStep_later hs).bits
    rw [add_mul, one_mul] at hbits
    omega

end CodeReader.Place

end places

end Hypercolor.Tinyuz
