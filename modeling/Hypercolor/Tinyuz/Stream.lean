import Hypercolor.Lib.FlagTape
import Hypercolor.Tinyuz.Codec

/-!
# tinyuz streams as flag tapes

What the writer puts on a stream and what the reader takes off it, in symbols.

* `CodeWriter.tape` forgets everything but the bytes and the open type byte; each `out_*`
  function emits a fixed list of symbols on it (`lenSyms`, `dictPosSyms`, `ctrlSyms`, `litSyms`,
  `dictSyms`), chosen by the two variables the decoder mirrors.
* `Reads r s`: what is left on the reader `r` is the packing of `s`. Each `read_*` and `unpack_*`
  function takes its own symbols off the front and leaves `Reads` of the rest. `read_lowbits`
  takes several flags at once and may cross into the next type byte (`readLowbits_reads`).
-/

namespace Hypercolor.Tinyuz

open Lib.FlagTape List Nat CodeReader CodeWriter

/-! ## The symbols of each writer function -/

/-- The groups of a varint, most significant first. -/
def groupSyms (remaining packBits : Nat) : Nat → List Sym
  | 0 => []
  | group + 1 =>
      (((range packBits).map fun bit => (remaining >>> (group * packBits)).testBit bit) ++
        [decide (group > 0)]).map .flag ++ groupSyms remaining packBits group

/-- The symbols of `out_len`. -/
def lenSyms (value packBits : Nat) : List Sym :=
  groupSyms (lenGroups packBits value 1).1 packBits (lenGroups packBits value 1).2

/-- The symbols of `out_dict_pos`. -/
def dictPosSyms (savedPos : Nat) : List Sym :=
  if savedPos ≥ 1 <<< 7 then
    .byte (UInt8.ofNat ((savedPos - 1 <<< 7) &&& 0x7F) ||| 0x80) ::
      lenSyms ((savedPos - 1 <<< 7) >>> 7) posPackBits
  else [.byte (UInt8.ofNat (savedPos &&& 0x7F))]

/-- The same-distance flag, present only after a literal. -/
def sameSyms (haveDataBack same : Bool) : List Sym := if haveDataBack then [.flag same] else []

/-- The symbols of `out_ctrl`. -/
def ctrlSyms (haveDataBack : Bool) (ctrl : Nat) : List Sym :=
  .flag false :: (lenSyms ctrl lenPackBits ++ (sameSyms haveDataBack false ++ dictPosSyms 0))

/-- The symbols of `out_literals`. -/
def litSyms (literalLines haveDataBack : Bool) (data : List UInt8) : List Sym :=
  if literalLines && decide (data.length ≥ minLiteralLineLen) then
    ctrlSyms haveDataBack ctrlLiteralLine ++
      (lenSyms (data.length - minLiteralLineLen) posPackBits ++ data.map .byte)
  else data.flatMap fun byte => [.flag true, .byte byte]

/-- The symbols of `out_dict`. -/
def dictSyms (haveDataBack : Bool) (dictPosBack matchLen distance : Nat) : List Sym :=
  let same := savedSame haveDataBack dictPosBack distance
  .flag false :: (lenSyms (savedLen same matchLen distance) lenPackBits ++
    (sameSyms haveDataBack same ++ if same then [] else dictPosSyms distance))

/-! ## The writer emits them -/

variable {s : List Sym}

namespace CodeWriter

/-- The tape under a writer. -/
def tape (w : CodeWriter) : Writer where
  code := w.code
  typesIndex := w.typesIndex
  typeCount := w.typeCount

/-- `w'` has written `s` after `w` and changed nothing else. -/
structure Wrote (w : CodeWriter) (s : List Sym) (w' : CodeWriter) : Prop where
  tape_eq : w'.tape = w.tape.emits s
  dictPosBack_eq : w'.dictPosBack = w.dictPosBack
  haveDataBack_eq : w'.haveDataBack = w.haveDataBack
  literalLines_eq : w'.literalLines = w.literalLines

variable (w : CodeWriter)

lemma Wrote.refl : w.Wrote [] w := ⟨rfl, rfl, rfl, rfl⟩

lemma Wrote.trans {w₁ w₂ w₃ : CodeWriter} {t : List Sym} (h₁ : w₁.Wrote s w₂)
    (h₂ : w₂.Wrote t w₃) : w₁.Wrote (s ++ t) w₃ where
  tape_eq := by rw [h₂.tape_eq, h₁.tape_eq, Writer.emits_append]
  dictPosBack_eq := h₂.dictPosBack_eq.trans h₁.dictPosBack_eq
  haveDataBack_eq := h₂.haveDataBack_eq.trans h₁.haveDataBack_eq
  literalLines_eq := h₂.literalLines_eq.trans h₁.literalLines_eq

lemma wrote_push (byte : UInt8) : w.Wrote [.byte byte] (w.push byte) := ⟨rfl, rfl, rfl, rfl⟩

lemma wrote_outType (bit : Bool) : w.Wrote [.flag bit] (w.outType bit) := by
  have hi : ∀ (l : List UInt8) (i : Nat), l.modify i (fun x => x) = l := fun l i =>
    modify_id i l
  refine ⟨?_, ?_, ?_, ?_⟩
  · by_cases hc : w.typeCount = 0 <;> cases bit <;>
      simp [outType, tape, Writer.emits, Writer.emit, Writer.opened, hc, typeBitsPerByte, hi]
  all_goals by_cases hc : w.typeCount = 0 <;> cases bit <;> simp [outType, hc]

lemma wrote_flags (bits : List Bool) : w.Wrote (bits.map .flag) (bits.foldl outType w) := by
  induction bits generalizing w with
  | nil => exact .refl w
  | cons b bits ih => exact (w.wrote_outType b).trans (ih (w.outType b))

lemma wrote_bytes (data : List UInt8) : w.Wrote (data.map .byte) { w with code := w.code ++ data } := by
  have hc : ∀ t : Writer, t.emits (data.map .byte) = { t with code := t.code ++ data } := by
    induction data with
    | nil => simp
    | cons x data ih =>
        intro t
        rw [map_cons, Writer.emits_cons, ih]
        simp [Writer.emit]
  exact ⟨(hc w.tape).symm, rfl, rfl, rfl⟩

/-- The bit `out_len` masks out is the tested bit. -/
lemma shift_and_one_eq_testBit (x i j : Nat) : ((x >>> (i + j)) &&& 1 == 1) = (x >>> i).testBit j := by
  rw [Nat.testBit_shiftRight, Nat.testBit, Nat.and_comm 1, Nat.and_one_is_mod]
  rcases Nat.mod_two_eq_zero_or_one (x >>> (i + j)) with h | h <;> simp [h]

section

variable (w : CodeWriter)

lemma wrote_outGroups (rm pb groups : Nat) :
    w.Wrote (groupSyms rm pb groups) (w.outGroups rm pb groups) := by
  induction groups generalizing w with
  | zero => exact .refl w
  | succ g ih =>
      simp only [outGroups, shift_and_one_eq_testBit, groupSyms]
      refine Wrote.trans ?_ (ih _)
      have h := w.wrote_flags (((range pb).map fun bit =>
        (rm >>> (g * pb)).testBit bit) ++ [decide (g > 0)])
      rwa [foldl_append, foldl_map] at h

lemma wrote_outLen (v pb : Nat) : w.Wrote (lenSyms v pb) (w.outLen v pb) := w.wrote_outGroups _ _ _

lemma wrote_outDictPos (pos : Nat) : w.Wrote (dictPosSyms pos) (w.outDictPos pos) := by
  unfold outDictPos dictPosSyms
  by_cases hl : pos ≥ 1 <<< 7
  · simp only [hl, decide_true, if_true]
    exact (w.wrote_push _).trans (wrote_outLen _ _ _)
  · simp only [hl, decide_false, if_false, Bool.false_eq_true, UInt8.or_zero]
    exact w.wrote_push _

lemma wrote_same {back : Bool} (h : w.haveDataBack = back) (same : Bool) :
    w.Wrote (sameSyms back same) (if w.haveDataBack then w.outType same else w) := by
  rw [h]
  cases back with
  | false => exact .refl w
  | true => exact w.wrote_outType same

lemma wrote_outCtrl (ctrl : Nat) : w.Wrote (ctrlSyms w.haveDataBack ctrl) (w.outCtrl ctrl) := by
  have h₂ := (w.wrote_outType false).trans ((w.outType false).wrote_outLen ctrl lenPackBits)
  have h₃ := (h₂.trans (wrote_same _ h₂.haveDataBack_eq false)).trans (wrote_outDictPos _ 0)
  simp only [append_assoc] at h₃
  exact h₃

lemma wrote_literals (data : List UInt8) : w.Wrote (data.flatMap fun byte => [.flag true, .byte byte])
      (data.foldl (fun w byte => (w.outType true).push byte) w) := by
  induction data generalizing w with
  | nil => exact .refl w
  | cons x data ih => exact ((w.wrote_outType true).trans (wrote_push _ x)).trans (ih _)

/-- A literal run goes out as its symbols and raises the literal flag. -/
lemma outLiterals_eq (data : List UInt8) : ∃ w₁, w.Wrote (litSyms w.literalLines w.haveDataBack data) w₁ ∧
      w.outLiterals data = { w₁ with haveDataBack := true } := by
  unfold outLiterals litSyms
  by_cases hl : (w.literalLines && decide (data.length ≥ minLiteralLineLen))
  · simp only [if_pos hl]
    exact ⟨_, (w.wrote_outCtrl _).trans ((wrote_outLen _ _ _).trans (wrote_bytes _ data)), rfl⟩
  · simp only [if_neg hl]
    exact ⟨_, w.wrote_literals data, rfl⟩

/-- A reference goes out as its symbols, lowers the literal flag and is remembered. -/
lemma outDict_eq (matchLen dist : Nat) :
    ∃ w₁, w.Wrote (dictSyms w.haveDataBack w.dictPosBack matchLen dist) w₁ ∧
      w.outDict matchLen dist = { w₁ with haveDataBack := false, dictPosBack := dist } := by
  have h₁ : w.Wrote [.flag false]
      { w.outType false with dictSizeMax := max (w.outType false).dictSizeMax dist } :=
    let h := w.wrote_outType false
    ⟨h.tape_eq, h.dictPosBack_eq, h.haveDataBack_eq, h.literalLines_eq⟩
  have hs : savedSame (w.outType false).haveDataBack (w.outType false).dictPosBack dist =
      savedSame w.haveDataBack w.dictPosBack dist := by
    rw [(w.wrote_outType false).haveDataBack_eq, (w.wrote_outType false).dictPosBack_eq]
  unfold outDict dictSyms
  simp only [hs]
  generalize savedSame w.haveDataBack w.dictPosBack dist = same
  have h₂ := h₁.trans (wrote_outLen _ (savedLen same matchLen dist) lenPackBits)
  have h₃ := h₂.trans (wrote_same _ h₂.haveDataBack_eq same)
  cases same with
  | false =>
      have h₄ := h₃.trans (wrote_outDictPos _ dist)
      simp only [append_assoc] at h₄
      exact ⟨_, h₄, rfl⟩
  | true =>
      exact ⟨_, by simpa using h₃, rfl⟩

end

end CodeWriter

/-! ## The reader takes them off -/

/-- What is left on the reader is the packing of `s`: with `k` flags of the current type byte
consumed, `types` holds those that follow and the rest of the code is the bytes that follow. -/
structure ReadsAt (r : CodeReader) (k : Nat) (s : List Sym) : Prop where
  slot_lt : k < 8
  count_eq : r.typeCount = (8 - k) % 8
  types_eq : r.types = (pack k s).1
  rest_eq : r.code.drop r.pos = (pack k s).2

/-- What is left on the reader is the packing of `s`. -/
def Reads (r : CodeReader) (s : List Sym) : Prop := ∃ k, ReadsAt r k s

variable {r : CodeReader} {x : UInt8}

lemma readByte_of_rest {rest : List UInt8} (h : r.code.drop r.pos = x :: rest) :
    r.readByte = .ok (x, { r with pos := r.pos + 1 }) ∧ r.code.drop (r.pos + 1) = rest := by
  have hg : r.code[r.pos]? = some x := by
    have := congrArg (·[0]?) h
    simpa using this
  refine ⟨by simp [readByte, hg], ?_⟩
  rw [← drop_drop, h]
  rfl

lemma readLowbits_of_readByte {r' : CodeReader} {bitCount : Nat} {byte : UInt8}
    (hc : r.typeCount < bitCount) (h : r.readByte = .ok (byte, r')) :
    r.readLowbits bitCount = .ok (r.types ||| (byte.toNat <<< r.typeCount), { r' with
        typeCount := typeBitsPerByte - (bitCount - r.typeCount)
        types := byte.toNat >>> (bitCount - r.typeCount) }) := by
  rw [readLowbits]
  simp only [ge_iff_le, not_le.mpr hc, if_false]
  exact Lib.bind_of_eq_ok h

lemma readByte_reads (h : Reads r (.byte x :: s)) : ∃ r', r.readByte = .ok (x, r') ∧ Reads r' s := by
  obtain ⟨k, hk, hc, ht, hr⟩ := h
  obtain ⟨hre, hd⟩ := readByte_of_rest hr
  exact ⟨_, hre, k, hk, hc, ht, hd⟩

variable {bs : List Bool} {k pb rm : Nat}

/-- Flags taken out of the current type byte. -/
lemma readLowbits_within (h : ReadsAt r k (bs.map .flag ++ s)) (hp : 0 < bs.length)
    (hf : bs.length ≤ r.typeCount) :
    ∃ bits r', r.readLowbits bs.length = .ok (bits, r') ∧ bits % 2 ^ bs.length = flagsVal bs ∧
      Reads r' s := by
  obtain ⟨hk, hc, ht, hr⟩ := h
  have hk1 : 1 ≤ k := by
    by_contra hk0
    obtain rfl : k = 0 := by omega
    omega
  rw [pack_flags_within bs s k hk1 hk (by omega)] at ht hr
  have hl := flagsVal_lt bs
  refine ⟨r.types, { r with typeCount := r.typeCount - bs.length, types := r.types >>> bs.length },
    by exact if_pos hf, ?_,
    (k + bs.length) % 8, mod_lt _ (by omega), ?_, ?_, hr⟩
  · rw [ht, add_mul_mod_self_left, mod_eq_of_lt hl]
  · simp only
    by_cases h8 : k + bs.length = 8
    · rw [h8]
      omega
    · omega
  · rw [ht, Nat.shiftRight_eq_div_pow, Nat.add_mul_div_left _ _ (Nat.two_pow_pos _),
      div_eq_of_lt hl, zero_add]

/-- Flags that reach into the next type byte. -/
lemma readLowbits_across (h : ReadsAt r k (bs.map .flag ++ s)) (hle : bs.length ≤ 8)
    (hcr : r.typeCount < bs.length) :
    ∃ bits r', r.readLowbits bs.length = .ok (bits, r') ∧ bits % 2 ^ bs.length = flagsVal bs ∧
      Reads r' s := by
  obtain ⟨hk, hcn, ht, hr⟩ := h
  -- the first `c` flags are the rest of this byte, the others open the next
  obtain ⟨b₁, b₂, rfl, hc⟩ : ∃ b₁ b₂, bs = b₁ ++ b₂ ∧ b₁.length = r.typeCount :=
    ⟨bs.take r.typeCount, bs.drop r.typeCount, (take_append_drop _ _).symm, length_take_of_le hcr.le⟩
  rw [length_append] at hle hcr
  have hne : b₂ ≠ [] := by
    rintro rfl
    simp at hcr
    omega
  rw [map_append, append_assoc, pack_flags_across b₁ b₂ s k hk (hc.trans hcn) hne (by omega)] at ht hr
  obtain ⟨hre, hd⟩ := readByte_of_rest hr
  have hlt₁ := flagsVal_lt b₁
  have hlt₂ := flagsVal_lt b₂
  have hn : b₁.length + b₂.length - r.typeCount = b₂.length := by omega
  have hf : (UInt8.ofNat (flagsVal b₂ + 2 ^ b₂.length * (pack (b₂.length % 8) s).1)).toNat =
      flagsVal b₂ + 2 ^ b₂.length * (pack (b₂.length % 8) s).1 :=
    UInt8.toNat_ofNat_of_lt (flags_add_pack_lt b₂ s (by omega))
  have hl := readLowbits_of_readByte (by omega : r.typeCount < b₁.length + b₂.length) hre
  rw [hn, hf] at hl
  rw [length_append]
  refine ⟨_, _, hl, ?_, b₂.length % 8, mod_lt _ (by omega), ?_, ?_, hd⟩
  · rw [ht, Nat.or_comm, ← hc, ← Nat.shiftLeft_add_eq_or_of_lt hlt₁, Nat.shiftLeft_eq, flagsVal_append]
    have hs : (flagsVal b₂ + 2 ^ b₂.length * (pack (b₂.length % 8) s).1) * 2 ^ b₁.length +
        flagsVal b₁ = flagsVal b₁ + 2 ^ b₁.length * flagsVal b₂ +
          2 ^ (b₁.length + b₂.length) * (pack (b₂.length % 8) s).1 := by
      ring
    rw [hs, add_mul_mod_self_left, ← flagsVal_append, ← length_append]
    exact mod_eq_of_lt (flagsVal_lt _)
  · simp only [typeBitsPerByte]
    rcases lt_or_ge b₂.length 8 with h | h
    · rw [mod_eq_of_lt h, mod_eq_of_lt (by omega)]
    · obtain h8 : b₂.length = 8 := by omega
      rw [h8]
  · rw [Nat.shiftRight_eq_div_pow, Nat.add_mul_div_left _ _ (Nat.two_pow_pos _),
      div_eq_of_lt hlt₂, zero_add]

/-- `read_lowbits` takes its flags off the tape, wherever the type bytes end. -/
theorem readLowbits_reads (h : Reads r (bs.map .flag ++ s)) (hp : 0 < bs.length) (hl : bs.length ≤ 8) :
    ∃ bits r', r.readLowbits bs.length = .ok (bits, r') ∧ bits % 2 ^ bs.length = flagsVal bs ∧
      Reads r' s := by
  obtain ⟨k, hk⟩ := h
  by_cases hf : bs.length ≤ r.typeCount
  · exact readLowbits_within hk hp hf
  · exact readLowbits_across hk hl (by omega)

lemma readBit_reads {b : Bool} (h : Reads r (.flag b :: s)) :
    ∃ r', r.readBit = .ok (b, r') ∧ Reads r' s := by
  have hl : Reads r ([b].map .flag ++ s) := h
  obtain ⟨bits, r', hre, hbi, hr'⟩ := readLowbits_reads hl (by simp) (by simp)
  refine ⟨r', ?_, hr'⟩
  rw [readBit, Lib.bind_of_eq_ok (show r.readLowbits 1 = _ from hre)]
  simp only [and_one_is_mod]
  have hb : bits % 2 = b.toNat := by simpa [flagsVal] using hbi
  rw [hb]
  cases b <;> rfl

/-! ### Varints -/

/-- What the bias of a varint with `groups` groups adds to its digits. -/
def bias (packBits : Nat) : Nat → Nat
  | 0 => 0
  | 1 => 0
  | groups + 2 => bias packBits (groups + 1) + 2 ^ ((groups + 1) * packBits)

lemma bias_succ (pb : Nat) {groups : Nat} (h : 0 < groups) :
    bias pb (groups + 1) = bias pb groups + 2 ^ (groups * pb) := by
  obtain ⟨g, rfl⟩ : ∃ g, groups = g + 1 := ⟨groups - 1, by omega⟩
  rfl

/-- The first loop of `out_len` splits a value into digits and bias. -/
lemma lenGroups_spec (pb rm ct : Nat) (hp : 0 < ct) : 0 < (lenGroups pb rm ct).2 ∧
      (lenGroups pb rm ct).1 < 2 ^ ((lenGroups pb rm ct).2 * pb) ∧
      (lenGroups pb rm ct).1 + bias pb (lenGroups pb rm ct).2 = rm + bias pb ct := by
  fun_induction lenGroups pb rm ct with
  | case1 rm ct groupMax hl =>
      refine ⟨hp, ?_, rfl⟩
      simpa [groupMax, one_shiftLeft] using hl
  | case2 rm ct groupMax hg ih =>
      obtain ⟨h₁, h₂, h₃⟩ := ih (by omega)
      refine ⟨h₁, h₂, h₃.trans ?_⟩
      have hm : groupMax = 2 ^ (ct * pb) := one_shiftLeft _
      rw [bias_succ pb hp, hm] at *
      omega

/-- The digit and the continue flag of a group, out of the bits read. -/
lemma group_bits {bits digit : Nat} {more : Bool} (hd : digit < 2 ^ pb)
    (h : bits % 2 ^ (pb + 1) = digit + 2 ^ pb * more.toNat) :
    bits &&& ((1 <<< pb) - 1) = digit ∧ (bits &&& (1 <<< pb) = 0 ↔ more = false) := by
  rw [mod_pow_succ] at h
  have hl : bits % 2 ^ pb = digit := by
    have := congrArg (· % 2 ^ pb) h
    simpa [mod_eq_of_lt hd] using this
  have hh : bits / 2 ^ pb % 2 = more.toNat := by
    rw [hl] at h
    exact Nat.eq_of_mul_eq_mul_left (Nat.two_pow_pos pb) (Nat.add_left_cancel h)
  refine ⟨by rw [one_shiftLeft, and_two_pow_sub_one_eq_mod, hl], ?_⟩
  rw [one_shiftLeft, and_two_pow, testBit_eq_decide_div_mod_eq, hh]
  cases more <;> simp

/-- One group of a varint, off the tape. -/
lemma readGroup_reads {g : Nat} (hp : pb < 8) (h : Reads r (groupSyms rm pb (g + 1) ++ s)) :
    ∃ bits r', r.readLowbits (pb + 1) = .ok (bits, r') ∧
      bits &&& ((1 <<< pb) - 1) = (rm >>> (g * pb)) % 2 ^ pb ∧ (bits &&& (1 <<< pb) = 0 ↔ g = 0) ∧
      Reads r' (groupSyms rm pb g ++ s) := by
  rw [groupSyms, append_assoc] at h
  obtain ⟨bits, r', hre, hb, hr'⟩ := readLowbits_reads h (by simp) (by simpa using hp)
  rw [flagsVal_append, flagsVal_range_testBit] at hb
  simp only [length_append, length_map, length_range, length_singleton]
    at hre hb
  have hm : flagsVal [decide (g > 0)] = (decide (g > 0)).toNat := by simp [flagsVal]
  obtain ⟨hd, hs⟩ := group_bits (Nat.mod_lt _ (Nat.two_pow_pos _)) hb
  exact ⟨bits, r', hre, hd, hs.trans (by simp), hr'⟩

/-- The digits below a group, with the group, are the digits below the next. -/
lemma digits_succ (rm pb g : Nat) : (rm >>> (g * pb)) % 2 ^ pb * 2 ^ (g * pb) +
      rm % 2 ^ (g * pb) = rm % 2 ^ ((g + 1) * pb) := by
  rw [shiftRight_eq_div_pow, succ_mul, pow_add, mod_mul]
  ring

lemma unpackLenFrom_reads (hp : pb < 8) (g : Nat) (v : Nat) (h : Reads r (groupSyms rm pb (g + 1) ++ s)) :
    ∃ r', r.unpackLenFrom pb v = .ok (v * 2 ^ ((g + 1) * pb) +
        rm % 2 ^ ((g + 1) * pb) + bias pb (g + 1), r') ∧ Reads r' s := by
  induction g generalizing v r with
  | zero =>
      obtain ⟨bits, r', hre, hd, hs, hr'⟩ := readGroup_reads hp h
      refine ⟨r', ?_, hr'⟩
      rw [unpackLenFrom_of_readLowbits hre, if_pos (hs.mpr rfl), hd, shiftLeft_eq]
      simp [bias]
  | succ g ih =>
      obtain ⟨bits, r₁, hre, hd, hs, hr₁⟩ := readGroup_reads hp h
      obtain ⟨r', hrs, hr'⟩ := ih _ hr₁
      refine ⟨r', ?_, hr'⟩
      rw [unpackLenFrom_of_readLowbits hre, if_neg (by omega), hd,
        shiftLeft_eq, hrs, bias_succ pb (by omega : 0 < g + 1),
        ← digits_succ rm pb (g + 1), succ_mul (g + 1), pow_add]
      ring_nf

/-- `unpack_len` reads back what `out_len` wrote. -/
lemma unpackLen_reads {v : Nat} (hp : pb < 8) (h : Reads r (lenSyms v pb ++ s)) :
    ∃ r', r.unpackLen pb = .ok (v, r') ∧ Reads r' s := by
  obtain ⟨hpo, hl, hs⟩ := lenGroups_spec pb v 1 one_pos
  unfold lenSyms at h
  obtain ⟨gr, hg⟩ : ∃ g, (lenGroups pb v 1).2 = g + 1 := ⟨(lenGroups pb v 1).2 - 1, by omega⟩
  rw [hg] at h hl hs
  obtain ⟨r', hre, hr'⟩ := unpackLenFrom_reads hp gr 0 h
  refine ⟨r', ?_, hr'⟩
  rw [unpackLen, hre, zero_mul, zero_add, mod_eq_of_lt hl, hs]
  simp [bias]

/-- The low seven bits of a byte whose top bit is set. -/
lemma long_byte (x : Nat) : (UInt8.ofNat (x &&& 0x7F) ||| 0x80).toNat = x % 128 + 128 ∧
      (x % 128 + 128) &&& 0x7F = x % 128 := by
  have hm : ∀ y, y &&& 0x7F = y % 128 := fun y => and_two_pow_sub_one_eq_mod y 7
  have hl : x % 128 < 2 ^ 7 := mod_lt _ (by omega)
  have hor := shiftLeft_add_eq_or_of_lt hl 1
  constructor
  · rw [hm, UInt8.toNat_or, UInt8.toNat_ofNat_of_lt' (hl.trans (by decide)), Nat.or_comm]
    exact hor.symm.trans (add_comm _ _)
  · rw [hm]
    omega

/-- `unpack_dict_pos` reads back what `out_dict_pos` wrote. -/
lemma unpackDictPos_reads {sp : Nat} (h : Reads r (dictPosSyms sp ++ s)) :
    ∃ r', r.unpackDictPos = .ok (sp, r') ∧ Reads r' s := by
  unfold dictPosSyms at h
  by_cases hl : sp ≥ 1 <<< 7
  · simp only [if_pos hl, cons_append] at h
    obtain ⟨r₁, hb, hr₁⟩ := readByte_reads h
    obtain ⟨r', hh, hr'⟩ := unpackLen_reads (by decide) hr₁
    refine ⟨r', ?_, hr'⟩
    obtain ⟨ht, hm⟩ := long_byte (sp - 1 <<< 7)
    have hs : (sp - 1 <<< 7) % 128 + (sp - 1 <<< 7) / 2 ^ 7 * 2 ^ 7 = sp - 1 <<< 7 := Nat.mod_add_div' _ _
    have hlt : (sp - 1 <<< 7) % 128 < 2 ^ 7 := Nat.mod_lt _ (by omega)
    rw [unpackDictPos, Lib.bind_of_eq_ok hb]
    simp only [ht]
    rw [if_neg (by simp), Lib.bind_of_eq_ok (show r₁.unpackLen 2 = _ from hh)]
    simp only [hm]
    rw [Nat.or_comm, ← Nat.shiftLeft_add_eq_or_of_lt hlt, Nat.shiftRight_eq_div_pow,
      Nat.shiftLeft_eq, Nat.add_comm (_ * _), hs, Nat.sub_add_cancel hl]
  · simp only [if_neg hl, singleton_append] at h
    obtain ⟨r', hb, hr'⟩ := readByte_reads h
    refine ⟨r', ?_, hr'⟩
    have hlt : sp < 128 := by simpa using hl
    have hm : sp &&& 0x7F = sp := (Nat.and_two_pow_sub_one_eq_mod sp 7).trans (Nat.mod_eq_of_lt hlt)
    rw [unpackDictPos, Lib.bind_of_eq_ok hb]
    simp only [hm, UInt8.toNat_ofNat_of_lt' (by omega : sp < 256)]
    rw [if_pos (show sp < 1 <<< 7 from hlt)]

/-- A run of bytes is on the tape as it is. -/
lemma reads_bytes {data : List UInt8} (hp : 0 < data.length) (h : Reads r (data.map .byte ++ s)) :
    (r.code.drop r.pos).take data.length = data ∧ r.pos + data.length ≤ r.code.length ∧
      Reads { r with pos := r.pos + data.length } s := by
  obtain ⟨k, hk, hc, ht, hr⟩ := h
  rw [pack_bytes] at ht hr
  have hl := congrArg length hr
  simp only [length_drop, length_append] at hl
  refine ⟨by rw [hr, take_left], ?_, k, hk, hc, ht, ?_⟩
  · omega
  · rw [← drop_drop, hr, drop_left]

end Hypercolor.Tinyuz
