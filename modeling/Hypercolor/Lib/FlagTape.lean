import Mathlib.Data.List.Basic
import Mathlib.Data.Nat.Bitwise
import Mathlib.Tactic

/-!
# Tapes of flags and bytes

A *flag tape* mixes single-bit flags with whole bytes in one byte string. Flags are packed eight
to a byte, least significant first; the byte that holds them is allocated when its first flag is
written, and later flags fill it in place although other bytes may already follow it.

* `Writer.emit` is the imperative writer: it remembers which byte is open and how many of its
  flags are used.
* `pack k s` is its denotation: writing `s` when `k` flags of the open byte are used adds the
  number `(pack k s).1`, shifted by `k`, to the open byte and appends the bytes `(pack k s).2`.
  `Writer.emits_code` is the agreement of the two.
* `pack_flags_within` and `pack_flags_fresh` say what a run of flags does to the denotation when
  it stays in the open byte and when it starts a new one. They are all a sequential reader needs.
-/

namespace Hypercolor.Lib.FlagTape

open List Nat

/-- One symbol of a tape. -/
inductive Sym where
  | flag (bit : Bool)
  | byte (value : UInt8)

/-- The number a run of flags spells, least significant first. -/
def flagsVal : List Bool → Nat
  | [] => 0
  | b :: bs => b.toNat + 2 * flagsVal bs

lemma flagsVal_lt (bs : List Bool) : flagsVal bs < 2 ^ bs.length := by
  induction bs with
  | nil => simp [flagsVal]
  | cons b bs ih =>
      have hb : b.toNat ≤ 1 := Bool.toNat_le b
      simp only [flagsVal, length_cons, pow_succ]
      omega

lemma flagsVal_append (bs cs : List Bool) :
    flagsVal (bs ++ cs) = flagsVal bs + 2 ^ bs.length * flagsVal cs := by
  induction bs with
  | nil => simp [flagsVal]
  | cons b bs ih =>
      simp only [cons_append, flagsVal, ih, length_cons, pow_succ]
      ring

/-- The low `n` bits of `x`, read as flags, spell `x % 2 ^ n`. -/
lemma flagsVal_range_testBit (n x : Nat) : flagsVal ((range n).map fun i => x.testBit i) = x % 2 ^ n := by
  induction n generalizing x with
  | zero => simp [flagsVal, mod_one]
  | succ n ih =>
      have hs : ((fun i => x.testBit i) ∘ succ) = fun i => (x / 2).testBit i := by
        funext i
        simp [testBit_succ]
      rw [range_succ_eq_map, map_cons, map_map, hs, flagsVal, ih,
        testBit_zero, pow_succ, mul_comm (2 ^ n) 2, mod_mul]
      rcases mod_two_eq_zero_or_one x with h | h <;> simp [h]

/-! ## The denotation of a tape -/

/-- Flags added to the open byte, and bytes appended, when `s` is written with `k` flags of the
open byte used (`0`: no byte is open). -/
def pack : Nat → List Sym → Nat × List UInt8
  | _, [] => (0, [])
  | k, .byte x :: s => ((pack k s).1, x :: (pack k s).2)
  | 0, .flag b :: s => (0, UInt8.ofNat (b.toNat + 2 * (pack 1 s).1) :: (pack 1 s).2)
  | k + 1, .flag b :: s => (b.toNat + 2 * (pack ((k + 2) % 8) s).1, (pack ((k + 2) % 8) s).2)

@[simp] theorem pack_zero_fst (s : List Sym) : (pack 0 s).1 = 0 := by
  induction s with
  | nil => rfl
  | cons x s ih =>
      cases x with
      | flag b => rfl
      | byte x => simpa [pack] using ih

/-- The open byte has room for what is added to it. -/
lemma pack_fst_lt (s : List Sym) (k : Nat) (hk : k < 8) : (pack k s).1 < 2 ^ (8 - k) := by
  induction s generalizing k with
  | nil => simp [pack]
  | cons x s ih =>
      rcases x with b | x
      · rcases k with _ | k
        · simp [pack]
        · have hb : b.toNat ≤ 1 := Bool.toNat_le b
          have hp : 2 ^ (8 - (k + 1)) = 2 ^ (8 - (k + 2)) * 2 := by
            rw [← pow_succ]
            congr 1
            omega
          simp only [pack]
          by_cases h7 : k + 2 = 8
          · obtain rfl : k = 6 := by omega
            simp only [mod_self, pack_zero_fst]
            omega
          · have := ih ((k + 2) % 8) (mod_lt _ (by omega))
            rw [mod_eq_of_lt (by omega)] at this ⊢
            omega
      · simpa [pack] using ih k hk

/-- A run of flags that fits the open byte. -/
theorem pack_flags_within (bs : List Bool) (s : List Sym) (k : Nat) (hk : 1 ≤ k) (hk8 : k < 8)
    (hf : k + bs.length ≤ 8) : pack k (bs.map .flag ++ s) =
      (flagsVal bs + 2 ^ bs.length * (pack ((k + bs.length) % 8) s).1,
        (pack ((k + bs.length) % 8) s).2) := by
  induction bs generalizing k with
  | nil => simp [flagsVal, mod_eq_of_lt hk8]
  | cons b bs ih =>
      obtain ⟨k, rfl⟩ : ∃ j, k = j + 1 := ⟨k - 1, by omega⟩
      simp only [length_cons] at hf
      by_cases h8 : k + 2 = 8
      · -- the byte is full after this flag, so it is the last one
        obtain rfl : bs = [] := length_eq_zero_iff.mp (by omega)
        simp [pack, flagsVal]
      · have hr := ih (k + 2) (by omega) (by omega) (by omega)
        have hs : k + 1 + (bs.length + 1) = k + 2 + bs.length := by omega
        simp only [map_cons, cons_append, pack, mod_eq_of_lt (by omega : k + 2 < 8),
          hr, flagsVal, length_cons, hs, pow_succ]
        ring_nf

/-- A run of flags that starts a new byte. -/
theorem pack_flags_fresh (bs : List Bool) (s : List Sym) (hn : bs ≠ []) (hf : bs.length ≤ 8) :
    pack 0 (bs.map .flag ++ s) =
      (0, UInt8.ofNat (flagsVal bs + 2 ^ bs.length * (pack (bs.length % 8) s).1) ::
        (pack (bs.length % 8) s).2) := by
  rcases bs with _ | ⟨b, bs⟩
  · exact absurd rfl hn
  · simp only [length_cons] at hf
    have hr := pack_flags_within bs s 1 le_rfl (by omega) (by omega)
    have hs : 1 + bs.length = bs.length + 1 := by omega
    simp only [map_cons, cons_append, pack, hr, flagsVal, length_cons, hs, pow_succ]
    ring_nf

/-- The byte a run of flags starts is a byte. -/
lemma flags_add_pack_lt (bs : List Bool) (s : List Sym) (hf : bs.length ≤ 8) :
    flagsVal bs + 2 ^ bs.length * (pack (bs.length % 8) s).1 < 256 := by
  have hl := flagsVal_lt bs
  rcases lt_or_ge bs.length 8 with h | h
  · have hr := pack_fst_lt s bs.length h
    have hp : 2 ^ bs.length * 2 ^ (8 - bs.length) = 256 := by
      rw [← pow_add, Nat.add_sub_cancel' hf]
      rfl
    rw [mod_eq_of_lt h]
    calc flagsVal bs + 2 ^ bs.length * (pack bs.length s).1
        < 2 ^ bs.length + 2 ^ bs.length * (pack bs.length s).1 := by omega
      _ = 2 ^ bs.length * ((pack bs.length s).1 + 1) := by ring
      _ ≤ 2 ^ bs.length * 2 ^ (8 - bs.length) := mul_le_mul_left _ hr
      _ = 256 := hp
  · obtain h8 : bs.length = 8 := by omega
    rw [h8] at hl ⊢
    simpa using hl

/-- A run of flags that fills the open byte, `bs`, and goes on into a new one, `cs`. -/
lemma pack_flags_across (bs cs : List Bool) (s : List Sym) (k : Nat) (hk : k < 8)
    (hf : bs.length = (8 - k) % 8) (hn : cs ≠ []) (hfi : cs.length ≤ 8) :
    pack k (bs.map .flag ++ (cs.map .flag ++ s)) =
      (flagsVal bs, UInt8.ofNat (flagsVal cs + 2 ^ cs.length * (pack (cs.length % 8) s).1) ::
        (pack (cs.length % 8) s).2) := by
  rcases Nat.eq_zero_or_pos k with rfl | hp
  · obtain rfl : bs = [] := length_eq_zero_iff.mp (by simpa using hf)
    exact pack_flags_fresh cs s hn hfi
  · have hf' : k + bs.length = 8 := by
      omega
    rw [pack_flags_within bs _ k hp hk (by omega), hf', mod_self, pack_flags_fresh cs s hn hfi]
    simp

/-- A run of bytes goes out as it is. -/
lemma pack_bytes (data : List UInt8) (s : List Sym) (k : Nat) :
    pack k (data.map .byte ++ s) = ((pack k s).1, data ++ (pack k s).2) := by
  induction data with
  | nil => simp
  | cons x data ih => simp [pack, ih]

/-! ## The imperative writer -/

/-- A tape being written: the bytes so far, the index of the open flag byte and the number of its
flags in use. -/
structure Writer where
  code : List UInt8
  typesIndex : Nat
  typeCount : Nat

namespace Writer

/-- Open a flag byte when none is open. -/
def opened (w : Writer) : Writer :=
  if w.typeCount = 0 then { w with typesIndex := w.code.length, code := w.code ++ [0] } else w

/-- Write one symbol. -/
def emit (w : Writer) : Sym → Writer
  | .flag b =>
      { code := w.opened.code.modify w.opened.typesIndex
          (· ||| UInt8.ofNat (b.toNat <<< w.typeCount))
        typesIndex := w.opened.typesIndex
        typeCount := if w.typeCount + 1 = 8 then 0 else w.typeCount + 1 }
  | .byte x => { w with code := w.code ++ [x] }

/-- Write a list of symbols. -/
def emits (w : Writer) (s : List Sym) : Writer := s.foldl emit w

@[simp] theorem emits_nil (w : Writer) : w.emits [] = w := rfl

lemma emits_cons (w : Writer) (x : Sym) (s : List Sym) : w.emits (x :: s) = (w.emit x).emits s := rfl

lemma emits_append (w : Writer) (s t : List Sym) : w.emits (s ++ t) = (w.emits s).emits t := by
  simp [emits, foldl_append]

/-- What a denotation does to a tape. -/
def patch (w : Writer) (p : Nat × List UInt8) : List UInt8 :=
  if w.typeCount = 0 then w.code ++ p.2
  else w.code.modify w.typesIndex (· ||| UInt8.ofNat (p.1 <<< w.typeCount)) ++ p.2

/-- Setting one flag and then the flags above it is setting them together. -/
lemma ofNat_flag_or (b : Bool) (f k : Nat) : UInt8.ofNat (b.toNat <<< k) ||| UInt8.ofNat (f <<< (k + 1)) =
      UInt8.ofNat ((b.toNat + 2 * f) <<< k) := by
  have hb : b.toNat < 2 ^ 1 := by simpa using lt_succ_of_le (Bool.toNat_le b)
  have hor : b.toNat + 2 * f = f <<< 1 ||| b.toNat := by
    rw [← shiftLeft_add_eq_or_of_lt hb, shiftLeft_eq]
    ring
  rw [← UInt8.ofNat_or, hor, Nat.shiftLeft_or_distrib, ← Nat.shiftLeft_add, Nat.or_comm, add_comm 1 k]

/-- The open byte is on the tape and has a free flag. -/
structure Ready (w : Writer) : Prop where
  count_lt : w.typeCount < 8
  index_lt : w.typeCount ≠ 0 → w.typesIndex < w.code.length

variable {w : Writer}

lemma opened_index_lt (h : w.Ready) : w.opened.typesIndex < w.opened.code.length := by
  unfold opened
  split
  · simp
  · exact h.index_lt ‹_›

lemma ready_emit (h : w.Ready) (x : Sym) : (w.emit x).Ready := by
  rcases x with b | x
  · refine ⟨?_, fun _ => by simpa [emit] using opened_index_lt h⟩
    have := h.count_lt
    simp only [emit]
    split <;> omega
  · exact ⟨h.count_lt, fun hc => by simpa [emit] using lt_succ_of_lt (h.index_lt hc)⟩

lemma modify_or_zero (l : List UInt8) (i : Nat) : l.modify i (· ||| UInt8.ofNat 0) = l := by
  have hi : (fun x : UInt8 => x ||| UInt8.ofNat 0) = id := by
    funext x
    simp
  rw [hi, modify_id]

lemma modify_append_last (l : List UInt8) (x : UInt8) (f : UInt8 → UInt8) :
    (l ++ [x]).modify l.length f = l ++ [f x] := by
  induction l with
  | nil => rfl
  | cons y l ih => simp [ih]

lemma modify_append_left {l : List UInt8} (m : List UInt8) {i : Nat} (h : i < l.length)
    (f : UInt8 → UInt8) : (l ++ m).modify i f = l.modify i f ++ m := by
  induction l generalizing i with
  | nil => simp at h
  | cons y l ih =>
      cases i with
      | zero => rfl
      | succ i => simp [ih (lt_of_succ_lt_succ h)]

/-- Patching one flag and then the rest is patching the whole. -/
lemma patch_emit_flag (h : w.Ready) (b : Bool) (s : List Sym) :
    (w.emit (.flag b)).patch (pack (w.emit (.flag b)).typeCount s) =
      w.patch (pack w.typeCount (.flag b :: s)) := by
  have h8 := h.count_lt
  rcases hk : w.typeCount with _ | k
  · -- a new byte: its flags above the first arrive by the patch
    have hor := ofNat_flag_or b (pack 1 s).1 0
    simp only [shiftLeft_zero] at hor
    simp [emit, patch, opened, hk, pack, modify_append_last, ← hor]
  · have hor := ofNat_flag_or b (pack ((k + 2) % 8) s).1 (k + 1)
    by_cases h7 : k + 2 = 8
    · -- the flag fills the byte, so nothing more is added to it
      obtain rfl : k = 6 := by omega
      simp [emit, patch, opened, hk, pack]
    · have hk6 : k ≠ 6 := by omega
      rw [mod_eq_of_lt (by omega)] at hor
      simp [emit, patch, opened, hk, hk6, pack, mod_eq_of_lt (by omega : k + 2 < 8),
        modify_modify_eq, Function.comp_def, UInt8.or_assoc, hor]

/-- **The writer computes the denotation.** -/
theorem emits_code (h : w.Ready) (s : List Sym) : (w.emits s).code = w.patch (pack w.typeCount s) := by
  induction s generalizing w with
  | nil =>
      unfold patch
      simp only [pack, zero_shiftLeft, modify_or_zero, append_nil, ite_self]
      rfl
  | cons x s ih =>
      rw [emits_cons, ih (ready_emit h x)]
      rcases x with b | x
      · exact patch_emit_flag h b s
      · by_cases hc : w.typeCount = 0
        · simp [patch, emit, pack, hc]
        · simp [patch, emit, pack, hc, modify_append_left [x] (h.index_lt hc)]

end Writer

end Hypercolor.Lib.FlagTape
