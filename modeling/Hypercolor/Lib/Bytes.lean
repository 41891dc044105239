import Mathlib.Tactic

/-!
# Bytes on the wire

Little-endian fields, slices and UTF-8 text over `List UInt8`, each with its round trip.

A field of known width unfolds to that many bytes, so a header written as a chain of fields reads
back at literal offsets by computation alone.
-/

namespace Hypercolor.Lib

open List

/-- The `width` low bytes of a number, least significant first. -/
def leBytes : Nat → Nat → List UInt8
  | 0, _ => []
  | width + 1, n => UInt8.ofNat n :: leBytes width (n / 256)

/-- The number little-endian bytes stand for. -/
def ofLe : List UInt8 → Nat
  | [] => 0
  | b :: bs => b.toNat + 256 * ofLe bs

@[simp] theorem length_leBytes (w n : Nat) : (leBytes w n).length = w := by
  induction w generalizing n with
  | zero => rfl
  | succ w ih => simp [leBytes, ih]

lemma ofLe_leBytes (w n : Nat) : ofLe (leBytes w n) = n % 256 ^ w := by
  induction w generalizing n with
  | zero => simp [leBytes, ofLe, Nat.mod_one]
  | succ w ih =>
    have hl : (UInt8.ofNat n).toNat = n % 256 := UInt8.toNat_ofNat'
    have hp : 256 ^ (w + 1) = 256 * 256 ^ w := pow_succ' 256 w
    rw [leBytes, ofLe, ih, hl, hp, Nat.mod_mul]

variable {w : Nat}

/-- A field that fits its width reads back. -/
lemma ofLe_leBytes_of_lt {n : Nat} (h : n < 256 ^ w) : ofLe (leBytes w n) = n := by
  rw [ofLe_leBytes, Nat.mod_eq_of_lt h]

/-- `input[start..stop]`. -/
def slice (input : List UInt8) (start stop : Nat) : List UInt8 :=
  (input.drop start).take (stop - start)

variable {st stop : Nat}

lemma length_slice {inp : List UInt8} (h : stop ≤ inp.length) :
    (slice inp st stop).length = stop - st := by
  rw [slice, length_take, length_drop]
  omega

lemma ofLe_lt (bytes : List UInt8) : ofLe bytes < 256 ^ bytes.length := by
  induction bytes with
  | nil => exact Nat.one_pos
  | cons b bs ih =>
    have hb := b.toNat_lt
    rw [ofLe, length_cons, pow_succ']
    omega

variable {f : List UInt8}

lemma slice_append {head : List UInt8} (rest : List UInt8) (hst : head.length = st)
    (hs : st + f.length = stop) : slice (head ++ f ++ rest) st stop = f := by
  subst hst hs
  rw [slice, append_assoc, drop_left, Nat.add_sub_cancel_left, take_left]

/-- A field of a record written field after field, at the sum of the lengths before it. -/
lemma slice_flatten {fields : List (List UInt8)} (i : Nat) (rest : List UInt8)
    (hf : fields[i]? = some f) (hst : ((fields.take i).map length).sum = st)
    (hs : st + f.length = stop) : slice (fields.flatten ++ rest) st stop = f := by
  obtain ⟨hi, rfl⟩ := List.getElem?_eq_some_iff.mp hf
  have hsp : fields.flatten ++ rest = (fields.take i).flatten ++ fields[i] ++
      ((fields.drop (i + 1)).flatten ++ rest) := by
    conv_lhs => rw [← take_append_drop i fields, drop_eq_getElem_cons hi]
    simp only [flatten_append, flatten_cons, append_assoc]
  rw [hsp]
  exact slice_append _ (length_flatten.trans hst) hs

/-- The fields of one width that a list of values is written as. -/
lemma slice_flatMap {α : Type} {values : List α} {f : α → List UInt8} (hw : ∀ a, (f a).length = w)
    (head rest : List UInt8) {i : Nat} {a : α} (ha : values[i]? = some a) :
    slice (head ++ values.flatMap f ++ rest) (head.length + i * w) (head.length + (i + 1) * w) = f a := by
  induction values generalizing head i with
  | nil => simp at ha
  | cons v vs ih =>
    cases i with
    | zero =>
      obtain rfl : v = a := by simpa using ha
      have hf := slice_append (vs.flatMap f ++ rest) (rfl : head.length = _) (rfl : _ + (f v).length = _)
      simpa [hw] using hf
    | succ i =>
      have hr := ih (head ++ f v) (by simpa using ha)
      rw [length_append, hw] at hr
      rw [show head.length + (i + 1) * w = head.length + w + i * w by ring,
        show head.length + (i + 1 + 1) * w = head.length + w + (i + 1) * w by ring]
      simpa using hr

/-- The UTF-8 bytes of a string. -/
def utf8 (s : String) : List UInt8 := s.toUTF8.data.toList

/-- The string some bytes encode, if they are UTF-8. -/
def ofUtf8 (bytes : List UInt8) : Option String := String.fromUTF8? ⟨bytes.toArray⟩

lemma ofUtf8_utf8 (s : String) : ofUtf8 (utf8 s) = some s := by
  have hv : s.toByteArray.IsValidUTF8 := s.isValidUTF8
  unfold ofUtf8 utf8 String.fromUTF8?
  exact dif_pos hv

/-- Bytes that are UTF-8 are the bytes of their string. -/
lemma utf8_of_ofUtf8 {bs : List UInt8} {s : String} (h : ofUtf8 bs = some s) : utf8 s = bs := by
  unfold ofUtf8 String.fromUTF8? at h
  split_ifs at h with hv
  cases h
  rfl

lemma length_utf8 (s : String) : (utf8 s).length = s.utf8ByteSize := rfl

end Hypercolor.Lib
