import Mathlib.Algebra.BigOperators.Intervals
import Mathlib.Algebra.BigOperators.Ring.Finset
import Mathlib.Data.Rat.Floor
import Mathlib.Data.Fin.VecNotation
import Mathlib.Tactic.FinCases
import Mathlib.Algebra.Order.BigOperators.Group.Finset
import Mathlib.Data.List.GetD
import Hypercolor.Spatial.WorkspacePool

/-!
# Box averages from a summed-area table

`SummedAreaWorkspace` fills a table of prefix sums from a canvas and averages a window of it from four
entries, the canvas edges standing in for what lies outside. **`sample_rebuild`**: what it gives is
the plain average of the window, every coordinate clamped to the canvas, and no operation on the way
leaves its integer type.

An operation that leaves its type has no result here, as an index outside its buffer has none.
-/

namespace Hypercolor.Spatial

open Finset Option Nat WorkspaceGeometry

/-! ## The table -/

/-- One number for each channel: the source's `[u64; 3]` and `[u128; 3]`. -/
abbrev Rgb := Fin 3 → Nat

def u128Max : Nat := 2 ^ 128 - 1

def fits (top n : Nat) : Option Nat := if n ≤ top then some n else none

/-- Channels that an integer type up to `top` holds. -/
def fitsRgb (top : Nat) (v : Rgb) : Option Rgb := if ∀ c, v c ≤ top then some v else none

def subRgb (a b : Rgb) : Option Rgb :=
  if ∀ c, b c ≤ a c then some fun c => a c - b c else none

/-- `Canvas` -/
structure Canvas where
  width : UInt32
  height : UInt32
  /-- RGBA, row by row. -/
  bytes : List UInt8
  length_bytes : bytes.length = width.toNat * height.toNat * 4

/-- `for i in 0..n`. -/
def loop {σ : Type} (f : Nat → σ → Option σ) : Nat → σ → Option σ
  | 0, s => some s
  | n + 1, s => (loop f n s).bind (f n)

/-- The assignment `sums[i] = v`. -/
def store (sums : List Rgb) (i : Nat) (v : Rgb) : Option (List Rgb) :=
  if i < sums.length then some (sums.set i v) else none

section rebuild

variable (decode : UInt8 → UInt16) (stride : Nat) (canvas : Canvas)

/-- The pixel at a byte offset, in linear light. -/
def pixelAt (source : Nat) : Option Rgb := do
  let red ← canvas.bytes[source]?
  let green ← canvas.bytes[source + 1]?
  let blue ← canvas.bytes[source + 2]?
  some fun c => (decode (![red, green, blue] c)).toNat

/-- The inner loop of `rebuild`, on the sum of the row so far and the table. -/
def rebuildPixel (y x : Nat) (s : Rgb × List Rgb) : Option (Rgb × List Rgb) := do
  let pixel ← pixelAt decode canvas (y * (canvas.width.toNat * 4) + x * 4)
  let rowSum ← fitsRgb usizeMax (s.1 + pixel)
  let above ← s.2[y * stride + x + 1]?
  let entry ← fitsRgb usizeMax (rowSum + above)
  let sums ← store s.2 ((y + 1) * stride + x + 1) entry
  some (rowSum, sums)

/-- The outer loop of `rebuild`. -/
def rebuildRow (y : Nat) (sums : List Rgb) : Option (List Rgb) := do
  let sums ← store sums ((y + 1) * stride) 0
  let (_, sums) ← loop (rebuildPixel decode stride canvas y) canvas.width.toNat (0, sums)
  some sums

/-- `SummedAreaWorkspace::rebuild` -/
def rebuild (sums : List Rgb) : Option (List Rgb) :=
  if stride ≤ sums.length then
    loop (rebuildRow decode stride canvas)
      canvas.height.toNat (List.replicate stride 0 ++ sums.drop stride)
  else none

end rebuild

/-! ## The sample -/

/-- `ClampedAxis` -/
structure ClampedAxis where
  start : Nat
  stop : Nat
  before : Nat
  after : Nat
  sampleCount : Nat

/-- `new` -/
def ClampedAxis.new (center radius maximum : UInt32) : Option ClampedAxis := do
  let upper ← checked (center.toNat + radius.toNat)
  let start ← fits (2 ^ 32 - 1) (center.toNat - radius.toNat)
  let stop ← fits (2 ^ 32 - 1) (min upper maximum.toNat)
  let sampleCount ← checked (radius.toNat * 2 + 1)
  some { start, stop, before := radius.toNat - center.toNat, after := upper - maximum.toNat
         sampleCount }

/-- The corners `x0`, `y0`, `x1`, `y1` of a rectangle, inclusive. -/
abbrev Rectangle := Nat × Nat × Nat × Nat

/-- `SummedAreaWorkspace::rectangle_sum` -/
def rectangleSum (stride : Nat) (sums : List Rgb) : Rectangle → Option Rgb
  | (x0, y0, x1, y1) => do
      let bottomRight ← sums[(y1 + 1) * stride + (x1 + 1)]?
      let bottomLeft ← sums[(y1 + 1) * stride + x0]?
      let topRight ← sums[y0 * stride + (x1 + 1)]?
      let topLeft ← sums[y0 * stride + x0]?
      let bottom ← subRgb bottomRight bottomLeft
      let top ← subRgb topRight topLeft
      subRgb bottom top

/-- `add_weighted` -/
def addWeighted (sum value : Rgb) (weight : Nat) : Option Rgb := do
  let product ← fitsRgb u128Max fun c => value c * weight
  fitsRgb u128Max (sum + product)

/-- The rectangles that `sample` adds up, with their weights: the window inside the canvas, its four
sides, its four corners. -/
def weightedRectangles (x y : ClampedAxis) (right bottom : Nat) : List (Rectangle × Nat) :=
  [((x.start, y.start, x.stop, y.stop), 1),
    ((0, y.start, 0, y.stop), x.before), ((right, y.start, right, y.stop), x.after),
    ((x.start, 0, x.stop, 0), y.before), ((x.start, bottom, x.stop, bottom), y.after)] ++
  [(0, x.before), (right, x.after)].flatMap fun (px, xWeight) =>
    [(0, y.before), (bottom, y.after)].map fun (py, yWeight) => ((px, py, px, py), xWeight * yWeight)

/-- `PreparedAreaSample` -/
structure PreparedAreaSample where
  centerX : UInt32
  centerY : UInt32
  radiusX : UInt32
  radiusY : UInt32

/-- `SummedAreaWorkspace::sample` -/
def sample (geometry : WorkspaceGeometry) (sums : List Rgb) (s : PreparedAreaSample) : Option Rgb := do
  let x ← ClampedAxis.new s.centerX s.radiusX (geometry.width - 1)
  let y ← ClampedAxis.new s.centerY s.radiusY (geometry.height - 1)
  let sum ← (weightedRectangles x y (geometry.width - 1).toNat (geometry.height - 1).toNat).foldlM
    (fun sum (rectangle, weight) => do
      let value ← rectangleSum geometry.stride sums rectangle
      let weight ← fits u128Max weight
      addWeighted sum value weight) 0
  let count ← fits u128Max (x.sampleCount * y.sampleCount)
  fitsRgb 65535 fun c => sum c / count

/-! ## The plain average -/

/-- A channel of the canvas in linear light. -/
def Canvas.channel (decode : UInt8 → UInt16) (canvas : Canvas) (c : Fin 3) (x y : Nat) : Nat :=
  (decode (canvas.bytes.getD (y * (canvas.width.toNat * 4) + x * 4 + c) 0)).toNat

/-- The sum of a channel over the window of `2 * radiusX + 1` by `2 * radiusY + 1` coordinates around
the center, each clamped to the canvas. -/
def boxSum (f : Nat → Nat → Nat) (right bottom : Nat) (s : PreparedAreaSample) : Nat :=
  ∑ j ∈ range (2 * s.radiusY.toNat + 1), ∑ i ∈ range (2 * s.radiusX.toNat + 1),
    f (min (s.centerX.toNat + i - s.radiusX.toNat) right)
      (min (s.centerY.toNat + j - s.radiusY.toNat) bottom)

/-- A clamped window is the part inside and each end as often as the window passes it. -/
lemma clamped_sum (f : Nat → Nat) {c m : Nat} (hc : c ≤ m) (r : Nat) :
    ∑ i ∈ range (2 * r + 1), f (min (c + i - r) m) =
      ∑ k ∈ Ico (c - r) (min (c + r) m + 1), f k + (r - c) * f 0 + (c + r - m) * f m := by
  induction r with
  | zero => simp [min_eq_left hc, Nat.sub_eq_zero_of_le hc]
  | succ r ih =>
      have hl (b : Nat) (hb : c < b) : ∑ k ∈ Ico (c - (r + 1)) b, f k + (r + 1 - c) * f 0 =
          f (c - (r + 1)) + (∑ k ∈ Ico (c - r) b, f k + (r - c) * f 0) := by
        rcases lt_or_ge r c with h | h
        · rw [sum_eq_sum_Ico_succ_bot (by omega : c - (r + 1) < b),
            show c - (r + 1) + 1 = c - r by omega, Nat.sub_eq_zero_of_le h.le,
            Nat.sub_eq_zero_of_le h]
          ring
        · rw [show c - (r + 1) = 0 by omega, show c - r = 0 by omega, succ_sub h, succ_mul]
          omega
      have hh : ∑ k ∈ Ico (c - r) (min (c + (r + 1)) m + 1), f k + (c + (r + 1) - m) * f m =
          ∑ k ∈ Ico (c - r) (min (c + r) m + 1), f k + (c + r - m) * f m +
            f (min (c + (r + 1)) m) := by
        rcases lt_or_ge (c + r) m with h | h
        · rw [min_eq_left h.le, min_eq_left (by omega : c + (r + 1) ≤ m),
            sum_Ico_succ_top (by omega : c - r ≤ c + (r + 1)), Nat.sub_eq_zero_of_le h.le,
            Nat.sub_eq_zero_of_le (by omega : c + (r + 1) ≤ m)]
          ring_nf
        · rw [min_eq_right h, min_eq_right (by omega), ← add_assoc, succ_sub h, succ_mul]
          omega
      -- the wider window is the narrower one between its two new ends
      have hm : ∑ i ∈ range (2 * r + 1), f (min (c + (i + 1) - (r + 1)) m) =
          ∑ i ∈ range (2 * r + 1), f (min (c + i - r) m) :=
        sum_congr rfl fun i _ => by rw [← Nat.add_assoc, Nat.add_sub_add_right]
      have he : min (c + 0 - (r + 1)) m = c - (r + 1) ∧
          c + (2 * r + 1 + 1) - (r + 1) = c + (r + 1) := by omega
      rw [show 2 * (r + 1) + 1 = 2 * r + 1 + 1 + 1 by ring, sum_range_succ, sum_range_succ', hm,
        ih, he.1, he.2, hl _ (by omega)]
      omega

lemma double_sum_le {f : Nat → Nat → Nat} {b : Nat} (hf : ∀ i j, f i j ≤ b) (m n : Nat) :
    ∑ j ∈ range m, ∑ i ∈ range n, f i j ≤ m * (n * b) := by
  have hr (j : Nat) : ∑ i ∈ range n, f i j ≤ n * b := by
    simpa using sum_le_card_nsmul (range n) (f · j) b fun i _ => hf i j
  simpa using sum_le_card_nsmul (range m) _ (n * b) fun j _ => hr j

/-! ## Filling the table -/

lemma loop_spec {σ : Type} {f : Nat → σ → Option σ} {P : Nat → σ → Prop} {n : Nat} {s : σ}
    (h0 : P 0 s) (hs : ∀ i < n, ∀ s, P i s → ∃ s', f i s = some s' ∧ P (i + 1) s') :
    ∃ s', loop f n s = some s' ∧ P n s' := by
  induction n with
  | zero => exact ⟨s, rfl, h0⟩
  | succ n ih =>
      obtain ⟨t, ht, hp⟩ := ih fun i hi => hs i (hi.trans n.lt_succ_self)
      obtain ⟨s', hs', hp'⟩ := hs n n.lt_succ_self t hp
      exact ⟨s', by rw [loop, ht]; exact hs', hp'⟩

lemma fitsRgb_of_le {top : Nat} {v : Rgb} (h : ∀ c, v c ≤ top) : fitsRgb top v = some v := if_pos h

lemma index_inj {w x y x' y' : Nat} (hx : x ≤ w) (hx' : x' ≤ w)
    (h : y * (w + 1) + x = y' * (w + 1) + x') : y = y' ∧ x = x' := by
  have hy : y = y' := by
    by_contra hn
    rcases lt_or_gt_of_ne hn with hl | hl
    all_goals
      have hm := mul_le_mul_right (w + 1) hl
      rw [succ_mul] at hm
      omega
  subst hy
  omega

/-- The sum of the first `x` columns of the first `y` rows. -/
def prefixSum (f : Nat → Nat → Nat) (x y : Nat) : Nat := ∑ j ∈ range y, ∑ i ∈ range x, f i j

section table

variable {decode : UInt8 → UInt16} {canvas : Canvas} {sums : List Rgb} {x y : Nat}

/-- The table holds its prefix sums through column `x` of row `y`. -/
structure Filled (decode : UInt8 → UInt16) (canvas : Canvas) (sums : List Rgb) (y x : Nat) :
    Prop where
  length : sums.length = (canvas.height.toNat + 1) * (canvas.width.toNat + 1)
  entry : ∀ {x' y'}, x' ≤ canvas.width.toNat → y' < y ∨ y' = y ∧ x' ≤ x →
    sums[y' * (canvas.width.toNat + 1) + x']? =
      some fun c => prefixSum (canvas.channel decode c) x' y'

/-- The next entry, in the order of the loops. -/
lemma Filled.store {x₁ y₁ : Nat} (h : Filled decode canvas sums y x)
    (hx : x₁ ≤ canvas.width.toNat) (hy : y₁ ≤ canvas.height.toNat)
    (hn : ∀ x' y', x' ≤ canvas.width.toNat → y' < y₁ ∨ y' = y₁ ∧ x' ≤ x₁ →
      y' = y₁ ∧ x' = x₁ ∨ y' < y ∨ y' = y ∧ x' ≤ x) :
    ∃ sums', Spatial.store sums (y₁ * (canvas.width.toNat + 1) + x₁)
        (fun c => prefixSum (canvas.channel decode c) x₁ y₁) = some sums' ∧
      Filled decode canvas sums' y₁ x₁ := by
  have hl : y₁ * (canvas.width.toNat + 1) + x₁ < sums.length := by
    have hm := mul_le_mul_right (canvas.width.toNat + 1) hy
    rw [h.length, succ_mul]
    omega
  refine ⟨_, if_pos hl, ?_, fun {x' y'} hx' hp => ?_⟩
  · rw [List.length_set, h.length]
  · by_cases he : y' = y₁ ∧ x' = x₁
    · obtain ⟨rfl, rfl⟩ := he
      exact List.getElem?_set_self hl
    · rw [List.getElem?_set_ne fun heq => he ((index_inj hx hx' heq).imp Eq.symm Eq.symm)]
      exact h.entry hx' ((hn x' y' hx' hp).resolve_left he)

lemma channel_le (c : Fin 3) (i j : Nat) : canvas.channel decode c i j ≤ 65535 := by
  have h := (decode (canvas.bytes.getD (j * (canvas.width.toNat * 4) + i * 4 + c) 0)).toNat_lt
  exact le_of_lt_succ h

variable (hfit : canvas.width.toNat * canvas.height.toNat * 65535 ≤ usizeMax)
include hfit

/-- An entry of the table fits a `u64`. -/
lemma prefixSum_le (c : Fin 3) (hx : x ≤ canvas.width.toNat) (hy : y ≤ canvas.height.toNat) :
    prefixSum (canvas.channel decode c) x y ≤ usizeMax := by
  calc prefixSum (canvas.channel decode c) x y ≤ y * (x * 65535) := double_sum_le (channel_le c) y x
    _ ≤ canvas.height.toNat * (canvas.width.toNat * 65535) := by gcongr
    _ ≤ usizeMax := by linarith

omit hfit in
lemma pixelAt_eq (hx : x < canvas.width.toNat) (hy : y < canvas.height.toNat) :
    pixelAt decode canvas (y * (canvas.width.toNat * 4) + x * 4) =
      some fun c => canvas.channel decode c x y := by
  have hb : y * (canvas.width.toNat * 4) + x * 4 + 2 < canvas.bytes.length := by
    have hm := mul_le_mul_right (canvas.width.toNat * 4) hy
    rw [succ_mul] at hm
    rw [canvas.length_bytes, show canvas.width.toNat * canvas.height.toNat * 4 =
      canvas.height.toNat * (canvas.width.toNat * 4) by ring]
    omega
  rw [pixelAt, List.getElem?_eq_getElem (by omega), List.getElem?_eq_getElem (by omega),
    List.getElem?_eq_getElem hb]
  refine congrArg some (funext fun c => ?_)
  fin_cases c <;> exact congrArg _ (congrArg decode (List.getD_eq_getElem _ _ (by omega)).symm)

lemma rebuildPixel_filled (hx : x < canvas.width.toNat) (hy : y < canvas.height.toNat)
    (h : Filled decode canvas sums (y + 1) x) :
    ∃ sums', rebuildPixel decode (canvas.width.toNat + 1) canvas y x
        (fun c => ∑ i ∈ range x, canvas.channel decode c i y, sums) =
          some (fun c => ∑ i ∈ range (x + 1), canvas.channel decode c i y, sums') ∧
      Filled decode canvas sums' (y + 1) (x + 1) := by
  obtain ⟨sums', hst, hf⟩ := h.store (show x + 1 ≤ _ from hx) hy fun _ _ _ _ => by omega
  refine ⟨sums', ?_, hf⟩
  have hl (c : Fin 3) : prefixSum (canvas.channel decode c) (x + 1) (y + 1) ≤ usizeMax :=
    prefixSum_le hfit c hx hy
  have hr : (fun c => ∑ i ∈ range x, canvas.channel decode c i y) +
      (fun c => canvas.channel decode c x y) =
        fun c => ∑ i ∈ range (x + 1), canvas.channel decode c i y :=
    funext fun c => (sum_range_succ _ _).symm
  have he : (fun c => ∑ i ∈ range (x + 1), canvas.channel decode c i y) +
      (fun c => prefixSum (canvas.channel decode c) (x + 1) y) =
        fun c => prefixSum (canvas.channel decode c) (x + 1) (y + 1) :=
    funext fun c => (add_comm _ _).trans (sum_range_succ _ _).symm
  have ha := h.entry (show x + 1 ≤ _ from hx) (.inl y.lt_succ_self)
  have hs : fitsRgb usizeMax (fun c => ∑ i ∈ range (x + 1), canvas.channel decode c i y) = some _ :=
    fitsRgb_of_le fun c => (le_add_right _ _).trans ((congrFun he c).le.trans (hl c))
  simp only [rebuildPixel, pixelAt_eq hx hy, bind_eq_bind, bind_some, hr, hs,
    add_assoc, ha, he, fitsRgb_of_le hl, hst]

lemma rebuildRow_filled (hy : y < canvas.height.toNat)
    (h : Filled decode canvas sums y canvas.width.toNat) :
    ∃ sums', rebuildRow decode (canvas.width.toNat + 1) canvas y sums = some sums' ∧
      Filled decode canvas sums' (y + 1) canvas.width.toNat := by
  obtain ⟨first, hst, hf⟩ := h.store (zero_le _) hy fun _ _ _ _ => by omega
  obtain ⟨⟨row, sums'⟩, hl, hr, hf'⟩ := loop_spec (n := canvas.width.toNat)
    (f := rebuildPixel decode (canvas.width.toNat + 1) canvas y) (s := (0, first))
    (P := fun x s => s.1 = (fun c => ∑ i ∈ range x, canvas.channel decode c i y) ∧
      Filled decode canvas s.2 (y + 1) x) ⟨rfl, hf⟩ fun x hx s hs => by
        obtain ⟨sums', hp, hf'⟩ := rebuildPixel_filled hfit hx hy hs.2
        exact ⟨_, hs.1 ▸ hp, rfl, hf'⟩
  refine ⟨sums', ?_, hf'⟩
  have hz : (fun c => prefixSum (canvas.channel decode c) 0 (y + 1)) = 0 :=
    funext fun c => by simp [prefixSum]
  rw [hz] at hst
  rw [rebuildRow, ← add_zero ((y + 1) * _), hst]
  simp only [bind_eq_bind, bind_some, hl]

variable (decode) in
/-- Whatever the table held, its prefix sums are those of the canvas. -/
lemma rebuild_filled (hl : sums.length = (canvas.height.toNat + 1) * (canvas.width.toNat + 1)) :
    ∃ sums', rebuild decode (canvas.width.toNat + 1) canvas sums = some sums' ∧
      Filled decode canvas sums' canvas.height.toNat canvas.width.toNat := by
  have hle : canvas.width.toNat + 1 ≤ sums.length := by
    rw [hl, succ_mul]
    omega
  rw [rebuild, if_pos hle]
  refine loop_spec (P := fun y s => Filled decode canvas s y canvas.width.toNat) ⟨?_, ?_⟩
    fun y hy s hs => rebuildRow_filled hfit hy hs
  · simp only [List.length_append, List.length_replicate, List.length_drop]
    omega
  · rintro x' y' hx' (hy' | ⟨rfl, -⟩)
    · omega
    · rw [zero_mul, zero_add, List.getElem?_append_left (by simp; omega)]
      simp [prefixSum, lt_succ_of_le hx']
      rfl

end table

/-! ## Reading it -/

section read

variable {decode : UInt8 → UInt16} {canvas : Canvas} {sums : List Rgb}

/-- What a rectangle of a channel adds up to. -/
def inside (f : Nat → Nat → Nat) : Rectangle → Nat
  | (x0, y0, x1, y1) => ∑ j ∈ Ico y0 (y1 + 1), ∑ i ∈ Ico x0 (x1 + 1), f i j

lemma subRgb_of_eq {a b d : Rgb} (h : ∀ c, a c = b c + d c) : subRgb a b = some d := by
  rw [subRgb, if_pos fun c => by rw [h]; exact le_add_right _ _]
  exact congrArg some (funext fun c => by rw [h]; exact Nat.add_sub_cancel_left _ _)

/-- A rectangle on the canvas. -/
def OnCanvas (canvas : Canvas) : Rectangle → Prop
  | (x0, y0, x1, y1) => x0 ≤ x1 ∧ x1 < canvas.width.toNat ∧ y0 ≤ y1 ∧ y1 < canvas.height.toNat

/-- Neither difference of prefix sums goes below zero, nor does their difference. -/
lemma rectangleSum_eq {r : Rectangle} (hr : OnCanvas canvas r)
    (h : Filled decode canvas sums canvas.height.toNat canvas.width.toNat) :
    rectangleSum (canvas.width.toNat + 1) sums r = some fun c => inside (canvas.channel decode c) r := by
  obtain ⟨x0, y0, x1, y1⟩ := r
  obtain ⟨hx, hx1, hy, hy1⟩ := hr
  have hc (c : Fin 3) (y : Nat) : prefixSum (canvas.channel decode c) (x1 + 1) y =
      prefixSum (canvas.channel decode c) x0 y +
        ∑ j ∈ range y, ∑ i ∈ Ico x0 (x1 + 1), canvas.channel decode c i j := by
    rw [prefixSum, prefixSum, ← sum_add_distrib]
    exact sum_congr rfl fun j _ => (sum_range_add_sum_Ico _ (by omega)).symm
  have hro (c : Fin 3) := (sum_range_add_sum_Ico
    (fun j => ∑ i ∈ Ico x0 (x1 + 1), canvas.channel decode c i j) (by omega : y0 ≤ y1 + 1)).symm
  simp only [rectangleSum, h.entry (by omega : x1 + 1 ≤ _) (by omega : y1 + 1 < _ ∨ _),
    h.entry (by omega : x0 ≤ _) (by omega : y1 + 1 < _ ∨ _), h.entry (by omega : x1 + 1 ≤ _)
    (by omega : y0 < _ ∨ _), h.entry (by omega : x0 ≤ _) (by omega : y0 < _ ∨ _),
    bind_eq_bind, bind_some, subRgb_of_eq (hc · _), subRgb_of_eq hro, inside]

/-- The terms are added while their sum fits. -/
lemma foldlM_addWeighted {l : List (Rectangle × Nat)} {a : Rgb}
    (h : Filled decode canvas sums canvas.height.toNat canvas.width.toNat)
    (hl : ∀ t ∈ l, OnCanvas canvas t.1 ∧ t.2 ≤ u128Max)
    (hfit : ∀ c, a c + (l.map fun t => inside (canvas.channel decode c) t.1 * t.2).sum ≤ u128Max) :
    l.foldlM (fun sum (rectangle, weight) => do
        let value ← rectangleSum (canvas.width.toNat + 1) sums rectangle
        let weight ← fits u128Max weight
        addWeighted sum value weight) a =
      some fun c => a c + (l.map fun t => inside (canvas.channel decode c) t.1 * t.2).sum := by
  induction l generalizing a with
  | nil => rfl
  | cons t l ih =>
      obtain ⟨hr, hw⟩ := hl t List.mem_cons_self
      simp only [List.map_cons, List.sum_cons, ← add_assoc] at hfit ⊢
      rw [← ih (fun t ht => hl t (List.mem_cons_of_mem _ ht)) hfit]
      simp only [List.foldlM_cons, rectangleSum_eq hr h, fits, if_pos hw, addWeighted,
        bind_eq_bind, bind_some]
      rw [fitsRgb_of_le fun c => by have := hfit c; omega, bind_some,
        fitsRgb_of_le (v := a + _) fun c => (le_add_right _ _).trans (hfit c)]
      rfl

/-- A window around a center on the canvas, in exact numbers. -/
def ClampedAxis.around (center radius maximum : Nat) : ClampedAxis where
  start := center - radius
  stop := min (center + radius) maximum
  before := radius - center
  after := center + radius - maximum
  sampleCount := radius * 2 + 1

lemma ClampedAxis.new_eq (center radius maximum : UInt32) :
    new center radius maximum = some (around center.toNat radius.toNat maximum.toNat) := by
  have hc := center.toNat_lt
  have hr := radius.toNat_lt
  have hm := maximum.toNat_lt
  have hu : checked (center.toNat + radius.toNat) = some _ := if_pos (by rw [usizeMax]; omega)
  have hs : fits (2 ^ 32 - 1) (center.toNat - radius.toNat) = some _ := if_pos (by omega)
  have he : fits (2 ^ 32 - 1) (min (center.toNat + radius.toNat) maximum.toNat) = some _ :=
    if_pos (by omega)
  have hn : checked (radius.toNat * 2 + 1) = some _ := if_pos (by rw [usizeMax]; omega)
  simp only [new, hu, hs, he, hn, bind_eq_bind, bind_some, around]

/-- The nine weighted rectangles make up the clamped window. -/
lemma sum_weightedRectangles (f : Nat → Nat → Nat) {s : PreparedAreaSample} {right bottom : Nat}
    (hx : s.centerX.toNat ≤ right) (hy : s.centerY.toNat ≤ bottom) :
    ((weightedRectangles (.around s.centerX.toNat s.radiusX.toNat right)
      (.around s.centerY.toNat s.radiusY.toNat bottom) right bottom).map
        fun t => inside f t.1 * t.2).sum = boxSum f right bottom s := by
  rw [boxSum, clamped_sum (fun y => ∑ i ∈ range (2 * s.radiusX.toNat + 1),
    f (min (s.centerX.toNat + i - s.radiusX.toNat) right) y) hy]
  simp only [fun y => clamped_sum (f · y) hx s.radiusX.toNat, sum_add_distrib, ← mul_sum,
    weightedRectangles, inside, ClampedAxis.around]
  simp
  ring

end read

lemma tryNew_spec {width height : UInt32} {geometry : WorkspaceGeometry}
    (h : tryNew width height = .ok geometry) :
    width ≠ 0 ∧ height ≠ 0 ∧ width.toNat * height.toNat * 65535 ≤ usizeMax ∧
      ∃ byteLen, geometry = { stride := width.toNat + 1
                              entryCount := (width.toNat + 1) * (height.toNat + 1)
                              width, height, byteLen } := by
  unfold tryNew at h
  dsimp only at h
  split at h
  · cases h
  · rename_i hn
    split at h
    · rename_i he hb hp
      cases h
      obtain ⟨hl, -⟩ := ite_none_right_eq_some.mp hp
      obtain ⟨-, heq⟩ := ite_none_right_eq_some.mp he
      cases heq
      exact ⟨fun hw => hn (.inl hw), fun hh => hn (.inr hh), hl, _, rfl⟩
    · cases h

/-- **A sample is the plain average.** For every admitted canvas, whatever the table held before, the
sample around a center on the canvas is in each channel the sum over the clamped window, divided by
the number of its coordinates and rounded down. -/
theorem sample_rebuild (decode : UInt8 → UInt16) {canvas : Canvas} {geometry : WorkspaceGeometry}
    {sums : List Rgb} {s : PreparedAreaSample} (hg : tryNew canvas.width canvas.height = .ok geometry)
    (hlen : sums.length = geometry.entryCount) (hx : s.centerX < canvas.width)
    (hy : s.centerY < canvas.height) : ∃ table, rebuild decode geometry.stride canvas sums = some table ∧
      sample geometry table s = some fun c =>
        boxSum (canvas.channel decode c) (canvas.width.toNat - 1) (canvas.height.toNat - 1) s /
          ((2 * s.radiusX.toNat + 1) * (2 * s.radiusY.toNat + 1)) := by
  obtain ⟨hw, hh, hfit, byteLen, rfl⟩ := tryNew_spec hg
  obtain ⟨table, ht, hf⟩ := rebuild_filled decode hfit (hlen.trans (Nat.mul_comm _ _))
  refine ⟨table, ht, ?_⟩
  have hx' := UInt32.lt_iff_toNat_lt.mp hx
  have hy' := UInt32.lt_iff_toNat_lt.mp hy
  have hrx := s.radiusX.toNat_lt
  have hry := s.radiusY.toNat_lt
  have hc := s.centerX.toNat_lt
  have hcy := s.centerY.toNat_lt
  have hr : (canvas.width - 1).toNat = canvas.width.toNat - 1 :=
    UInt32.toNat_sub_of_le _ _ (UInt32.le_iff_toNat_le.mpr (Nat.one_le_of_lt hx'))
  have hbo : (canvas.height - 1).toNat = canvas.height.toNat - 1 :=
    UInt32.toNat_sub_of_le _ _ (UInt32.le_iff_toNat_le.mpr (Nat.one_le_of_lt hy'))
  have hl (c : Fin 3) : boxSum (canvas.channel decode c) (canvas.width.toNat - 1)
      (canvas.height.toNat - 1) s ≤
        (2 * s.radiusY.toNat + 1) * ((2 * s.radiusX.toNat + 1) * 65535) :=
    double_sum_le (fun _ _ => channel_le c _ _) _ _
  have hwt (f : Nat → Nat → Nat) := sum_weightedRectangles f (Nat.le_sub_one_of_lt hx')
    (Nat.le_sub_one_of_lt hy')
  have hm {a b : Nat} (ha : a < 2 ^ 33) (hb : b < 2 ^ 33) : a * b ≤ u128Max :=
    (Nat.mul_le_mul ha.le hb.le).trans (by decide)
  have hs := foldlM_addWeighted (a := 0) hf (l := weightedRectangles
    (.around s.centerX.toNat s.radiusX.toNat (canvas.width.toNat - 1))
    (.around s.centerY.toNat s.radiusY.toNat (canvas.height.toNat - 1))
    (canvas.width.toNat - 1) (canvas.height.toNat - 1)) ?_ fun c => ?_
  · simp only [Option.bind_eq_bind, hwt] at hs
    simp only [sample, ClampedAxis.new_eq, hr, hbo, Option.bind_eq_bind, Option.bind_some, hs]
    simp only [ClampedAxis.around, Nat.mul_comm _ 2, Pi.zero_apply, Nat.zero_add]
    rw [fits, if_pos (hm (by omega) (by omega)), Option.bind_some]
    refine fitsRgb_of_le fun c => Nat.div_le_of_le_mul ((hl c).trans_eq ?_)
    ring
  · simp only [weightedRectangles, ClampedAxis.around]
    have hbi : 2 ^ 34 ≤ u128Max := by decide
    simp [OnCanvas]
    and_intros <;> first | omega | exact hm (by omega) (by omega)
  · rw [hwt, Pi.zero_apply, Nat.zero_add]
    have hy2 : 2 * s.radiusY.toNat + 1 ≤ 2 ^ 33 := by omega
    have hx2 : 2 * s.radiusX.toNat + 1 ≤ 2 ^ 33 := by omega
    exact (hl c).trans ((Nat.mul_le_mul hy2 (Nat.mul_le_mul_right _ hx2)).trans (by decide))

/-- A black pixel and a white one. -/
def pair : Canvas := ⟨2, 1, [0, 0, 0, 255, 255, 255, 255, 255], rfl⟩

/-- A window wider than its canvas. -/
theorem sample_rebuild_pair :
    ∃ table, rebuild (fun b => b.toUInt16 * 257) 3 pair (List.replicate 6 0) = some table ∧
      sample ⟨3, 6, 2, 1, 144⟩ table ⟨0, 0, 2, 1⟩ = some fun c =>
        boxSum (pair.channel (fun b => b.toUInt16 * 257) c) 1 0 ⟨0, 0, 2, 1⟩ / 15 :=
  have hg : tryNew pair.width pair.height = .ok ⟨3, 6, 2, 1, 144⟩ := rfl
  sample_rebuild _ (s := ⟨0, 0, 2, 1⟩) hg rfl (by decide) (by decide)

end Hypercolor.Spatial
