import Mathlib.Algebra.Group.Nat.Defs
import Mathlib.Data.List.TakeWhile
import Mathlib.Order.Lattice

/-!
# The adaptive frame rate

`engine/fps.rs`: `FpsController`, which follows the frame times and moves between five tiers. A tier
is left downwards after `downshift_miss_threshold` frames in a row that missed their budget.

* The tier never exceeds the maximum tier.
* **A downshift is earned** (`downshift_earned`) in every run in which `set_max_tier` lowers the tier
  only while no miss is counted: the frames that led to it were recorded at the tier that is left,
  and each missed the budget of that tier.

`set_max_tier` lowers the tier and leaves the count of misses standing, which every other change of
tier resets, so a miss at one tier is counted against another (`miss_carried_over`).

Durations and instants are in nanoseconds. The smoothed frame time is a binary64 number of seconds,
as in the source; nothing below depends on how it is rounded.
-/

namespace Hypercolor.Engine

open List

/-! ## Tiers -/

/-- `FpsTier` -/
inductive FpsTier where
  | minimal
  | low
  | medium
  | high
  | full
deriving DecidableEq

namespace FpsTier

/-- The discriminant, which orders the tiers. -/
def rank : FpsTier → Nat
  | minimal => 0
  | low => 1
  | medium => 2
  | high => 3
  | full => 4

lemma rank_injective : Function.Injective rank := by
  intro a b h
  cases a <;> cases b <;> first | rfl | cases h

instance : LinearOrder FpsTier := LinearOrder.lift' rank rank_injective

/-- `frame_interval` -/
def frameInterval : FpsTier → Nat
  | minimal => 100 * 10 ^ 6
  | low => 50 * 10 ^ 6
  | medium => 33333333
  | high => 22222222
  | full => 16666666

/-- `upshift` -/
def upshift : FpsTier → Option FpsTier
  | minimal => some low
  | low => some medium
  | medium => some high
  | high => some full
  | full => none

/-- `downshift` -/
def downshift : FpsTier → Option FpsTier
  | minimal => none
  | low => some minimal
  | medium => some low
  | high => some medium
  | full => some high

variable {a b : FpsTier}

lemma lt_of_upshift (h : a.upshift = some b) : a < b := by
  cases a <;> cases h <;> decide

lemma lt_of_downshift (h : a.downshift = some b) : b < a := by
  cases a <;> cases h <;> decide

end FpsTier

/-! ## The controller -/

/-- `Duration::as_secs_f64` -/
def asSecsF64 (duration : Nat) : Float :=
  Float.ofNat (duration / 10 ^ 9) + Float.ofNat (duration % 10 ^ 9) / 1e9

/-- `TierTransitionConfig` -/
structure TierTransitionConfig where
  downshiftMissThreshold : UInt32
  upshiftSustainSecs : Float
  upshiftHeadroomRatio : Float
  ewmaAlpha : Float

/-- `TierTransitionConfig::default` -/
instance : Inhabited TierTransitionConfig where
  default := ⟨2, 5.0, 0.7, 0.05⟩

/-- `FrameStats`: the smoothed frame time is in seconds, before it is turned into a `Duration`. -/
structure FrameStats where
  frameTime : Nat
  headroom : Nat
  budgetExceeded : Bool
  ewmaFrameTime : Float
  tier : FpsTier
  consecutiveMisses : UInt32
  framesSinceTierChange : UInt64

/-- `FpsController` -/
structure FpsController where
  tier : FpsTier
  maxTier : FpsTier
  config : TierTransitionConfig
  frameStart : Option Nat
  consecutiveMisses : UInt32
  ewmaFrameTime : Float
  framesSinceTierChange : UInt64
  upshiftEligibleSince : Option Nat
  totalFrames : UInt64

namespace FpsController

/-- `with_config` -/
def withConfig (tier : FpsTier) (config : TierTransitionConfig) : FpsController where
  tier := tier
  maxTier := .full
  config := config
  frameStart := none
  consecutiveMisses := 0
  ewmaFrameTime := asSecsF64 tier.frameInterval * 0.5
  framesSinceTierChange := 0
  upshiftEligibleSince := none
  totalFrames := 0

/-- `new` -/
def new (tier : FpsTier) : FpsController := withConfig tier default

variable (c : FpsController)

/-- `set_max_tier` -/
def setMaxTier (maxTier : FpsTier) : FpsController :=
  { c with
    maxTier := maxTier
    tier := if maxTier < c.tier then maxTier else c.tier
    upshiftEligibleSince := none }

/-- `begin_frame` -/
def beginFrame (now : Nat) : FpsController := { c with frameStart := some now }

/-- `abandon_frame` -/
def abandonFrame : FpsController := { c with frameStart := none }

/-- `record_frame`: the counters are added to without a check. -/
def recordFrame (frameTime : Nat) : FpsController × FrameStats :=
  let budget := c.tier.frameInterval
  let alpha := c.config.ewmaAlpha
  let budgetExceeded : Bool := budget < frameTime
  let recorded := { c with
    ewmaFrameTime := (1.0 - alpha) * c.ewmaFrameTime + alpha * asSecsF64 frameTime
    framesSinceTierChange := c.framesSinceTierChange + 1
    totalFrames := c.totalFrames + 1
    consecutiveMisses := if budgetExceeded then c.consecutiveMisses + 1 else 0
    upshiftEligibleSince := if budgetExceeded then none else c.upshiftEligibleSince }
  (recorded,
    { frameTime := frameTime
      headroom := if budgetExceeded then 0 else budget - frameTime
      budgetExceeded := budgetExceeded
      ewmaFrameTime := recorded.ewmaFrameTime
      tier := recorded.tier
      consecutiveMisses := recorded.consecutiveMisses
      framesSinceTierChange := recorded.framesSinceTierChange })

/-- `end_frame` -/
def endFrame (now : Nat) : FpsController × Option FrameStats :=
  match c.frameStart with
  | none => (c, none)
  | some start =>
      let (recorded, stats) := c.abandonFrame.recordFrame (now - start)
      (recorded, some stats)

/-- `should_downshift` -/
def shouldDownshift : Bool :=
  c.config.downshiftMissThreshold ≤ c.consecutiveMisses ∧ c.tier.downshift.isSome

/-- `should_upshift` -/
def shouldUpshift (now : Nat) : FpsController × Bool :=
  if c.maxTier ≤ c.tier ∨ c.tier.upshift = none then
    ({ c with upshiftEligibleSince := none }, false)
  else
    let budgetSecs := asSecsF64 c.tier.frameInterval
    if budgetSecs ≤ 0.0 then (c, false)
    else if c.config.upshiftHeadroomRatio < c.ewmaFrameTime / budgetSecs then
      ({ c with upshiftEligibleSince := none }, false)
    else
      match c.upshiftEligibleSince with
      | none => ({ c with upshiftEligibleSince := some now }, false)
      | some since => (c, c.config.upshiftSustainSecs ≤ asSecsF64 (now - since))

/-- `reset_transition_state` -/
def resetTransitionState : FpsController :=
  { c with consecutiveMisses := 0, framesSinceTierChange := 0, upshiftEligibleSince := none }

/-- `set_tier` -/
def setTier (tier : FpsTier) : FpsController :=
  let clamped := min tier c.maxTier
  if c.tier ≠ clamped then { c with tier := clamped }.resetTransitionState else c

/-- `downshift` -/
def downshift : FpsController × Option FpsTier :=
  match c.tier.downshift with
  | none => (c, none)
  | some new => ({ c with tier := new }.resetTransitionState, some new)

/-- `upshift` -/
def upshift : FpsController × Option FpsTier :=
  match c.tier.upshift with
  | none => (c, none)
  | some new =>
      if c.maxTier < new then (c, none)
      else ({ c with tier := new }.resetTransitionState, some new)

/-- `maybe_transition` -/
def maybeTransition (now : Nat) : FpsController × Option FpsTier :=
  if c.shouldDownshift then c.downshift
  else
    let (checked, shifts) := c.shouldUpshift now
    if shifts then checked.upshift else (checked, none)

end FpsController

/-! ## Runs -/

/-- A call of the controller, with the clock it reads. -/
inductive FpsCall where
  | setMaxTier (maxTier : FpsTier)
  | setTier (tier : FpsTier)
  | beginFrame (now : Nat)
  | abandonFrame
  | endFrame (now : Nat)
  | recordFrame (frameTime : Nat)
  | downshift
  | upshift
  | maybeTransition (now : Nat)
  | resetTransitionState

namespace FpsController

/-- The controller a call leaves. -/
def apply (c : FpsController) : FpsCall → FpsController
  | .setMaxTier maxTier => c.setMaxTier maxTier
  | .setTier tier => c.setTier tier
  | .beginFrame now => c.beginFrame now
  | .abandonFrame => c.abandonFrame
  | .endFrame now => (c.endFrame now).1
  | .recordFrame frameTime => (c.recordFrame frameTime).1
  | .downshift => c.downshift.1
  | .upshift => c.upshift.1
  | .maybeTransition now => (c.maybeTransition now).1
  | .resetTransitionState => c.resetTransitionState

/-- The frame a call records. -/
def recorded (c : FpsController) : FpsCall → Option FrameStats
  | .recordFrame frameTime => some (c.recordFrame frameTime).2
  | .endFrame now => (c.endFrame now).2
  | _ => none

end FpsController

/-- A controller with the frames it has recorded, newest first. -/
structure FpsHistory where
  controller : FpsController
  frames : List FrameStats

namespace FpsHistory

def new (tier : FpsTier) (config : TierTransitionConfig) : FpsHistory :=
  ⟨.withConfig tier config, []⟩

def step (h : FpsHistory) (call : FpsCall) : FpsHistory where
  controller := h.controller.apply call
  frames := (h.controller.recorded call).toList ++ h.frames

def run (h : FpsHistory) (calls : List FpsCall) : FpsHistory := calls.foldl step h

/-- The maximum tier is lowered below the tier only while no miss is counted. -/
def Settled (h : FpsHistory) : FpsCall → Prop
  | .setMaxTier maxTier => h.controller.tier ≤ maxTier ∨ h.controller.consecutiveMisses = 0
  | _ => True

/-- Every call of a run is settled where it is made. -/
def SettledRun (h : FpsHistory) : List FpsCall → Prop
  | [] => True
  | call :: calls => h.Settled call ∧ (h.step call).SettledRun calls

end FpsHistory

/-- The frame was recorded at the tier, and took longer than its budget. -/
def FrameStats.Missed (tier : FpsTier) (frame : FrameStats) : Prop :=
  frame.tier = tier ∧ tier.frameInterval < frame.frameTime

instance (tier : FpsTier) (frame : FrameStats) : Decidable (frame.Missed tier) := by
  unfold FrameStats.Missed
  infer_instance

/-- The frames that led to a downshift from the tier: as many as the threshold asks for, recorded at
that tier, and over its budget. -/
def FpsHistory.Earned (h : FpsHistory) : Prop :=
  h.controller.config.downshiftMissThreshold.toNat ≤ h.frames.length ∧
    ∀ frame ∈ h.frames.take h.controller.config.downshiftMissThreshold.toNat,
        frame.Missed h.controller.tier

/-! ## The tier and its maximum -/

namespace FpsController

variable {c : FpsController}

variable (c : FpsController)

/-- Looking for an upshift touches only the time from which it is eligible. -/
lemma shouldUpshift_eq (now : Nat) :
    ∃ since, (c.shouldUpshift now).1 = { c with upshiftEligibleSince := since } := by
  unfold shouldUpshift
  dsimp only
  split_ifs
  · exact ⟨none, rfl⟩
  · exact ⟨c.upshiftEligibleSince, rfl⟩
  · exact ⟨none, rfl⟩
  · split
    · exact ⟨some now, rfl⟩
    · exact ⟨c.upshiftEligibleSince, rfl⟩

/-- A downshift: to the tier below, with nothing counted. -/
lemma downshift_cases : c.downshift = (c, none) ∨ ∃ new, new < c.tier ∧
      c.downshift = ({ c with tier := new }.resetTransitionState, some new) := by
  unfold downshift
  rcases hn : c.tier.downshift with _ | new
  · exact .inl rfl
  · exact .inr ⟨new, FpsTier.lt_of_downshift hn, rfl⟩

/-- An upshift: to a tier above that the maximum allows, with nothing counted. -/
lemma upshift_cases : c.upshift = (c, none) ∨ ∃ new, c.tier < new ∧ new ≤ c.maxTier ∧
      c.upshift = ({ c with tier := new }.resetTransitionState, some new) := by
  unfold upshift
  rcases hn : c.tier.upshift with _ | new
  · exact .inl rfl
  · dsimp only
    split_ifs with hm
    · exact .inl rfl
    · exact .inr ⟨new, FpsTier.lt_of_upshift hn, not_lt.mp hm, rfl⟩

/-- What `maybe_transition` can do: go down after enough misses, go up, or neither. -/
lemma maybeTransition_cases (now : Nat) :
    (∃ new, new < c.tier ∧ c.config.downshiftMissThreshold ≤ c.consecutiveMisses ∧
      c.maybeTransition now = ({ c with tier := new }.resetTransitionState, some new)) ∨
    (∃ new, c.tier < new ∧ new ≤ c.maxTier ∧
      c.maybeTransition now = ({ c with tier := new }.resetTransitionState, some new)) ∨
    ∃ since, c.maybeTransition now = ({ c with upshiftEligibleSince := since }, none) := by
  unfold maybeTransition
  by_cases hd : c.shouldDownshift
  · rw [if_pos hd]
    simp only [shouldDownshift, decide_eq_true_eq] at hd
    rcases c.downshift_cases with hn | ⟨new, hl, hs⟩
    · obtain ⟨new, hne⟩ := Option.isSome_iff_exists.mp hd.2
      simp [downshift, hne] at hn
    · exact .inl ⟨new, hl, hd.1, hs⟩
  · obtain ⟨since, hsi⟩ := c.shouldUpshift_eq now
    dsimp only
    rw [hsi]
    split_ifs
    · rcases upshift_cases { c with upshiftEligibleSince := since } with hn | ⟨new, hl, hle, hs⟩
      · exact .inr (.inr ⟨since, hn⟩)
      · exact .inr (.inl ⟨new, hl, hle, hs⟩)
    · exact .inr (.inr ⟨since, rfl⟩)

end FpsController

/-- What a call can do: record a frame at the tier and count it; leave the tier and its maximum, and
the count or nothing of it; go to a tier that the maximum allows with nothing counted; or set the
maximum. -/
inductive FpsMove (c : FpsController) (call : FpsCall) : Prop where
  | records (frameTime : Nat) (hframe : c.recorded call = some (c.recordFrame frameTime).2)
      (htier : (c.apply call).tier = c.tier) (hmax : (c.apply call).maxTier = c.maxTier)
      (hmisses : (c.apply call).consecutiveMisses =
        if c.tier.frameInterval < frameTime then c.consecutiveMisses + 1 else 0)
  | stays (hframe : c.recorded call = none) (htier : (c.apply call).tier = c.tier)
      (hmax : (c.apply call).maxTier = c.maxTier)
      (hmisses : (c.apply call).consecutiveMisses = c.consecutiveMisses ∨
        (c.apply call).consecutiveMisses = 0)
  | shifts (hframe : c.recorded call = none) (htier : c.tier ≤ c.maxTier →
      (c.apply call).tier ≤ (c.apply call).maxTier) (hmisses : (c.apply call).consecutiveMisses = 0)
  | caps (maxTier : FpsTier) (hcall : call = .setMaxTier maxTier)

lemma FpsController.move (c : FpsController) (cl : FpsCall) : FpsMove c cl := by
  have hm : ∀ frameTime, (c.recordFrame frameTime).1.consecutiveMisses =
      if c.tier.frameInterval < frameTime then c.consecutiveMisses + 1 else 0 := by
    simp [recordFrame]
  cases cl with
  | setMaxTier maxTier => exact .caps maxTier rfl
  | beginFrame now | abandonFrame => exact .stays rfl rfl rfl (.inl rfl)
  | resetTransitionState => exact .stays rfl rfl rfl (.inr rfl)
  | recordFrame frameTime => exact .records frameTime rfl rfl rfl (hm frameTime)
  | endFrame now =>
    rcases hst : c.frameStart with _ | st
    · have he : c.endFrame now = (c, none) := by simp [endFrame, hst]
      exact .stays (by simp [recorded, he]) (by simp [apply, he]) (by simp [apply, he])
        (.inl (by simp [apply, he]))
    · have he : c.endFrame now = ((c.abandonFrame.recordFrame (now - st)).1,
          some (c.recordFrame (now - st)).2) := by
        simp only [endFrame, hst]
        rfl
      refine .records (now - st) (by rw [recorded, he]) (by rw [apply, he]; rfl)
        (by rw [apply, he]; rfl) ?_
      rw [apply, he]
      exact hm (now - st)
  | setTier tier =>
    by_cases hsa : c.tier ≠ min tier c.maxTier
    · have hse : c.setTier tier = { c with tier := min tier c.maxTier }.resetTransitionState :=
        if_pos hsa
      exact .shifts rfl (fun _ => by rw [apply, hse]; exact min_le_right _ _) (by rw [apply, hse]; rfl)
    · have hse : c.setTier tier = c := if_neg hsa
      exact .stays rfl (by rw [apply, hse]) (by rw [apply, hse]) (.inl (by rw [apply, hse]))
  | downshift =>
    rcases c.downshift_cases with hn | ⟨new, hl, hso⟩
    · exact .stays rfl (by rw [apply, hn]) (by rw [apply, hn]) (.inl (by rw [apply, hn]))
    · exact .shifts rfl (fun hc => by rw [apply, hso]; exact hl.le.trans hc) (by rw [apply, hso]; rfl)
  | upshift =>
    rcases c.upshift_cases with hn | ⟨new, -, hle, hso⟩
    · exact .stays rfl (by rw [apply, hn]) (by rw [apply, hn]) (.inl (by rw [apply, hn]))
    · exact .shifts rfl (fun _ => by rw [apply, hso]; exact hle) (by rw [apply, hso]; rfl)
  | maybeTransition now =>
    rcases c.maybeTransition_cases now with ⟨new, hl, -, hs⟩ | ⟨new, -, hle, hs⟩ | ⟨since, hs⟩
    · exact .shifts rfl (fun hc => by rw [apply, hs]; exact hl.le.trans hc) (by rw [apply, hs]; rfl)
    · exact .shifts rfl (fun _ => by rw [apply, hs]; exact hle) (by rw [apply, hs]; rfl)
    · exact .stays rfl (by rw [apply, hs]) (by rw [apply, hs]) (.inl (by rw [apply, hs]))

lemma FpsController.apply_capped {c : FpsController} (h : c.tier ≤ c.maxTier) (cl : FpsCall) :
    (c.apply cl).tier ≤ (c.apply cl).maxTier := by
  cases c.move cl with
  | records frameTime _ ht hm _ | stays _ ht hm _ => rwa [ht, hm]
  | shifts _ ht _ => exact ht h
  | caps maxTier hc =>
    subst hc
    show (if maxTier < c.tier then maxTier else c.tier) ≤ maxTier
    split_ifs with hl
    · exact le_rfl
    · exact not_lt.mp hl

/-! ## The misses that are counted -/

namespace FpsHistory

/-- No more misses are counted than the newest frames in a row that missed the budget of the tier. -/
def Counted (h : FpsHistory) : Prop :=
  h.controller.consecutiveMisses.toNat ≤ (h.frames.takeWhile (·.Missed h.controller.tier)).length

variable {h : FpsHistory}

lemma Counted.step (hcn : h.Counted) {cl : FpsCall} (hs : h.Settled cl) : (h.step cl).Counted := by
  unfold Counted FpsHistory.step at *
  cases h.controller.move cl with
  | records frameTime hf ht _ hm =>
    simp only [hf, ht, hm, Option.toList_some, singleton_append]
    split_ifs with hmi
    · have hne : (h.controller.recordFrame frameTime).2.Missed h.controller.tier :=
        ⟨rfl, hmi⟩
      rw [takeWhile_cons_of_pos (by simpa using hne), length_cons]
      -- Adding one to the count may wrap, which only lowers it.
      have hw : (h.controller.consecutiveMisses + 1).toNat ≤ h.controller.consecutiveMisses.toNat +
          1 := by
        exact Nat.mod_le _ _
      omega
    · exact Nat.zero_le _
  | stays hf ht _ hm =>
    simp only [hf, ht, Option.toList_none, nil_append]
    rcases hm with hm | hm
    · rwa [hm]
    · rw [hm]
      exact Nat.zero_le _
  | shifts _ _ hm =>
    simp only [hm]
    exact Nat.zero_le _
  | caps maxTier hc =>
    subst hc
    show h.controller.consecutiveMisses.toNat ≤ (h.frames.takeWhile
      (·.Missed (if maxTier < h.controller.tier then maxTier else h.controller.tier))).length
    rcases hs with hl | hn
    · rwa [if_neg (not_lt.mpr hl)]
    · rw [hn]
      exact Nat.zero_le _

/-- Enough misses counted is enough frames missed. -/
lemma Counted.earned (hc : h.Counted)
    (hm : h.controller.config.downshiftMissThreshold ≤ h.controller.consecutiveMisses) : h.Earned := by
  have hl := hc
  have ht : h.controller.config.downshiftMissThreshold.toNat ≤
      (h.frames.takeWhile (·.Missed h.controller.tier)).length :=
    (UInt32.le_iff_toNat_le.mp hm).trans hl
  obtain ⟨rest, hr⟩ := takeWhile_prefix (l := h.frames) (·.Missed h.controller.tier)
  constructor
  · rw [← hr, length_append]
    omega
  · intro f hf
    rw [← hr, take_append_of_le_length ht] at hf
    simpa using mem_takeWhile_imp (mem_of_mem_take hf)

lemma Counted.run (hc : h.Counted) {cs : List FpsCall} (hs : h.SettledRun cs) : (h.run cs).Counted := by
  induction cs generalizing h with
  | nil => exact hc
  | cons cl cs ih => exact ih (hc.step hs.1) hs.2

lemma capped_run (hc : h.controller.tier ≤ h.controller.maxTier) (cs : List FpsCall) :
    (h.run cs).controller.tier ≤ (h.run cs).controller.maxTier := by
  induction cs generalizing h with
  | nil => exact hc
  | cons cl cs ih => exact ih (FpsController.apply_capped hc cl)

end FpsHistory

/-- **The tier and the downshifts of every run.** The tier is never above the maximum tier. Where the
run is settled, a call of `maybe_transition` that goes down has been earned at the tier it leaves. -/
theorem downshift_earned (tier : FpsTier) (config : TierTransitionConfig) (calls : List FpsCall) :
    let h := (FpsHistory.new tier config).run calls
    h.controller.tier ≤ h.controller.maxTier ∧ ((FpsHistory.new tier config).SettledRun calls → ∀ now new,
        (h.controller.maybeTransition now).2 = some new → new < h.controller.tier → h.Earned) := by
  intro h
  refine ⟨FpsHistory.capped_run ?_ calls, fun hse now new hs hd => ?_⟩
  · show tier ≤ .full
    cases tier <;> decide
  · have hc : h.Counted := FpsHistory.Counted.run (Nat.zero_le _) hse
    refine hc.earned ?_
    rcases h.controller.maybeTransition_cases now with
      ⟨down, -, hm, -⟩ | ⟨up, hl, -, hst⟩ | ⟨since, hst⟩
    · exact hm
    · rw [hst] at hs
      obtain rfl := Option.some.inj hs
      exact absurd (hl.trans hd) (lt_irrefl _)
    · rw [hst] at hs
      cases hs

/-- Two frames of 20 ms at the full tier. -/
theorem downshift_earned_full : ((FpsHistory.new .full default).run
      [.recordFrame (20 * 10 ^ 6), .recordFrame (20 * 10 ^ 6)]).Earned :=
  (downshift_earned .full default [.recordFrame (20 * 10 ^ 6), .recordFrame (20 * 10 ^ 6)]).2
    ⟨trivial, trivial, trivial⟩ 0 .high (by decide) (by decide)

/-- A frame that missed the budget of the full tier and not that of the high one, the maximum lowered
to the high tier, and one frame that missed there: the second is enough to leave it. -/
theorem miss_carried_over :
    ¬ ∀ (tier : FpsTier) (config : TierTransitionConfig) (calls : List FpsCall) (now : Nat)
      (new : FpsTier), let h := (FpsHistory.new tier config).run calls
      (h.controller.maybeTransition now).2 = some new → new < h.controller.tier → h.Earned := by
  intro h
  have he := h .full default
    [.recordFrame (20 * 10 ^ 6), .setMaxTier .high, .recordFrame (25 * 10 ^ 6)] 0 .medium
    (by decide) (by decide)
  have hm := he.2 ((FpsController.new .full).recordFrame (20 * 10 ^ 6)).2
    (mem_cons_of_mem _ (mem_cons_self ..))
  exact absurd hm.1 (by decide)

end Hypercolor.Engine
