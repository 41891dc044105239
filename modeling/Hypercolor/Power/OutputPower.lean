import Hypercolor.Lib.Machine
import Hypercolor.Lib.Signal

/-!
# The power of the output

The output sleeps while the user holds it paused or stopped, and while the session sleeps. The tasks of
a session transition carry the generation it began with.

The machine `arbiter` lets any callers take their critical sections in any order, with any generation.
`F` stands for the numbers of the brightness.
-/

namespace Hypercolor.Power

open Lib

variable {F : Type}

/-! ## The state -/

/-- `OffOutputBehavior` -/
inductive OffOutputBehavior where
  | static | release

/-- `OutputOverride` -/
inductive OutputOverride where
  | none | paused | stopped
deriving DecidableEq

abbrev Color : Type := UInt8 × UInt8 × UInt8

/-- `OutputPowerState` -/
structure OutputPowerState (F : Type) where
  globalBrightness : F
  sessionBrightness : F
  outputOverride : OutputOverride := .none
  sessionSleeping : Bool := false
  transitionGeneration : UInt64 := 0
  offOutputBehavior : OffOutputBehavior := .static
  offOutputColor : Color := (0, 0, 0)
  manualOffOutputColor : Color := (0, 0, 0)

/-- `sleeping` -/
def OutputPowerState.sleeping (state : OutputPowerState F) : Bool :=
  state.outputOverride ≠ .none || state.sessionSleeping

/-- `OutputPowerTransition` -/
inductive OutputPowerTransition where
  | unchanged | paused | resumed

/-- `power_transition` -/
def powerTransition (previous current : OutputPowerState F) : OutputPowerTransition :=
  if current.outputOverride = .stopped then .unchanged
  else match previous.sleeping, current.sleeping with
    | false, true => .paused
    | true, false => .resumed
    | _, _ => .unchanged

/-- `HypercolorEvent::Paused`, `HypercolorEvent::Resumed` -/
inductive PowerEvent where
  | paused | resumed
deriving DecidableEq

/-- `publish_power_transition` -/
def publishPowerTransition (published : List PowerEvent) : OutputPowerTransition → List PowerEvent
  | .paused => published ++ [.paused]
  | .resumed => published ++ [.resumed]
  | .unchanged => published

/-- The arithmetic of the brightness. -/
structure Brightness (F : Type) where
  zero : F
  one : F
  clamp : F → F
  /-- The start is within the epsilon of the target. -/
  near : F → F → Bool
  /-- `between start target step steps` -/
  between : F → F → Nat → Nat → F

/-- `fade_session_to`, its locals: a fade under way, with the steps it has made of all its steps; no
step is left before the last update. -/
structure Fade (F : Type) where
  generation : UInt64
  start : F
  target : F
  steps : Nat
  step : Nat

/-- The state, what was published and the fades under way; `changes` records how the output fell asleep
and woke. -/
structure Arbiter (F : Type) where
  power : OutputPowerState F
  published : List PowerEvent
  fades : List (Fade F)
  changes : List Change

/-! ## Updates -/

namespace Arbiter

variable (s : Arbiter F) (generation : UInt64) (update : OutputPowerState F → OutputPowerState F)

/-- `update_state` -/
def updateState : Arbiter F := { s with power := update s.power }

/-- `update_state_with_events` -/
def updateStateWithEvents : Arbiter F :=
  { s with
    power := update s.power
    published := publishPowerTransition s.published (powerTransition s.power (update s.power)) }

/-- `update_for_generation` -/
def updateForGeneration : Arbiter F × Bool :=
  if s.power.transitionGeneration = generation then (s.updateState update, true) else (s, false)

/-- `update_with_events_for_generation` -/
def updateWithEventsForGeneration : Arbiter F × Bool :=
  if s.power.transitionGeneration = generation then (s.updateStateWithEvents update, true)
  else (s, false)

end Arbiter

/-! ## Operations -/

/-- `PortableOutputState` -/
structure PortableOutputState (F : Type) where
  brightness : F
  enabled : Bool
  paused : Bool

/-- One critical section of some caller. -/
inductive PowerOp (F : Type) where
  | setGlobalBrightness (brightness : F)
  | setManualPause (paused : Bool) (staticColor : Color)
  | restoreManualPause (staticColor : Color)
  | setOutputStopped
  | clearOutputOverride
  | restoreOutputStopped
  | publishPortable (desired : PortableOutputState F)
  | beginSessionTransition
  | clearSessionSleep (generation : UInt64)
  | pauseForSession (generation : UInt64) (outputBehavior : OffOutputBehavior) (staticColor : Color)
  | fadeSessionTo (target : F) (fadeMs generation : UInt64)
  | continueFade (index : Nat)
  | abortFade (index : Nat)

namespace Arbiter

variable (s : Arbiter F) (b : Brightness F)

/-- `set_manual_pause` -/
def setManualPause (paused : Bool) (staticColor : Color) : Arbiter F :=
  s.updateStateWithEvents fun state =>
    let state := { state with
      transitionGeneration := state.transitionGeneration + 1
      outputOverride := if paused then .paused else .none
      manualOffOutputColor := staticColor }
    if paused then state else { state with sessionSleeping := false, sessionBrightness := b.one }

/-- `restore_manual_pause` -/
def restoreManualPause (staticColor : Color) : Arbiter F :=
  s.updateState fun state =>
    { state with outputOverride := .paused, manualOffOutputColor := staticColor }

/-- `set_output_stopped` -/
def setOutputStopped : Arbiter F :=
  s.updateStateWithEvents fun state => { state with
    transitionGeneration := state.transitionGeneration + 1, outputOverride := .stopped }

/-- `clear_output_override` -/
def clearOutputOverride : Arbiter F :=
  s.updateStateWithEvents fun state => { state with
    transitionGeneration := state.transitionGeneration + 1
    outputOverride := .none
    sessionSleeping := false
    sessionBrightness := b.one }

/-- `restore_output_stopped` -/
def restoreOutputStopped : Arbiter F :=
  s.updateState fun state => { state with outputOverride := .stopped }

/-- `PreparedPortablePower::publish` -/
def publishPortable (desired : PortableOutputState F) : Arbiter F :=
  s.updateStateWithEvents fun state => { state with
    globalBrightness := desired.brightness
    outputOverride :=
      if !desired.enabled then .stopped else if desired.paused then .paused else .none
    transitionGeneration := state.transitionGeneration + 1 }

/-- `begin_session_transition` -/
def beginSessionTransition : Arbiter F :=
  s.updateState fun state =>
    { state with transitionGeneration := state.transitionGeneration + 1 }

/-- `clear_session_sleep` -/
def clearSessionSleep (generation : UInt64) : Arbiter F :=
  (s.updateWithEventsForGeneration generation fun state =>
    { state with sessionSleeping := false }).1

/-- `pause_for_session` -/
def pauseForSession (generation : UInt64) (outputBehavior : OffOutputBehavior)
    (staticColor : Color) : Arbiter F :=
  (s.updateWithEventsForGeneration generation fun state => { state with
    sessionBrightness := b.zero
    sessionSleeping := true
    offOutputBehavior := outputBehavior
    offOutputColor := staticColor }).1

/-- `fade_session_to`, `FADE_STEP_MS`: the steps of a fade. -/
def fadeSteps (fadeMs : UInt64) : Nat := min (max (fadeMs.toNat / 16) 1) 65535

/-- `fade_session_to`: a fade starts from a snapshot. -/
def fadeSessionTo (target : F) (fadeMs generation : UInt64) : Arbiter F :=
  let target := b.clamp target
  let start := s.power.sessionBrightness
  let steps := if fadeMs = 0 ∨ b.near start target then 0 else fadeSteps fadeMs
  { s with fades := s.fades ++ [{ generation, start, target, steps, step := 0 }] }

/-- `fade_session_to`, its loop: the next update of a fade, which ends with the last one and with
the first that does not apply. -/
def continueFade (index : Nat) (fade : Fade F) : Arbiter F :=
  if fade.step < fade.steps then
    let brightness := b.between fade.start fade.target (fade.step + 1) fade.steps
    match s.updateForGeneration fade.generation fun state =>
        { state with sessionBrightness := brightness } with
    | (t, true) => { t with fades := t.fades.set index { fade with step := fade.step + 1 } }
    | (t, false) => { t with fades := t.fades.eraseIdx index }
  else
    let t := (s.updateForGeneration fade.generation fun state =>
      { state with sessionBrightness := fade.target }).1
    { t with fades := t.fades.eraseIdx index }

/-- What an operation does. -/
def apply : PowerOp F → Arbiter F
  | .setGlobalBrightness brightness => s.updateState fun state =>
      { state with globalBrightness := b.clamp brightness }
  | .setManualPause paused staticColor => s.setManualPause b paused staticColor
  | .restoreManualPause staticColor => s.restoreManualPause staticColor
  | .setOutputStopped => s.setOutputStopped
  | .clearOutputOverride => s.clearOutputOverride b
  | .restoreOutputStopped => s.restoreOutputStopped
  | .publishPortable desired => s.publishPortable desired
  | .beginSessionTransition => s.beginSessionTransition
  | .clearSessionSleep generation => s.clearSessionSleep generation
  | .pauseForSession generation outputBehavior staticColor =>
    s.pauseForSession b generation outputBehavior staticColor
  | .fadeSessionTo target fadeMs generation => s.fadeSessionTo b target fadeMs generation
  | .continueFade index => match s.fades[index]? with
    | none => s
    | some fade => s.continueFade b index fade
  | .abortFade index => { s with fades := s.fades.eraseIdx index }

end Arbiter

namespace PowerOp

/-- A stop, and the restoration of what was stored: neither publishes that the output sleeps. -/
def quiet : PowerOp F → Bool
  | .restoreManualPause _ | .setOutputStopped | .restoreOutputStopped => true
  | .publishPortable desired => !desired.enabled
  | _ => false

/-- What the tasks of a session do. -/
def ofSession : PowerOp F → Bool
  | .beginSessionTransition | .clearSessionSleep _ | .pauseForSession .. | .fadeSessionTo ..
  | .continueFade _ | .abortFade _ => true
  | _ => false

/-- The operations that supersede the generation. -/
def supersedes : PowerOp F → Bool
  | .setManualPause .. | .setOutputStopped | .clearOutputOverride | .publishPortable _
  | .beginSessionTransition => true
  | _ => false

/-- The generation that an update carries. -/
def generation? (s : Arbiter F) : PowerOp F → Option UInt64
  | .clearSessionSleep generation | .pauseForSession generation .. => some generation
  | .continueFade index => s.fades[index]?.map (·.generation)
  | _ => none

end PowerOp

/-- An operation, with what it did to the output recorded. -/
def Arbiter.perform (b : Brightness F) (s : Arbiter F) (op : PowerOp F) : Arbiter F :=
  let t := s.apply b op
  { t with changes := s.changes ++ Change.record s.power.sleeping t.power.sleeping !op.quiet }

/-- `OutputPower::new` -/
def Arbiter.new (b : Brightness F) (globalBrightness : F) : Arbiter F :=
  ⟨{ globalBrightness, sessionBrightness := b.one }, [], [], []⟩

/-- Any callers of a new output power, in any order. -/
def arbiter (b : Brightness F) : Machine (Arbiter F) (PowerOp F) where
  init s := ∃ globalBrightness, s = .new b globalBrightness
  step s op t := t = s.perform b op

end Hypercolor.Power
