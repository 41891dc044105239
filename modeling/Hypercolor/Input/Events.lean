import Mathlib.Algebra.Ring.Rat

/-!
# Input events and samples

The edges an input source reports and the sample it publishes with them. Machine integers are
naturals or integers with their bound written where it is reached; a float is the exact number it
is, and `none` where it is not finite. Ids are numbers and strings in the order the source
compares them.
-/

namespace Hypercolor.Input

/-- The largest `u64`. -/
def u64Max : Nat := 2 ^ 64 - 1

/-- `u64::saturating_add` -/
def saturatingAdd (a b : Nat) : Nat := min (a + b) u64Max

/-- `u64::checked_add` -/
def checkedAdd (a b : Nat) : Option Nat := if a + b ≤ u64Max then some (a + b) else none

lemma checkedAdd_eq_some {a b c : Nat} : checkedAdd a b = some c ↔ c = a + b ∧ a + b ≤ u64Max := by
  unfold checkedAdd
  split <;> grind

/-- A float as the exact number it is; `none` where it is not finite. -/
abbrev F32 := Option ℚ

/-- A UUID, by the number its bytes spell. -/
abbrev DeviceId := Nat

/-! ## Events -/

/-- `InputButtonState` -/
inductive InputButtonState where
  | pressed | released | repeated
deriving DecidableEq

/-- `PointerScrollUnit` -/
inductive PointerScrollUnit where
  | line120 | pixels
deriving DecidableEq

/-- `PointerScrollPhase` -/
inductive PointerScrollPhase where
  | none | mayBegin | began | changed | stationary | ended | cancelled
deriving DecidableEq

/-- `MidiRealtimeMessage` -/
inductive MidiRealtimeMessage where
  | clock | start | continue | stop
deriving DecidableEq

/-- `TouchPhase` -/
inductive TouchPhase where
  | began | ended | cancelled
deriving DecidableEq

/-- `InputEvent` -/
inductive InputEvent where
  | key (sourceId key : String) (state : InputButtonState)
  | mouseButton (sourceId button : String) (state : InputButtonState)
  | pointerScroll (sourceId : String) (deltaX deltaY : Int) (unit : PointerScrollUnit)
      (phase momentumPhase : PointerScrollPhase)
  | midiNote (sourceId : String) (channel note velocity : Nat) (state : InputButtonState)
  | midiControlChange (sourceId : String) (channel controller value : Nat)
  | midiPitchBend (sourceId : String) (channel : Nat) (value : Int)
  | midiRealtime (sourceId : String) (message : MidiRealtimeMessage)
  | touch (sourceId : String) (deviceId : DeviceId) (contact : Nat) (phase : TouchPhase)
      (x y pressure : Int) (segment : Option String)
  | deviceButton (sourceId : String) (deviceId : DeviceId) (button : String)
      (state : InputButtonState)
deriving DecidableEq

/-- `TimedInputEvent` -/
structure TimedInputEvent where
  event : InputEvent
  atMs : Nat
  seq : Nat
  physicalCode : Option String
  repeatCount : Nat
deriving DecidableEq

/-! ## Samples -/

/-- `KeyboardData` -/
structure KeyboardData where
  pressedKeys : List String
  recentKeys : List String
deriving DecidableEq, Inhabited

/-- `PointerMode` -/
inductive PointerMode where
  | none | absolute | virtual
deriving DecidableEq, Inhabited

/-- `MouseData` -/
structure MouseData where
  x : Int
  y : Int
  buttons : List String
  down : Bool
  normX : F32
  normY : F32
  mode : PointerMode
  injected : Bool
deriving DecidableEq

instance : Inhabited MouseData := ⟨⟨0, 0, [], false, some 0, some 0, .none, false⟩⟩

/-- `TouchContact` -/
structure TouchContact where
  deviceId : DeviceId
  contact : Nat
  x : F32
  y : F32
  pressure : F32
  segment : Option String
deriving DecidableEq

/-- `DeviceButtonHold` -/
structure DeviceButtonHold where
  deviceId : DeviceId
  button : String
deriving DecidableEq

/-- `DeviceInteractionData` -/
structure DeviceInteractionData where
  touches : List TouchContact
  buttons : List DeviceButtonHold
deriving DecidableEq, Inhabited

/-- `ScrollAggregate` -/
structure ScrollAggregate where
  line120X : Int
  line120Y : Int
  pixelX : Int
  pixelY : Int
deriving DecidableEq

instance : Inhabited ScrollAggregate := ⟨⟨0, 0, 0, 0⟩⟩

/-- `MotionAggregate` -/
structure MotionAggregate where
  dx : F32
  dy : F32
  distance : F32
deriving DecidableEq

instance : Inhabited MotionAggregate := ⟨⟨some 0, some 0, some 0⟩⟩

/-- `InteractionBatch` -/
structure InteractionBatch where
  events : List TimedInputEvent
  scroll : ScrollAggregate
  motion : MotionAggregate
  windowSecs : F32
  droppedEvents : Nat
deriving DecidableEq

instance : Inhabited InteractionBatch := ⟨⟨[], default, default, some 0, 0⟩⟩

/-- `InteractionData` -/
structure InteractionData where
  keyboard : KeyboardData
  mouse : MouseData
  device : DeviceInteractionData
  batch : InteractionBatch
  generation : Nat
deriving DecidableEq, Inhabited

/-- `InputData`: what a source publishes. Nothing here reads inside the samples of the other
sources. -/
inductive InputData where
  | audio
  | interaction (interaction : InteractionData)
  | media
  | net
  | screen
  | sensors
  | none
deriving DecidableEq

end Hypercolor.Input
