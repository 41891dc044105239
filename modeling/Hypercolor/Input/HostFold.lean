import Hypercolor.Input.Routing

/-!
# The host input fold

Native backends publish batches of key, button and device events through the sink of a session. The
fold keeps what is held for every source, makes up releases where a source goes away or loses
events, and queues what it emits for the next drain.

The pointer is left out: its motion, position and coordinate spaces are floats, and nothing else
depends on them. What `push_event` was given since the session began is kept in order (`emitted`).
-/

namespace Hypercolor.Input

open Lib

/-! ## Native events -/

/-- `HostInputDevice` -/
structure HostInputDevice where
  sourceId : String
  sessionGeneration : Nat
  deviceGeneration : Nat

/-- `HostKeyIdentity` -/
structure HostKeyIdentity where
  key : String
  physicalCode : String

/-- `HostRepeatEvidence` -/
inductive HostRepeatEvidence where
  | unknown | notRepeat | repeated
deriving DecidableEq

/-- `HostKeySignal` -/
inductive HostKeySignal where
  | edge (pressed : Bool) (evidence : HostRepeatEvidence)
  | aggregateState (active : Bool) (activeCounterpart : Option String)

/-- `HostInputGapReason` -/
inductive HostInputGapReason where
  | synchronizationLost | queueOverflow | readFailed | permissionLost | sessionInterrupted
  | workerStopped

/-- `HostInputEvent` -/
inductive HostInputEvent where
  | key (device : Option HostInputDevice) (identity : HostKeyIdentity) (signal : HostKeySignal)
  | button (device : Option HostInputDevice) (button : String) (pressed : Bool)
      (physicalCode : String)
  | motion (device : Option HostInputDevice)
  | scroll (device : Option HostInputDevice) (deltaX deltaY : Int) (unit : PointerScrollUnit)
      (phase momentumPhase : PointerScrollPhase) (physicalCode : String)
  | deviceArrived (device : HostInputDevice)
  | stateGap (device : Option HostInputDevice) (reason : HostInputGapReason)
  | deviceRemoved (device : HostInputDevice)

/-- `HostInputBatch` -/
structure HostInputBatch where
  events : List HostInputEvent
  atMs : Nat
  deviceCatalogGeneration : Nat

/-! ## The state -/

/-- `BTreeSet` -/
abbrev NameSet := Table String Unit

/-- `HostInputFoldDiagnostics` -/
structure HostInputFoldDiagnostics where
  stateGaps : Nat
  impossibleKeyEdges : Nat
  impossibleButtonEdges : Nat
  deviceCatalogGeneration : Nat

instance : Inhabited HostInputFoldDiagnostics := ⟨⟨0, 0, 0, 0⟩⟩

/-- `HostInputFoldState` -/
structure HostInputFoldState where
  epoch : Nat
  eventCapacity : Nat
  events : List TimedInputEvent
  droppedEvents : Nat
  pressedKeys : Table String NameSet
  recentKeys : List String
  pressedButtons : Table String NameSet
  devices : Table String HostInputDevice
  diagnostics : HostInputFoldDiagnostics
  emitted : List TimedInputEvent

/-- `u32::saturating_add` -/
def saturatingAdd32 (a b : Nat) : Nat := min (a + b) u32Max

namespace HostInputFoldState

/-- `new` -/
def new (eventCapacity : Nat) : HostInputFoldState :=
  ⟨0, eventCapacity, [], 0, ∅, [], ∅, ∅, default, []⟩

variable (state : HostInputFoldState)

/-- `clear_session` -/
def clearSession : HostInputFoldState :=
  { state with
    events := []
    droppedEvents := 0
    pressedKeys := ∅
    recentKeys := []
    pressedButtons := ∅
    devices := ∅
    diagnostics := default
    emitted := [] }

/-- `push_event`: the bounded queue: the oldest events make room. -/
def pushQueue (capacity : Nat) (queue : List TimedInputEvent × Nat) (event : TimedInputEvent) :
    List TimedInputEvent × Nat :=
  if capacity = 0 then
    ([], saturatingAdd32 (saturatingAdd32 queue.2 (min queue.1.length u32Max)) 1)
  else
    let overflow := queue.1.length + 1 - capacity
    (queue.1.drop overflow ++ [event], saturatingAdd32 queue.2 overflow)

/-- `push_event` -/
def pushEvent (event : TimedInputEvent) : HostInputFoldState :=
  let queue := pushQueue state.eventCapacity (state.events, state.droppedEvents) event
  { state with events := queue.1, droppedEvents := queue.2, emitted := state.emitted ++ [event] }

/-- The names held for a source. -/
def names (table : Table String NameSet) (sourceId : String) : NameSet :=
  (table.lookup sourceId).getD ∅

def countKey : HostInputFoldState :=
  { state with diagnostics := { state.diagnostics with
      impossibleKeyEdges := saturatingAdd state.diagnostics.impossibleKeyEdges 1 } }

def countButton : HostInputFoldState :=
  { state with diagnostics := { state.diagnostics with
      impossibleButtonEdges := saturatingAdd state.diagnostics.impossibleButtonEdges 1 } }

def holdKey (sourceId key : String) : HostInputFoldState :=
  { state with
    pressedKeys := state.pressedKeys.insert sourceId ((names state.pressedKeys sourceId).insert key ()) }

def dropKey (sourceId key : String) : HostInputFoldState :=
  match state.pressedKeys.lookup sourceId with
  | none => state
  | some keys => { state with pressedKeys := state.pressedKeys.insert sourceId (keys.erase key) }

def holdButton (sourceId button : String) : HostInputFoldState :=
  { state with
    pressedButtons := state.pressedButtons.insert sourceId
      ((names state.pressedButtons sourceId).insert button ()) }

def dropButton (sourceId button : String) : HostInputFoldState :=
  match state.pressedButtons.lookup sourceId with
  | none => state
  | some buttons =>
    { state with pressedButtons := state.pressedButtons.insert sourceId (buttons.erase button) }

/-- A pressed key is recent. -/
def remember (key : String) : HostInputFoldState :=
  let recentKeys := state.recentKeys ++ [key]
  { state with recentKeys := recentKeys.drop (recentKeys.length - state.eventCapacity) }

/-- The `match` of `fold_key`: what a key signal says, `error` where it says nothing: with `true` it
is impossible. -/
def keyEdge (keys : NameSet) (key : String) : HostKeySignal → Except Bool (Bool × HostRepeatEvidence)
  | .edge pressed evidence => .ok (pressed, evidence)
  | .aggregateState active activeCounterpart =>
    if active ≠ decide (key ∈ keys) then .ok (active, .notRepeat)
    else match active, activeCounterpart with
      | true, some counterpart =>
        if counterpart ∈ keys then .ok (false, .notRepeat) else .error true
      | _, none => .error false
      | false, some _ => .error true

variable (sourceId : String)

/-- `fold_key` -/
def foldKey (identity : HostKeyIdentity) (signal : HostKeySignal) (atMs : Nat) : HostInputFoldState :=
  let keys := names state.pressedKeys sourceId
  let held := identity.key ∈ keys
  let event (edge : InputButtonState) : TimedInputEvent :=
    ⟨.key sourceId identity.key edge, atMs, 0, some identity.physicalCode, 1⟩
  match keyEdge keys identity.key signal with
  | .error impossible => if impossible then state.countKey else state
  | .ok (pressed, evidence) =>
    if pressed then
      if held ∨ evidence = .repeated then
        (if held then state else state.holdKey sourceId identity.key).pushEvent (event .repeated)
      else
        ((state.holdKey sourceId identity.key).remember identity.key).pushEvent (event .pressed)
    else
      ((if held then state else state.countKey).dropKey sourceId identity.key).pushEvent (event .released)

/-- `fold_button` -/
def foldButton (sourceId button : String) (pressed : Bool)
    (physicalCode : String) (atMs : Nat) : HostInputFoldState :=
  let held := button ∈ names state.pressedButtons sourceId
  let folded := if pressed then state.holdButton sourceId button
    else state.dropButton sourceId button
  let counted := if pressed = decide held then folded.countButton else folded
  counted.pushEvent ⟨.mouseButton sourceId button (if pressed then .pressed else .released), atMs, 0,
    some physicalCode, 1⟩

/-- `fold_scroll` -/
def foldScroll (deltaX deltaY : Int)
    (unit : PointerScrollUnit) (phase momentumPhase : PointerScrollPhase) (physicalCode : String)
    (atMs : Nat) : HostInputFoldState :=
  state.pushEvent
    ⟨.pointerScroll sourceId deltaX deltaY unit phase momentumPhase, atMs, 0, some physicalCode, 1⟩

/-- The release of a key that nobody reported. -/
def keyRelease (atMs : Nat) (key : String) : TimedInputEvent :=
  ⟨.key sourceId key .released, atMs, 0, none, 1⟩

/-- The release of a button that nobody reported. -/
def buttonRelease (atMs : Nat) (button : String) : TimedInputEvent :=
  ⟨.mouseButton sourceId button .released, atMs, 0, none, 1⟩

/-- The names in their order. -/
def orderedNames (names : NameSet) : List String := (names.ordered id).map Prod.fst

/-- `synthesize_releases` -/
def synthesizeReleases (atMs : Nat) (state : HostInputFoldState) (sourceId : String) :
    HostInputFoldState :=
  let keys := orderedNames (names state.pressedKeys sourceId)
  let state := (keys.map (keyRelease sourceId atMs)).foldl pushEvent
    { state with pressedKeys := state.pressedKeys.erase sourceId }
  let buttons := orderedNames (names state.pressedButtons sourceId)
  (buttons.map (buttonRelease sourceId atMs)).foldl pushEvent
    { state with pressedButtons := state.pressedButtons.erase sourceId }

/-- The sources that hold something, in their order. -/
def heldSources : List String :=
  orderedNames ((state.pressedKeys.keys ++ state.pressedButtons.keys).foldl
    (fun sources sourceId => sources.insert sourceId ()) ∅)

/-- `synthesize_all_releases` -/
def synthesizeAllReleases (atMs : Nat) : HostInputFoldState :=
  state.heldSources.foldl (synthesizeReleases atMs) state

/-- `event_source_id` -/
def eventSourceId (device : Option HostInputDevice) (fallback : String) : String :=
  (device.map HostInputDevice.sourceId).getD fallback

/-- Whether two catalog entries are the same incarnation of a device. -/
def sameIncarnation (previous device : HostInputDevice) : Bool :=
  previous.sessionGeneration = device.sessionGeneration ∧
    previous.deviceGeneration = device.deviceGeneration

/-- `fold_event` -/
def foldEvent (fallbackSource : String) (atMs : Nat) (state : HostInputFoldState) :
    HostInputEvent → HostInputFoldState
  | .key device identity signal =>
    state.foldKey (eventSourceId device fallbackSource) identity signal atMs
  | .button device button pressed physicalCode =>
    state.foldButton (eventSourceId device fallbackSource) button pressed physicalCode atMs
  | .motion _ => state
  | .scroll device deltaX deltaY unit phase momentumPhase physicalCode =>
    state.foldScroll (eventSourceId device fallbackSource) deltaX deltaY unit phase momentumPhase
      physicalCode atMs
  | .deviceArrived device =>
    let previous := state.devices.lookup device.sourceId
    let state := { state with devices := state.devices.insert device.sourceId device }
    match previous with
    | none => state
    | some previous =>
      if sameIncarnation previous device then state
      else state.synthesizeReleases atMs device.sourceId
  | .stateGap device _ =>
    let state := { state with diagnostics := { state.diagnostics with
      stateGaps := saturatingAdd state.diagnostics.stateGaps 1 } }
    match device with
    | some device => state.synthesizeReleases atMs device.sourceId
    | none => state.synthesizeAllReleases atMs
  | .deviceRemoved device =>
    synthesizeReleases atMs { state with devices := state.devices.erase device.sourceId } device.sourceId

/-- `fold_batch` -/
def foldBatch (batch : HostInputBatch) : HostInputFoldState :=
  batch.events.foldl (foldEvent sourceId batch.atMs)
    { state with diagnostics := { state.diagnostics with
        deviceCatalogGeneration := batch.deviceCatalogGeneration } }

/-- `union_pressed_keys`, `union_pressed_buttons` -/
def unionNames (table : Table String NameSet) : List String :=
  orderedNames ((table.values.flatMap AList.keys).foldl (fun names name => names.insert name ()) ∅)

/-- `u64::wrapping_add(1).max(1)` -/
def nextEpoch (epoch : Nat) : Nat := max ((epoch + 1) % 2 ^ 64) 1

/-- The turn of a session. -/
def turnSession : HostInputFoldState :=
  { state.clearSession with epoch := nextEpoch state.epoch }

end HostInputFoldState

/-! ## Sessions -/

/-- `HostInputPublishOutcome` -/
inductive HostInputPublishOutcome where
  | published | stale

/-- `HostInputSink` -/
structure HostInputSink where
  sourceId : String
  epoch : Nat

/-- `publish` -/
def HostInputSink.publish (sink : HostInputSink) (shared : HostInputFoldState)
    (batch : HostInputBatch) : HostInputFoldState × HostInputPublishOutcome :=
  if shared.epoch ≠ sink.epoch then (shared, .stale)
  else (shared.foldBatch sink.sourceId batch, .published)

/-- `HostInputSample` -/
structure HostInputSample where
  interaction : InteractionData
  events : List TimedInputEvent

namespace HostInputFoldState

variable (shared : HostInputFoldState)

/-- `HostInputFold::begin_session` -/
def beginSession (sourceId : String) : HostInputFoldState × HostInputSink :=
  (shared.turnSession, ⟨sourceId, shared.turnSession.epoch⟩)

/-- `HostInputFold::end_session` -/
def endSession : HostInputFoldState := shared.turnSession

/-- `HostInputFold::drain_events` -/
def drainEvents : HostInputFoldState × List TimedInputEvent :=
  ({ shared with events := [] }, shared.events)

/-- `HostInputFold::sample_inner` -/
def sampleInner (drainEvents : Bool) : HostInputFoldState × HostInputSample :=
  let buttons := unionNames shared.pressedButtons
  let interaction := { (default : InteractionData) with
    keyboard := ⟨unionNames shared.pressedKeys, shared.recentKeys⟩
    mouse := { (default : MouseData) with buttons, down := buttons ≠ [] }
    batch := { (default : InteractionBatch) with droppedEvents := shared.droppedEvents } }
  let sampled := { shared with recentKeys := [], droppedEvents := 0 }
  if drainEvents then ({ sampled with events := [] }, ⟨interaction, shared.events⟩)
  else (sampled, ⟨interaction, []⟩)

end HostInputFoldState

end Hypercolor.Input
