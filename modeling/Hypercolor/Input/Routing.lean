import Hypercolor.Input.Publication
import Hypercolor.Lib.Inverse
import Hypercolor.Lib.Machine
import Hypercolor.Lib.Sorting
import Mathlib.Data.Finset.Basic
import Mathlib.Data.String.Basic

/-!
# The interaction router

A consumer is routed the snapshots and events of the sources its policy selects. The router keeps
for each of them the controls the consumer saw pressed (`observed`) and the ones that were held
already (`quarantined`), and makes up a release where an observed control goes away.

A resolution collects the events of the frame into `Routing` and sorts them by capture time at the
end. What the slots of the sources answer is an argument of the resolution. The route diagnostics,
the retained buffers and the overflow of the generation counters are left out.
-/

namespace Hypercolor.Input

open Lib

/-! ## Sources -/

/-- `SourceNamespace` -/
inductive SourceNamespace where
  | host | browser | device
deriving DecidableEq

/-- `SourceIncarnation` -/
structure SourceIncarnation where
  space : SourceNamespace
  value : Nat
deriving DecidableEq

namespace SourceIncarnation

/-- The derived order. -/
def rank (incarnation : SourceIncarnation) : ℕ ×ₗ ℕ :=
  toLex (match incarnation.space with | .host => 0 | .browser => 1 | .device => 2, incarnation.value)

/-- `is_browser` -/
def isBrowser (incarnation : SourceIncarnation) : Bool := incarnation.space = .browser

end SourceIncarnation

/-- `InteractionRouteSourceClass` -/
inductive InteractionRouteSourceClass where
  | host | browser | device
deriving DecidableEq

/-- `InteractionRouteRead`, with the events it captured. -/
structure InteractionRouteRead where
  snapshot : Option InteractionData
  events : InputEventRead
  interactionTransients : InteractionTransientTotals
  captured : List TimedInputEvent

/-- `InteractionRouteSource`, `InteractionRouteSlot`: a source with what its slot answers in this
resolution: `read` to the cursor the consumer keeps, `recovery` to the second read, which follows a
read that lost events. -/
structure InteractionRouteSource where
  incarnation : SourceIncarnation
  sourceClass : InteractionRouteSourceClass
  availabilityRevision : Nat
  read : Nat → InteractionRouteRead
  recovery : Nat → InteractionRouteRead

/-- `InteractionRoutePolicy` -/
inductive InteractionRoutePolicy where
  | host | browser | merge
deriving DecidableEq

/-- `InteractionRouteRequest` -/
structure InteractionRouteRequest where
  policy : InteractionRoutePolicy
  browserSource : Option SourceIncarnation

/-- Select the sources of a class that are not selected yet. -/
def selectClass (sourceClass : InteractionRouteSourceClass) (sources : List InteractionRouteSource)
    (selected : List InteractionRouteSource) : List InteractionRouteSource :=
  sources.foldl (fun selected source =>
    if source.sourceClass = sourceClass ∧
        ¬ selected.any fun chosen => chosen.incarnation = source.incarnation
    then selected ++ [source] else selected) selected

variable (request : InteractionRouteRequest) (sources : List InteractionRouteSource)

/-- Select the browser source of the request. -/
def selectBrowser (selected : List InteractionRouteSource) : List InteractionRouteSource :=
  match request.browserSource.filter SourceIncarnation.isBrowser with
  | none => selected
  | some browserSource =>
    match sources.find? fun source =>
        source.sourceClass = .browser ∧ source.incarnation = browserSource with
    | none => selected
    | some source =>
      if selected.any fun chosen => chosen.incarnation = source.incarnation then selected
      else selected ++ [source]

/-- `select_sources_into` -/
def selectSources : List InteractionRouteSource :=
  let host := request.policy = .host ∨ request.policy = .merge
  let browser := request.policy = .browser ∨ request.policy = .merge
  let selected := if host then selectClass .host sources [] else []
  let selected := if browser then selectBrowser request sources selected else selected
  if host then selectClass .device sources selected else selected

/-! ## Controls -/

/-- `InteractionControl` -/
inductive InteractionControl where
  | key (key : String)
  | mouseButton (button : String)
  | touch (device : DeviceId) (contact : Nat)
  | deviceButton (device : DeviceId) (button : String)
deriving DecidableEq

/-- The derived order. -/
def InteractionControl.rank : InteractionControl → ℕ ×ₗ ℕ ×ₗ ℕ ×ₗ String
  | .key name => toLex (0, toLex (0, toLex (0, name)))
  | .mouseButton button => toLex (1, toLex (0, toLex (0, button)))
  | .touch device contact => toLex (2, toLex (device, toLex (contact, "")))
  | .deviceButton device button => toLex (3, toLex (device, toLex (0, button)))

/-- `touch_control` -/
def touchControl (touch : TouchContact) : InteractionControl := .touch touch.deviceId touch.contact

/-- `device_button_control` -/
def deviceButtonControl (hold : DeviceButtonHold) : InteractionControl :=
  .deviceButton hold.deviceId hold.button

/-- `event_control` -/
def eventControl (event : TimedInputEvent) : Option (InteractionControl × InputButtonState) :=
  match event.event with
  | .key _ key state => some (.key key, state)
  | .mouseButton _ button state => some (.mouseButton button, state)
  | .touch _ deviceId contact phase _ _ _ _ =>
    some (.touch deviceId contact, match phase with
      | .began => .pressed
      | .ended | .cancelled => .released)
  | .deviceButton _ deviceId button state => some (.deviceButton deviceId button, state)
  | .pointerScroll .. | .midiNote .. | .midiControlChange .. | .midiPitchBend ..
  | .midiRealtime .. => none

/-- `synthetic_release`: only presses are kept as observed, so the last case is unreachable. -/
def syntheticRelease (press : TimedInputEvent) (nowMs : Nat) : TimedInputEvent :=
  let event : InputEvent := match press.event with
    | .key sourceId key _ => .key sourceId key .released
    | .mouseButton sourceId button _ => .mouseButton sourceId button .released
    | .midiNote sourceId channel note velocity _ =>
      .midiNote sourceId channel note velocity .released
    | .deviceButton sourceId deviceId button _ => .deviceButton sourceId deviceId button .released
    | .touch sourceId deviceId contact _ x y pressure segment =>
      .touch sourceId deviceId contact .cancelled x y pressure segment
    | other => other
  { press with event, atMs := nowMs, seq := 0, repeatCount := 1 }

/-- The controls held in a snapshot, in the order the router meets them. -/
def snapshotControls (snapshot : InteractionData) : List InteractionControl :=
  snapshot.keyboard.pressedKeys.map .key ++ snapshot.mouse.buttons.map .mouseButton ++
    snapshot.device.touches.map touchControl ++ snapshot.device.buttons.map deviceButtonControl

/-- `snapshot_holds` -/
def snapshotHolds (snapshot : InteractionData) : InteractionControl → Bool
  | .key key => snapshot.keyboard.pressedKeys.contains key
  | .mouseButton button => snapshot.mouse.buttons.contains button
  | .touch device contact =>
    snapshot.device.touches.any fun touch => touch.deviceId = device ∧ touch.contact = contact
  | .deviceButton device button =>
    snapshot.device.buttons.any fun hold => hold.deviceId = device ∧ hold.button = button

lemma snapshotHolds_iff {sn : InteractionData} {c : InteractionControl} :
    snapshotHolds sn c ↔ c ∈ snapshotControls sn := by
  cases c <;>
    simp [snapshotHolds, snapshotControls, touchControl, deviceButtonControl]

/-! ## The state of a consumer -/

/-- `ConsumerSourceState`: the slot and the descriptor it keeps are those of the selected source in
every resolution. -/
structure ConsumerSourceState where
  cursor : Nat
  latestSnapshot : Option InteractionData
  interactionTransients : InteractionTransientTotals
  transientDelta : InteractionTransientTotals
  observed : Table InteractionControl TimedInputEvent
  quarantined : Finset InteractionControl
  lastInteractionGeneration : Option Nat

namespace ConsumerSourceState

/-- `attach` -/
def attach : ConsumerSourceState where
  cursor := u64Max
  latestSnapshot := none
  interactionTransients := default
  transientDelta := default
  observed := ∅
  quarantined := ∅
  lastInteractionGeneration := none

variable (state : ConsumerSourceState)

/-- `apply_interaction_transients` -/
def applyInteractionTransients (current : InteractionTransientTotals) : ConsumerSourceState :=
  { state with
    transientDelta := current.deltaSince state.interactionTransients
    interactionTransients := current }

/-- Whether a control is held in the latest snapshot. -/
def holds (control : InteractionControl) : Bool :=
  state.latestSnapshot.any fun snapshot => snapshotHolds snapshot control

/-- The observed controls the latest snapshot does not hold. -/
def missing : List InteractionControl :=
  ((state.observed.ordered InteractionControl.rank).map Prod.fst).filter
    fun control => !state.holds control

/-- `replace_quarantine_from_snapshot` -/
def replaceQuarantineFromSnapshot : ConsumerSourceState :=
  { state with quarantined := match state.latestSnapshot with
      | none => ∅
      | some snapshot => (snapshotControls snapshot).toFinset }

end ConsumerSourceState

/-- `ConsumerRouteState` -/
structure ConsumerRouteState where
  policy : Option InteractionRoutePolicy
  routeGeneration : Nat
  outputGeneration : Nat
  sourceStates : Table SourceIncarnation ConsumerSourceState
  selectedOrder : List SourceIncarnation
  overwrittenEvents : Nat
  producerDroppedEvents : Nat
  invalidEvents : Nat

instance : Inhabited ConsumerRouteState := ⟨⟨none, 0, 0, ∅, [], 0, 0, 0⟩⟩

namespace ConsumerRouteState

/-- The state of a source; a selected one has one. -/
def source (state : ConsumerRouteState) (incarnation : SourceIncarnation) : ConsumerSourceState :=
  (state.sourceStates.lookup incarnation).getD .attach

/-- `control_observed_elsewhere` -/
def controlObservedElsewhere (state : ConsumerRouteState) (control : InteractionControl) : Bool :=
  state.sourceStates.values.any fun source => control ∈ source.observed

end ConsumerRouteState

/-! ## Collecting a frame -/

/-- A resolution on its way: the state, the events collected so far, and whether anything changed
but by collecting one. -/
structure Routing where
  state : ConsumerRouteState
  events : List TimedInputEvent
  changed : Bool

namespace Routing

/-- `push_event_reused`, `push_owned_event_reused` -/
def push (r : Routing) (event : TimedInputEvent) : Routing := { r with events := r.events ++ [event] }

def change (r : Routing) : Routing := { r with changed := true }

variable (r : Routing) (incarnation : SourceIncarnation)

def setSource (source : ConsumerSourceState) : Routing :=
  { r with state := { r.state with sourceStates := r.state.sourceStates.insert incarnation source } }

/-- An event that cannot be routed is counted. -/
def invalid (r : Routing) : Routing :=
  { r with state := { r.state with invalidEvents := saturatingAdd r.state.invalidEvents 1 } }

/-- Collect the release of a control, unless a source still holds it. -/
def pushRelease (r : Routing) (control : InteractionControl) (event : TimedInputEvent) : Routing :=
  if r.state.controlObservedElsewhere control then r else r.push event

/-- `ConsumerRouteState::synthesize_removed_source` -/
def synthesizeRemovedSource (nowMs : Nat) (r : Routing) (source : ConsumerSourceState) : Routing :=
  (source.observed.ordered InteractionControl.rank).foldl
    (fun r entry => r.pushRelease entry.1 (syntheticRelease entry.2 nowMs)) r

def removeSource : Routing :=
  { r with state := { r.state with sourceStates := r.state.sourceStates.erase incarnation } }

variable (nowMs : Nat) (r : Routing) (incarnation : SourceIncarnation)

/-- One turn of the first loop of `transition_sources`. -/
def departSource : Routing :=
  match r.state.sourceStates.lookup incarnation with
  | none => r
  | some source => (r.removeSource incarnation).synthesizeRemovedSource nowMs source

/-- One turn of the second loop of `transition_sources`. -/
def arriveSource : Routing :=
  if incarnation ∈ r.state.sourceStates then r else r.setSource incarnation .attach

/-- `ConsumerRouteState::transition_sources` -/
def transitionSources (nowMs : Nat) (r : Routing) (selection : List SourceIncarnation) : Routing :=
  let removed := ((r.state.sourceStates.ordered SourceIncarnation.rank).map Prod.fst).filter
    fun incarnation => incarnation ∉ selection
  selection.foldl arriveSource (removed.foldl (departSource nowMs) r)

/-- `ConsumerRouteState::bump_route_generation` -/
def bumpRouteGeneration (r : Routing) : Routing :=
  { r with state := { r.state with
      routeGeneration := r.state.routeGeneration + 1
      overwrittenEvents := 0
      producerDroppedEvents := 0
      invalidEvents := 0 } }

/-- `ConsumerRouteState::route_event` -/
def routeEvent (incarnation : SourceIncarnation) (r : Routing) (event : TimedInputEvent) : Routing :=
  if event.repeatCount = 0 then r.invalid
  else match eventControl event with
    | none => (r.push event).change
    | some (control, state) =>
      let source := r.state.source incarnation
      if control ∈ source.quarantined then
        if state = .released then
          r.setSource incarnation { source with quarantined := source.quarantined.erase control }
        else r
      else match state with
        | .pressed =>
          ((r.setSource incarnation { source with
            observed := source.observed.insert control event }).push event).change
        | .repeated => if control ∈ source.observed then (r.push event).change else r.invalid
        | .released =>
          if control ∈ source.observed then
            ((r.setSource incarnation { source with
              observed := source.observed.erase control }).pushRelease control event).change
          else r.invalid

/-- `ConsumerRouteState::record_transient_delta` -/
def recordTransientDelta (r : Routing) (delta : InteractionTransientTotals) : Routing where
  state := { r.state with
    producerDroppedEvents := saturatingAdd r.state.producerDroppedEvents delta.droppedEvents
    invalidEvents := saturatingAdd r.state.invalidEvents delta.invalidEvents }
  events := r.events
  changed := r.changed || delta ≠ default

/-- `ConsumerRouteState::reset_source_after_loss` -/
def resetSourceAfterLoss : Routing :=
  match r.state.sourceStates.lookup incarnation with
  | none => r
  | some source =>
    ((r.removeSource incarnation).synthesizeRemovedSource nowMs source).setSource incarnation
      { source with observed := ∅ }.replaceQuarantineFromSnapshot

/-- One turn of the loop of `read_selected_publications`. -/
def readPublication (nowMs : Nat) (r : Routing) (source : InteractionRouteSource) : Routing :=
  let incarnation := source.incarnation
  let state := r.state.source incarnation
  let publication := source.read state.cursor
  let read := { state with transientDelta := default, cursor := publication.events.nextCursor }
  if state.cursor = u64Max then
    r.setSource incarnation { { read with
      latestSnapshot := publication.snapshot
      interactionTransients := publication.interactionTransients }.replaceQuarantineFromSnapshot with
        lastInteractionGeneration := publication.snapshot.map InteractionData.generation }
  else if 0 < publication.events.dropped then
    let recovery := source.recovery u64Max
    let recovered := { read with
      cursor := recovery.events.nextCursor
      latestSnapshot := recovery.snapshot }.applyInteractionTransients
        recovery.interactionTransients
    let r := { r with state := { r.state with
      overwrittenEvents :=
        saturatingAdd r.state.overwrittenEvents publication.events.dropped } }
    (((r.setSource incarnation recovered).recordTransientDelta
      recovered.transientDelta).resetSourceAfterLoss nowMs incarnation).change
  else
    let updated := { read with latestSnapshot := publication.snapshot }.applyInteractionTransients
        publication.interactionTransients
    publication.captured.foldl (routeEvent incarnation)
      ((r.setSource incarnation updated).recordTransientDelta updated.transientDelta)

/-- A control the snapshot does not hold is not observed any more. -/
def dropMissing (nowMs : Nat) (incarnation : SourceIncarnation) (r : Routing)
    (control : InteractionControl) : Routing :=
  let source := r.state.source incarnation
  match source.observed.lookup control with
  | none => r
  | some press =>
    ((r.setSource incarnation { source with observed := source.observed.erase control }).pushRelease
        control
        (syntheticRelease press nowMs)).change

/-- A control held in the snapshot that was not observed is quarantined. -/
def quarantineHeld (incarnation : SourceIncarnation) (r : Routing)
    (control : InteractionControl) : Routing :=
  let source := r.state.source incarnation
  if control ∉ source.observed ∧ control ∉ source.quarantined then
    (r.setSource incarnation { source with quarantined := insert control source.quarantined }).change
  else r

/-- A source without a snapshot has nothing to be quarantined. -/
def forgetSnapshot : Routing :=
  let state := r.state.source incarnation
  let changed := r.changed || state.lastInteractionGeneration.isSome || state.quarantined ≠ ∅
  { r.setSource incarnation { state with
      lastInteractionGeneration := none, quarantined := ∅ } with changed }

/-- The four loops over what the snapshot holds, and its generation. -/
def applySnapshot (snapshot : InteractionData) : Routing :=
  let known := (r.state.source incarnation).lastInteractionGeneration
  let r := { r with changed := r.changed || known ≠ some snapshot.generation }
  let r := (snapshotControls snapshot).foldl (quarantineHeld incarnation) r
  r.setSource incarnation { r.state.source incarnation with
    lastInteractionGeneration := some snapshot.generation }

/-- One turn of the loop of `reconcile_snapshots`. -/
def reconcileSnapshot : Routing :=
  let state := r.state.source incarnation
  let pruned := state.missing.foldl (dropMissing nowMs incarnation) r
  match state.latestSnapshot with
  | none => pruned.forgetSnapshot incarnation
  | some snapshot => pruned.applySnapshot incarnation snapshot

end Routing

/-! ## The routed interaction -/

/-- `push_unique_reused` -/
def pushUnique (output : List String) (value : String) : List String :=
  if output.contains value then output else output ++ [value]

/-- `push_touch_reused` -/
def pushTouch (output : List TouchContact) (touch : TouchContact) : List TouchContact :=
  if output.any fun existing => existing.deviceId = touch.deviceId ∧ existing.contact = touch.contact
  then output else output ++ [touch]

/-- `push_device_button_reused` -/
def pushDeviceButton (output : List DeviceButtonHold) (hold : DeviceButtonHold) : List DeviceButtonHold :=
  if output.contains hold then output else output ++ [hold]

def i64Max : Int := 2 ^ 63 - 1

def i64Min : Int := -2 ^ 63

/-- `i64::saturating_add` -/
def saturatingAddSigned (a b : Int) : Int := max i64Min (min (a + b) i64Max)

/-- `accumulate` -/
def ScrollAggregate.accumulate (scroll : ScrollAggregate) (unit : PointerScrollUnit)
    (deltaX deltaY : Int) : ScrollAggregate :=
  match unit with
  | .line120 => { scroll with
      line120X := saturatingAddSigned scroll.line120X deltaX
      line120Y := saturatingAddSigned scroll.line120Y deltaY }
  | .pixels => { scroll with
      pixelX := saturatingAddSigned scroll.pixelX deltaX
      pixelY := saturatingAddSigned scroll.pixelY deltaY }

/-- The sum of two floats. -/
def addF32 (a b : F32) : F32 := do return (← a) + (← b)

/-- What one source adds to the routed interaction: of its snapshot only what was observed. -/
def addSource (interaction : InteractionData) (state : ConsumerSourceState) : InteractionData :=
  match state.latestSnapshot with
  | none => interaction
  | some snapshot =>
    let pressedKeys := (snapshot.keyboard.pressedKeys.filter fun key =>
      InteractionControl.key key ∈ state.observed).foldl pushUnique interaction.keyboard.pressedKeys
    let mouseButtons := (snapshot.mouse.buttons.filter fun button =>
      InteractionControl.mouseButton button ∈ state.observed).foldl pushUnique interaction.mouse.buttons
    let touches := (snapshot.device.touches.filter fun touch =>
      touchControl touch ∈ state.observed).foldl pushTouch interaction.device.touches
    let deviceButtons := (snapshot.device.buttons.filter fun hold =>
      deviceButtonControl hold ∈ state.observed).foldl pushDeviceButton interaction.device.buttons
    let pointer := if snapshot.mouse.mode ≠ .none ∧ (interaction.mouse.mode = .none ∨
        snapshot.mouse.injected ∧ ¬ interaction.mouse.injected)
      then snapshot.mouse else interaction.mouse
    let delta := state.transientDelta
    { interaction with
      keyboard := { interaction.keyboard with pressedKeys }
      mouse := { pointer with buttons := mouseButtons, down := interaction.mouse.down }
      device := ⟨touches, deviceButtons⟩
      batch := { interaction.batch with
        motion :=
          { dx := addF32 interaction.batch.motion.dx (some delta.dx)
            dy := addF32 interaction.batch.motion.dy (some delta.dy)
            distance := addF32 interaction.batch.motion.distance (some delta.distance) }
        windowSecs := addF32 interaction.batch.windowSecs (some delta.windowSecs) } }

/-- What one event adds: a pressed key is recent, and scrolling adds up. -/
def addEvent (interaction : InteractionData) (event : TimedInputEvent) : InteractionData :=
  match event.event with
  | .key _ key .pressed =>
    { interaction with keyboard := { interaction.keyboard with
        recentKeys := interaction.keyboard.recentKeys ++ [key] } }
  | .pointerScroll _ deltaX deltaY unit _ _ =>
    { interaction with batch := { interaction.batch with
        scroll := interaction.batch.scroll.accumulate unit deltaX deltaY } }
  | _ => interaction

namespace ConsumerRouteState

/-- `build_interaction_into` -/
def buildInteraction (state : ConsumerRouteState) (selection : List SourceIncarnation)
    (events : List TimedInputEvent) : InteractionData :=
  let held := (selection.map state.source).foldl addSource default
  let held := { held with mouse := { held.mouse with down := held.mouse.buttons ≠ [] } }
  let interaction := events.foldl addEvent held
  { interaction with batch := { interaction.batch with events } }

end ConsumerRouteState

/-! ## Resolving -/

/-- `stable_sort_events_reused` -/
def stableSortEvents (events : List TimedInputEvent) : List TimedInputEvent :=
  sortByKey (fun event => toLex (event.atMs, event.seq)) events

/-- `InteractionRouteReuseSource` -/
structure InteractionRouteReuseSource where
  incarnation : SourceIncarnation
  interactionGeneration : Option Nat
  availabilityRevision : Nat
deriving DecidableEq

/-- `InteractionRouteReuseKey` -/
structure InteractionRouteReuseKey where
  routeGeneration : Nat
  outputGeneration : Nat
  sources : List InteractionRouteReuseSource
deriving DecidableEq

/-- `RoutedInteraction` -/
structure RoutedInteraction where
  interaction : InteractionData
  reuseKey : InteractionRouteReuseKey

def u32Max : Nat := 2 ^ 32 - 1

namespace ConsumerRouteState

/-- `refresh_reuse_key` -/
def refreshReuseKey (state : ConsumerRouteState) (selected : List InteractionRouteSource) :
    InteractionRouteReuseKey where
  routeGeneration := state.routeGeneration
  outputGeneration := state.outputGeneration
  sources := selected.map fun source =>
    { incarnation := source.incarnation
      interactionGeneration :=
        (state.source source.incarnation).latestSnapshot.map InteractionData.generation
      availabilityRevision := source.availabilityRevision }

variable (state : ConsumerRouteState) (policy : InteractionRoutePolicy)

/-- Whether the policy or the selection differs from the last resolution. -/
def routeChanged (selection : List SourceIncarnation) : Bool :=
  state.policy ≠ some policy || state.selectedOrder ≠ selection

/-- The start of `resolve_into`: the sources of a new route depart and arrive. -/
def reroute (selection : List SourceIncarnation) (nowMs : Nat) : Routing :=
  let r : Routing := ⟨state, [], false⟩
  if state.routeChanged policy selection then
    let r := (r.bumpRouteGeneration).transitionSources nowMs selection
    { r with state := { r.state with policy := some policy, selectedOrder := selection } }
  else r

variable (selected : List InteractionRouteSource) (nowMs : Nat)

/-- The frame before it is sorted. -/
def collect : Routing :=
  let selection := selected.map InteractionRouteSource.incarnation
  selection.foldl (Routing.reconcileSnapshot nowMs)
    (selected.foldl (Routing.readPublication nowMs) (state.reroute policy selection nowMs))

/-- `resolve_into` -/
def resolveInto : ConsumerRouteState × RoutedInteraction :=
  let selection := selected.map InteractionRouteSource.incarnation
  let before := (state.reroute policy selection nowMs).state
  let r := state.collect policy selected nowMs
  let bumped := state.routeChanged policy selection || r.changed || r.events ≠ []
  let resolved := { r.state with
    outputGeneration := if bumped then r.state.outputGeneration + 1 else r.state.outputGeneration }
  let interaction := resolved.buildInteraction selection (stableSortEvents r.events)
  let droppedEvents :=
    saturatingAdd (saturatingAdd (resolved.overwrittenEvents - before.overwrittenEvents)
    (resolved.producerDroppedEvents - before.producerDroppedEvents))
    (resolved.invalidEvents - before.invalidEvents)
  (resolved,
    { interaction := { interaction with
        generation := resolved.outputGeneration
        batch := { interaction.batch with droppedEvents := min droppedEvents u32Max } }
      reuseKey := resolved.refreshReuseKey selected })

/-- `release_all` -/
def releaseAll (state : ConsumerRouteState) (nowMs : Nat) : List TimedInputEvent :=
  let held := (state.sourceStates.ordered SourceIncarnation.rank).flatMap fun entry =>
    entry.2.observed.ordered InteractionControl.rank
  (held.foldl (fun (released, events) entry =>
    if entry.1 ∈ released then (released, events)
    else (insert entry.1 released, events ++ [syntheticRelease entry.2 nowMs]))
      ((∅ : Finset InteractionControl), [])).2

end ConsumerRouteState

/-- `ConsumerIncarnation`: a consumer lifetime. -/
abbrev ConsumerIncarnation := Nat

/-- `InteractionRouter` -/
structure InteractionRouter where
  consumers : Table ConsumerIncarnation ConsumerRouteState

namespace InteractionRouter

/-- `resolve_into` -/
def resolveInto (router : InteractionRouter) (consumer : ConsumerIncarnation)
    (request : InteractionRouteRequest) (sources : List InteractionRouteSource) (nowMs : Nat) :
    InteractionRouter × RoutedInteraction :=
  let state := (router.consumers.lookup consumer).getD default
  let resolved := state.resolveInto request.policy (selectSources request sources) nowMs
  (⟨router.consumers.insert consumer resolved.1⟩, resolved.2)

/-- `remove_consumer` -/
def removeConsumer (router : InteractionRouter) (consumer : ConsumerIncarnation) (nowMs : Nat) :
    InteractionRouter × List TimedInputEvent :=
  (⟨router.consumers.erase consumer⟩,
    match router.consumers.lookup consumer with
    | none => []
    | some state => state.releaseAll nowMs)

end InteractionRouter

end Hypercolor.Input
