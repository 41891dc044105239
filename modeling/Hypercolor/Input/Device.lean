import Hypercolor.Input.Routing
import Mathlib.Algebra.Order.Round
import Mathlib.Data.Rat.Floor

/-!
# Input of lit devices

A driver reports the touches and buttons of a device it owns. Every attachment of the device is a
child publication of its own: it always tracks what is held, and announces a press, its end and its
hold only while some consumer demands interaction.

Calls are atomic, as the locks of the child and of the registry make them. What a child hands to
`publish_batch` is kept in order (`published`); the status session, the registry snapshots and the
labels are left out.
-/

namespace Hypercolor.Input

open Lib

/-! ## Edges -/

/-- `TouchPosition` -/
structure TouchPosition where
  x : F32
  y : F32
  pressure : F32
deriving DecidableEq

/-- `DeviceInputEdge` -/
inductive DeviceInputEdge where
  | touchBegan (contact : Nat) (position : TouchPosition) (segment : Option String)
  | touchMoved (contact : Nat) (position : TouchPosition)
  | touchEnded (contact : Nat) (position : TouchPosition)
  | button (button : String) (state : InputButtonState)

/-- `f32::clamp` to the unit interval -/
def clampUnit (value : ℚ) : ℚ := max 0 (min value 1)

/-- `sanitize_position` -/
def sanitizePosition (position : TouchPosition) (fallback : Option TouchPosition) :
    Option TouchPosition :=
  match position.x, position.y, position.pressure with
  | some x, some y, some pressure =>
    some ⟨some (clampUnit x), some (clampUnit y), some (clampUnit pressure)⟩
  | _, _, _ => fallback

def q16Scale : ℚ := 65536

/-- `unit_to_q16_16`: the value is sanitized: half a unit is rounded up, and it is finite. -/
def unitToQ16 (value : F32) : Int :=
  match value with
  | some value => ⌊value * q16Scale + 1 / 2⌋
  | none => 0

/-- The hyphenated digits of a UUID. -/
def uuidText (id : DeviceId) : String :=
  let digits := Nat.toDigits 16 id
  let digits := List.replicate (32 - digits.length) '0' ++ digits
  let part (start length : Nat) := String.ofList ((digits.drop start).take length)
  "-".intercalate [part 0 8, part 8 4, part 12 4, part 16 4, part 20 12]

/-! ## The state of a child -/

/-- `HeldTouch` -/
structure HeldTouch where
  position : TouchPosition
  segment : Option String
  announced : Bool

/-- `DeviceChildState` -/
structure DeviceChildState where
  touches : Table Nat HeldTouch
  buttons : Table String Bool
  publishing : Bool
  generation : Nat

/-- `MAX_CONTACTS_PER_DEVICE` -/
def maxContactsPerDevice : Nat := 128

/-- `MAX_HELD_BUTTONS_PER_DEVICE` -/
def maxHeldButtonsPerDevice : Nat := 16

/-- `timed_event` -/
def timedEvent (event : InputEvent) (atMs : Nat) : TimedInputEvent := ⟨event, atMs, 0, none, 1⟩

/-- `EdgeFold` -/
structure EdgeFold where
  deviceId : DeviceId
  sourceId : String
  atMs : Nat
  events : List TimedInputEvent
  dropped : Nat
  changed : Bool

namespace EdgeFold

/-- `touch` -/
def touch (fold : EdgeFold) (contact : Nat) (phase : TouchPhase) (position : TouchPosition)
    (segment : Option String) : EdgeFold :=
  { fold with
    changed := true
    events := fold.events ++ [timedEvent (.touch fold.sourceId fold.deviceId contact phase
      (unitToQ16 position.x) (unitToQ16 position.y) (unitToQ16 position.pressure) segment)
      fold.atMs] }

/-- `button` -/
def button (fold : EdgeFold) (button : String) (state : InputButtonState) : EdgeFold :=
  { fold with
    changed := true
    events := fold.events ++ [timedEvent
      (.deviceButton fold.sourceId fold.deviceId button state) fold.atMs] }

/-- An edge that cannot be kept is counted. -/
def drop (fold : EdgeFold) : EdgeFold := { fold with dropped := min (fold.dropped + 1) u32Max }

/-- The end of an announced touch. -/
def endTouch (fold : EdgeFold) (contact : Nat) (held : HeldTouch) (position : TouchPosition) : EdgeFold :=
  if held.announced then fold.touch contact .ended position held.segment else fold

variable (fold : EdgeFold) (state : DeviceChildState)

/-- `TouchBegan`, once there is room for it. -/
def land (contact : Nat) (position : TouchPosition)
    (segment : Option String) : EdgeFold × DeviceChildState :=
  let announce := state.publishing
  (if announce then fold.touch contact .began position segment else fold,
    { state with touches := state.touches.insert contact ⟨position, segment, announce⟩ })

/-- `apply` -/
def apply : DeviceInputEdge → EdgeFold × DeviceChildState
  | .touchBegan contact position segment =>
    match sanitizePosition position none with
    | none => (fold.drop, state)
    | some position =>
      match state.touches.lookup contact with
      | some previous =>
        (fold.endTouch contact previous previous.position).land
          { state with touches := state.touches.erase contact } contact position segment
      | none =>
        if maxContactsPerDevice ≤ state.touches.entries.length then (fold.drop, state)
        else fold.land state contact position segment
  | .touchMoved contact position =>
    match state.touches.lookup contact with
    | none => (fold, state)
    | some held =>
      match sanitizePosition position (some held.position) with
      | none => (fold, state)
      | some position =>
        if position = held.position then (fold, state)
        else ({ fold with changed := fold.changed || held.announced },
          { state with touches := state.touches.insert contact { held with position } })
  | .touchEnded contact position =>
    match state.touches.lookup contact with
    | none => (fold, state)
    | some held =>
      let position :=
        (sanitizePosition position (some held.position)).getD held.position
      (fold.endTouch contact held position, { state with touches := state.touches.erase contact })
  | .button button .pressed =>
    if button ∈ state.buttons then (fold, state)
    else if maxHeldButtonsPerDevice ≤ state.buttons.entries.length then (fold.drop, state)
    else
      let announce := state.publishing
      (if announce then fold.button button .pressed else fold,
        { state with buttons := state.buttons.insert button announce })
  | .button button .released =>
    (if state.buttons.lookup button = some true then fold.button button .released else fold,
      { state with buttons := state.buttons.erase button })
  | .button _ .repeated => (fold, state)

/-- `cancel_announced` -/
def cancelAnnounced : EdgeFold × DeviceChildState :=
  let fold := (state.touches.ordered id).foldl (fun fold entry =>
    if entry.2.announced then
      fold.touch entry.1 .cancelled entry.2.position entry.2.segment
    else fold) fold
  let fold := (state.buttons.ordered id).foldl (fun fold entry =>
    if entry.2 then fold.button entry.1 .released else fold) fold
  (fold, { state with
    touches := Table.mapValues (fun held => { held with announced := false }) state.touches
    buttons := Table.mapValues (fun _ => false) state.buttons })

end EdgeFold

/-- `build_child_snapshot` -/
def buildChildSnapshot (deviceId : DeviceId) (state : DeviceChildState) (dropped : Nat) :
    InteractionData :=
  let touches := (state.touches.ordered id).filter fun entry => entry.2.announced
  let buttons := (state.buttons.ordered id).filter (·.2)
  { (default : InteractionData) with
    device :=
      { touches := touches.map fun entry =>
          ⟨deviceId, entry.1, entry.2.position.x, entry.2.position.y, entry.2.position.pressure,
            entry.2.segment⟩
        buttons := buttons.map fun entry => ⟨deviceId, entry.1⟩ }
    batch := { (default : InteractionBatch) with droppedEvents := dropped }
    generation := state.generation }

/-! ## The child publication -/

/-- `DeviceInputRegistryError` -/
inductive DeviceInputRegistryError where
  | childClosed

/-- `DeviceInputPublicationId` -/
abbrev DeviceInputPublicationId := Nat

/-- One batch handed to `publish_batch`: the snapshot and its events. -/
structure DevicePublication where
  snapshot : InteractionData
  events : List TimedInputEvent

/-- `DeviceInputChildSlotInner` -/
structure DeviceInputChildSlot where
  deviceId : DeviceId
  publicationId : DeviceInputPublicationId
  sourceId : String
  active : Bool
  state : DeviceChildState
  published : List DevicePublication

namespace DeviceInputChildSlot

/-- `new` -/
def new (deviceId : DeviceId) (publicationId : DeviceInputPublicationId) (demanded : Bool) :
    DeviceInputChildSlot where
  deviceId
  publicationId
  sourceId := "device:" ++ uuidText deviceId
  active := true
  state := ⟨∅, ∅, demanded, 0⟩
  published := [⟨default, []⟩]

variable (slot : DeviceInputChildSlot)

/-- `fold` -/
def fold (nowMs : Nat) : EdgeFold :=
  ⟨slot.deviceId, slot.sourceId, nowMs, [], 0, false⟩

/-- `publish_locked`: `none` where the generation is exhausted. -/
def publishLocked (fold : EdgeFold) : Option DeviceInputChildSlot :=
  if ¬ fold.changed ∧ fold.dropped = 0 then some slot
  else do
    let state := { slot.state with generation := ← checkedAdd slot.state.generation 1 }
    return { slot with
      state
      published := slot.published ++
        [⟨buildChildSnapshot slot.deviceId state fold.dropped, fold.events⟩] }

/-- `publish_fold` -/
def publishFold (fold : EdgeFold) : Option DeviceInputChildSlot :=
  if slot.state.publishing then slot.publishLocked fold else some slot

/-- `inject` -/
def inject (edges : List DeviceInputEdge) (nowMs : Nat) :
    Option (DeviceInputChildSlot × Except DeviceInputRegistryError Unit) :=
  if ¬ slot.active then some (slot, .error .childClosed)
  else
    let folded := edges.foldl (fun folded edge => folded.1.apply folded.2 edge)
      (slot.fold nowMs, slot.state)
    (publishFold { slot with state := folded.2 } folded.1).map fun slot => (slot, .ok ())

/-- `sync_demand` -/
def syncDemand (demanded : Bool) (nowMs : Nat) : Option DeviceInputChildSlot :=
  if slot.state.publishing = demanded then some slot
  else if demanded then some { slot with state := { slot.state with publishing := true } }
  else
    let cancelled := (slot.fold nowMs).cancelAnnounced slot.state
    publishLocked { slot with state := { cancelled.2 with publishing := false } } cancelled.1

/-- `deactivate` -/
def deactivate : DeviceInputChildSlot := { slot with active := false }

end DeviceInputChildSlot

/-! ## The registry -/

/-- `DeviceInputAttachment`: the slot of an attachment by its publication, and whether the
attachment was closed. -/
structure DeviceInputAttachment where
  child : DeviceInputChildSlot
  closed : Bool

/-- `DeviceInputRegistryInner`, `DeviceInputRegistryWriter`: the registry with every attachment it
ever made; children are the attached ones. -/
structure DeviceInputRegistry where
  demanded : Bool
  generation : Nat
  nextPublicationId : DeviceInputPublicationId
  children : Table DeviceId DeviceInputPublicationId
  attachments : Table DeviceInputPublicationId DeviceInputAttachment

namespace DeviceInputRegistry

/-- `DeviceInputHandle::new` -/
def new : DeviceInputRegistry := ⟨false, 0, 1, ∅, ∅⟩

variable (registry : DeviceInputRegistry)

variable (publicationId : DeviceInputPublicationId)

/-- A change of the slot of an attachment. -/
def setChild (child : DeviceInputChildSlot) : DeviceInputRegistry :=
  match registry.attachments.lookup publicationId with
  | none => registry
  | some attachment =>
    { registry with attachments := registry.attachments.insert publicationId { attachment with child } }

/-- Deactivate the slot of an attachment. -/
def deactivate (registry : DeviceInputRegistry) (publicationId : DeviceInputPublicationId) :
    DeviceInputRegistry :=
  match registry.attachments.lookup publicationId with
  | none => registry
  | some attachment => registry.setChild publicationId attachment.child.deactivate

/-- `publish_registry`, where the children changed -/
def publishRegistry : Option DeviceInputRegistry := do
  return { registry with generation := ← checkedAdd registry.generation 1 }

/-- The previous incarnation of a device closes. -/
def closePrevious (deviceId : DeviceId) : DeviceInputRegistry :=
  match registry.children.lookup deviceId with
  | none => registry
  | some previous => registry.deactivate previous

/-- `DeviceInputRegistryHandle::attach_locked` -/
def attach (deviceId : DeviceId) : Option DeviceInputRegistry := do
  let registry := registry.closePrevious deviceId
  let publicationId := registry.nextPublicationId
  let nextPublicationId ← checkedAdd publicationId 1
  publishRegistry { registry with
    nextPublicationId
    children := registry.children.insert deviceId publicationId
    attachments := registry.attachments.insert publicationId
      ⟨.new deviceId publicationId registry.demanded, false⟩ }

/-- `DeviceInputAttachment::renew`, `DeviceInputRegistryHandle::renew` -/
def renew : Option DeviceInputRegistry :=
  match registry.attachments.lookup publicationId with
  | none => some registry
  | some attachment =>
    if attachment.closed then some registry
    else if registry.children.lookup attachment.child.deviceId = some publicationId then
      registry.attach attachment.child.deviceId
    else some registry

/-- The attachment closes, whether or not it is the current one. -/
def markClosed (attachment : DeviceInputAttachment) : DeviceInputRegistry :=
  { registry with
    attachments := registry.attachments.insert publicationId { attachment with closed := true } }

/-- `DeviceInputAttachment::close`, `DeviceInputRegistryHandle::close` -/
def close : Option DeviceInputRegistry :=
  match registry.attachments.lookup publicationId with
  | none => some registry
  | some attachment =>
    if attachment.closed then some registry
    else
      let registry := registry.markClosed publicationId attachment
      if registry.children.lookup attachment.child.deviceId = some publicationId then
        let registry := registry.deactivate publicationId
        publishRegistry { registry with children := registry.children.erase attachment.child.deviceId }
      else some registry

/-- `DeviceInputAttachment::inject` -/
def inject (registry : DeviceInputRegistry) (publicationId : DeviceInputPublicationId)
    (edges : List DeviceInputEdge) (nowMs : Nat) :
    Option (DeviceInputRegistry × Except DeviceInputRegistryError Unit) :=
  match registry.attachments.lookup publicationId with
  | none => some (registry, .error .childClosed)
  | some attachment => do
    let (child, result) ← attachment.child.inject edges nowMs
    return (registry.setChild publicationId child, result)

variable (demanded : Bool) (nowMs : DeviceId → Nat)

/-- One turn of the loop of `set_demanded`. -/
def syncChild (registry : DeviceInputRegistry)
    (child : DeviceId × DeviceInputPublicationId) : Option DeviceInputRegistry :=
  match registry.attachments.lookup child.2 with
  | none => some registry
  | some attachment =>
    (attachment.child.syncDemand demanded (nowMs child.1)).map (registry.setChild child.2)

/-- `DeviceInputHandle::set_demanded`, `DeviceInputRegistryHandle::set_demanded`: every child reads
the clock on its own. -/
def setDemanded : Option DeviceInputRegistry :=
  if registry.demanded = demanded then some registry
  else (registry.children.ordered id).foldlM (syncChild demanded nowMs) { registry with demanded }

end DeviceInputRegistry

end Hypercolor.Input
