import Mathlib.Data.List.TakeDrop
import Mathlib.Algebra.Order.Ring.Nat
import Hypercolor.Input.Events
import Hypercolor.Lib.Ring

/-!
# The publication slot

`InputPublicationSlot` keeps the latest sample of one source, a ring of its newest events and the
totals of what cannot be kept. Publishing, clearing and reading are atomic here: the writers hold a
lock, and a read that overlaps one is thrown away and made again.

A `Session` is one slot with everything one consumer has read from it, feeding back its cursor.
-/

namespace Hypercolor.Input

open Lib

/-- `INPUT_EVENT_RING_CAPACITY`, `DEFAULT_EVENT_LIMIT` -/
def inputEventRingCapacity : Nat := 256

/-- `InputEventEntry` -/
abbrev InputEventEntry := Ring.Entry TimedInputEvent

/-- `InputEventRead` -/
structure InputEventRead where
  nextCursor : Nat
  dropped : Nat
  droppedTotal : Nat

/-- `InteractionTransientTotals` -/
structure InteractionTransientTotals where
  dx : ℚ
  dy : ℚ
  distance : ℚ
  windowSecs : ℚ
  droppedEvents : Nat
  invalidEvents : Nat
deriving DecidableEq

instance : Inhabited InteractionTransientTotals := ⟨⟨0, 0, 0, 0, 0, 0⟩⟩

/-- `add_finite`: the sum of exact numbers is finite. -/
def addFinite (total : ℚ) (value : F32) : ℚ :=
  match value with
  | some value => total + value
  | none => total

/-- `absorb` -/
def InteractionTransientTotals.absorb (totals : InteractionTransientTotals)
    (interaction : InteractionData) : InteractionTransientTotals where
  dx := addFinite totals.dx interaction.batch.motion.dx
  dy := addFinite totals.dy interaction.batch.motion.dy
  distance := addFinite totals.distance interaction.batch.motion.distance
  windowSecs := addFinite totals.windowSecs interaction.batch.windowSecs
  droppedEvents := saturatingAdd totals.droppedEvents interaction.batch.droppedEvents
  invalidEvents := totals.invalidEvents

/-- `delta_since` -/
def InteractionTransientTotals.deltaSince (totals earlier : InteractionTransientTotals) :
    InteractionTransientTotals where
  dx := totals.dx - earlier.dx
  dy := totals.dy - earlier.dy
  distance := totals.distance - earlier.distance
  windowSecs := totals.windowSecs - earlier.windowSecs
  droppedEvents := totals.droppedEvents - earlier.droppedEvents
  invalidEvents := totals.invalidEvents - earlier.invalidEvents

/-- `InputPublicationWriter` -/
structure InputPublicationWriter where
  nextCursor : Nat
  droppedTotal : Nat
  interactionTransients : InteractionTransientTotals

/-- `InputPublicationSlotInner`: the atomics beside the writer are what readers see. -/
structure InputPublicationSlot where
  latest : Option InputData
  publicationRevision : Nat
  eventSlots : List (Option InputEventEntry)
  writer : InputPublicationWriter
  nextCursor : Nat
  droppedTotal : Nat
  interactionTransients : InteractionTransientTotals

/-- `InputPublicationRead` -/
structure InputPublicationRead where
  sample : Option InputData
  events : InputEventRead
  interactionTransients : InteractionTransientTotals

/-- `advance_publication_revision`, where the sample changed -/
def advancePublicationRevision (changed : Bool) (revision : Nat) : Option Nat :=
  if changed then checkedAdd revision 1 else some revision

/-- `clone_event_reused` -/
def cloneEventReused (output : List TimedInputEvent) (index : Nat) (event : TimedInputEvent) :
    List TimedInputEvent :=
  if index < output.length then output.set index event else output ++ [event]

namespace InputPublicationSlot

/-- `new` -/
def new (eventCapacity : Nat) : InputPublicationSlot where
  latest := none
  publicationRevision := 0
  eventSlots := List.replicate eventCapacity none
  writer := ⟨0, 0, default⟩
  nextCursor := 0
  droppedTotal := 0
  interactionTransients := default

variable (slot : InputPublicationSlot)

/-- The start of `publish_batch`: the sample is absorbed and stored. -/
def storeSample (sample : Option InputData) : InputPublicationSlot × Bool :=
  let writer := match sample with
    | some (.interaction interaction) =>
      { slot.writer with interactionTransients := slot.writer.interactionTransients.absorb interaction }
    | _ => slot.writer
  let retainChangeOnlySample := sample.isNone &&
    (slot.latest == some .media || slot.latest == some .net || slot.latest == some .sensors)
  let latestChanged := !retainChangeOnlySample && (sample.isSome || slot.latest.isSome)
  let latest := if retainChangeOnlySample then slot.latest else sample
  ({ slot with writer, latest }, latestChanged)

/-- One turn of the loop of `publish_batch`; `none` where the cursor is exhausted. -/
def publishEvent (event : TimedInputEvent) : Option InputPublicationSlot :=
  let writer := slot.writer
  let capacity := slot.eventSlots.length
  if event.repeatCount = 0 then
    some { slot with
      writer := { writer with
        droppedTotal := saturatingAdd writer.droppedTotal 1
        interactionTransients := { writer.interactionTransients with
          invalidEvents := saturatingAdd writer.interactionTransients.invalidEvents 1 } } }
  else if capacity = 0 then
    some { slot with
      writer := { writer with
        droppedTotal := saturatingAdd writer.droppedTotal 1
        interactionTransients := { writer.interactionTransients with
          droppedEvents := saturatingAdd writer.interactionTransients.droppedEvents 1 } } }
  else do
    let cursor := writer.nextCursor
    let nextCursor ← checkedAdd writer.nextCursor 1
    let droppedTotal :=
      if capacity ≤ cursor then saturatingAdd writer.droppedTotal 1 else writer.droppedTotal
    return { slot with
      writer := { writer with nextCursor, droppedTotal }
      eventSlots := slot.eventSlots.set (cursor % capacity) (some ⟨cursor, event⟩) }

/-- The end of `publish_batch`: what the writer counted is stored, and a changed sample advances
the revision. -/
def commit (latestChanged : Bool) : Option InputPublicationSlot := do
  let publicationRevision ← advancePublicationRevision latestChanged slot.publicationRevision
  return { slot with
    nextCursor := slot.writer.nextCursor
    droppedTotal := slot.writer.droppedTotal
    interactionTransients := slot.writer.interactionTransients
    publicationRevision }

/-- `publish_batch` -/
def publishBatch (sample : Option InputData)
    (events : List TimedInputEvent) : Option InputPublicationSlot := do
  let stored := slot.storeSample sample
  let published ← events.foldlM publishEvent stored.1
  published.commit stored.2

/-- `clear_latest` -/
def clearLatest : Option InputPublicationSlot := do
  let publicationRevision ← advancePublicationRevision slot.latest.isSome slot.publicationRevision
  return { slot with
    latest := none
    writer := { slot.writer with interactionTransients := default }
    interactionTransients := default
    publicationRevision }

/-- The loop of a read. `none` is a pass that finds another entry in a cell: it is made again, and
with no publication in between it never ends. -/
def readEntries (slot : InputPublicationSlot) (offset : Nat) :
    List Nat → Nat → List TimedInputEvent → Option (List TimedInputEvent × Nat)
  | [], eventCount, output => some (output, eventCount)
  | expectedCursor :: rest, eventCount, output => do
    let event ← Ring.look slot.eventSlots expectedCursor
    slot.readEntries offset rest (eventCount + 1) (cloneEventReused output (offset + eventCount) event)

variable (cursor : Nat) (output : List TimedInputEvent)

/-- `read_publication_reusing_since` -/
def readPublicationReusingSince (offset : Nat) :
    Option (InputPublicationRead × List TimedInputEvent × Nat) := do
  let capacity := slot.eventSlots.length
  let effectiveCursor := if cursor = u64Max then slot.nextCursor else min cursor slot.nextCursor
  let oldestCursor := slot.nextCursor - min capacity slot.nextCursor
  let dropped := oldestCursor - effectiveCursor
  let readableCursor := max effectiveCursor oldestCursor
  let read ← slot.readEntries offset
    (List.range' readableCursor (slot.nextCursor - readableCursor)) 0 output
  return ({ sample := slot.latest
            events := { nextCursor := slot.nextCursor, dropped, droppedTotal := slot.droppedTotal }
            interactionTransients := slot.interactionTransients }, read)

/-- `read_publication_since` -/
def readPublicationSince : Option (InputPublicationRead × List TimedInputEvent) := do
  let originalLen := output.length
  let (publication, output, eventCount) ← slot.readPublicationReusingSince cursor output originalLen
  return (publication, output.take (originalLen + eventCount))

end InputPublicationSlot

/-! ## Sessions -/

/-- What can happen to a slot, as one of its consumers sees it. -/
inductive SlotOp where
  | publishBatch (sample : Option InputData) (events : List TimedInputEvent)
  | clearLatest
  | read

/-- A slot, and what one consumer has read from it. -/
structure Session where
  slot : InputPublicationSlot
  reads : List (InputPublicationRead × List TimedInputEvent)

namespace Session

/-- A consumer that has read nothing yet. -/
def join (slot : InputPublicationSlot) : Session := ⟨slot, []⟩

/-- The cursor the next read is made with: the one of the last read, at first `start`. -/
def cursor (session : Session) (start : Nat) : Nat :=
  (session.reads.getLast?.map fun read => read.1.events.nextCursor).getD start

/-- One operation; `none` where it panics or never returns. -/
def perform (start : Nat) (session : Session) : SlotOp → Option Session
  | .publishBatch sample events => do
      return { session with slot := ← session.slot.publishBatch sample events }
  | .clearLatest => do return { session with slot := ← session.slot.clearLatest }
  | .read => do
      let read ← session.slot.readPublicationSince (session.cursor start) []
      return { session with reads := session.reads ++ [read] }

/-- Operations in order. -/
def performAll (start : Nat) (session : Session) (ops : List SlotOp) : Option Session :=
  ops.foldlM (perform start) session

variable {st : Nat} {ss ss' : Session} {op : SlotOp} {ops : List SlotOp}

/-- A run, one operation at a time. -/
lemma performAll_cons : ss.performAll st (op :: ops) = some ss' ↔
      ∃ nx, ss.perform st op = some nx ∧ nx.performAll st ops = some ss' := by
  exact Option.bind_eq_some_iff

/-- A run up to its last operation. -/
lemma performAll_concat : ss.performAll st (ops ++ [op]) = some ss' ↔
      ∃ last, ss.performAll st ops = some last ∧ last.perform st op = some ss' := by
  simp [performAll, List.foldlM_append, Option.bind_eq_some_iff]

/-- The events the consumer was given, in order. -/
def given (session : Session) : List TimedInputEvent := session.reads.flatMap Prod.snd

/-- The events the consumer was told were dropped. -/
def dropped (session : Session) : Nat :=
  (session.reads.map fun read => read.1.events.dropped).sum

end Session

end Hypercolor.Input
