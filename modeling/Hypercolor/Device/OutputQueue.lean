import Hypercolor.Lib.Machine
import Mathlib.Order.Nat

/-!
# What an output queue knows about its deliveries

The metrics of one output queue: counters for the statistics, the last sequences that were handled,
written, failed or left undelivered, and the write failure that is kept for the device lifecycle.
Everything but the plain counters is written under the lock of the kept failure, so each function
below is one step.

Instants and durations are in nanoseconds; generations and sequences are only compared and stored,
and are naturals. Only the functions that settle deliveries, switch the generation or hand out and
acknowledge failures are here, with the fields they use.
-/

namespace Hypercolor.Device

/-! ## Deliveries -/

/-- `DeviceDeliveryId` -/
structure DeviceDeliveryId where
  queueGeneration : Nat
  sequence : Nat
deriving DecidableEq

/-- `SkipReason` -/
inductive SkipReason where
  | unchanged
  | deferred (retryAt : Nat)
  | superseded

/-- `PeerDisposition` -/
inductive PeerDisposition where
  | accepted
  | declined

/-- `DeliveryResult`: the error is the driver's and opaque here; the stage of a failure is not
looked at. -/
inductive DeliveryResult (ε : Type) where
  | notWritten (reason : SkipReason)
  | written (bytes : UInt64) (peer : Option PeerDisposition)
  | failed (error : ε) (transient : Bool)

/-- `Receipt` -/
structure Receipt (ε : Type) where
  id : DeviceDeliveryId
  result : DeliveryResult ε
  queueWait : Nat
  transportLatency : Nat
  totalLatency : Nat
  settledAt : Nat

/-- `RetainedWriteFailure` -/
structure RetainedWriteFailure (ε : Type) where
  id : DeviceDeliveryId
  error : ε
  transient : Bool
  consecutiveFailures : UInt32
  acknowledged : Bool

/-- `OutputQueueMetrics` -/
structure OutputQueueMetrics (ε : Type) where
  startedAt : Nat
  activeGeneration : Nat
  framesSent : UInt64
  framesSuppressed : UInt64
  bytesSent : UInt64
  framesDropped : UInt64
  coalescedBackendOverrun : UInt64
  transportStarted : UInt64
  transportFailed : UInt64
  transportDeclined : UInt64
  totalLatencyUs : UInt64
  totalQueueWaitUs : UInt64
  totalWriteTimeUs : UInt64
  errorsTotal : UInt64
  lastSentOffsetUs : UInt64
  lastSequence : Nat
  lastTransportStartedSequence : Nat
  lastHandledSequence : Nat
  lastSuccessSequence : Nat
  lastErrorSequence : Nat
  lastUndeliveredSequence : Nat
  consecutiveFailures : UInt32
  retainedFailure : Option (RetainedWriteFailure ε)

/-- `duration_micros` -/
def durationMicros (duration : Nat) : UInt64 :=
  UInt64.ofNat (min (duration / 1000) (UInt64.size - 1))

/-- `u32::saturating_add(1)` -/
def saturatingSucc32 (n : UInt32) : UInt32 :=
  UInt32.ofNat (min (n.toNat + 1) (UInt32.size - 1))

namespace OutputQueueMetrics

variable {ε : Type} (s : OutputQueueMetrics ε)

/-- `new` -/
def new (startedAt : Nat) (generation : Nat) : OutputQueueMetrics ε where
  startedAt := startedAt
  activeGeneration := generation
  framesSent := 0
  framesSuppressed := 0
  bytesSent := 0
  framesDropped := 0
  coalescedBackendOverrun := 0
  transportStarted := 0
  transportFailed := 0
  transportDeclined := 0
  totalLatencyUs := 0
  totalQueueWaitUs := 0
  totalWriteTimeUs := 0
  errorsTotal := 0
  lastSentOffsetUs := 0
  lastSequence := 0
  lastTransportStartedSequence := 0
  lastHandledSequence := 0
  lastSuccessSequence := 0
  lastErrorSequence := 0
  lastUndeliveredSequence := 0
  consecutiveFailures := 0
  retainedFailure := none

/-- `activate_generation` -/
def activateGeneration (generation : Nat) : OutputQueueMetrics ε :=
  { s with
    activeGeneration := generation
    lastSequence := 0
    lastTransportStartedSequence := 0
    lastHandledSequence := 0
    lastSuccessSequence := 0
    lastErrorSequence := 0
    lastUndeliveredSequence := 0
    consecutiveFailures := 0
    retainedFailure := none }

variable (id : DeviceDeliveryId)

/-- `is_current` -/
def isCurrent : Bool := s.activeGeneration = id.queueGeneration

/-- `if !self.is_current(id) { return; }` -/
def ifCurrent (record : OutputQueueMetrics ε) : OutputQueueMetrics ε :=
  if s.isCurrent id then record else s

variable (sentAt : Nat)

/-- `duration_micros(sent_at.saturating_duration_since(self.started_at))` -/
def sentOffset : UInt64 := durationMicros (sentAt - s.startedAt)

/-- The ends of `record_write_success` and `record_write_suppressed`: the kept failure, unless a
delivery at or above it was handled. -/
def unsettled : Option (RetainedWriteFailure ε) :=
  s.retainedFailure.filter fun failure =>
    ¬ (failure.id.queueGeneration = id.queueGeneration ∧ failure.id.sequence ≤ id.sequence)

/-- `record_write_success` -/
def recordWriteSuccess (queueWait transportLatency totalLatency sentAt : Nat)
    (completedPayloadBytes : UInt64) :
    OutputQueueMetrics ε :=
  s.ifCurrent id { s with
    framesSent := s.framesSent + 1
    bytesSent := s.bytesSent + completedPayloadBytes
    totalQueueWaitUs := s.totalQueueWaitUs + durationMicros queueWait
    totalWriteTimeUs := s.totalWriteTimeUs + durationMicros transportLatency
    totalLatencyUs := s.totalLatencyUs + durationMicros totalLatency
    lastSentOffsetUs := s.sentOffset sentAt
    lastSuccessSequence := id.sequence
    lastHandledSequence := id.sequence
    consecutiveFailures := 0
    retainedFailure := s.unsettled id }

/-- `record_write_suppressed` -/
def recordWriteSuppressed : OutputQueueMetrics ε :=
  s.ifCurrent id { s with
    framesSuppressed := s.framesSuppressed + 1
    lastSentOffsetUs := s.sentOffset sentAt
    lastHandledSequence := id.sequence
    retainedFailure := s.unsettled id }

/-- `record_write_declined` -/
def recordWriteDeclined : OutputQueueMetrics ε :=
  s.ifCurrent id { s with
    transportDeclined := s.transportDeclined + 1
    lastSentOffsetUs := s.sentOffset sentAt
    lastUndeliveredSequence := id.sequence }

/-- `record_write_error` -/
def recordWriteError (error : ε) (transient : Bool) : OutputQueueMetrics ε :=
  let failed := { s with
    lastSentOffsetUs := s.sentOffset sentAt
    errorsTotal := s.errorsTotal + 1
    transportFailed := s.transportFailed + 1
    lastErrorSequence := id.sequence }
  s.ifCurrent id (if s.lastHandledSequence < id.sequence then
      { failed with
        consecutiveFailures := saturatingSucc32 s.consecutiveFailures
        retainedFailure := some
          { id := id
            error := error
            transient := transient
            consecutiveFailures := saturatingSucc32 s.consecutiveFailures
            acknowledged := false } }
    else failed)

/-- `record_superseded` -/
def recordSuperseded : OutputQueueMetrics ε :=
  s.ifCurrent id { s with
    coalescedBackendOverrun := s.coalescedBackendOverrun + 1
    framesDropped := s.framesDropped + 1
    lastUndeliveredSequence := max s.lastUndeliveredSequence id.sequence }

/-- `record_transport_started` -/
def recordTransportStarted : OutputQueueMetrics ε :=
  s.ifCurrent id { s with
    lastTransportStartedSequence := max s.lastTransportStartedSequence id.sequence
    transportStarted := if s.lastTransportStartedSequence < id.sequence
      then s.transportStarted + 1 else s.transportStarted }

/-- The `FrameObserver` of `OutputQueueMetrics` -/
def settled (receipt : Receipt ε) : OutputQueueMetrics ε :=
  match receipt.result with
  | .written _ (some .declined) => s.recordWriteDeclined receipt.id receipt.settledAt
  | .written bytes _ => s.recordWriteSuccess receipt.id receipt.queueWait receipt.transportLatency
      receipt.totalLatency receipt.settledAt bytes
  | .notWritten .superseded => s.recordSuperseded receipt.id
  | .notWritten _ => s.recordWriteSuppressed receipt.id receipt.settledAt
  | .failed error transient => s.recordWriteError receipt.id receipt.settledAt error transient

/-! ## Failures -/

/-- `failure_matches` -/
def failureMatches : Bool :=
  s.isCurrent id ∧ s.lastErrorSequence = id.sequence ∧ s.lastHandledSequence < id.sequence

/-- `retained_failure` -/
def retained : Option (RetainedWriteFailure ε) :=
  s.retainedFailure.filter fun failure =>
    s.isCurrent failure.id ∧ s.lastErrorSequence = failure.id.sequence

/-- `pending_failure` -/
def pendingFailure : Option (RetainedWriteFailure ε) :=
  s.retained.filter fun failure => ¬ failure.acknowledged ∧ s.failureMatches failure.id

/-- `try_acknowledge_failure`: the second component says whether the failure was there to
acknowledge. -/
def tryAcknowledgeFailure : OutputQueueMetrics ε × Bool :=
  match s.retainedFailure with
  | none => (s, false)
  | some failure =>
      if failure.id ≠ id ∨ failure.acknowledged ∨ ¬ s.failureMatches id then (s, false)
      else
        ({ s with
          lastHandledSequence := max s.lastHandledSequence id.sequence
          retainedFailure := some { failure with acknowledged := true } }, true)

end OutputQueueMetrics

end Hypercolor.Device
