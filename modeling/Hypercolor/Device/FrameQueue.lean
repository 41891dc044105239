import Hypercolor.Device.OutputQueue

/-!
# The output queue of one device and its worker

The render loop puts the latest frame of a device into a slot and a worker takes it to the device's
lane. `OutputQueue` has the part of the queue that decides which frames go out: the slot, the
delivery sequence, the metrics and the copies still owed. `Output` adds the worker between its
awaits, the attempts its lanes have not settled, and, as records no code keeps, the receipts that
came and the failures that were acknowledged. `Output.step` is one call, one receipt or one turn of
the worker's loop.

Durations and instants are in nanoseconds. What a call reads from outside is its argument: the clock,
whether the lane is closed, and the next number of the process-wide generation counter (`fresh`),
which a step requires to be above every generation handed out. The wait for the next send slot is not
modelled: the worker may submit at any time. Left out are the recycled color buffers and the counters
that are not fields of `OutputQueueMetrics`.
-/

namespace Hypercolor.Device

/-- `Vec<[u8; 3]>` -/
abbrev Colors := List (UInt8 × UInt8 × UInt8)

/-- `OutputPolicy` -/
structure OutputPolicy where
  minInterval : Option Nat
  replayAfter : Option Nat
  copiesBeforeIdle : Nat

/-- `unpaced` -/
def OutputPolicy.unpaced : OutputPolicy := ⟨none, none, 1⟩

/-- `FramePayload` -/
structure FramePayload where
  colors : Colors
  id : DeviceDeliveryId
  producedAt : Nat
  cachedReassertion : Bool
deriving DecidableEq

/-- `WORKER_PHASE_IDLE`, `WORKER_PHASE_CADENCE`, `WORKER_PHASE_TRANSPORT` -/
inductive WorkerPhase where
  | idle
  | cadence
  | transport
deriving DecidableEq

/-! ## Sequences and marks -/

/-- `DeliverySequence` -/
structure DeliverySequence where
  generation : Nat
  nextSequence : Nat

/-- `next`: the second component says whether the sequences ran out and a generation was opened. -/
def DeliverySequence.next (s : DeliverySequence) (fresh : Nat) :
    DeviceDeliveryId × Bool × DeliverySequence :=
  if s.nextSequence + 1 < UInt64.size then
    (⟨s.generation, s.nextSequence + 1⟩, false, { s with nextSequence := s.nextSequence + 1 })
  else (⟨fresh, 1⟩, true, ⟨fresh, 1⟩)

namespace OutputQueueMetrics

variable {ε : Type} (m : OutputQueueMetrics ε)

variable (id : DeviceDeliveryId)

/-- `record_accepted` -/
def recordAccepted : OutputQueueMetrics ε :=
  m.ifCurrent id { m with lastSequence := id.sequence }

/-- `record_cached_payload_reassertion` -/
def recordCachedPayloadReassertion : OutputQueueMetrics ε :=
  m.ifCurrent id { m with lastSequence := id.sequence }

/-- `record_coalesced` -/
def recordCoalesced (phase : WorkerPhase) : OutputQueueMetrics ε :=
  m.ifCurrent id { m with
    coalescedBackendOverrun := if phase = .cadence
      then m.coalescedBackendOverrun else m.coalescedBackendOverrun + 1
    framesDropped := m.framesDropped + 1 }

/-- `record_accepted_duplicate` -/
def recordAcceptedDuplicate : OutputQueueMetrics ε :=
  m.ifCurrent id { m with framesSuppressed := m.framesSuppressed + 1 }

/-- `last_terminal_sequence` -/
def lastTerminalSequence : Nat :=
  max (max m.lastHandledSequence m.lastErrorSequence) m.lastUndeliveredSequence

/-- `ended_undelivered` -/
def endedUndelivered (sequence : Nat) : Bool :=
  [m.lastErrorSequence, m.lastUndeliveredSequence].any fun terminal =>
    sequence = terminal ∧ m.lastHandledSequence < terminal

/-- `payload_delivered` -/
def payloadDelivered (payload : FramePayload) : Bool :=
  payload.id.sequence = m.lastHandledSequence ∧ m.lastErrorSequence ≤ m.lastHandledSequence

end OutputQueueMetrics

/-! ## The queue -/

/-- `OutputQueue`, without its lane, its task and its failure fence; `slot` is the value of
the watch channel `tx`. -/
structure OutputQueue (ε : Type) where
  slot : Option FramePayload
  policy : OutputPolicy
  metrics : OutputQueueMetrics ε
  deliverySequence : DeliverySequence
  workerPhase : WorkerPhase
  activeSequence : Nat
  identicalSendsOwed : Nat

/-- `Replay` -/
inductive Replay where
  | queued
  | outstanding
  | empty

namespace OutputQueue

variable {ε : Type} (q : OutputQueue ε)

/-- The next delivery, with its generation activated when it opens one. -/
def nextDelivery (fresh : Nat) : DeviceDeliveryId × Bool × OutputQueue ε :=
  match q.deliverySequence.next fresh with
  | (id, generationChanged, deliverySequence) =>
    (id, generationChanged, { q with
      deliverySequence := deliverySequence
      metrics := if generationChanged
        then q.metrics.activateGeneration id.queueGeneration else q.metrics })

/-- `let _ = self.tx.send_replace(None)` -/
def clearIf (generationChanged : Bool) : OutputQueue ε :=
  if generationChanged then { q with slot := none } else q

variable (colors : Colors)

/-- `latest_matches` -/
def latestMatches : Bool := q.slot.any fun payload => payload.colors = colors

/-- `latest_delivered` -/
def latestDelivered : Bool := q.slot.any q.metrics.payloadDelivered

/-- `should_suppress_duplicate` -/
def shouldSuppressDuplicate (laneClosed : Bool) (colors : Colors) : Bool :=
  if laneClosed then false
  else
    match q.slot with
    | none => false
    | some payload =>
        if payload.colors ≠ colors then false
        else if q.metrics.endedUndelivered payload.id.sequence then false
        else
          q.metrics.lastHandledSequence < payload.id.sequence ∨
            payload.id.sequence = q.metrics.lastHandledSequence ∧
              q.metrics.lastErrorSequence ≤ q.metrics.lastHandledSequence

/-- The first half of the `send_modify` in `push`: a frame that the next one replaces before the
worker took it is counted. -/
def coalesce : OutputQueueMetrics ε :=
  match q.slot with
  | none => q.metrics
  | some previous =>
      if ¬ previous.cachedReassertion ∧ previous.id.sequence ≠ q.activeSequence ∧
          q.metrics.lastTerminalSequence < previous.id.sequence
        then q.metrics.recordCoalesced previous.id q.workerPhase
        else q.metrics

/-- The `send_modify` in `push` -/
def replaceLatest (id : DeviceDeliveryId) (now : Nat) : OutputQueue ε :=
  { q with
    metrics := q.coalesce
    slot := some { colors := colors, id := id, producedAt := now, cachedReassertion := false } }

/-- `OutputQueue::push` once the delivery is recorded as accepted. -/
def acceptPush (laneClosed : Bool) (id : DeviceDeliveryId) (now : Nat) : OutputQueue ε × Bool :=
  if q.shouldSuppressDuplicate laneClosed colors then
    if 0 < q.identicalSendsOwed ∧ q.latestDelivered then
      ({ q with identicalSendsOwed := q.identicalSendsOwed - 1 }.replaceLatest colors id now, false)
    else ({ q with metrics := q.metrics.recordAcceptedDuplicate id }, true)
  else if ¬ q.latestMatches colors then
    ({ q with identicalSendsOwed := q.policy.copiesBeforeIdle - 1 }.replaceLatest colors id now, false)
  else (q.replaceLatest colors id now, false)

/-- `push`: the second component says whether the colors were suppressed as a duplicate. -/
def push (laneClosed : Bool) (now fresh : Nat) : OutputQueue ε × Bool :=
  match q.nextDelivery fresh with
  | (id, generationChanged, q) =>
    let q := q.clearIf generationChanged
    { q with metrics := q.metrics.recordAccepted id }.acceptPush colors laneClosed id now

/-- `requeue_latest_if` -/
def requeueLatestIf (shouldRequeue : OutputQueueMetrics ε → FramePayload → Bool) (now fresh : Nat) :
    OutputQueue ε × Option Nat :=
  match q.slot with
  | none => (q, none)
  | some payload =>
      if ¬ shouldRequeue q.metrics payload then (q, none)
      else
        match q.nextDelivery fresh with
        | (id, generationChanged, q) =>
          let q := q.clearIf generationChanged
          ({ q with
            metrics := if payload.cachedReassertion
              then q.metrics.recordCachedPayloadReassertion id else q.metrics.recordAccepted id
            slot := q.slot.map fun payload => { payload with id := id, producedAt := now } },
            some payload.colors.length)

/-- `retry_latest_after_error` -/
def retryLatestAfterError (now fresh : Nat) : OutputQueue ε × Option Nat :=
  q.requeueLatestIf (fun metrics payload => metrics.endedUndelivered payload.id.sequence) now fresh

/-- `repeat_latest_if_owed` -/
def repeatLatestIfOwed (now fresh : Nat) : OutputQueue ε × Option Nat :=
  if q.identicalSendsOwed = 0 then (q, none)
  else
    match q.requeueLatestIf OutputQueueMetrics.payloadDelivered now fresh with
    | (q, none) => (q, none)
    | (q, some ledCount) =>
        ({ q with identicalSendsOwed := q.identicalSendsOwed - 1 }, some ledCount)

/-- `requeue_cached_payload` -/
def requeueCachedPayload (now fresh : Nat) : OutputQueue ε × Replay :=
  match q.slot with
  | none => (q, .empty)
  | some payload =>
      if q.metrics.lastTerminalSequence < payload.id.sequence then (q, .outstanding)
      else
        match q.nextDelivery fresh with
        | (id, _, q) =>
          ({ q with
            metrics := q.metrics.recordCachedPayloadReassertion id
            slot := some { payload with id := id, producedAt := now, cachedReassertion := true } },
            .queued)

/-- `latest_unconfirmed_payload` -/
def latestUnconfirmedPayload : Option FramePayload :=
  q.slot.filter fun payload => q.metrics.lastHandledSequence < payload.id.sequence

variable (policy : OutputPolicy)

/-- `spawn_with_state`, up to the worker -/
def spawnWithState (initialPayload : Option FramePayload)
    (metrics : OutputQueueMetrics ε) (generation nextSequence : Nat) : OutputQueue ε where
  slot := initialPayload.map fun payload => { payload with id := ⟨generation, payload.id.sequence⟩ }
  policy := policy
  metrics := metrics.activateGeneration generation
  deliverySequence := ⟨generation, nextSequence⟩
  workerPhase := .idle
  activeSequence := 0
  identicalSendsOwed := 0

/-- `spawn` -/
def spawn (startedAt generation : Nat) : OutputQueue ε :=
  spawnWithState policy none (.new startedAt generation) generation 0

/-- `recover` -/
def recover (generation : Nat) : OutputQueue ε :=
  spawnWithState policy q.latestUnconfirmedPayload q.metrics generation q.deliverySequence.nextSequence

end OutputQueue

/-! ## The worker -/

/-- `OUTPUT_REASSERTION_RETRY_INTERVAL` -/
def outputReassertionRetryInterval : Nat := 10000000

/-- `advance_deadline` -/
def advanceDeadline (previousDeadline interval now : Nat) : Nat := max (previousDeadline + interval) now

/-- `next_reassertion` -/
def nextReassertion {ε : Type} (result : Option (DeliveryResult ε)) (now : Nat)
    (sendInterval replayAfter : Option Nat) : Option Nat :=
  match result with
  | some (.notWritten (.deferred retryAt)) =>
      let replayAt := replayAfter.map fun replayAfter => now + replayAfter
      some ((replayAt.map fun replayAt => min replayAt retryAt).getD retryAt)
  | some (.notWritten .unchanged) =>
      replayAfter.map fun replayAfter =>
        let retry := min ((sendInterval.filter fun interval => interval ≠ 0).getD
          outputReassertionRetryInterval) replayAfter
        advanceDeadline now retry now
  | some (.notWritten .superseded) | some (.written _ _) | some (.failed _ _) | none =>
      replayAfter.map fun replayAfter => advanceDeadline now replayAfter now

/-- A queue, its worker and its lanes. `changed` says that the slot was written since the worker last
looked at it, `submitting` is the attempt that the worker waits on, and `inFlight` has the attempts
not settled, those of replaced workers included. `receipts` and `acknowledged` are kept for the
record, newest first. -/
structure Output (ε : Type) where
  queue : OutputQueue ε
  changed : Bool
  pending : Option FramePayload
  reassertAt : Option Nat
  submitting : Option DeviceDeliveryId
  finished : Bool
  inFlight : List DeviceDeliveryId
  receipts : List (Receipt ε)
  acknowledged : List DeviceDeliveryId

/-- What happens to a queue: the calls of the render loop and of the lifecycle, a receipt, the turns
of the worker's loop (`observe` takes the slot, `pace` waits for the next send slot, `deadline` finds
its replay deadline passed, `submitted` says whether the submission came back settled), and the end
of the worker. -/
inductive OutputEvent (ε : Type) where
  | push (colors : Colors) (laneClosed : Bool) (now fresh : Nat)
  | retryLatest (now fresh : Nat)
  | repeatLatest (now fresh : Nat)
  | acknowledge (id : DeviceDeliveryId)
  | settle (receipt : Receipt ε)
  | observe
  | pace
  | deadline (now fresh : Nat)
  | submit
  | submitted (settled : Bool) (now : Nat)
  | finish
  | recover (policy : OutputPolicy) (fresh : Nat)

namespace Output

variable {ε : Type} (w : Output ε)

/-- A queue with its worker, both just started. -/
def start (queue : OutputQueue ε) (inFlight : List DeviceDeliveryId) (receipts : List (Receipt ε))
    (acknowledged : List DeviceDeliveryId) : Output ε where
  queue := queue
  changed := false
  pending := queue.slot
  reassertAt := none
  submitting := none
  finished := false
  inFlight := inFlight
  receipts := receipts
  acknowledged := acknowledged

def spawn (policy : OutputPolicy) (startedAt generation : Nat) : Output ε :=
  start (.spawn policy startedAt generation) [] [] []

/-- `fresh` is a number that the generation counter has not handed out. -/
def IsFresh (fresh : Nat) : Prop := w.queue.deliverySequence.generation < fresh

instance (fresh : Nat) : Decidable (w.IsFresh fresh) := inferInstanceAs (Decidable (_ < _))

/-- The queue after a call that wrote the slot unless `written` is false. -/
def afterCall (queue : OutputQueue ε) (written : Bool) : Output ε :=
  { w with queue := queue, changed := w.changed || written }

/-- The `sleep_until(deadline)` branch of the worker -/
def replay (now fresh : Nat) : Output ε :=
  match w.queue.requeueCachedPayload now fresh with
  | (queue, .queued) =>
      { w with queue := queue, changed := false, pending := queue.slot, reassertAt := none }
  | (queue, .outstanding) =>
      { w with
        queue := queue
        reassertAt := queue.policy.replayAfter.map fun replayAfter =>
          advanceDeadline now replayAfter now }
  | (queue, .empty) => { w with queue := queue, reassertAt := none }

/-- The worker hands its frame to the lane. -/
def hand (frame : FramePayload) : Output ε :=
  { w with
    queue := { w.queue with workerPhase := .transport, activeSequence := frame.id.sequence }
    pending := none
    submitting := some frame.id
    inFlight := frame.id :: w.inFlight }

/-- The receipt of an attempt. -/
def receiptOf (id : DeviceDeliveryId) : Option (Receipt ε) :=
  w.receipts.find? fun receipt => receipt.id = id

/-- The submission of `id` came back: with the attempt's receipt, or pending. -/
def returned (id : DeviceDeliveryId) (settled : Bool) (now : Nat) : Output ε :=
  { w with
    queue := { w.queue with
      workerPhase := .idle
      activeSequence := if settled then 0 else w.queue.activeSequence }
    submitting := none
    reassertAt := nextReassertion
      (if settled then (w.receiptOf id).map fun receipt => receipt.result else none)
      now w.queue.policy.minInterval w.queue.policy.replayAfter }

/-- Where an event is possible, the state after it. -/
def step (event : OutputEvent ε) : Option (Output ε) :=
  match event with
  | .push colors laneClosed now fresh =>
      if w.IsFresh fresh then
        let (queue, suppressed) := w.queue.push colors laneClosed now fresh
        some (w.afterCall queue !suppressed)
      else none
  | .retryLatest now fresh =>
      if w.IsFresh fresh then
        let (queue, ledCount) := w.queue.retryLatestAfterError now fresh
        some (w.afterCall queue ledCount.isSome)
      else none
  | .repeatLatest now fresh =>
      if w.IsFresh fresh then
        let (queue, ledCount) := w.queue.repeatLatestIfOwed now fresh
        some (w.afterCall queue ledCount.isSome)
      else none
  | .acknowledge id =>
      let (metrics, acknowledged) := w.queue.metrics.tryAcknowledgeFailure id
      some { w with
        queue := { w.queue with metrics := metrics }
        acknowledged := if acknowledged then id :: w.acknowledged else w.acknowledged }
  | .settle receipt =>
      if receipt.id ∈ w.inFlight then
        some { w with
          queue := { w.queue with metrics := w.queue.metrics.settled receipt }
          inFlight := w.inFlight.erase receipt.id
          receipts := receipt :: w.receipts }
      else none
  | .observe =>
      -- without a minimum interval the worker does not look while it has a frame
      if ¬ w.finished ∧ w.submitting = none ∧ w.changed ∧
          (w.pending = none ∨ w.queue.policy.minInterval.isSome) then
        some { w with changed := false, pending := w.queue.slot }
      else none
  | .pace =>
      if ¬ w.finished ∧ w.submitting = none ∧ w.pending.isSome ∧ w.queue.policy.minInterval.isSome then
        some { w with queue := { w.queue with workerPhase := .cadence } }
      else none
  | .deadline now fresh =>
      if ¬ w.finished ∧ w.submitting = none ∧ w.pending = none ∧
          w.reassertAt.any (· ≤ now) ∧ w.IsFresh fresh then
        some (w.replay now fresh)
      else none
  | .submit =>
      match w.pending with
      | some frame => if ¬ w.finished ∧ w.submitting = none then some (w.hand frame) else none
      | none => none
  | .submitted settled now =>
      match w.submitting with
      | some id =>
          if settled → (w.receiptOf id).isSome then some (w.returned id settled now) else none
      | none => none
  | .finish => some { w with finished := true, pending := none, submitting := none }
  | .recover policy fresh =>
      if w.IsFresh fresh then
        some (start (w.queue.recover policy fresh) w.inFlight w.receipts w.acknowledged)
      else none

end Output

end Hypercolor.Device
