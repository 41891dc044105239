import Hypercolor.Device.FrameQueue
import Mathlib.Data.List.Nodup
import Mathlib.Tactic.SplitIfs

/-!
# Duplicate suppression loses no update

A push of the colors already in the slot is suppressed while their delivery is under way or went
through. **`duplicates_accounted`**: in every run

* the latest payload of a suppressed push has the pushed colors, and it is with the worker or its
  lane (`Outstanding`), was written or found unchanged, or its failure was acknowledged, which hands
  the device to the lifecycle;
* after a delivery that was declined, superseded or failed without an acknowledgement, the same
  colors go into the slot again;
* a deferred payload goes to the worker again at its deadline, and a payload that never settled goes
  to the next worker when the queue recovers.

The runs are those in which receipts are in time (`Timely`). The marks of the queue are stored rather
than raised, so a failure or a decline that comes after a newer one's hides the newer one, and a
success that comes after a newer deferral hides that; and a frame deferred after its submission came
back as pending gets no deadline. These runs are left open here.

The proof says once what a call does to the slot and the marks (`Moves`), and keeps three invariants:
the attempts (`Accounted`), what the marks say about the receipts (`Marked`), and what the receipt of
the slot's payload left behind (`Latest`).
-/

namespace Hypercolor.Device

open Lib List Option Nat OutputQueueMetrics Receipt OutputQueue

variable {ε : Type}

/-! ## Outcomes and marks -/

/-- How an attempt ended, as far as the queue distinguishes it. -/
inductive Outcome where
  | delivered
  | deferred
  | declined
  | superseded
  | failed
deriving DecidableEq

def DeliveryResult.outcome : DeliveryResult ε → Outcome
  | .written _ (some .declined) => .declined
  | .written _ _ => .delivered
  | .notWritten .unchanged => .delivered
  | .notWritten (.deferred _) => .deferred
  | .notWritten .superseded => .superseded
  | .failed _ _ => .failed

def Receipt.outcome (receipt : Receipt ε) : Outcome := receipt.result.outcome

/-- The fields that duplicate suppression depends on. -/
structure DeliveryMarks where
  generation : Nat
  handled : Nat
  error : Nat
  undelivered : Nat
  retained : Option DeviceDeliveryId

def OutputQueueMetrics.deliveryMarks (m : OutputQueueMetrics ε) : DeliveryMarks where
  generation := m.activeGeneration
  handled := m.lastHandledSequence
  error := m.lastErrorSequence
  undelivered := m.lastUndeliveredSequence
  retained := m.retainedFailure.map (·.id)

/-- The marks after a receipt of the active generation, but for the kept failure. -/
def DeliveryMarks.settle (k : DeliveryMarks) (sequence : Nat) (outcome : Outcome)
    (retained : Option DeviceDeliveryId) : DeliveryMarks :=
  match outcome with
  | .delivered | .deferred => { k with handled := sequence, retained := retained }
  | .declined => { k with undelivered := sequence, retained := retained }
  | .superseded => { k with undelivered := max k.undelivered sequence, retained := retained }
  | .failed => { k with error := sequence, retained := retained }

variable {rc : Receipt ε}

namespace OutputQueueMetrics

variable (m : OutputQueueMetrics ε)

lemma deliveryMarks_ifCurrent {rec : OutputQueueMetrics ε} {id : DeviceDeliveryId}
    (h : rec.deliveryMarks = m.deliveryMarks) : (m.ifCurrent id rec).deliveryMarks = m.deliveryMarks := by
  unfold ifCurrent
  split
  · exact h
  · rfl

variable (id : DeviceDeliveryId)

@[simp] theorem deliveryMarks_recordAccepted :
    (m.recordAccepted id).deliveryMarks = m.deliveryMarks := m.deliveryMarks_ifCurrent rfl

@[simp] theorem deliveryMarks_recordCachedPayloadReassertion :
    (m.recordCachedPayloadReassertion id).deliveryMarks = m.deliveryMarks :=
  m.deliveryMarks_ifCurrent rfl

@[simp] theorem deliveryMarks_recordCoalesced (phase : WorkerPhase) :
    (m.recordCoalesced id phase).deliveryMarks = m.deliveryMarks := m.deliveryMarks_ifCurrent rfl

@[simp] theorem deliveryMarks_recordAcceptedDuplicate :
    (m.recordAcceptedDuplicate id).deliveryMarks = m.deliveryMarks := m.deliveryMarks_ifCurrent rfl

@[simp] theorem deliveryMarks_activateGeneration (gen : Nat) :
    (m.activateGeneration gen).deliveryMarks = ⟨gen, 0, 0, 0, none⟩ := rfl

lemma unsettled_id_mem : (m.unsettled id).map (·.id) = none ∨
      (m.unsettled id).map (·.id) = m.deliveryMarks.retained := by
  unfold unsettled deliveryMarks
  rcases m.retainedFailure with _ | fl
  · exact .inl rfl
  · simp only [filter_some]
    split
    · exact .inr rfl
    · exact .inl rfl

/-- A receipt of another generation changes nothing. -/
lemma settled_of_not_current (h : rc.id.queueGeneration ≠ m.activeGeneration) : m.settled rc = m := by
  have hoh : m.isCurrent rc.id = false := decide_eq_false (Ne.symm h)
  unfold settled
  split <;> simp [recordWriteDeclined, recordWriteSuccess, recordSuperseded,
    recordWriteSuppressed, recordWriteError, ifCurrent, hoh]

/-- A receipt of the active generation moves the mark of its outcome, and leaves no failure, the
kept one, or its own. -/
lemma deliveryMarks_settled (h : rc.id.queueGeneration = m.activeGeneration) :
    ∃ retained, (m.settled rc).deliveryMarks = m.deliveryMarks.settle rc.id.sequence rc.outcome retained ∧
      ∀ id ∈ retained, (id = rc.id ∧ rc.outcome = .failed) ∨ id ∈ m.deliveryMarks.retained := by
  have hc : m.isCurrent rc.id := decide_eq_true h.symm
  obtain ⟨id, res, queueWait, transportLatency, totalLatency, settledAt⟩ := rc
  have hu : ∀ failed ∈ (m.unsettled id).map (·.id),
      (failed = id ∧ res.outcome = .failed) ∨ failed ∈ m.deliveryMarks.retained := by
    intro failed hf
    rcases m.unsettled_id_mem id with hn | hs
    · simp [hn] at hf
    · exact .inr (hs ▸ hf)
  have hk : ∀ failed ∈ m.deliveryMarks.retained,
      (failed = id ∧ res.outcome = .failed) ∨ failed ∈ m.deliveryMarks.retained :=
    fun _ hf => .inr hf
  rcases res with (_ | _ | _) | ⟨bs, _ | _ | _⟩ | ⟨e, transient⟩
  rotate_right
  · by_cases ha : m.lastHandledSequence < id.sequence
    · simp [settled, recordWriteError, ifCurrent, hc, ha, deliveryMarks,
        outcome, DeliveryResult.outcome, DeliveryMarks.settle]
    · exact ⟨_, by simp [settled, recordWriteError, ifCurrent, hc, ha, deliveryMarks,
        outcome, DeliveryResult.outcome, DeliveryMarks.settle], hk⟩
  -- What was declined or superseded leaves the kept failure, the rest leaves what is unsettled.
  on_goal 1 => refine ⟨_, ?_, hu⟩
  on_goal 2 => refine ⟨_, ?_, hu⟩
  on_goal 3 => refine ⟨_, ?_, hk⟩
  on_goal 4 => refine ⟨_, ?_, hu⟩
  on_goal 5 => refine ⟨_, ?_, hu⟩
  on_goal 6 => refine ⟨_, ?_, hk⟩
  all_goals simp [settled, recordWriteSuppressed, recordSuperseded, recordWriteSuccess,
    recordWriteDeclined, ifCurrent, hc, deliveryMarks, outcome, DeliveryResult.outcome,
    DeliveryMarks.settle]

/-- An acknowledgement changes nothing, or raises the handled mark to the kept failure. -/
lemma deliveryMarks_tryAcknowledgeFailure : m.tryAcknowledgeFailure id = (m, false) ∨
      (m.tryAcknowledgeFailure id).2 ∧ id.queueGeneration = m.activeGeneration ∧
        m.deliveryMarks.retained = some id ∧ (m.tryAcknowledgeFailure id).1.deliveryMarks =
          { m.deliveryMarks with handled := max m.deliveryMarks.handled id.sequence } := by
  unfold tryAcknowledgeFailure
  split
  · exact .inl rfl
  · rename_i fl hre
    split_ifs with hr
    · exact .inl rfl
    · simp only [not_or, not_not, failureMatches, isCurrent, decide_eq_true_eq] at hr
      obtain ⟨hi, -, hc, -⟩ := hr
      exact .inr ⟨rfl, hc.symm, by simp [deliveryMarks, hre, hi], by simp [deliveryMarks, hre]⟩

end OutputQueueMetrics

/-! ## What a call does to the slot -/

namespace OutputQueue

/-- What a call does: it leaves the slot and the marks, or it writes the slot under `id`, the next
delivery of the generation or one of a generation just opened. The last argument says whether the
slot was written. -/
inductive Moves (q : OutputQueue ε) (fresh : Nat) : OutputQueue ε → Bool → Prop where
  | kept {q' : OutputQueue ε} (hslot : q'.slot = q.slot)
      (hmarks : q'.metrics.deliveryMarks = q.metrics.deliveryMarks)
      (hgeneration : q'.deliverySequence.generation = q.deliverySequence.generation)
      (hnext : q.deliverySequence.nextSequence ≤ q'.deliverySequence.nextSequence) :
      Moves q fresh q' false
  | issued {q' : OutputQueue ε} (hslot : ∀ payload ∈ q'.slot,
        payload.id = ⟨q.deliverySequence.generation, q.deliverySequence.nextSequence + 1⟩)
      (hmarks : q'.metrics.deliveryMarks = q.metrics.deliveryMarks)
      (hsequence : q'.deliverySequence =
        ⟨q.deliverySequence.generation, q.deliverySequence.nextSequence + 1⟩) :
      Moves q fresh q' true
  | opened {q' : OutputQueue ε} (hslot : ∀ payload ∈ q'.slot,
        payload.id.queueGeneration = fresh ∧ 0 < payload.id.sequence ∧
          payload.id.sequence ≤ q'.deliverySequence.nextSequence)
      (hmarks : q'.metrics.deliveryMarks = ⟨fresh, 0, 0, 0, none⟩)
      (hgeneration : q'.deliverySequence.generation = fresh) :
      Moves q fresh q' true

variable (q : OutputQueue ε)

/-- The next delivery is the next of the generation, or the first of a new one. -/
lemma nextDelivery_cases (fresh : Nat) : (∃ q', q.nextDelivery fresh =
        (⟨q.deliverySequence.generation, q.deliverySequence.nextSequence + 1⟩, false, q') ∧
      q' = { q with deliverySequence :=
        ⟨q.deliverySequence.generation, q.deliverySequence.nextSequence + 1⟩ }) ∨
    (∃ q', q.nextDelivery fresh = (⟨fresh, 1⟩, true, q') ∧ q' = { q with
        deliverySequence := ⟨fresh, 1⟩
        metrics := q.metrics.activateGeneration fresh }) := by
  unfold nextDelivery DeliverySequence.next
  split_ifs with hr
  · exact .inl ⟨_, rfl, by simp⟩
  · exact .inr ⟨_, rfl, by simp⟩

@[simp] theorem deliveryMarks_coalesce : q.coalesce.deliveryMarks = q.metrics.deliveryMarks := by
  unfold coalesce
  split
  · rfl
  · split <;> simp

/-- A push that is not suppressed puts its colors into the slot. -/
lemma acceptPush_cases (cs : Colors) (closed : Bool) (id : DeviceDeliveryId) (now : Nat) :
    (q.shouldSuppressDuplicate closed cs ∧ ∃ q',
      q.acceptPush cs closed id now = (q', true) ∧ q'.slot = q.slot ∧
        q'.metrics.deliveryMarks = q.metrics.deliveryMarks ∧ q'.deliverySequence = q.deliverySequence) ∨
    ∃ q', q.acceptPush cs closed id now = (q', false) ∧
      q'.slot = some ⟨cs, id, now, false⟩ ∧ q'.metrics.deliveryMarks = q.metrics.deliveryMarks ∧
      q'.deliverySequence = q.deliverySequence := by
  unfold acceptPush
  split_ifs with hs how hm
  · refine .inr ⟨_, rfl, rfl, ?_, rfl⟩
    exact deliveryMarks_coalesce { q with identicalSendsOwed := q.identicalSendsOwed - 1 }
  · exact .inl ⟨hs, _, rfl, rfl, by simp, rfl⟩
  · refine .inr ⟨_, rfl, rfl, ?_, rfl⟩
    exact deliveryMarks_coalesce { q with identicalSendsOwed := q.policy.copiesBeforeIdle - 1 }
  · exact .inr ⟨_, rfl, rfl, deliveryMarks_coalesce q, rfl⟩

/-- Duplicate suppression reads the slot and the marks. -/
lemma shouldSuppressDuplicate_congr {q q' : OutputQueue ε} (hslot : q'.slot = q.slot)
    (hm : q'.metrics.deliveryMarks = q.metrics.deliveryMarks) (closed : Bool) (cs : Colors) :
    q'.shouldSuppressDuplicate closed cs = q.shouldSuppressDuplicate closed cs := by
  have hh := congrArg DeliveryMarks.handled hm
  have he := congrArg DeliveryMarks.error hm
  have hu := congrArg DeliveryMarks.undelivered hm
  simp only [deliveryMarks] at hh he hu
  unfold shouldSuppressDuplicate endedUndelivered
  rw [hslot, hh, he, hu]

/-- A push is suppressed as the queue before it says, or its colors are in the slot. -/
lemma push_cases (cs : Colors) (closed : Bool) (now fresh : Nat) : (q.shouldSuppressDuplicate closed cs ∧
      ∃ q', q.push cs closed now fresh = (q', true) ∧ q.Moves fresh q' false) ∨
    ∃ q', q.push cs closed now fresh = (q', false) ∧ q.Moves fresh q' true ∧
      ∃ p, q'.slot = some p ∧ p.colors = cs := by
  unfold push
  rcases q.nextDelivery_cases fresh with ⟨r, hn, rfl⟩ | ⟨r, hn, rfl⟩
  · simp only [hn, clearIf, Bool.false_eq_true, if_false]
    generalize hr : OutputQueue.mk .. = r
    have hslot : r.slot = q.slot := by rw [← hr]
    have hm : r.metrics.deliveryMarks = q.metrics.deliveryMarks := by
      rw [← hr]
      exact q.metrics.deliveryMarks_recordAccepted _
    have hs : r.deliverySequence =
        ⟨q.deliverySequence.generation, q.deliverySequence.nextSequence + 1⟩ := by rw [← hr]
    rcases r.acceptPush_cases cs closed
        ⟨q.deliverySequence.generation, q.deliverySequence.nextSequence + 1⟩ now with
      ⟨hsu, q', hp, hslot', hm', hs'⟩ | ⟨q', hp, hslot', hm', hs'⟩
    · rw [shouldSuppressDuplicate_congr hslot hm] at hsu
      refine .inl ⟨hsu, q', hp, .kept (hslot'.trans hslot) (hm'.trans hm) ?_ ?_⟩
      · rw [hs', hs]
      · rw [hs', hs]
        exact le_succ _
    · refine .inr ⟨q', hp, .issued ?_ (hm'.trans hm) (hs'.trans hs), _, hslot', rfl⟩
      intro p hpa
      rw [hslot', mem_some_iff] at hpa
      rw [← hpa]
  · simp only [hn, clearIf, if_true]
    generalize hr : OutputQueue.mk .. = r
    have hslot : r.slot = none := by rw [← hr]
    have hm : r.metrics.deliveryMarks = ⟨fresh, 0, 0, 0, none⟩ := by
      rw [← hr]
      simp
    have hs : r.deliverySequence = ⟨fresh, 1⟩ := by rw [← hr]
    rcases r.acceptPush_cases cs closed ⟨fresh, 1⟩ now with
      ⟨hsu, -⟩ | ⟨q', hp, hslot', hm', hs'⟩
    · simp [shouldSuppressDuplicate, hslot] at hsu
    · refine .inr ⟨q', hp, .opened ?_ (hm'.trans hm) ?_, _, hslot', rfl⟩
      · intro p hpa
        rw [hslot', mem_some_iff] at hpa
        rw [← hpa, hs', hs]
        exact ⟨rfl, Nat.one_pos, le_rfl⟩
      · rw [hs', hs]

lemma requeueLatestIf_moves (shouldRequeue : OutputQueueMetrics ε → FramePayload → Bool)
    (now fresh : Nat) : q.Moves fresh (q.requeueLatestIf shouldRequeue now fresh).1
      (q.requeueLatestIf shouldRequeue now fresh).2.isSome := by
  unfold requeueLatestIf
  rcases hslot : q.slot with _ | p
  · exact .kept rfl rfl rfl le_rfl
  · by_cases hr : shouldRequeue q.metrics p
    · simp only [hr, not_true_eq_false, if_false]
      rcases q.nextDelivery_cases fresh with ⟨r, hn, rfl⟩ | ⟨r, hn, rfl⟩
      · simp only [hn, clearIf, Bool.false_eq_true, if_false, isSome_some]
        refine .issued ?_ (by simp [apply_ite deliveryMarks]) rfl
        intro nx hm
        simp only [hslot, map_some, mem_some_iff] at hm
        rw [← hm]
      · simp only [hn, clearIf, if_true, isSome_some]
        refine .opened ?_ (by simp [apply_ite deliveryMarks]) rfl
        intro nx hm
        simp at hm
    · simp only [hr]
      exact .kept rfl rfl rfl le_rfl

lemma retryLatestAfterError_moves (now fresh : Nat) : q.Moves fresh (q.retryLatestAfterError now fresh).1
      (q.retryLatestAfterError now fresh).2.isSome := q.requeueLatestIf_moves _ now fresh

lemma repeatLatestIfOwed_moves (now fresh : Nat) :
    q.Moves fresh (q.repeatLatestIfOwed now fresh).1 (q.repeatLatestIfOwed now fresh).2.isSome := by
  unfold repeatLatestIfOwed
  split_ifs with how
  · exact .kept rfl rfl rfl le_rfl
  · have hm := q.requeueLatestIf_moves payloadDelivered now fresh
    rcases hr : q.requeueLatestIf payloadDelivered now fresh with
      ⟨q', _ | ledCount⟩
    · rw [hr] at hm
      exact hm
    · rw [hr] at hm
      rcases hm with _ | ⟨hslot, hmk, hs⟩ | ⟨hslot, hmk, hg⟩
      · exact .issued hslot hmk hs
      · exact .opened hslot hmk hg

/-- At a deadline the queue has nothing to replay, waits for the latest payload to settle, or has its
colors in the slot again. -/
lemma requeueCachedPayload_cases (now fresh : Nat) :
    (q.slot = none ∧ q.requeueCachedPayload now fresh = (q, .empty)) ∨
    (∃ p, q.slot = some p ∧ q.metrics.lastTerminalSequence < p.id.sequence ∧
      q.requeueCachedPayload now fresh = (q, .outstanding)) ∨
    ∃ p q', q.slot = some p ∧ q.requeueCachedPayload now fresh = (q', .queued) ∧
      q.Moves fresh q' true ∧ ∃ nx, q'.slot = some nx ∧ nx.colors = p.colors := by
  unfold requeueCachedPayload
  rcases hslot : q.slot with _ | p
  · exact .inl ⟨rfl, rfl⟩
  · simp only
    split_ifs with hou
    · exact .inr (.inl ⟨p, rfl, hou, rfl⟩)
    · rcases q.nextDelivery_cases fresh with ⟨r, hn, rfl⟩ | ⟨r, hn, rfl⟩
      · simp only [hn]
        refine .inr (.inr ⟨p, _, rfl, rfl, .issued ?_ (by simp) rfl, _, rfl, rfl⟩)
        intro nx hm
        simp only [mem_some_iff] at hm
        rw [← hm]
      · simp only [hn]
        refine .inr (.inr ⟨p, _, rfl, rfl, .opened ?_ (by simp) rfl, _, rfl, rfl⟩)
        intro nx hm
        simp only [mem_some_iff] at hm
        rw [← hm]
        exact ⟨rfl, Nat.one_pos, le_rfl⟩

/-- The queue that replaces this one starts with the payload that nothing handled, if it has one. -/
lemma recover_moves (pol : OutputPolicy) (fresh : Nat) (hslot : ∀ p ∈ q.slot, 0 < p.id.sequence ∧
      p.id.sequence ≤ q.deliverySequence.nextSequence) : q.Moves fresh (q.recover pol fresh) true := by
  refine .opened ?_ (by simp [recover, spawnWithState]) rfl
  intro p hp
  simp only [recover, spawnWithState, latestUnconfirmedPayload, mem_def, map_eq_some_iff,
    filter_eq_some_iff] at hp
  obtain ⟨latest, ⟨hl, -⟩, rfl⟩ := hp
  exact ⟨rfl, hslot latest hl⟩

end OutputQueue

/-! ## What holds of every state -/

namespace Output

variable (w : Output ε)

def marks : DeliveryMarks := w.queue.metrics.deliveryMarks

def settledIds : List DeviceDeliveryId := w.receipts.map (·.id)

/-- The attempts that lanes have or had. -/
def handed : List DeviceDeliveryId := w.inFlight ++ w.settledIds

/-- The attempts handed to a lane, and the one the worker is about to hand over. -/
def attempts : List DeviceDeliveryId :=
  (w.pending.map (·.id)).toList ++ w.handed

/-- The attempt's receipt came with this outcome. -/
def Ended (id : DeviceDeliveryId) (outcome : Outcome) : Prop :=
  ∃ receipt ∈ w.receipts, receipt.id = id ∧ receipt.outcome = outcome

/-- No delivery of the generation that ended so is newer than `id`. -/
def NoneNewer (id : DeviceDeliveryId) (outcome : Outcome) : Prop :=
  ∀ receipt ∈ w.receipts, receipt.id.queueGeneration = w.marks.generation →
    receipt.outcome = outcome → receipt.id.sequence < id.sequence

/-- The attempts: each has one receipt at most, none is newer than the slot, and what the worker has
not seen yet is newer than all of them. -/
structure Accounted : Prop where
  generation : w.queue.deliverySequence.generation = w.marks.generation
  slot : ∀ payload ∈ w.queue.slot, payload.id.queueGeneration = w.marks.generation ∧
    0 < payload.id.sequence ∧ payload.id.sequence ≤ w.queue.deliverySequence.nextSequence
  nodup : w.attempts.Nodup
  known : ∀ id ∈ w.attempts, id.queueGeneration ≤ w.marks.generation
  below : ∀ id ∈ w.attempts, id.queueGeneration = w.marks.generation →
    id.sequence ≤ w.queue.deliverySequence.nextSequence ∧
      ∀ payload ∈ w.queue.slot, id.sequence ≤ payload.id.sequence
  unseen : w.changed → ∀ payload ∈ w.queue.slot, payload.id ∉ w.attempts
  taken : w.changed = false → ∀ frame ∈ w.pending, w.queue.slot = some frame
  live : w.changed = false → w.finished = false →
    ∀ payload ∈ w.queue.slot, payload.id ∈ w.attempts

/-- Each mark is zero or from a receipt of the generation. -/
structure Marked : Prop where
  handled : w.marks.handled = 0 ∨ ∃ receipt ∈ w.receipts,
    receipt.id = ⟨w.marks.generation, w.marks.handled⟩ ∧
      (receipt.outcome = .delivered ∨ receipt.outcome = .deferred ∨
        receipt.outcome = .failed ∧ receipt.id ∈ w.acknowledged)
  error : w.marks.error = 0 ∨ ⟨w.marks.generation, w.marks.error⟩ ∈ w.settledIds
  undelivered : w.marks.undelivered = 0 ∨ ⟨w.marks.generation, w.marks.undelivered⟩ ∈ w.settledIds
  retained : ∀ id ∈ w.marks.retained, w.Ended id .failed

/-- What the receipt of the slot's payload left behind. -/
structure Latest : Prop where
  failed : ∀ payload ∈ w.queue.slot, w.Ended payload.id .failed →
    w.marks.error = payload.id.sequence
  undelivered : ∀ payload ∈ w.queue.slot,
    w.Ended payload.id .declined ∨ w.Ended payload.id .superseded →
    w.marks.undelivered = payload.id.sequence
  deferred : ∀ payload ∈ w.queue.slot, w.Ended payload.id .deferred →
    w.finished ∨ w.marks.handled = payload.id.sequence ∧
      (w.submitting = some payload.id ∨ w.submitting = none ∧ w.reassertAt.isSome)

structure Kept : Prop where
  accounted : w.Accounted
  marked : w.Marked
  latest : w.Latest

/-- Receipts come in time: of the active generation, no failure after a newer failure, no decline
after a newer decline or supersession, no success after a newer deferral; and a deferral comes with
its submission. -/
def Timely : OutputEvent ε → Prop
  | .settle receipt => receipt.id.queueGeneration = w.marks.generation →
      match receipt.outcome with
      | .delivered => w.NoneNewer receipt.id .deferred
      | .deferred => w.finished ∨ w.submitting = some receipt.id
      | .declined => w.NoneNewer receipt.id .declined ∧ w.NoneNewer receipt.id .superseded
      | .superseded => True
      | .failed => w.NoneNewer receipt.id .failed
  | .submitted settled _ => settled = false → ∀ id ∈ w.submitting, ¬ w.Ended id .deferred
  | _ => True

/-- The runs in which every receipt is in time. -/
def timely : Machine (Output ε) (OutputEvent ε) where
  init w := ∃ policy startedAt generation, w = spawn policy startedAt generation
  step w event w' := w.step event = some w' ∧ w.Timely event

variable {w} {w' : Output ε} {id : DeviceDeliveryId} {oc oc' : Outcome}

lemma Ended.mem_settledIds (h : w.Ended id oc) : id ∈ w.settledIds := by
  obtain ⟨rc, hm, rfl, -⟩ := h
  exact mem_map_of_mem hm

lemma mem_attempts_of_settled (h : id ∈ w.settledIds) : id ∈ w.attempts :=
  mem_append_right _ (mem_append_right _ h)

lemma mem_attempts_of_inFlight (h : id ∈ w.inFlight) : id ∈ w.attempts :=
  mem_append_right _ (mem_append_left _ h)

/-! ### The attempts -/

variable {p : FramePayload} {fresh now : Nat}

namespace Accounted

section

variable (h : w.Accounted)
include h

lemma settled_nodup : w.settledIds.Nodup := (h.nodup.of_append_right).of_append_right

/-- An attempt ended one way. -/
lemma ended_unique (h₁ : w.Ended id oc) (h₂ : w.Ended id oc') : oc = oc' := by
  obtain ⟨rc, hm, hi, rfl⟩ := h₁
  obtain ⟨rc', hm', hi', rfl⟩ := h₂
  have hs : rc = rc' := inj_on_of_nodup_map h.settled_nodup hm hm' (hi.trans hi'.symm)
  rw [hs]

/-- Once the slot's payload was handed over, the worker has no frame and has seen the slot. -/
lemma idle_of_handed (hslot : p ∈ w.queue.slot) (hh : p.id ∈ w.handed) :
    w.changed = false ∧ w.pending = none := by
  have hm : p.id ∈ w.attempts := mem_append_right _ hh
  have hs : w.changed = false := by
    by_contra hc
    exact h.unseen (by simpa using hc) p hslot hm
  refine ⟨hs, ?_⟩
  rcases hp : w.pending with _ | f
  · rfl
  · have hsa : w.queue.slot = some f := h.taken hs f hp
    have hf : f = p := by
      rw [mem_def, hsa] at hslot
      exact some.inj hslot
    have hn := h.nodup
    simp only [attempts, hp, map_some, toList_some, singleton_append, nodup_cons] at hn
    exact absurd (hf ▸ hh) hn.1

/-- Steps that leave the slot and the worker's view of it. -/
lemma of_same (hslot : w'.queue.slot = w.queue.slot)
    (hg : w'.queue.deliverySequence.generation = w.queue.deliverySequence.generation)
    (hn : w.queue.deliverySequence.nextSequence ≤ w'.queue.deliverySequence.nextSequence)
    (hmk : w'.marks.generation = w.marks.generation) (ha : w'.attempts.Perm w.attempts)
    (hch : w'.changed = w.changed) (hpe : ∀ frame ∈ w'.pending, frame ∈ w.pending)
    (hfi : w'.finished = w.finished) : w'.Accounted where
  generation := by rw [hg, hmk, h.generation]
  slot p hp := by
    rw [hslot] at hp
    obtain ⟨hc, hpo, hl⟩ := h.slot p hp
    exact ⟨hc.trans hmk.symm, hpo, hl.trans hn⟩
  nodup := ha.nodup_iff.mpr h.nodup
  known id hi := by
    rw [hmk]
    exact h.known id (ha.mem_iff.mp hi)
  below id hi hc := by
    obtain ⟨hl, hsl⟩ := h.below id (ha.mem_iff.mp hi) (hc.trans hmk)
    exact ⟨hl.trans hn, fun p hp => hsl p (hslot ▸ hp)⟩
  unseen hu p hp hm := h.unseen (hch ▸ hu) p (hslot ▸ hp) (ha.mem_iff.mp hm)
  taken hs frame hf := by
    rw [hslot]
    exact h.taken (hch ▸ hs) frame (hpe frame hf)
  live hs hr p hp := ha.mem_iff.mpr (h.live (hch ▸ hs) (hfi ▸ hr) p (hslot ▸ hp))

/-- A call that writes the slot. -/
lemma issued (hf : w.IsFresh fresh) (hmo : w.queue.Moves fresh w'.queue true)
    (ha : w'.attempts = w.attempts) (hch : w'.changed) : w'.Accounted := by
  have hse : ¬ w'.changed = false := by simp [hch]
  have hg := h.generation
  rcases hmo with _ | ⟨hslot, hm, hsq⟩ | ⟨hslot, hm, hon⟩
  · have hs : w'.marks.generation = w.marks.generation := congrArg DeliveryMarks.generation hm
    -- every attempt of the generation is below the id just issued
    have hb : ∀ id ∈ w'.attempts, id.queueGeneration = w'.marks.generation →
        id.sequence ≤ w.queue.deliverySequence.nextSequence := by
      intro id hi hc
      exact (h.below id (ha ▸ hi) (hc.trans hs)).1
    refine ⟨?_, ?_, ha ▸ h.nodup, ?_, ?_, ?_, fun hno => absurd hno hse,
      fun hno => absurd hno hse⟩
    · rw [hsq, hs]
      exact h.generation
    · intro p hp
      rw [hslot p hp, hsq, hs]
      exact ⟨h.generation, succ_pos _, le_rfl⟩
    · intro id hi
      rw [hs]
      exact h.known id (ha ▸ hi)
    · intro id hi hc
      have hl := hb id hi hc
      refine ⟨?_, fun p hp => ?_⟩
      · rw [hsq]
        exact le_succ_of_le hl
      · rw [hslot p hp]
        exact le_succ_of_le hl
    · intro _ p hp hme
      have hi := hslot p hp
      have hl := hb p.id hme (by rw [hi, hs]; exact h.generation)
      rw [hi] at hl
      exact absurd hl (not_succ_le_self _)
  · have hn : w'.marks.generation = fresh := congrArg DeliveryMarks.generation hm
    have hold : ∀ id ∈ w'.attempts, id.queueGeneration < fresh := by
      intro id hi
      have hk := h.known id (ha ▸ hi)
      rw [← h.generation] at hk
      exact lt_of_le_of_lt hk hf
    refine ⟨hon.trans hn.symm, ?_, ha ▸ h.nodup, ?_, ?_, ?_,
      fun hno => absurd hno hse, fun hno => absurd hno hse⟩
    · intro p hp
      rw [hn]
      exact hslot p hp
    · intro id hi
      rw [hn]
      exact (hold id hi).le
    · intro id hi hc
      exact absurd (hc.trans hn) (hold id hi).ne
    · intro _ p hp hme
      exact absurd (hslot p hp).1 (hold p.id hme).ne

/-- The worker takes the slot. -/
lemma observed (hch : w.changed) (hq : w'.queue = w.queue)
    (hpe : w'.pending = w.queue.slot) (hha : w'.handed = w.handed)
    (hs : w'.changed = false) : w'.Accounted := by
  have hm : w'.marks = w.marks := by rw [marks, hq, marks]
  have ha : w'.attempts = (w.queue.slot.map (·.id)).toList ++ w.handed := by
    rw [attempts, hpe, hha]
  have hc : ∀ id ∈ w'.attempts, (∃ p ∈ w.queue.slot, p.id = id) ∨ id ∈ w.attempts := by
    intro id hi
    rw [ha, mem_append, mem_toList, map_eq_some_iff] at hi
    exact hi.imp_right (mem_append_right _)
  refine ⟨?_, ?_, ?_, ?_, ?_, fun hn => ?_, ?_, ?_⟩
  · rw [hq, hm]
    exact h.generation
  · rw [hq, hm]
    exact h.slot
  · rw [ha]
    have hh : w.handed.Nodup := h.nodup.of_append_right
    rcases hslot : w.queue.slot with _ | p
    · exact hh
    · have hf : p.id ∉ w.handed := fun hme =>
        h.unseen hch p hslot (mem_append_right _ hme)
      exact nodup_cons.mpr ⟨hf, hh⟩
  · intro id hi
    rw [hm]
    rcases hc id hi with ⟨p, hp, rfl⟩ | hold
    · exact (h.slot p hp).1.le
    · exact h.known id hold
  · intro id hi hcu
    rw [hq]
    rw [hm] at hcu
    rcases hc id hi with ⟨p, hp, rfl⟩ | hold
    · refine ⟨(h.slot p hp).2.2, fun latest hl => ?_⟩
      rw [mem_unique hp hl]
    · exact h.below id hold hcu
  · simp [hs] at hn
  · intro _ f hfr
    rw [hq]
    rwa [hpe] at hfr
  · intro _ _ p hp
    rw [hq] at hp
    rw [ha]
    exact mem_append_left _ (mem_toList.mpr (mem_map_of_mem _ hp))

end

end Accounted

/-! ### The marks -/

variable {retained : Option DeviceDeliveryId}

namespace Marked

/-- Steps that leave the marks, and forget no receipt or acknowledgement. -/
lemma of_same (h : w.Marked) (hmk : w'.marks = w.marks) (hre : ∀ rc ∈ w.receipts, rc ∈ w'.receipts)
    (ha : ∀ id ∈ w.acknowledged, id ∈ w'.acknowledged) : w'.Marked := by
  have hi : ∀ id ∈ w.settledIds, id ∈ w'.settledIds := fun id hid => by
    obtain ⟨rc, hm, rfl⟩ := mem_map.mp hid
    exact mem_map_of_mem (hre rc hm)
  refine ⟨?_, ?_, ?_, ?_⟩
  all_goals rw [hmk]
  · refine h.handled.imp_right ?_
    rintro ⟨rc, hm, hid, hou⟩
    exact ⟨rc, hre rc hm, hid, hou.imp_right fun hr => hr.imp_right (And.imp_right (ha rc.id))⟩
  · exact h.error.imp_right (hi _)
  · exact h.undelivered.imp_right (hi _)
  · intro id hid
    obtain ⟨rc, hm, he⟩ := h.retained id hid
    exact ⟨rc, hre rc hm, he⟩

/-- A call that writes the slot keeps the marks, or opens a generation with none. -/
lemma issued (h : w.Marked) (hmo : w.queue.Moves fresh w'.queue true)
    (hr : w'.receipts = w.receipts) (ha : w'.acknowledged = w.acknowledged) : w'.Marked := by
  rcases hmo with _ | ⟨-, hm, -⟩ | ⟨-, hm, -⟩
  · exact h.of_same hm (hr ▸ fun _ => id) (ha ▸ fun _ => id)
  · have hz : w'.marks = ⟨fresh, 0, 0, 0, none⟩ := hm
    refine ⟨.inl ?_, .inl ?_, .inl ?_, fun id hi => ?_⟩
    · rw [hz]
    · rw [hz]
    · rw [hz]
    · simp [hz] at hi

/-- The receipt of a current delivery. -/
theorem settled (h : w.Marked) (hc : rc.id.queueGeneration = w.marks.generation)
    (hmk : w'.marks = w.marks.settle rc.id.sequence rc.outcome retained)
    (hrt : ∀ id ∈ retained, (id = rc.id ∧ rc.outcome = .failed) ∨ id ∈
      w.marks.retained) (hre : w'.receipts = rc :: w.receipts)
    (ha : w'.acknowledged = w.acknowledged) : w'.Marked := by
  have hs : rc.id ∈ w'.settledIds := by simp [settledIds, hre]
  have hsi : (⟨w.marks.generation, rc.id.sequence⟩ : DeviceDeliveryId) = rc.id := by
    rw [← hc]
  have hi : ∀ id ∈ w.settledIds, id ∈ w'.settledIds := by
    intro id hid
    rw [settledIds, hre]
    exact mem_cons_of_mem _ hid
  have hk : ∀ id ∈ retained, w'.Ended id .failed := by
    intro id hid
    rw [Ended, hre]
    rcases hrt id hid with ⟨rfl, hf⟩ | hold
    · exact ⟨rc, mem_cons_self, rfl, hf⟩
    · obtain ⟨ea, hm, he⟩ := h.retained id hold
      exact ⟨ea, mem_cons_of_mem _ hm, he⟩
  have hh : w.marks.handled = 0 ∨ ∃ ea ∈ w'.receipts, ea.id = ⟨w.marks.generation, w.marks.handled⟩ ∧
        (ea.outcome = .delivered ∨ ea.outcome = .deferred ∨
          ea.outcome = .failed ∧ ea.id ∈ w'.acknowledged) := by
    rw [hre, ha]
    refine h.handled.imp_right ?_
    rintro ⟨ea, hm, hr⟩
    exact ⟨ea, mem_cons_of_mem _ hm, hr⟩
  have her := h.error.imp_right (hi _)
  have hu := h.undelivered.imp_right (hi _)
  refine ⟨?_, ?_, ?_, ?_⟩
  all_goals rw [hmk]
  all_goals rcases hou : rc.outcome
  all_goals simp only [DeliveryMarks.settle]
  all_goals try assumption
  · exact .inr ⟨rc, by simp [hre], hsi.symm, .inl hou⟩
  · exact .inr ⟨rc, by simp [hre], hsi.symm, .inr (.inl hou)⟩
  · exact .inr (hsi ▸ hs)
  · exact .inr (hsi ▸ hs)
  · rcases le_total w.marks.undelivered rc.id.sequence with hl | hl
    · rw [max_eq_right hl]
      exact .inr (hsi ▸ hs)
    · rw [max_eq_left hl]
      exact hu

/-- No mark is above the slot. -/
lemma le_slot (h : w.Marked) (ha : w.Accounted) (hslot : p ∈ w.queue.slot) :
    w.marks.handled ≤ p.id.sequence ∧ w.marks.error ≤ p.id.sequence ∧
      w.marks.undelivered ≤ p.id.sequence := by
  have hs : ∀ sequence, ⟨w.marks.generation, sequence⟩ ∈ w.settledIds →
      sequence ≤ p.id.sequence := fun sequence hm =>
    (ha.below _ (mem_attempts_of_settled hm) rfl).2 p hslot
  refine ⟨?_, ?_, ?_⟩
  · rcases h.handled with hz | ⟨rc, hm, hi, -⟩
    · simp [hz]
    · exact hs _ (hi ▸ mem_map_of_mem hm)
  · rcases h.error with hz | hm
    · simp [hz]
    · exact hs _ hm
  · rcases h.undelivered with hz | hm
    · simp [hz]
    · exact hs _ hm

/-- When the handled mark is at the slot, the slot's payload was delivered or deferred, or its failure
was acknowledged. -/
lemma handled_slot (h : w.Marked) (ha : w.Accounted) (hslot : p ∈ w.queue.slot)
    (hh : w.marks.handled = p.id.sequence) : w.Ended p.id .delivered ∨ w.Ended p.id .deferred ∨
      w.Ended p.id .failed ∧ p.id ∈ w.acknowledged := by
  obtain ⟨hc, hp, -⟩ := ha.slot p hslot
  rcases h.handled with hz | ⟨rc, hm, hi, hou⟩
  · omega
  · have hs : rc.id = p.id := by
      rw [hi, hh, ← hc]
    rcases hou with hd | hde | ⟨hf, hac⟩
    · exact .inl ⟨rc, hm, hs, hd⟩
    · exact .inr (.inl ⟨rc, hm, hs, hde⟩)
    · exact .inr (.inr ⟨⟨rc, hm, hs, hf⟩, hs ▸ hac⟩)

end Marked

/-! ### The slot's receipt -/

namespace Latest

/-- Before the slot's payload has a receipt there is nothing to say. -/
lemma of_unsettled (h : ∀ p ∈ w.queue.slot, p.id ∉ w.settledIds) : w.Latest where
  failed p hslot he := absurd he.mem_settledIds (h p hslot)
  undelivered p hslot he := by
    rcases he with he | he
    all_goals exact absurd he.mem_settledIds (h p hslot)
  deferred p hslot he := absurd he.mem_settledIds (h p hslot)

lemma of_unseen (h : w.Accounted) (hc : w.changed) : w.Latest :=
  of_unsettled fun p hslot hm =>
    h.unseen hc p hslot (mem_attempts_of_settled hm)

/-- Steps that leave the slot, the receipts and the marks but for the handled one. -/
lemma of_same (h : w.Latest) (hslot : w'.queue.slot = w.queue.slot) (her : w'.marks.error = w.marks.error)
    (hu : w'.marks.undelivered = w.marks.undelivered) (hr : w'.receipts = w.receipts)
    (hd : ∀ p ∈ w.queue.slot, w.Ended p.id .deferred →
      w'.finished ∨ w'.marks.handled = p.id.sequence ∧ (w'.submitting = some p.id ∨
          w'.submitting = none ∧ w'.reassertAt.isSome)) : w'.Latest where
  failed p hp he := by
    rw [her]
    rw [hslot] at hp
    rw [Ended, hr] at he
    exact h.failed p hp he
  undelivered p hp he := by
    rw [hu]
    rw [hslot] at hp
    rw [Ended, Ended, hr] at he
    exact h.undelivered p hp he
  deferred p hp he := by
    rw [hslot] at hp
    rw [Ended, hr] at he
    exact hd p hp he

end Latest

/-! ### Each step -/

/-- The state after a receipt. -/
def receive (w : Output ε) (receipt : Receipt ε) : Output ε :=
  { w with
    queue := { w.queue with metrics := w.queue.metrics.settled receipt }
    inFlight := w.inFlight.erase receipt.id
    receipts := receipt :: w.receipts }

namespace Kept

lemma not_settled_of_inFlight (h : w.Kept) (hm : id ∈ w.inFlight) : id ∉ w.settledIds :=
  disjoint_of_nodup_append h.accounted.nodup.of_append_right hm

lemma attempts_receive_perm (hme : rc.id ∈ w.inFlight) : (w.receive rc).attempts.Perm w.attempts := by
  have hm : (w.inFlight.erase rc.id ++ rc.id :: w.settledIds).Perm
      (rc.id :: w.inFlight.erase rc.id ++ w.settledIds) := perm_middle
  have hb : (rc.id :: w.inFlight.erase rc.id ++ w.settledIds).Perm w.handed :=
    (perm_cons_erase hme).symm.append_right w.settledIds
  exact (hm.trans hb).append_left _

/-- The slot's payload did not end so when no newer delivery than an attempt under way did. -/
lemma not_ended_of_noneNewer (h : w.Kept) (hslot : p ∈ w.queue.slot)
    (hm : rc.id ∈ w.inFlight) (hc : rc.id.queueGeneration = w.marks.generation)
    (hn : w.NoneNewer rc.id oc) : ¬ w.Ended p.id oc := by
  rintro ⟨ea, he, hi, hou⟩
  have hb := (h.accounted.below rc.id (mem_attempts_of_inFlight hm) hc).2 p hslot
  have hne := hn ea he (hi ▸ (h.accounted.slot p hslot).1) hou
  rw [hi] at hne
  omega

lemma ended_receive (hen : (w.receive rc).Ended id oc) :
    (rc.id = id ∧ rc.outcome = oc) ∨ w.Ended id oc := by
  obtain ⟨ea, he, hi, hou⟩ := hen
  rcases mem_cons.mp he with rfl | hold
  · exact .inl ⟨hi, hou⟩
  · exact .inr ⟨ea, hold, hi, hou⟩

/-- A receipt of the active generation in time. -/
lemma latest_receive (h : w.Kept) (hme : rc.id ∈ w.inFlight)
    (hc : rc.id.queueGeneration = w.marks.generation) (ht : w.Timely (.settle rc))
    (hmk : (w.receive rc).marks = w.marks.settle rc.id.sequence rc.outcome
      retained) : (w.receive rc).Latest := by
  have ht := ht hc
  refine ⟨?_, ?_, ?_⟩
  · intro p hslot he
    rw [hmk]
    rcases ended_receive he with ⟨hi, hou⟩ | hold
    · rw [hou, ← hi]
      rfl
    · rcases hou : rc.outcome
      case failed =>
        rw [hou] at ht
        exact absurd hold (h.not_ended_of_noneNewer hslot hme hc ht)
      all_goals exact h.latest.failed p hslot hold
  · intro p hslot he
    rw [hmk]
    have hb := (h.accounted.below rc.id (mem_attempts_of_inFlight hme) hc).2 p hslot
    have hl := (h.marked.le_slot h.accounted hslot).2.2
    have he : (rc.id = p.id ∧ (rc.outcome = .declined ∨ rc.outcome = .superseded)) ∨
        (w.Ended p.id .declined ∨ w.Ended p.id .superseded) := by
      rcases he with he | he
      · exact (ended_receive he).imp (fun hn => ⟨hn.1, .inl hn.2⟩) .inl
      · exact (ended_receive he).imp (fun hn => ⟨hn.1, .inr hn.2⟩) .inr
    rcases he with ⟨hi, hou | hou⟩ | hold
    · rw [hou, ← hi]
      rfl
    · rw [hou, ← hi]
      rw [← hi] at hl
      exact max_eq_right hl
    · have hm := h.latest.undelivered p hslot hold
      rcases hou : rc.outcome
      case declined =>
        rw [hou] at ht
        rcases hold with hold | hold
        · exact absurd hold (h.not_ended_of_noneNewer hslot hme hc ht.1)
        · exact absurd hold (h.not_ended_of_noneNewer hslot hme hc ht.2)
      case superseded =>
        show max w.marks.undelivered rc.id.sequence = p.id.sequence
        rw [hm]
        exact max_eq_left hb
      all_goals exact hm
  · intro p hslot he
    show w.finished ∨ _
    rw [hmk]
    rcases ended_receive he with ⟨hi, hou⟩ | hold
    · rw [hou] at ht ⊢
      exact ht.imp_right fun hs =>
        ⟨congrArg DeviceDeliveryId.sequence hi, .inl (hi ▸ hs)⟩
    · rcases h.latest.deferred p hslot hold with hf | ⟨hh, hw⟩
      · exact .inl hf
      · rcases hou : rc.outcome
        case delivered =>
          rw [hou] at ht
          exact absurd hold (h.not_ended_of_noneNewer hslot hme hc ht)
        case deferred =>
          rw [hou] at ht
          rcases ht with hf | hs
          · exact .inl hf
          · rcases hw with hse | ⟨hno, -⟩
            · have hsa : rc.id = p.id :=
                mem_unique hs hse
              exact absurd (hsa ▸ hold.mem_settledIds) (h.not_settled_of_inFlight hme)
            · simp [hs] at hno
        all_goals exact .inr ⟨hh, hw⟩

/-- A receipt in time. -/
lemma receive (h : w.Kept) (hme : rc.id ∈ w.inFlight)
    (ht : w.Timely (.settle rc)) : (w.receive rc).Kept := by
  by_cases hc : rc.id.queueGeneration = w.marks.generation
  · obtain ⟨retained, hm, hr⟩ := w.queue.metrics.deliveryMarks_settled hc
    have hg : (w.receive rc).marks.generation = w.marks.generation := by
      show (w.queue.metrics.settled rc).deliveryMarks.generation = _
      rw [hm]
      rcases rc.outcome <;> rfl
    exact ⟨h.accounted.of_same rfl rfl le_rfl hg (attempts_receive_perm hme) rfl
      (fun _ => id) rfl, h.marked.settled hc hm hr rfl rfl,
      h.latest_receive hme hc ht hm⟩
  · have hm : (w.receive rc).marks = w.marks :=
      congrArg deliveryMarks (w.queue.metrics.settled_of_not_current hc)
    refine ⟨h.accounted.of_same rfl rfl le_rfl (congrArg DeliveryMarks.generation hm)
      (attempts_receive_perm hme) rfl (fun _ => id) rfl,
      h.marked.of_same hm (fun _ hme => mem_cons_of_mem _ hme) (fun _ => id), ?_⟩
    have hold : ∀ p ∈ w.queue.slot, ∀ oc, (w.receive rc).Ended p.id oc → w.Ended p.id oc := by
      intro p hslot oc he
      rcases ended_receive he with ⟨hi, -⟩ | hold
      · exact absurd (hi ▸ (h.accounted.slot p hslot).1) hc
      · exact hold
    refine ⟨?_, ?_, ?_⟩
    all_goals intro p hslot he
    all_goals rw [hm]
    · exact h.latest.failed p hslot (hold p hslot _ he)
    · exact h.latest.undelivered p hslot (he.imp (hold p hslot _) (hold p hslot _))
    · exact h.latest.deferred p hslot (hold p hslot _ he)

/-- A call. -/
theorem call (h : w.Kept) (hfr : w.IsFresh fresh) {queue : OutputQueue ε} {wr : Bool}
    (hmo : w.queue.Moves fresh queue wr) : (w.afterCall queue wr).Kept := by
  rcases wr with _ | _
  · rcases hmo with ⟨hslot, hmk, hg, hn⟩
    have hs : (w.afterCall queue false).marks = w.marks := hmk
    have hc : (w.afterCall queue false).changed = w.changed := Bool.or_false _
    refine ⟨h.accounted.of_same hslot hg hn (congrArg DeliveryMarks.generation hs)
      (List.Perm.refl _) hc (fun _ => id) rfl,
      h.marked.of_same hs (fun _ => id) (fun _ => id),
      h.latest.of_same hslot (congrArg DeliveryMarks.error hs)
        (congrArg DeliveryMarks.undelivered hs) rfl ?_⟩
    rw [hs]
    exact h.latest.deferred
  · have hc : (w.afterCall queue true).changed := Bool.or_true _
    have ha : (w.afterCall queue true).Accounted := h.accounted.issued hfr hmo rfl hc
    exact ⟨ha, h.marked.issued hmo rfl rfl, .of_unseen ha hc⟩

/-- The worker takes the slot. -/
lemma observed (h : w.Kept) (hc : w.changed) (hq : w'.queue = w.queue)
    (hp : w'.pending = w.queue.slot) (hif : w'.inFlight = w.inFlight)
    (hr : w'.receipts = w.receipts) (ha : w'.acknowledged = w.acknowledged)
    (hs : w'.changed = false) : w'.Kept := by
  have hi : w'.settledIds = w.settledIds := by rw [settledIds, hr, settledIds]
  have hh : w'.handed = w.handed := by rw [handed, hif, hi, handed]
  refine ⟨h.accounted.observed hc hq hp hh hs,
    h.marked.of_same (by rw [marks, hq, marks]) (hr ▸ fun _ => id) (ha ▸ fun _ => id), .of_unsettled ?_⟩
  intro p hslot hm
  rw [hq] at hslot
  rw [hi] at hm
  exact h.accounted.unseen hc p hslot (mem_attempts_of_settled hm)

/-- The worker's own turns leave the slot and the marks. -/
lemma of_worker (h : w.Kept) (hslot : w'.queue.slot = w.queue.slot)
    (hs : w'.queue.deliverySequence = w.queue.deliverySequence)
    (hmt : w'.queue.metrics = w.queue.metrics) (ha : w'.attempts = w.attempts)
    (hr : w'.receipts = w.receipts) (hac : w'.acknowledged = w.acknowledged)
    (hc : w'.changed = w.changed) (hp : ∀ frame ∈ w'.pending, frame ∈ w.pending)
    (hf : w'.finished = w.finished) (hd : ∀ p ∈ w.queue.slot, w.Ended p.id .deferred →
      w.finished ∨ w.marks.handled = p.id.sequence ∧ (w'.submitting = some p.id ∨
          w'.submitting = none ∧ w'.reassertAt.isSome)) : w'.Kept := by
  have hm : w'.marks = w.marks := by rw [marks, hmt, marks]
  refine ⟨h.accounted.of_same hslot (by rw [hs]) (by rw [hs]) (by rw [hm]) (ha ▸ List.Perm.refl _)
    hc hp hf,
    h.marked.of_same hm (hr ▸ fun _ => id) (hac ▸ fun _ => id),
    h.latest.of_same hslot (by rw [hm]) (by rw [hm]) hr ?_⟩
  rw [hm, hf]
  exact hd

/-- An acknowledged failure takes the handled mark. -/
theorem acknowledged (h : w.Kept) (hq : w'.queue.slot = w.queue.slot)
    (hse : w'.queue.deliverySequence = w.queue.deliverySequence)
    (hc : id.queueGeneration = w.marks.generation) (hrt : w.marks.retained = some id)
    (hmk : w'.marks = { w.marks with handled := max w.marks.handled id.sequence })
    (hw' : w' = { w with queue := w'.queue, acknowledged := id :: w.acknowledged }) : w'.Kept := by
  have hf : w.Ended id .failed := h.marked.retained id (by simp [hrt])
  have hs : id ∈ w.settledIds := hf.mem_settledIds
  have hr : w'.receipts = w.receipts := by rw [hw']
  have hi : w'.settledIds = w.settledIds := by rw [settledIds, hr, settledIds]
  have ha : w'.attempts = w.attempts := by
    rw [attempts, handed, hi, hw', attempts, handed]
  refine ⟨h.accounted.of_same hq (by rw [hse]) (by rw [hse]) (by rw [hmk])
    (ha ▸ List.Perm.refl _) (by rw [hw']) ?_ (by rw [hw']), ⟨?_, ?_, ?_, ?_⟩,
    h.latest.of_same hq (by rw [hmk]) (by rw [hmk]) hr ?_⟩
  · rw [hw']
    exact fun _ hfr => hfr
  · rw [hmk, hr]
    rcases le_total id.sequence w.marks.handled with hl | hl
    · simp only [max_eq_left hl]
      refine h.marked.handled.imp_right ?_
      rintro ⟨rc, hm, hid, hou⟩
      refine ⟨rc, hm, hid, hou.imp_right fun hre => hre.imp_right fun hold =>
        ⟨hold.1, ?_⟩⟩
      rw [hw']
      exact mem_cons_of_mem _ hold.2
    · simp only [max_eq_right hl]
      obtain ⟨rc, hm, rfl, hou⟩ := hf
      refine .inr ⟨rc, hm, by rw [← hc], .inr (.inr ⟨hou, ?_⟩)⟩
      rw [hw']
      exact mem_cons_self
  · rw [hmk, hi]
    exact h.marked.error
  · rw [hmk, hi]
    exact h.marked.undelivered
  · rw [hmk]
    intro fl hf
    rw [Ended, hr]
    exact h.marked.retained fl hf
  · intro p hslot he
    rw [hmk, hw']
    refine (h.latest.deferred p hslot he).imp_right fun hh => ⟨?_, hh.2⟩
    have hl := (h.accounted.below id (mem_attempts_of_settled hs) hc).2 p hslot
    show max w.marks.handled id.sequence = p.id.sequence
    rw [hh.1]
    exact max_eq_left hl

/-- The replay deadline. -/
lemma replay (h : w.Kept) (hfr : w.IsFresh fresh) : (w.replay now fresh).Kept := by
  unfold Output.replay
  rcases w.queue.requeueCachedPayload_cases now fresh with
    ⟨hslot, he⟩ | ⟨p, hslot, ht, hou⟩ | ⟨p, queue, hslot, hq, hm, -⟩
  · rw [he]
    refine h.of_worker rfl rfl rfl rfl rfl rfl rfl (fun _ => id) rfl ?_
    intro latest hl
    simp [hslot] at hl
  · rw [hou]
    refine h.of_worker rfl rfl rfl rfl rfl rfl rfl (fun _ => id) rfl ?_
    intro latest hl hen
    -- a deferred payload is at the handled mark, so it is not outstanding
    refine (h.latest.deferred latest hl hen).imp_right fun hh => ?_
    have hma : w.queue.metrics.lastHandledSequence = latest.id.sequence := hh.1
    have hs : latest = p := mem_unique hl hslot
    rw [← hs, lastTerminalSequence] at ht
    omega
  · rw [hq]
    have hc : (w.afterCall queue true).changed := Bool.or_true _
    exact (h.call hfr hm).observed hc rfl rfl rfl rfl rfl rfl

lemma start_recover (h : w.Kept) {pol : OutputPolicy} (hf : w.IsFresh fresh) :
    (start (w.queue.recover pol fresh) w.inFlight w.receipts w.acknowledged).Kept := by
  have hm := w.queue.recover_moves pol fresh fun p hslot =>
    (h.accounted.slot p hslot).2
  have hc : (w.afterCall (w.queue.recover pol fresh) true).changed := Bool.or_true _
  exact (h.call hf hm).observed hc rfl rfl rfl rfl rfl rfl

/-- The worker hands its frame over: not one whose deferral came, since it has no frame then. -/
theorem hand (h : w.Kept) {f : FramePayload} (hp : w.pending = some f) : (w.hand f).Kept := by
  have ha : (w.hand f).attempts = w.attempts := by
    simp [attempts, handed, settledIds, Output.hand, hp]
  refine h.of_worker rfl rfl rfl ha rfl rfl rfl (by simp [Output.hand]) rfl ?_
  intro p hslot he
  have hh : p.id ∈ w.handed := mem_append_right _ he.mem_settledIds
  have hi := (h.accounted.idle_of_handed hslot hh).2
  simp [hp] at hi

lemma receiptOf_eq_some (h : w.receiptOf id = some rc) : rc ∈ w.receipts ∧ rc.id = id := by
  refine ⟨mem_of_find?_eq_some h, ?_⟩
  simpa using find?_some h

/-- The submission came back: a deferral that came with it sets the deadline. -/
lemma returned (h : w.Kept) {se : Bool} (hsu : w.submitting = some id)
    (hre : se → (w.receiptOf id).isSome) (ht : w.Timely (.submitted se now)) :
    (w.returned id se now).Kept := by
  refine h.of_worker rfl rfl rfl rfl rfl rfl rfl (fun _ hfr => hfr) rfl ?_
  intro p hslot he
  refine (h.latest.deferred p hslot he).imp_right fun ⟨hh, hw⟩ =>
    ⟨hh, .inr ⟨rfl, ?_⟩⟩
  have hi : id = p.id := by
    rcases hw with hs | ⟨hn, -⟩
    · exact mem_unique hsu hs
    · simp [hsu] at hn
  rcases se with _ | _
  · exact absurd (hi ▸ he) (ht rfl id hsu)
  · obtain ⟨rc, hf⟩ := isSome_iff_exists.mp (hre rfl)
    obtain ⟨hm, hsa⟩ := receiptOf_eq_some hf
    have hou : rc.outcome = .deferred := h.accounted.ended_unique ⟨rc, hm, hsa.trans hi, rfl⟩ he
    have hr : ∃ retryAt, rc.result = .notWritten (.deferred retryAt) := by
      unfold outcome DeliveryResult.outcome at hou
      split at hou
      case h_4 retryAt heq => exact ⟨retryAt, heq⟩
      all_goals simp at hou
    obtain ⟨retryAt, hr⟩ := hr
    simp [Output.returned, hf, hr, nextReassertion]

lemma finished (h : w.Kept) : Kept { w with finished := true, pending := none, submitting := none } := by
  refine ⟨⟨h.accounted.generation, h.accounted.slot, h.accounted.nodup.of_append_right,
    fun id hi => h.accounted.known id (mem_append_right _ hi),
    fun id hi => h.accounted.below id (mem_append_right _ hi),
    fun hu p hslot hm => h.accounted.unseen hu p hslot (mem_append_right _ hm), by simp, by simp⟩,
    h.marked.of_same rfl (fun _ => id) (fun _ => id),
    h.latest.of_same rfl rfl rfl rfl fun _ _ _ => .inl rfl⟩

/-- Every step in time. -/
theorem step (h : w.Kept) {e : OutputEvent ε} (hs : w.step e = some w') (ht : w.Timely e) : w'.Kept := by
  rcases e with ⟨cs, closed, now, fresh⟩ | ⟨now, fresh⟩ | ⟨now, fresh⟩ | ⟨id⟩ |
    ⟨rc⟩ | _ | _ | ⟨now, fresh⟩ | _ | ⟨se, now⟩ | _ | ⟨pol, fresh⟩
  all_goals simp only [Output.step, ite_none_right_eq_some, some.injEq] at hs
  case push =>
    obtain ⟨hf, rfl⟩ := hs
    rcases w.queue.push_cases cs closed now fresh with
      ⟨-, queue, hp, hm⟩ | ⟨queue, hp, hm, -⟩
    · rw [hp]
      exact h.call hf hm
    · rw [hp]
      exact h.call hf hm
  case retryLatest =>
    obtain ⟨hf, rfl⟩ := hs
    exact h.call hf (w.queue.retryLatestAfterError_moves now fresh)
  case repeatLatest =>
    obtain ⟨hf, rfl⟩ := hs
    exact h.call hf (w.queue.repeatLatestIfOwed_moves now fresh)
  case acknowledge =>
    rcases w.queue.metrics.deliveryMarks_tryAcknowledgeFailure id with
      hr | ⟨hd, hc, hre, hmk⟩
    · rw [hr] at hs
      exact hs ▸ h
    · rw [hd, if_pos rfl] at hs
      subst hs
      exact h.acknowledged rfl rfl hc hre hmk rfl
  case settle =>
    obtain ⟨hme, rfl⟩ := hs
    exact h.receive hme ht
  case observe =>
    obtain ⟨⟨-, -, hch, -⟩, rfl⟩ := hs
    exact h.observed hch rfl rfl rfl rfl rfl rfl
  case pace =>
    obtain ⟨-, rfl⟩ := hs
    exact h.of_worker rfl rfl rfl rfl rfl rfl rfl (fun _ => id) rfl h.latest.deferred
  case deadline =>
    obtain ⟨⟨-, -, -, -, hf⟩, rfl⟩ := hs
    exact h.replay hf
  case submit =>
    rcases hpe : w.pending with _ | f
    · simp [hpe] at hs
    · simp only [hpe, ite_none_right_eq_some, some.injEq] at hs
      obtain ⟨-, rfl⟩ := hs
      exact h.hand hpe
  case submitted =>
    rcases hsu : w.submitting with _ | id
    · simp [hsu] at hs
    · simp only [hsu, ite_none_right_eq_some, some.injEq] at hs
      obtain ⟨hrc, rfl⟩ := hs
      exact h.returned hsu hrc ht
  case finish => exact hs ▸ h.finished
  case recover =>
    obtain ⟨hf, rfl⟩ := hs
    exact h.start_recover hf

lemma spawn (pol : OutputPolicy) (startedAt gen : Nat) :
    Kept (Output.spawn pol startedAt gen : Output ε) := by
  refine ⟨⟨rfl, ?_, nodup_nil, ?_, ?_, ?_, ?_, ?_⟩, ⟨.inl rfl, .inl rfl, .inl rfl, ?_⟩, .of_unsettled ?_⟩
  all_goals simp [Output.spawn, start, OutputQueue.spawn, spawnWithState, attempts,
    handed, settledIds, marks, deliveryMarks,
    activateGeneration]

end Kept

lemma kept_of_reachable (h : timely.Reachable w) : w.Kept := by
  refine h.invariant ?_ fun s e t hs hst => hs.step hst.1 hst.2
  rintro s ⟨pol, startedAt, gen, rfl⟩
  exact .spawn pol startedAt gen

/-! ## The result -/

/-- The payload still has to come to the device, and something will bring it there: the worker or a
lane has it, the next worker will get it, or it was deferred and has a deadline. -/
inductive Outstanding (w : Output ε) (payload : FramePayload) : Prop where
  | queued (hchanged : w.changed)
  | pending (hpending : w.pending = some payload)
  | inFlight (hmem : payload.id ∈ w.inFlight)
  | ended (hfinished : w.finished) (hunsettled : payload.id ∉ w.settledIds)
  | deferred (hended : w.Ended payload.id .deferred)
      (hworker : w.finished ∨ w.submitting = some payload.id ∨
        w.submitting = none ∧ w.reassertAt.isSome)

/-- The delivery ended without reaching the device, and the lifecycle did not take the failure. -/
def Undelivered (w : Output ε) (id : DeviceDeliveryId) : Prop :=
  w.Ended id .declined ∨ w.Ended id .superseded ∨ w.Ended id .failed ∧ id ∉ w.acknowledged

namespace Kept

section

variable (h : w.Kept) (hslot : p ∈ w.queue.slot)
include h hslot

/-- Before its receipt the slot's payload is outstanding. -/
lemma outstanding_of_unsettled (hu : p.id ∉ w.settledIds) : w.Outstanding p := by
  by_cases hc : w.changed
  · exact .queued hc
  · by_cases hf : w.finished
    · exact .ended hf hu
    · have hs : w.changed = false := by simpa using hc
      have hm := h.accounted.live hs (by simpa using hf) p hslot
      simp only [attempts, handed, mem_append, mem_toList, map_eq_some_iff] at hm
      rcases hm with ⟨f, hfr, -⟩ | hi | hse
      · have hsa : f = p :=
          mem_unique (h.accounted.taken hs f hfr) hslot
        exact .pending (hsa ▸ hfr)
      · exact .inFlight hi
      · exact absurd hse hu

/-- A payload that ended undelivered is above the handled mark. -/
lemma handled_lt (he : w.Undelivered p.id) : w.marks.handled < p.id.sequence := by
  have hl := (h.marked.le_slot h.accounted hslot).1
  refine lt_of_le_of_ne hl fun hh => ?_
  rcases h.marked.handled_slot h.accounted hslot hh with
    hd | hde | ⟨hf, ha⟩
  · rcases he with he | he | ⟨he, -⟩
    all_goals simpa using h.accounted.ended_unique hd he
  · rcases he with he | he | ⟨he, -⟩
    all_goals simpa using h.accounted.ended_unique hde he
  · rcases he with he | he | ⟨-, hn⟩
    · simpa using h.accounted.ended_unique hf he
    · simpa using h.accounted.ended_unique hf he
    · exact hn ha

/-- A delivery that ended undelivered is recognised as such. -/
lemma endedUndelivered (he : w.Undelivered p.id) : w.queue.metrics.endedUndelivered p.id.sequence := by
  have hl : w.queue.metrics.lastHandledSequence < p.id.sequence := h.handled_lt hslot he
  have hm : w.queue.metrics.lastErrorSequence = p.id.sequence ∨
      w.queue.metrics.lastUndeliveredSequence = p.id.sequence := by
    rcases he with he | he | ⟨he, -⟩
    · exact .inr (h.latest.undelivered p hslot (.inl he))
    · exact .inr (h.latest.undelivered p hslot (.inr he))
    · exact .inl (h.latest.failed p hslot he)
  rcases hm with hm | hm
  all_goals simp [OutputQueueMetrics.endedUndelivered, hm, hl]

end

/-- A suppressed push meets its own colors, outstanding, delivered or acknowledged. -/
lemma of_suppressed (h : w.Kept) {closed : Bool} {cs : Colors}
    (hsu : w.queue.shouldSuppressDuplicate closed cs) :
    ∃ p, w.queue.slot = some p ∧ p.colors = cs ∧ (w.Outstanding p ∨ w.Ended p.id .delivered ∨
        w.Ended p.id .failed ∧ p.id ∈ w.acknowledged) := by
  unfold shouldSuppressDuplicate at hsu
  rcases hslot : w.queue.slot with _ | p
  · simp [hslot] at hsu
  · simp only [hslot, Bool.if_false_left, Bool.and_eq_true] at hsu
    obtain ⟨-, hc, he, -⟩ := hsu
    refine ⟨p, rfl, by simpa using hc, ?_⟩
    have hr : ¬ w.Undelivered p.id := fun hu => by
      simp [h.endedUndelivered hslot hu] at he
    by_cases hs : p.id ∈ w.settledIds
    · obtain ⟨rc, hm, hi⟩ := mem_map.mp hs
      rcases hou : rc.outcome
      case delivered => exact .inr (.inl ⟨rc, hm, hi, hou⟩)
      case deferred =>
        have hd : w.Ended p.id .deferred := ⟨rc, hm, hi, hou⟩
        exact .inl (.deferred hd ((h.latest.deferred p hslot hd).imp_right And.right))
      case declined => exact absurd (.inl ⟨rc, hm, hi, hou⟩) hr
      case superseded => exact absurd (.inr (.inl ⟨rc, hm, hi, hou⟩)) hr
      case failed =>
        have hf : w.Ended p.id .failed := ⟨rc, hm, hi, hou⟩
        by_cases ha : p.id ∈ w.acknowledged
        · exact .inr (.inr ⟨hf, ha⟩)
        · exact absurd (.inr (.inr ⟨hf, ha⟩)) hr
    · exact .inl (h.outstanding_of_unsettled hslot hs)

/-- The replay deadline of a deferred payload gives the worker its colors. -/
lemma replay_deferred (h : w.Kept) (hslot : w.queue.slot = some p)
    (he : w.Ended p.id .deferred) (hr : w.finished = false) (now fresh : Nat) :
    ∃ nx, (w.replay now fresh).pending = some nx ∧ nx.colors = p.colors := by
  have hh : w.queue.metrics.lastHandledSequence = p.id.sequence := by
    rcases h.latest.deferred p hslot he with hf | hd
    · simp [hr] at hf
    · exact hd.1
  unfold Output.replay
  rcases w.queue.requeueCachedPayload_cases now fresh with
    ⟨hn, -⟩ | ⟨latest, hl, ht, -⟩ | ⟨latest, queue, hl, hq, -, nx, hne⟩
  · simp [hslot] at hn
  · rw [hslot, some.injEq] at hl
    rw [← hl, lastTerminalSequence] at ht
    omega
  · rw [hslot, some.injEq] at hl
    rw [hq, hl]
    exact ⟨nx, hne⟩

/-- The queue that takes over starts with a payload that has no receipt. -/
lemma recover_unsettled (h : w.Kept) (hslot : w.queue.slot = some p)
    (hu : p.id ∉ w.settledIds) (pol : OutputPolicy) (fresh : Nat) :
    ∃ nx, (w.queue.recover pol fresh).slot = some nx ∧ nx.colors = p.colors := by
  have hlt : w.queue.metrics.lastHandledSequence < p.id.sequence := by
    refine lt_of_le_of_ne (h.marked.le_slot h.accounted hslot).1 fun hh => hu ?_
    rcases h.marked.handled_slot h.accounted hslot hh with he | he | ⟨he, -⟩
    all_goals exact he.mem_settledIds
  have hl : w.queue.latestUnconfirmedPayload = some p := by
    simp [latestUnconfirmedPayload, hslot, hlt]
  simp [recover, spawnWithState, hl]

end Kept

/-- **Duplicate suppression loses no update** in a run whose receipts are in time. -/
theorem duplicates_accounted (h : timely.Reachable w) : (∀ colors laneClosed now fresh,
      (w.queue.push colors laneClosed now fresh).2 → ∃ payload, w.queue.slot = some payload ∧
        (w.queue.push colors laneClosed now fresh).1.slot = some payload ∧ payload.colors = colors ∧
        (w.Outstanding payload ∨ w.Ended payload.id .delivered ∨
          w.Ended payload.id .failed ∧ payload.id ∈ w.acknowledged)) ∧
    (∀ payload, w.queue.slot = some payload → w.Undelivered payload.id →
      ∀ laneClosed now fresh, w.IsFresh fresh →
      ∃ next w', w.step (.push payload.colors laneClosed now fresh) = some w' ∧
        w'.queue.slot = some next ∧ next.colors = payload.colors ∧ next.id ∉ w'.attempts ∧
        w'.Outstanding next) ∧
    (∀ payload, w.queue.slot = some payload → w.Ended payload.id .deferred → w.finished = false →
      ∀ now fresh, ∃ next, (w.replay now fresh).pending = some next ∧ next.colors = payload.colors) ∧
    (∀ payload, w.queue.slot = some payload → payload.id ∉ w.settledIds → ∀ policy fresh, ∃ next,
      (w.queue.recover policy fresh).slot = some next ∧ next.colors = payload.colors) := by
  have hk := kept_of_reachable h
  refine ⟨?_, ?_, fun payload hslot he hr now fresh =>
      hk.replay_deferred hslot he hr now fresh,
    fun payload hslot hu policy fresh =>
      hk.recover_unsettled hslot hu policy fresh⟩
  · intro colors laneClosed now fresh hsu
    rcases w.queue.push_cases colors laneClosed now fresh with
      ⟨hs, queue, hp, hm⟩ | ⟨queue, hp, -⟩
    · obtain ⟨payload, hslot, hc, hrc⟩ := hk.of_suppressed hs
      rcases hm with ⟨hsa, -, -, -⟩
      rw [hp]
      exact ⟨payload, hslot, hsa.trans hslot, hc, hrc⟩
    · rw [hp] at hsu
      simp at hsu
  · intro payload hslot he laneClosed now fresh hf
    rcases w.queue.push_cases payload.colors laneClosed now fresh with
      ⟨hs, -⟩ | ⟨queue, hp, hm, next, hn, hc⟩
    · have hma := hk.endedUndelivered hslot he
      simp [shouldSuppressDuplicate, hslot, hma] at hs
    · have hch : (w.afterCall queue true).changed := Bool.or_true _
      have hi := hk.call hf hm
      refine ⟨next, w.afterCall queue true, ?_, hn, hc, hi.accounted.unseen hch next hn, .queued hch⟩
      simp [Output.step, hf, hp]

/-! ### A failure that is not acknowledged, and one that is -/

def red : Colors := [(255, 0, 0)]

def failure : Receipt Unit := ⟨⟨1, 1⟩, .failed () false, 0, 0, 0, 0⟩

/-- A new queue after events that are all possible. -/
def after (events : List (OutputEvent Unit)) : Output Unit :=
  events.foldl (fun w event => (w.step event).getD w) (spawn .unpaced 0 1)

/-- The first frame was taken, handed over, and failed. -/
def failedOutput : Output Unit :=
  after [.push red false 0 2, .observe, .submit, .settle failure, .submitted true 0]

def acknowledgedOutput : Output Unit :=
  after [.push red false 0 2, .observe, .submit, .settle failure, .submitted true 0, .acknowledge ⟨1, 1⟩]

lemma failedOutput_reachable : timely.Reachable failedOutput := by
  have hs : timely.Reachable (after []) := .init ⟨_, _, _, rfl⟩
  have hp := hs.step (e := OutputEvent.push red false 0 2) ⟨rfl, trivial⟩
  have hob := hp.step (e := OutputEvent.observe) ⟨rfl, trivial⟩
  have hsu := hob.step (e := OutputEvent.submit) ⟨rfl, trivial⟩
  have hse := hsu.step (e := OutputEvent.settle failure) ⟨rfl, fun _ _ hm => nomatch hm⟩
  exact hse.step (e := OutputEvent.submitted true 0) ⟨rfl, fun hn => nomatch hn⟩

/-- The same colors go out again. -/
theorem duplicates_accounted_failed : ∃ next w',
    failedOutput.step (.push red false 0 2) = some w' ∧ w'.queue.slot = some next ∧
      next.colors = red ∧ next.id ∉ w'.attempts ∧ w'.Outstanding next :=
  (duplicates_accounted failedOutput_reachable).2.1 ⟨red, ⟨1, 1⟩, 0, false⟩ rfl
    (.inr (.inr ⟨⟨failure, mem_singleton.mpr rfl, rfl, rfl⟩, not_mem_nil⟩)) false 0 2
    (by decide)

/-- Once the failure is acknowledged, the same colors are suppressed although the frame neither
reached the device nor is on its way. -/
theorem suppressed_after_acknowledgement : timely.Reachable acknowledgedOutput ∧
    (acknowledgedOutput.queue.push red false 0 2).2 ∧
    ∃ payload, acknowledgedOutput.queue.slot = some payload ∧ ¬ acknowledgedOutput.Outstanding payload ∧
      ¬ acknowledgedOutput.Ended payload.id .delivered := by
  refine ⟨failedOutput_reachable.step (e := OutputEvent.acknowledge ⟨1, 1⟩) ⟨rfl, trivial⟩, rfl,
    ⟨red, ⟨1, 1⟩, 0, false⟩, rfl, ?_, ?_⟩
  · rintro (hq | hr | hm | ⟨he, -⟩ | ⟨⟨receipt, hm, -, hou⟩, -⟩)
    · exact absurd hq (by decide)
    · exact absurd hr (by decide)
    · exact absurd hm (by decide)
    · exact absurd he (by decide)
    · rw [mem_singleton.mp hm] at hou
      exact absurd hou (by decide)
  · rintro ⟨receipt, hm, -, hou⟩
    rw [mem_singleton.mp hm] at hou
    exact absurd hou (by decide)

end Output

end Hypercolor.Device
