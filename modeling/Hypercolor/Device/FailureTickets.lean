import Hypercolor.Device.OutputQueue

/-!
# Failure tickets of an output queue

A failed delivery is kept as a ticket until the device lifecycle has acknowledged it or a later
delivery went through. Receipts may settle out of order, and the marks of the queue are stored rather
than raised, so an old receipt can hide a failure or bring one back. **`tickets_sound`**: as long as

* no delivery is recorded as handled below the handled mark,
* no failure is recorded below the pending one, nor with the sequence 0,
* a generation is activated before anything is recorded in it,

then in every state of every run

* a pending ticket is of the active generation, not acknowledged, and above everything handled in it;
* no failure is acknowledged twice;
* the highest failure of the generation is pending, acknowledged, or at or below something handled.

The run is kept with a log of what was recorded, which the code does not have.
-/

namespace Hypercolor.Device

open Lib List OutputQueueMetrics

variable {ε : Type}

/-! ## Steps and what they record -/

/-- What reaches the metrics of a queue. -/
inductive QueueEvent (ε : Type) where
  | settled (receipt : Receipt ε)
  | transportStarted (id : DeviceDeliveryId)
  | activateGeneration (generation : Nat)
  | tryAcknowledgeFailure (id : DeviceDeliveryId)

/-- An entry of the log: a success or suppression, an error, or an acknowledgement that succeeded. -/
inductive Record where
  | handled (id : DeviceDeliveryId)
  | failed (id : DeviceDeliveryId)
  | acknowledged (id : DeviceDeliveryId)
deriving DecidableEq

def Record.id : Record → DeviceDeliveryId
  | .handled id | .failed id | .acknowledged id => id

/-- The record of a receipt of the active generation. -/
def Receipt.record (receipt : Receipt ε) : Option Record :=
  match receipt.result with
  | .written _ (some .declined) | .notWritten .superseded => none
  | .written _ _ | .notWritten _ => some (.handled receipt.id)
  | .failed _ _ => some (.failed receipt.id)

namespace OutputQueueMetrics

variable (s : OutputQueueMetrics ε)

def apply : QueueEvent ε → OutputQueueMetrics ε
  | .settled receipt => s.settled receipt
  | .transportStarted id => s.recordTransportStarted id
  | .activateGeneration generation => s.activateGeneration generation
  | .tryAcknowledgeFailure id => (s.tryAcknowledgeFailure id).1

def recorded : QueueEvent ε → Option Record
  | .settled receipt => if s.isCurrent receipt.id then receipt.record else none
  | .tryAcknowledgeFailure id =>
      if (s.tryAcknowledgeFailure id).2 then some (.acknowledged id) else none
  | .transportStarted _ | .activateGeneration _ => none

end OutputQueueMetrics

/-- The metrics of a queue with the log of its run, newest first. -/
structure LoggedQueue (ε : Type) where
  metrics : OutputQueueMetrics ε
  log : List Record

namespace LoggedQueue

def new (startedAt generation : Nat) : LoggedQueue ε := ⟨.new startedAt generation, []⟩

def step (q : LoggedQueue ε) (event : QueueEvent ε) : LoggedQueue ε where
  metrics := q.metrics.apply event
  log := (q.metrics.recorded event).toList ++ q.log

end LoggedQueue

/-! ## Marks -/

/-- The fields that failures depend on. -/
structure Marks (ε : Type) where
  generation : Nat
  handled : Nat
  error : Nat
  retained : Option (RetainedWriteFailure ε)

def OutputQueueMetrics.marks (s : OutputQueueMetrics ε) : Marks ε :=
  ⟨s.activeGeneration, s.lastHandledSequence, s.lastErrorSequence, s.retainedFailure⟩

namespace Marks

variable (k : Marks ε)

/-- What an event does to the marks, and what it records. -/
inductive Moves : QueueEvent ε → Option Record → Marks ε → Prop where
  | idle (event : QueueEvent ε) : Moves event none k
  | handled (receipt : Receipt ε) (hcurrent : receipt.id.queueGeneration = k.generation) :
      Moves (.settled receipt) (some (.handled receipt.id))
        { k with
          handled := receipt.id.sequence
          retained := k.retained.filter fun failure =>
            ¬ (failure.id.queueGeneration = receipt.id.queueGeneration ∧
              failure.id.sequence ≤ receipt.id.sequence) }
  | failed (receipt : Receipt ε) (failure : RetainedWriteFailure ε)
      (hcurrent : receipt.id.queueGeneration = k.generation)
      (habove : k.handled < receipt.id.sequence) (hid : failure.id = receipt.id)
      (hnew : failure.acknowledged = false) :
      Moves (.settled receipt) (some (.failed receipt.id))
        { k with error := receipt.id.sequence, retained := some failure }
  | ignored (receipt : Receipt ε) (hcurrent : receipt.id.queueGeneration = k.generation)
      (hbelow : receipt.id.sequence ≤ k.handled) :
      Moves (.settled receipt) (some (.failed receipt.id))
        { k with error := receipt.id.sequence }
  | activated (generation : Nat) :
      Moves (.activateGeneration generation) none ⟨generation, 0, 0, none⟩
  | acknowledged (failure : RetainedWriteFailure ε) (hretained : k.retained = some failure)
      (hnew : failure.acknowledged = false) (hmark : k.handled < failure.id.sequence) :
      Moves (.tryAcknowledgeFailure failure.id) (some (.acknowledged failure.id))
        { k with
          handled := max k.handled failure.id.sequence
          retained := some { failure with acknowledged := true } }

end Marks

variable {s : OutputQueueMetrics ε} {id : DeviceDeliveryId}

lemma marks_ifCurrent_of_current {rec : OutputQueueMetrics ε} (h : s.isCurrent id) :
    (s.ifCurrent id rec).marks = rec.marks := by
  rw [ifCurrent, if_pos h]

/-- An acknowledgement is refused, or it is of the kept failure, which is above the handled mark. -/
lemma OutputQueueMetrics.tryAcknowledgeFailure_cases (s : OutputQueueMetrics ε) (id : DeviceDeliveryId) :
    s.tryAcknowledgeFailure id = (s, false) ∨ ∃ fl, s.retainedFailure = some fl ∧ fl.id = id ∧
        fl.acknowledged = false ∧ s.lastHandledSequence < fl.id.sequence ∧
        s.tryAcknowledgeFailure id = ({ s with
          lastHandledSequence := max s.lastHandledSequence fl.id.sequence
          retainedFailure := some { fl with acknowledged := true } }, true) := by
  unfold tryAcknowledgeFailure
  split
  · exact .inl rfl
  · rename_i fl hre
    split_ifs with hr
    · exact .inl rfl
    · simp only [not_or, not_not] at hr
      obtain ⟨rfl, hn, hm⟩ := hr
      simp only [failureMatches, decide_eq_true_eq] at hm
      exact .inr ⟨fl, hre, rfl, Bool.eq_false_iff.mpr hn, hm.2.2, rfl⟩

/-- Everything an event can do. -/
lemma OutputQueueMetrics.moves (s : OutputQueueMetrics ε) (e : QueueEvent ε) :
    s.marks.Moves e (s.recorded e) (s.apply e).marks := by
  cases e with
  | transportStarted id =>
    have hs : (s.recordTransportStarted id).marks = s.marks := by
      unfold recordTransportStarted ifCurrent
      split <;> rfl
    show s.marks.Moves _ none (s.recordTransportStarted id).marks
    rw [hs]
    exact .idle _
  | activateGeneration gen => exact .activated gen
  | tryAcknowledgeFailure id =>
    show s.marks.Moves _ (if (s.tryAcknowledgeFailure id).2 then some (.acknowledged id) else none)
      (s.tryAcknowledgeFailure id).1.marks
    rcases s.tryAcknowledgeFailure_cases id with hr | ⟨fl, hre, rfl, hn, hm, hd⟩
    · rw [hr]
      exact .idle _
    · rw [hd]
      exact .acknowledged fl hre hn hm
  | settled rc =>
    show s.marks.Moves _ (if s.isCurrent rc.id then rc.record else none) (s.settled rc).marks
    by_cases hc : s.isCurrent rc.id
    · have hg : rc.id.queueGeneration = s.marks.generation := by
        exact (of_decide_eq_true hc).symm
      rw [if_pos hc]
      obtain ⟨id, res, queueWait, transportLatency, totalLatency, settledAt⟩ := rc
      rcases res with (_ | _ | _) | ⟨bs, _ | _ | _⟩ | ⟨err, transient⟩
      all_goals simp only [settled, Receipt.record, recordWriteSuccess, recordWriteSuppressed,
        recordWriteDeclined, recordWriteError, recordSuperseded,
        marks_ifCurrent_of_current hc]
      all_goals first
        | exact .idle _
        | exact .handled _ hg
        | skip
      split_ifs with ha
      · exact .failed _ _ hg ha rfl rfl
      · exact .ignored _ hg (Nat.le_of_not_lt ha)
    · have hs : s.settled rc = s := by
        unfold settled
        split <;> exact if_neg hc
      rw [if_neg hc, hs]
      exact .idle _

/-! ## Order -/

/-- The sequence of a record does not fall behind the marks. -/
def OutputQueueMetrics.Timely (s : OutputQueueMetrics ε) : Record → Prop
  | .handled id => s.lastHandledSequence ≤ id.sequence
  | .failed id => id.sequence ≠ 0 ∧
      ∀ failure, s.pendingFailure = some failure → failure.id.sequence ≤ id.sequence
  | .acknowledged _ => True

namespace LoggedQueue

/-- When an event is in order: what it records is not behind, and a generation is new. -/
def InOrder (q : LoggedQueue ε) (event : QueueEvent ε) : Prop :=
  (∀ record, q.metrics.recorded event = some record → q.metrics.Timely record) ∧
    ∀ generation, event = .activateGeneration generation →
      ∀ record ∈ q.log, record.id.queueGeneration ≠ generation

/-- Runs of a queue in which every event is in order. -/
def inOrder : Machine (LoggedQueue ε) (QueueEvent ε) where
  init q := ∃ startedAt generation, q = new startedAt generation
  step q event q' := q' = q.step event ∧ q.InOrder event

/-- The failures that were acknowledged. -/
def acknowledgements (log : List Record) : List DeviceDeliveryId :=
  log.filterMap fun
    | .acknowledged id => some id
    | _ => none

end LoggedQueue

variable {log : List Record}

lemma mem_acknowledgements : id ∈ LoggedQueue.acknowledgements log ↔ .acknowledged id ∈ log := by
  unfold LoggedQueue.acknowledgements
  rw [mem_filterMap]
  constructor
  · rintro ⟨rec, hr, hi⟩
    rcases rec with _ | _ | id'
    · cases hi
    · cases hi
    · cases hi
      exact hr
  · exact fun h => ⟨_, h, rfl⟩

/-! ## The invariant -/

/-- The marks against the log. -/
structure Marks.Books (k : Marks ε) (log : List Record) : Prop where
  handled_le : ∀ id, .handled id ∈ log → id.queueGeneration = k.generation →
    id.sequence ≤ k.handled
  acknowledged_le : ∀ id, .acknowledged id ∈ log → id.queueGeneration = k.generation →
    id.sequence ≤ k.handled
  failed_le : ∀ id, .failed id ∈ log → id.queueGeneration = k.generation →
    id.sequence ≤ k.handled ∨ ∃ failure, k.retained = some failure ∧
      failure.acknowledged = false ∧ id.sequence ≤ failure.id.sequence
  retained : ∀ failure, k.retained = some failure →
    failure.id.queueGeneration = k.generation ∧ .failed failure.id ∈ log ∧
      (failure.acknowledged = false →
        k.error = failure.id.sequence ∧ k.handled < failure.id.sequence)
  acknowledged_failed : ∀ id, .acknowledged id ∈ log → .failed id ∈ log
  positive : ∀ id, .failed id ∈ log → id.sequence ≠ 0
  mark : k.handled = 0 ∨ ∃ id, (.handled id ∈ log ∨ .acknowledged id ∈ log) ∧
    id.queueGeneration = k.generation ∧ id.sequence = k.handled
  once : (LoggedQueue.acknowledgements log).Nodup

variable {fl : RetainedWriteFailure ε}

/-- The pending failure is the kept one, unless it was acknowledged. -/
lemma pendingFailure_eq_some : s.pendingFailure = some fl ↔ s.retainedFailure = some fl ∧
      fl.id.queueGeneration = s.activeGeneration ∧ fl.acknowledged = false ∧
        s.lastErrorSequence = fl.id.sequence ∧ s.lastHandledSequence < fl.id.sequence := by
  simp only [pendingFailure, retained, failureMatches, isCurrent, Option.filter_eq_some_iff,
    decide_eq_true_eq, Bool.not_eq_true]
  constructor
  · rintro ⟨⟨hr, -⟩, hn, hg, he, hm⟩
    exact ⟨hr, hg.symm, hn, he, hm⟩
  · rintro ⟨hr, hg, hn, he, hm⟩
    exact ⟨⟨hr, hg.symm, he⟩, hn, hg.symm, he, hm⟩

lemma Marks.Books.pending (h : s.marks.Books log) (hr : s.retainedFailure = some fl)
    (hn : fl.acknowledged = false) : s.pendingFailure = some fl := by
  obtain ⟨hg, -, hk⟩ := h.retained fl hr
  obtain ⟨he, hm⟩ := hk hn
  exact pendingFailure_eq_some.mpr ⟨hr, hg, hn, he, hm⟩

namespace Marks.Books

variable {k : Marks ε} {log : List Record}

theorem handled (h : k.Books log) (hc : id.queueGeneration = k.generation)
    (hle : k.handled ≤ id.sequence) :
    Books { k with
      handled := id.sequence
      retained := k.retained.filter fun fl =>
        ¬ (fl.id.queueGeneration = id.queueGeneration ∧ fl.id.sequence ≤ id.sequence) }
      (.handled id :: log) where
  handled_le id' hi' hg := by
    rcases mem_cons.mp hi' with he | hold
    · cases he
      exact le_rfl
    · exact (h.handled_le id' hold hg).trans hle
  acknowledged_le id' hi' hg := by
    have hold : .acknowledged id' ∈ log := by simpa using hi'
    exact (h.acknowledged_le id' hold hg).trans hle
  failed_le id' hi' hg := by
    have hold : .failed id' ∈ log := by simpa using hi'
    rcases h.failed_le id' hold hg with hl | ⟨fl, hr, hn, hl⟩
    · exact .inl (hl.trans hle)
    · -- The kept failure stays if it is above the delivery, and is settled otherwise.
      rcases le_or_gt fl.id.sequence id.sequence with hs | ha
      · exact .inl (hl.trans hs)
      · refine .inr ⟨fl, ?_, hn, hl⟩
        refine Option.filter_eq_some_iff.mpr ⟨hr, decide_eq_true fun hs => ?_⟩
        exact absurd hs.2 (not_le.mpr ha)
  retained fl hf := by
    obtain ⟨hr, hk⟩ := Option.filter_eq_some_iff.mp hf
    obtain ⟨hg, hfl, hm⟩ := h.retained fl hr
    refine ⟨hg, mem_cons_of_mem _ hfl, fun hn => ⟨(hm hn).1, ?_⟩⟩
    have hno := of_decide_eq_true hk
    exact lt_of_not_ge fun hle => hno ⟨hg.trans hc.symm, hle⟩
  acknowledged_failed id' hi' := mem_cons_of_mem _ (h.acknowledged_failed id' (by simpa using hi'))
  positive id' hi' := h.positive id' (by simpa using hi')
  mark := .inr ⟨id, .inl mem_cons_self, hc, rfl⟩
  once := h.once

/-- A failure that is kept in the place of a lower one. -/
theorem failed (h : k.Books log) (hc : id.queueGeneration = k.generation)
    (ha : k.handled < id.sequence) (hi : fl.id = id) (hn : fl.acknowledged = false)
    (hlo : ∀ old, k.retained = some old → old.acknowledged = false → old.id.sequence ≤ id.sequence) :
    Books { k with error := id.sequence, retained := some fl } (.failed id :: log) where
  handled_le id' hi' := h.handled_le id' (by simpa using hi')
  acknowledged_le id' hi' := h.acknowledged_le id' (by simpa using hi')
  failed_le id' hi' hg := by
    rcases mem_cons.mp hi' with he | hold
    · cases he
      exact .inr ⟨fl, rfl, hn, (congrArg DeviceDeliveryId.sequence hi).ge⟩
    · rcases h.failed_le id' hold hg with hl | ⟨old, hr, hold', hl⟩
      · exact .inl hl
      · refine .inr ⟨fl, rfl, hn, ?_⟩
        rw [hi]
        exact hl.trans (hlo old hr hold')
  retained fl' hf' := by
    cases hf'
    rw [hi]
    exact ⟨hc, mem_cons_self, fun _ => ⟨rfl, ha⟩⟩
  acknowledged_failed id' hi' := mem_cons_of_mem _ (h.acknowledged_failed id' (by simpa using hi'))
  positive id' hi' := by
    rcases mem_cons.mp hi' with he | hold
    · cases he
      omega
    · exact h.positive id' hold
  mark := by
    rcases h.mark with hz | ⟨id', hi', hm⟩
    · exact .inl hz
    · exact .inr ⟨id', by simpa using hi', hm⟩
  once := h.once

/-- A failure at or below what was handled; it must not move the mark of a kept one. -/
lemma ignored (h : k.Books log) (hb : id.sequence ≤ k.handled) (hp : id.sequence ≠ 0)
    (hl : ∀ old, k.retained = some old → old.acknowledged = false → old.id.sequence ≤
      id.sequence) : Books { k with error := id.sequence } (.failed id :: log) where
  handled_le id' hi' := h.handled_le id' (by simpa using hi')
  acknowledged_le id' hi' := h.acknowledged_le id' (by simpa using hi')
  failed_le id' hi' hg := by
    rcases mem_cons.mp hi' with he | hold
    · cases he
      exact .inl hb
    · exact h.failed_le id' hold hg
  retained fl hf := by
    obtain ⟨hg, hfl, hmk⟩ := h.retained fl hf
    refine ⟨hg, mem_cons_of_mem _ hfl, fun hn => ?_⟩
    have hlo := hl fl hf hn
    have hm := (hmk hn).2
    omega
  acknowledged_failed id' hi' := mem_cons_of_mem _ (h.acknowledged_failed id' (by simpa using hi'))
  positive id' hi' := by
    rcases mem_cons.mp hi' with he | hold
    · cases he
      exact hp
    · exact h.positive id' hold
  mark := by
    rcases h.mark with hz | ⟨id', hi', hm⟩
    · exact .inl hz
    · exact .inr ⟨id', by simpa using hi', hm⟩
  once := h.once

/-- Nothing was recorded in a new generation. -/
theorem activated (h : k.Books log) {gen : Nat} (hf : ∀ record ∈ log, record.id.queueGeneration ≠ gen) :
    Books (⟨gen, 0, 0, none⟩ : Marks ε) log where
  handled_le _ hi hg := absurd hg (hf _ hi)
  acknowledged_le _ hi hg := absurd hg (hf _ hi)
  failed_le _ hi hg := absurd hg (hf _ hi)
  retained := nofun
  acknowledged_failed := h.acknowledged_failed
  positive := h.positive
  mark := .inl rfl
  once := h.once

theorem acknowledged (h : k.Books log) (hr : k.retained = some fl) (hn : fl.acknowledged = false) :
    Books { k with
      handled := max k.handled fl.id.sequence
      retained := some { fl with acknowledged := true } } (.acknowledged fl.id :: log) := by
  obtain ⟨hg, hf, hmk⟩ := h.retained fl hr
  obtain ⟨-, hm⟩ := hmk hn
  refine ⟨fun id hi hi' => ?_, fun id hi hi' => ?_, fun id hi hi' => ?_, ?_, fun id hi => ?_,
    fun id hi => h.positive id (by simpa using hi), ?_, ?_⟩
  · exact (h.handled_le id (by simpa using hi) hi').trans (le_max_left _ _)
  · rcases mem_cons.mp hi with he | hold
    · cases he
      exact le_max_right _ _
    · exact (h.acknowledged_le id hold hi').trans (le_max_left _ _)
  · left
    rcases h.failed_le id (by simpa using hi) hi' with hl | ⟨old, hold, -, hl⟩
    · exact hl.trans (le_max_left _ _)
    · cases hr.symm.trans hold
      exact hl.trans (le_max_right _ _)
  · rintro _ ⟨⟩
    exact ⟨hg, mem_cons_of_mem _ hf, nofun⟩
  · rcases mem_cons.mp hi with he | hold
    · cases he
      exact mem_cons_of_mem _ hf
    · exact mem_cons_of_mem _ (h.acknowledged_failed id hold)
  · refine .inr ⟨fl.id, .inr mem_cons_self, hg, ?_⟩
    exact (max_eq_right hm.le).symm
  · -- An earlier acknowledgement of it would have raised the mark.
    refine nodup_cons.mpr ⟨fun hb => ?_, h.once⟩
    have hle := h.acknowledged_le fl.id (mem_acknowledgements.mp hb) hg
    omega

end Marks.Books

namespace LoggedQueue

/-- The marks agree with the log. -/
def Booked (q : LoggedQueue ε) : Prop := q.metrics.marks.Books q.log

lemma booked_new (startedAt gen : Nat) : (new startedAt gen : LoggedQueue ε).Booked where
  handled_le := nofun
  acknowledged_le := nofun
  failed_le := nofun
  retained := nofun
  acknowledged_failed := nofun
  positive := nofun
  mark := .inl rfl
  once := nodup_nil

variable {q : LoggedQueue ε}

/-- One event in order. -/
lemma Booked.step (h : q.Booked) {e : QueueEvent ε} (hor : q.InOrder e) : (q.step e).Booked := by
  have hm := q.metrics.moves e
  obtain ⟨ht, hf⟩ := hor
  unfold Booked LoggedQueue.step
  -- The kept failure is the pending one, which failures in order are not below.
  have hl : ∀ id, q.metrics.Timely (.failed id) → ∀ old,
      q.metrics.marks.retained = some old → old.acknowledged = false →
        old.id.sequence ≤ id.sequence :=
    fun id ht old hr hn => ht.2 old (h.pending hr hn)
  generalize q.metrics.recorded e = recorded at hm ht ⊢
  generalize (q.metrics.apply e).marks = marks at hm ⊢
  cases hm with
  | idle => exact h
  | handled rc hc => exact h.handled hc (ht _ rfl)
  | failed rc fl hc ha hi hn =>
    exact h.failed hc ha hi hn (hl _ (ht _ rfl))
  | ignored rc hc hb =>
    exact h.ignored hb (ht _ rfl).1 (hl _ (ht _ rfl))
  | activated gen => exact h.activated (hf gen rfl)
  | acknowledged fl hr hn hma => exact h.acknowledged hr hn

lemma booked_of_reachable (h : inOrder.Reachable q) : q.Booked := by
  refine h.invariant ?_ ?_
  · rintro _ ⟨startedAt, gen, rfl⟩
    exact booked_new startedAt gen
  · rintro q e _ hq ⟨rfl, hor⟩
    exact hq.step hor

/-- **Failure tickets are sound** along every run in order. -/
theorem tickets_sound {q : LoggedQueue ε} (h : inOrder.Reachable q) :
    (∀ failure, q.metrics.pendingFailure = some failure →
      failure.id.queueGeneration = q.metrics.activeGeneration ∧
        failure.acknowledged = false ∧ .acknowledged failure.id ∉ q.log ∧
        ∀ id, .handled id ∈ q.log → id.queueGeneration = failure.id.queueGeneration →
          id.sequence < failure.id.sequence) ∧ (acknowledgements q.log).Nodup ∧
    (∀ id, .failed id ∈ q.log → id.queueGeneration = q.metrics.activeGeneration →
      (∀ other, .failed other ∈ q.log → other.queueGeneration = id.queueGeneration →
        other.sequence ≤ id.sequence) →
      (∃ failure, q.metrics.pendingFailure = some failure ∧ failure.id = id) ∨ .acknowledged id ∈ q.log ∨
        ∃ handled, .handled handled ∈ q.log ∧ handled.queueGeneration = id.queueGeneration ∧
          id.sequence ≤ handled.sequence) := by
  have hb := booked_of_reachable h
  refine ⟨fun failure hp => ?_, hb.once, fun id hi hg hh => ?_⟩
  · obtain ⟨-, hg, hn, -, hm⟩ := pendingFailure_eq_some.mp hp
    refine ⟨hg, hn, fun ha => ?_, fun id hi hi' => ?_⟩
    · exact absurd hm (not_lt.mpr (hb.acknowledged_le _ ha hg))
    · exact (hb.handled_le id hi (hi'.trans hg)).trans_lt hm
  · -- Two deliveries of the generation with one sequence are one.
    have hs : ∀ other : DeviceDeliveryId, other.queueGeneration = q.metrics.activeGeneration →
        other.sequence = id.sequence → other = id := by
      rintro ⟨generation, sequence⟩ hoh hse
      obtain ⟨generation', sequence'⟩ := id
      simp_all
    rcases hb.failed_le id hi hg with hl | ⟨failure, hr, hn, hl⟩
    · rcases hb.mark with hz | ⟨source, hsr, hsg, hm⟩
      · have hpo := hb.positive id hi
        omega
      · rcases hsr with hhd | ha
        · refine .inr (.inr ⟨source, hhd, hsg.trans hg.symm, ?_⟩)
          omega
        · refine .inr (.inl ?_)
          have hle := hh source (hb.acknowledged_failed source ha) (hsg.trans hg.symm)
          rw [← hs source hsg (by omega)]
          exact ha
    · obtain ⟨hfg, hf, -⟩ := hb.retained failure hr
      have hle := hh failure.id hf (hfg.trans hg.symm)
      refine .inl ⟨failure, hb.pending hr hn, ?_⟩
      exact hs failure.id hfg (by omega)

end LoggedQueue

/-- A delivery of the generation 1 that settles. -/
def settles (sequence : Nat) (result : DeliveryResult Unit) : QueueEvent Unit :=
  .settled ⟨⟨1, sequence⟩, result, 0, 0, 0, 0⟩

def writes (sequence : Nat) : QueueEvent Unit := settles sequence (.written 3 none)

def fails (sequence : Nat) : QueueEvent Unit := settles sequence (.failed () false)

/-- A queue after some events. -/
def queueAfter (events : List (QueueEvent Unit)) : LoggedQueue Unit :=
  events.foldl LoggedQueue.step (.new 0 1)

def pendingSequence (q : LoggedQueue Unit) : Option Nat :=
  q.metrics.pendingFailure.map fun failure => failure.id.sequence

/-- A failure stays pending across an older success, and is gone once it was acknowledged. -/
theorem tickets_sound_acknowledged : pendingSequence (queueAfter [writes 1, fails 3, writes 2]) = some 3 ∧
      LoggedQueue.acknowledgements (queueAfter [writes 1, fails 3, writes 2,
        .tryAcknowledgeFailure ⟨1, 3⟩]).log = [⟨1, 3⟩] ∧
      (LoggedQueue.acknowledgements (queueAfter [writes 1, fails 3, writes 2,
        .tryAcknowledgeFailure ⟨1, 3⟩]).log).Nodup := by
  have hor : ∀ (q : LoggedQueue Unit) (event : QueueEvent Unit),
      (∀ generation, event ≠ .activateGeneration generation) →
      (∀ record, q.metrics.recorded event = some record → q.metrics.Timely record) →
        q.InOrder event :=
    fun q event hn ht => ⟨ht, fun generation he => absurd he (hn generation)⟩
  have hr : LoggedQueue.inOrder.Reachable (queueAfter [writes 1, fails 3, writes 2,
      .tryAcknowledgeFailure ⟨1, 3⟩]) := by
    refine .step (.step (.step (.step (.init ⟨0, 1, rfl⟩) ⟨rfl, ?_⟩) ⟨rfl, ?_⟩) ⟨rfl, ?_⟩) ⟨rfl, ?_⟩
    all_goals refine hor _ _ nofun ?_
    · rintro _ ⟨⟩
      exact Nat.zero_le 1
    · rintro _ ⟨⟩
      exact ⟨by decide, nofun⟩
    · rintro _ ⟨⟩
      exact Nat.le_succ 1
    · rintro _ ⟨⟩
      trivial
  exact ⟨by decide, by decide, (LoggedQueue.tickets_sound hr).2.1⟩

/-- With receipts out of order, a failure comes back below a success, a failure hides a higher one,
and a failure is acknowledged twice. -/
theorem tickets_out_of_order : (pendingSequence (queueAfter [writes 5, writes 2, fails 3]) = some 3 ∧
      .handled ⟨1, 5⟩ ∈ (queueAfter [writes 5, writes 2, fails 3]).log) ∧
    (pendingSequence (queueAfter [fails 5, fails 3]) = some 3 ∧
      (queueAfter [fails 5, fails 3]).log = [.failed ⟨1, 3⟩, .failed ⟨1, 5⟩]) ∧
    LoggedQueue.acknowledgements (queueAfter [fails 5, .tryAcknowledgeFailure ⟨1, 5⟩, writes 2,
      fails 5, .tryAcknowledgeFailure ⟨1, 5⟩]).log = [⟨1, 5⟩, ⟨1, 5⟩] := by
  decide

end Hypercolor.Device
