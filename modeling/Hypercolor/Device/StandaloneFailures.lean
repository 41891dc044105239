import Mathlib.Algebra.Group.Nat.Defs
import Mathlib.Order.MinMax
import Mathlib.Tactic.Tauto
import Hypercolor.Device.OutputQueue

/-!
# Failures of standalone deliveries

`StandaloneFailureState` keeps the failures of the deliveries that are written outside an output
queue. Receipts may reach it in any order and more than once. A ledger beside it says what it is for:
it holds the receipts of the generation that were above every one before them, and which of the
failures among them are settled.

**`standalone_failures`**: along every run

* a receipt at or below the last handled sequence, or of another generation, changes nothing, and the
  last handled sequence is the greatest of the ledger;
* the consecutive failures are those of the ledger since its last success, up to `u32::MAX`;
* a failure is pending exactly when the receipt with the greatest sequence is a failure that is not
  settled.

The record of a failure stays where it is when it is acknowledged, and the count of failures
saturates, **`acknowledged_retained`**.
-/

namespace Hypercolor.Device

open List

variable {ε : Type}

/-! ## The state -/

/-- `StandaloneFailureState` -/
structure StandaloneFailureState (ε : Type) where
  activeGeneration : Nat
  lastHandledSequence : Nat
  consecutiveFailures : UInt32
  retainedFailure : Option (RetainedWriteFailure ε)

namespace StandaloneFailureState

variable (s : StandaloneFailureState ε)

/-- `new` -/
def new (generation : Nat) : StandaloneFailureState ε where
  activeGeneration := generation
  lastHandledSequence := 0
  consecutiveFailures := 0
  retainedFailure := none

/-- `activate_generation` -/
def activateGeneration (_ : StandaloneFailureState ε) (generation : Nat) : StandaloneFailureState ε where
  activeGeneration := generation
  lastHandledSequence := 0
  consecutiveFailures := 0
  retainedFailure := none

variable (id : DeviceDeliveryId)

/-- `record_success` -/
def recordSuccess : StandaloneFailureState ε :=
  if s.activeGeneration ≠ id.queueGeneration then s
  else if id.sequence ≤ s.lastHandledSequence then s
  else
    { s with
      lastHandledSequence := id.sequence
      consecutiveFailures := 0
      retainedFailure := s.retainedFailure.filter fun failure =>
        ¬ (failure.id.queueGeneration = id.queueGeneration ∧ failure.id.sequence ≤ id.sequence) }

/-- `record_failure`: the generation is looked at once more, before the lock. -/
def recordFailure (error : ε) (transient : Bool) : StandaloneFailureState ε :=
  if s.activeGeneration ≠ id.queueGeneration then s
  else if id.sequence ≤ s.lastHandledSequence then s
  else
    { s with
      lastHandledSequence := id.sequence
      consecutiveFailures := saturatingSucc32 s.consecutiveFailures
      retainedFailure := some
        { id := id
          error := error
          transient := transient
          consecutiveFailures := saturatingSucc32 s.consecutiveFailures
          acknowledged := false } }

/-- `deactivate` -/
def deactivate : StandaloneFailureState ε :=
  { s with activeGeneration := 0, retainedFailure := none }

/-- `pending_failure` -/
def pendingFailure : Option (RetainedWriteFailure ε) :=
  s.retainedFailure.filter fun failure =>
    ¬ failure.acknowledged ∧ s.activeGeneration = failure.id.queueGeneration

/-- `try_acknowledge_failure` -/
def tryAcknowledgeFailure : StandaloneFailureState ε × Bool :=
  match s.retainedFailure with
  | none => (s, false)
  | some failure =>
      if failure.id ≠ id ∨ failure.acknowledged ∨ s.activeGeneration ≠ id.queueGeneration then
        (s, false)
      else ({ s with retainedFailure := some { failure with acknowledged := true } }, true)

end StandaloneFailureState

/-- What reaches the state: receipts, acknowledgements, a new generation, the end. -/
inductive StandaloneEvent (ε : Type) where
  | success (id : DeviceDeliveryId)
  | failure (id : DeviceDeliveryId) (error : ε) (transient : Bool)
  | acknowledge (id : DeviceDeliveryId)
  | activateGeneration (generation : Nat)
  | deactivate

namespace StandaloneFailureState

def apply (s : StandaloneFailureState ε) : StandaloneEvent ε → StandaloneFailureState ε
  | .success id => s.recordSuccess id
  | .failure id error transient => s.recordFailure id error transient
  | .acknowledge id => (s.tryAcknowledgeFailure id).1
  | .activateGeneration generation => s.activateGeneration generation
  | .deactivate => s.deactivate

def run (s : StandaloneFailureState ε) (events : List (StandaloneEvent ε)) : StandaloneFailureState ε :=
  events.foldl apply s

end StandaloneFailureState

/-! ## The ledger -/

/-- A receipt that was handled. -/
structure Handled where
  id : DeviceDeliveryId
  failed : Bool
deriving DecidableEq

/-- The receipts handled in the generation, newest first, and the failures that are settled. -/
structure FailureLedger where
  generation : Nat
  handled : List Handled
  settled : List DeviceDeliveryId

namespace FailureLedger

variable (l : FailureLedger)

def new (generation : Nat) : FailureLedger := ⟨generation, [], []⟩

/-- The greatest sequence that was handled. -/
def greatest : Nat := l.handled.foldr (fun receipt seen => max receipt.id.sequence seen) 0

/-- A receipt of the generation is handled when it is above every one before it. -/
def receive (id : DeviceDeliveryId) (failed : Bool) : FailureLedger :=
  if l.generation = id.queueGeneration ∧ l.greatest < id.sequence then
    { l with handled := ⟨id, failed⟩ :: l.handled }
  else l

/-- The receipt with the greatest sequence is this failure, and it is not settled. -/
def Pending (id : DeviceDeliveryId) : Prop :=
  ⟨id, true⟩ ∈ l.handled ∧ id.sequence = l.greatest ∧ id ∉ l.settled

instance (id : DeviceDeliveryId) : Decidable (l.Pending id) := by
  unfold Pending
  infer_instance

/-- The failures since the last success. -/
def failuresSinceSuccess : Nat := (l.handled.takeWhile Handled.failed).length

/-- A pending failure is settled by its acknowledgement, and every one by the end. -/
def apply (l : FailureLedger) : StandaloneEvent ε → FailureLedger
  | .success id => l.receive id false
  | .failure id _ _ => l.receive id true
  | .acknowledge id => if l.Pending id then { l with settled := id :: l.settled } else l
  | .activateGeneration generation => .new generation
  | .deactivate =>
      { l with generation := 0, settled := l.handled.map Handled.id ++ l.settled }

def run (l : FailureLedger) (events : List (StandaloneEvent ε)) : FailureLedger :=
  events.foldl apply l

variable {l : FailureLedger}

variable {rc : Handled}

lemma le_greatest (h : rc ∈ l.handled) : rc.id.sequence ≤ l.greatest := by
  unfold greatest
  generalize l.handled = receipts at h
  induction receipts with
  | nil => cases h
  | cons head rest ih =>
    rcases mem_cons.mp h with rfl | h
    · exact le_max_left _ _
    · exact le_max_of_le_right (ih h)

/-- Later receipts are above earlier ones. -/
def Ordered (l : FailureLedger) : Prop :=
  l.handled.Pairwise fun later earlier => earlier.id.sequence < later.id.sequence

lemma greatest_cons (rc : Handled) (h : l.greatest < rc.id.sequence) :
    { l with handled := rc :: l.handled }.greatest = rc.id.sequence := by
  show max rc.id.sequence l.greatest = rc.id.sequence
  exact max_eq_left h.le

lemma Ordered.cons (hor : l.Ordered) (h : l.greatest < rc.id.sequence) :
    { l with handled := rc :: l.handled }.Ordered :=
  pairwise_cons.mpr ⟨fun _ hm => (le_greatest hm).trans_lt h, hor⟩

/-- The newest receipt is the greatest. -/
lemma Ordered.head?_eq (hor : l.Ordered) : l.handled.head? = some rc ↔
      rc ∈ l.handled ∧ rc.id.sequence = l.greatest := by
  obtain ⟨gen, receipts, settled⟩ := l
  rcases receipts with _ | ⟨newest, rest⟩
  · simp
  · obtain ⟨ha, -⟩ := pairwise_cons.mp hor
    have hn : FailureLedger.greatest ⟨gen, newest :: rest, settled⟩ = newest.id.sequence := by
      refine le_antisymm (max_le le_rfl ?_) (le_greatest (mem_cons_self ..))
      clear hor
      induction rest with
      | nil => exact Nat.zero_le _
      | cons o rest ih =>
        refine max_le (ha o (mem_cons_self ..)).le (ih fun r hr => ?_)
        exact ha r (mem_cons_of_mem _ hr)
    simp only [head?_cons, Option.some.injEq, hn]
    constructor
    · rintro rfl
      exact ⟨mem_cons_self .., rfl⟩
    · rintro ⟨hm, hs⟩
      rcases mem_cons.mp hm with rfl | hm
      · rfl
      · exact absurd hs (ha rc hm).ne

/-- A pending failure is the newest receipt. -/
lemma Ordered.pending_iff (hor : l.Ordered) {id : DeviceDeliveryId} :
    l.Pending id ↔ l.handled.head? = some ⟨id, true⟩ ∧ id ∉ l.settled := by
  rw [hor.head?_eq, and_assoc]
  rfl

end FailureLedger

/-! ## The state keeps the ledger -/

/-- What the state holds of a ledger. -/
structure Keeps (s : StandaloneFailureState ε) (l : FailureLedger) : Prop where
  ordered : l.Ordered
  settled : ∀ id ∈ l.settled, id.sequence ≤ l.greatest
  generation : s.activeGeneration = l.generation
  last : s.lastHandledSequence = l.greatest
  count : s.consecutiveFailures.toNat = min l.failuresSinceSuccess (2 ^ 32 - 1)
  retained : ∀ failure, s.retainedFailure = some failure →
    failure.id.queueGeneration = s.activeGeneration ∧
      l.handled.head? = some ⟨failure.id, true⟩ ∧
      (failure.acknowledged ↔ failure.id ∈ l.settled)
  empty : s.retainedFailure = none →
    ∀ id, l.handled.head? = some ⟨id, true⟩ → id ∈ l.settled

lemma keeps_new (g : Nat) : Keeps (StandaloneFailureState.new g : StandaloneFailureState ε) (.new g) where
  ordered := List.Pairwise.nil
  settled _ h := by cases h
  generation := rfl
  last := rfl
  count := by rfl
  retained _ h := by cases h
  empty _ _ h := by cases h

lemma toNat_saturatingSucc32 (n : UInt32) :
    (saturatingSucc32 n).toNat = min (n.toNat + 1) (2 ^ 32 - 1) := by
  unfold saturatingSucc32
  exact Nat.mod_eq_of_lt (by simp only [UInt32.size]; omega)

lemma min_succ_min (n bound : Nat) : min (min n bound + 1) bound = min (n + 1) bound := by
  omega

section Step

variable {s : StandaloneFailureState ε} {l : FailureLedger}

/-- A receipt that is not handled: of another generation, or not above the last. -/
lemma Keeps.refused (h : Keeps s l) (id : DeviceDeliveryId)
    (hr : s.activeGeneration ≠ id.queueGeneration ∨ id.sequence ≤ s.lastHandledSequence) :
    s.recordSuccess id = s ∧ (∀ e transient, s.recordFailure id e transient = s) ∧
      ∀ fl, l.receive id fl = l := by
  refine ⟨?_, fun e transient => ?_, fun fl => ?_⟩
  · unfold StandaloneFailureState.recordSuccess
    split_ifs with hg hs
    · rfl
    · rfl
    · tauto
  · unfold StandaloneFailureState.recordFailure
    split_ifs with hg hs
    · rfl
    · rfl
    · tauto
  · refine if_neg ?_
    rw [← h.generation, ← h.last]
    rintro ⟨hg, hs⟩
    rcases hr with hn | hl
    · exact hn hg
    · omega

variable {id : DeviceDeliveryId}

lemma Keeps.success (h : Keeps s l) (hge : s.activeGeneration = id.queueGeneration)
    (hs : s.lastHandledSequence < id.sequence) : Keeps (s.recordSuccess id) (l.receive id false) := by
  have ha : l.greatest < id.sequence := h.last ▸ hs
  have hre : l.receive id false = { l with handled := ⟨id, false⟩ :: l.handled } :=
    if_pos ⟨h.generation ▸ hge, ha⟩
  have hr : s.recordSuccess id = { s with
        lastHandledSequence := id.sequence
        consecutiveFailures := 0
        retainedFailure := none } := by
    unfold StandaloneFailureState.recordSuccess
    rw [if_neg (by simpa using hge), if_neg (by omega)]
    -- The failure that was retained is the newest receipt, and below this one.
    congr 1
    rw [Option.filter_eq_none_iff]
    intro fl hf
    obtain ⟨hof, hh, -⟩ := h.retained fl hf
    have hl := FailureLedger.le_greatest (h.ordered.head?_eq.mp hh).1
    simp only [decide_not, Bool.not_eq_true', decide_eq_false_iff_not, not_not]
    exact ⟨hof.trans hge, hl.trans ha.le⟩
  rw [hre, hr]
  have hg := FailureLedger.greatest_cons ⟨id, false⟩ ha
  refine ⟨h.ordered.cons ha, fun id' hi' => ?_, h.generation, hg.symm, ?_, nofun,
    fun _ id' hi' => ?_⟩
  · rw [hg]
    exact (h.settled id' hi').trans ha.le
  · simp [FailureLedger.failuresSinceSuccess]
  · simp at hi'

lemma Keeps.failure (h : Keeps s l) (hge : s.activeGeneration = id.queueGeneration)
    (hs : s.lastHandledSequence < id.sequence) (e : ε) (transient : Bool) :
    Keeps (s.recordFailure id e transient) (l.receive id true) := by
  have ha : l.greatest < id.sequence := h.last ▸ hs
  have hr : l.receive id true = { l with handled := ⟨id, true⟩ :: l.handled } :=
    if_pos ⟨h.generation ▸ hge, ha⟩
  have hg := FailureLedger.greatest_cons ⟨id, true⟩ ha
  unfold StandaloneFailureState.recordFailure
  rw [if_neg (by simpa using hge), if_neg (by omega), hr]
  refine ⟨h.ordered.cons ha, fun id' hi' => ?_, h.generation, hg.symm, ?_,
    fun fl hf => ?_, nofun⟩
  · rw [hg]
    exact (h.settled id' hi').trans ha.le
  · show (saturatingSucc32 s.consecutiveFailures).toNat = min (l.failuresSinceSuccess + 1) (2 ^ 32 - 1)
    rw [toNat_saturatingSucc32, h.count]
    exact min_succ_min _ _
  · obtain rfl := Option.some.inj hf
    refine ⟨hge.symm, rfl, iff_of_false nofun fun hm => ?_⟩
    exact absurd (h.settled id hm) (by omega)

lemma Keeps.acknowledge (h : Keeps s l) (id : DeviceDeliveryId) :
    Keeps (s.tryAcknowledgeFailure id).1 (l.apply (.acknowledge id : StandaloneEvent ε)) := by
  unfold StandaloneFailureState.tryAcknowledgeFailure FailureLedger.apply
  rcases hr : s.retainedFailure with _ | fl
  · -- Nothing is retained, so the newest receipt is settled if it failed.
    dsimp only
    rw [if_neg]
    · exact h
    · rw [h.ordered.pending_iff]
      rintro ⟨hh, hon⟩
      exact hon (h.empty hr id hh)
  · obtain ⟨hof, hh, ha⟩ := h.retained fl hr
    have hpe : l.Pending id ↔ fl.id = id ∧ fl.acknowledged = false := by
      rw [h.ordered.pending_iff, hh]
      constructor
      · rintro ⟨hi, hon⟩
        obtain rfl : fl.id = id := by simpa using hi
        exact ⟨rfl, Bool.not_eq_true _ |>.mp fun h => hon (ha.mp h)⟩
      · rintro ⟨rfl, hon⟩
        exact ⟨rfl, by rw [← ha, hon]; nofun⟩
    dsimp only
    split_ifs with hk hp hp
    · obtain ⟨rfl, hon⟩ := hpe.mp hp
      simp [hon, hof] at hk
    · exact h
    · obtain ⟨rfl, hon⟩ := hpe.mp hp
      refine ⟨h.ordered, fun id' hi' => ?_, h.generation, h.last, h.count,
        fun fl' hf' => ?_, nofun⟩
      · rcases mem_cons.mp hi' with rfl | hi'
        · exact FailureLedger.le_greatest (h.ordered.head?_eq.mp hh).1
        · exact h.settled id' hi'
      · obtain rfl := Option.some.inj hf'
        exact ⟨hof, hh, iff_of_true rfl (mem_cons_self ..)⟩
    · refine absurd (hpe.mpr ?_) hp
      simp only [ne_eq, not_or, not_not, Bool.not_eq_true] at hk
      exact ⟨hk.1, hk.2.1⟩

lemma Keeps.deactivate (h : Keeps s l) :
    Keeps s.deactivate (l.apply (.deactivate : StandaloneEvent ε)) := by
  refine ⟨h.ordered, fun id hi => ?_, rfl, h.last, h.count, nofun, fun _ id hh => ?_⟩
  · rcases mem_append.mp hi with hi | hi
    · obtain ⟨rc, hr, rfl⟩ := mem_map.mp hi
      exact FailureLedger.le_greatest hr
    · exact h.settled id hi
  · have hm := (h.ordered.head?_eq.mp hh).1
    exact mem_append_left _ (mem_map.mpr ⟨_, hm, rfl⟩)

end Step

variable {s : StandaloneFailureState ε} {l : FailureLedger}

/-- **One event.** -/
theorem Keeps.apply (h : Keeps s l) (ev : StandaloneEvent ε) : Keeps (s.apply ev) (l.apply ev) := by
  cases ev with
  | success id =>
    by_cases hh : s.activeGeneration = id.queueGeneration ∧ s.lastHandledSequence < id.sequence
    · exact h.success hh.1 hh.2
    · obtain ⟨hs, -, hl⟩ := h.refused id (by omega)
      simpa only [StandaloneFailureState.apply, FailureLedger.apply, hs, hl] using h
  | failure id e transient =>
    by_cases hh : s.activeGeneration = id.queueGeneration ∧ s.lastHandledSequence < id.sequence
    · exact h.failure hh.1 hh.2 e transient
    · obtain ⟨-, hs, hl⟩ := h.refused id (by omega)
      simpa only [StandaloneFailureState.apply, FailureLedger.apply, hs, hl] using h
  | acknowledge id => exact h.acknowledge id
  | activateGeneration gen => exact keeps_new gen
  | deactivate => exact h.deactivate

lemma Keeps.run (h : Keeps s l) (es : List (StandaloneEvent ε)) : Keeps (s.run es) (l.run es) := by
  induction es generalizing s l with
  | nil => exact h
  | cons e es ih => exact ih (h.apply e)

/-- What is pending is the failure of the ledger that is not settled. -/
lemma Keeps.pending_iff (h : Keeps s l) (id : DeviceDeliveryId) :
    (∃ fl, s.pendingFailure = some fl ∧ fl.id = id) ↔ l.Pending id := by
  rw [h.ordered.pending_iff]
  simp only [StandaloneFailureState.pendingFailure, Option.filter_eq_some_iff,
    Bool.decide_and, Bool.and_eq_true, decide_eq_true_eq]
  constructor
  · rintro ⟨fl, ⟨hr, hon, -⟩, rfl⟩
    obtain ⟨-, hh, ha⟩ := h.retained fl hr
    exact ⟨hh, fun hs => hon (ha.mpr hs)⟩
  · rintro ⟨hh, hon⟩
    rcases hr : s.retainedFailure with _ | fl
    · exact absurd (h.empty hr id hh) hon
    · obtain ⟨hof, hh', ha⟩ := h.retained fl hr
      obtain rfl : fl.id = id := by simpa using hh'.symm.trans hh
      exact ⟨fl, ⟨rfl, fun h => hon (ha.mp h), hof.symm⟩, rfl⟩

/-- **The failures of standalone deliveries, along every run.** -/
theorem standalone_failures (generation : Nat) (events : List (StandaloneEvent ε)) :
    let s := (StandaloneFailureState.new generation).run events
    let l := (FailureLedger.new generation).run events
    (∀ id, s.activeGeneration ≠ id.queueGeneration ∨ id.sequence ≤ s.lastHandledSequence →
        s.recordSuccess id = s ∧ ∀ error transient, s.recordFailure id error transient = s) ∧
      s.lastHandledSequence = l.greatest ∧
      s.consecutiveFailures.toNat = min l.failuresSinceSuccess (2 ^ 32 - 1) ∧
      ∀ id, (∃ failure, s.pendingFailure = some failure ∧ failure.id = id) ↔ l.Pending id := by
  intro s l
  have hk : Keeps s l := (keeps_new generation).run events
  refine ⟨fun id hr => ?_, hk.last, hk.count, hk.pending_iff⟩
  obtain ⟨hs, hf, -⟩ := hk.refused id hr
  exact ⟨hs, hf⟩

/-- Deliveries that fail one after the other. -/
def failing : Nat → List (StandaloneEvent Unit)
  | 0 => []
  | n + 1 => failing n ++ [.failure ⟨1, n + 1⟩ () false]

lemma run_failing (n : Nat) : ((FailureLedger.new 1).run (failing n)).generation = 1 ∧
      ((FailureLedger.new 1).run (failing n)).greatest = n ∧
      ((FailureLedger.new 1).run (failing n)).failuresSinceSuccess = n := by
  induction n with
  | zero => exact ⟨rfl, rfl, rfl⟩
  | succ n ih =>
    obtain ⟨hg, hgr, hf⟩ := ih
    have hr : (FailureLedger.new 1).run (failing (n + 1)) =
        ((FailureLedger.new 1).run (failing n)).receive ⟨1, n + 1⟩ true := by
      simp [FailureLedger.run, failing, FailureLedger.apply]
    have ha : ((FailureLedger.new 1).run (failing n)).greatest < n + 1 := by omega
    rw [hr, FailureLedger.receive, if_pos ⟨hg, ha⟩]
    refine ⟨hg, FailureLedger.greatest_cons _ ha, ?_⟩
    show (FailureLedger.failuresSinceSuccess _) + 1 = n + 1
    rw [hf]

/-- An acknowledged failure is retained, and `2 ^ 32` failures are counted as one less. -/
theorem acknowledged_retained : (¬ ∀ events : List (StandaloneEvent Unit),
      ((StandaloneFailureState.new 1).run events).retainedFailure.isSome ↔
        ∃ id, ((FailureLedger.new 1).run events).Pending id) ∧ ¬ ∀ events : List (StandaloneEvent Unit),
      ((StandaloneFailureState.new 1).run events).consecutiveFailures.toNat =
        ((FailureLedger.new 1).run events).failuresSinceSuccess := by
  constructor
  · intro h
    obtain ⟨id, hm, -, hon⟩ := (h [.failure ⟨1, 1⟩ () false, .acknowledge ⟨1, 1⟩]).mp (by decide)
    obtain rfl : id = ⟨1, 1⟩ := by
      simpa [FailureLedger.run, FailureLedger.apply, FailureLedger.receive, FailureLedger.new,
        FailureLedger.greatest, FailureLedger.Pending] using hm
    revert hon
    decide
  · intro h
    have hc := h (failing (2 ^ 32))
    rw [(run_failing (2 ^ 32)).2.2] at hc
    exact absurd (UInt32.toNat_lt _) (by rw [hc]; exact lt_irrefl _)

lemma mem_settled_apply {id} (h : id ∈ l.settled) {e : StandaloneEvent ε}
    (hg : ∀ g, e ≠ .activateGeneration g) : id ∈ (l.apply e).settled := by
  cases e with
  | activateGeneration g => exact absurd rfl (hg g)
  | deactivate => exact mem_append_right _ h
  | _ =>
    simp only [FailureLedger.apply, FailureLedger.receive]
    split_ifs <;> simp [h]

/-- **A failure that was acknowledged** is not pending again before a generation begins. -/
theorem acknowledged_once {g id} {events later : List (StandaloneEvent ε)}
    (hp : ∃ f, ((StandaloneFailureState.new g).run events).pendingFailure = some f ∧ f.id = id)
    (hg : ∀ e ∈ later, ∀ g, e ≠ .activateGeneration g) :
    ¬ ∃ f, ((StandaloneFailureState.new g).run
      (events ++ .acknowledge id :: later)).pendingFailure = some f ∧
      f.id = id := by
  rw [((keeps_new g).run _).pending_iff] at hp ⊢
  have hs : id ∈
      (((FailureLedger.new g).run events).apply (.acknowledge id : StandaloneEvent ε)).settled := by
    simp [FailureLedger.apply, hp]
  rw [FailureLedger.run, foldl_append, foldl_cons]
  exact fun h => h.2.2 <| foldlRecOn (motive := fun l : FailureLedger => id ∈ l.settled) _ _ hs
    fun _ hl e he => mem_settled_apply hl (hg e he)

/-- An acknowledged failure that is received again. -/
theorem acknowledged_once_first : ¬ ∃ f, ((StandaloneFailureState.new 1).run [.failure ⟨1, 1⟩ () false,
    .acknowledge ⟨1, 1⟩, .failure ⟨1, 1⟩ () true]).pendingFailure = some f ∧ f.id = ⟨1, 1⟩ :=
  @acknowledged_once _ 1 _ [_] [_] ⟨_, rfl, rfl⟩ (by simp)

end Hypercolor.Device
