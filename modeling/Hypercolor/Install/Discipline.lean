import Hypercolor.Install.Steps

/-!
# Journal discipline

Whatever the platform does, as long as its exact-state test is true of a checkpoint only at the layout
index of that checkpoint (`LayoutExact`), in every run of installs and recoveries, each cut anywhere:

* every journal that reaches the disk is valid, is a new transaction's first or succeeds the journal
  it replaces by one revision, and its disposition has moved only as `DispositionMove` says;
* every `advance` moves the journal, unless the revision is at its end or the owner receipt the
  platform handed over is of another platform than the transaction's record (`Advance.Accepted`).

This is **`journal_discipline`**. Both parts stand after every single call, so also where a run is
cut. The receipt's exception is real, **`advance_refused_for_receipt`**: the coordinator checks a
receipt by itself when it takes it, and leaves its platform to the journal's `validate`.
-/

namespace Hypercolor.Install

open Lib Attempt InstallJournalV1 InstallAction

/-! ## What is kept -/

/-- How a journal's disposition may differ from the one of the journal it replaces. -/
inductive DispositionMove (old new : InstallJournalV1) : Prop where
  | forward (ho : old.disposition = .forward) (hn : new.disposition = .forward)
  | enter (ho : old.disposition = .forward) (hn : new.disposition = .rollback)
  | commit (ho : old.disposition = .forward) (hn : new.disposition = .committed)
  | abandon (ho : old.disposition = .forward) (hn : new.disposition = .rolledBack)
      (ha : new.abandoned)
  | rollback (ho : old.disposition = .rollback) (hn : new.disposition = .rollback)
  | finish (ho : old.disposition = .rollback) (hn : new.disposition = .rolledBack)

/-- The next journal of the same transaction. -/
structure Succeeds (old new : InstallJournalV1) : Prop where
  plan : SamePlan old new
  revision : new.revision = old.revision + 1
  move : DispositionMove old new

/-- A journal is the first of a transaction, begun when none was under way, or succeeds the one it
replaces. -/
inductive Follows (replaced : Option InstallJournalV1) (journal : InstallJournalV1) : Prop where
  | fresh (h : journal.Fresh) (hidle : ∀ old, replaced = some old → old.pending = false)
  | next (old : InstallJournalV1) (ho : replaced = some old) (h : Succeeds old journal)

/-- An `advance` that moved the journal, or was refused for its revision or for a receipt of another
platform. -/
def Advance.Accepted (a : Advance) : Prop :=
  a.result = .ok (a.journal.advanced a.disposition a.nextAction) ∨
  a.result = .error .journalRevisionOverflow ∨
  (¬ a.journal.ReceiptMatches ∧ a.result = .error .invalidOwnerReceipt)

variable {X α : Type}

/-- Everything written and every advance so far is in order. -/
structure Disciplined (w : World X) : Prop where
  written : ∀ e ∈ w.written, e.journal.validate = .ok () ∧ Follows e.replaced e.journal
  advances : ∀ a ∈ w.advances, a.Accepted

/-- In order, with this journal on the disk. -/
structure Holds (stored : Option InstallJournalV1) (w : World X) : Prop where
  stored : w.journal = stored
  disciplined : Disciplined w

/-- The exact-state test of a record is true of a checkpoint only at the layout index of that
checkpoint, once a plan with that record and that number of layout operations was accepted. -/
def LayoutExact (P : InstallPlatform X) : Prop :=
  ∀ prior target transitions count record x x',
    P.call (.validateTransactionPlan prior target transitions count record) x (.ok ()) x' →
    ∀ checkpoint expected index receipt y y',
      P.call (.matchesExactState checkpoint expected index record receipt) y (.ok true) y' →
      checkpoint.requires count index

/-- Quiet calls, with the answers this platform and the disk can give. -/
def quietCalls (P : InstallPlatform X) : Contract calls where
  allowed := InstallCall.quiet
  answers c answer := ∃ w w', World.step P c w answer w'

lemma allowsQuiet (P : InstallPlatform X) : AllowsQuiet (quietCalls P) := fun _ => id

variable {P : InstallPlatform X} {w : World X} {stored : Option InstallJournalV1}
  {journal old : InstallJournalV1}

variable {Q : α → Prop}

/-- A quiet program keeps everything in order. -/
lemma safe_of_within {ε : Type} {E : ε → Prop} {x : Coord ε α}
    (hx : x.Within (quietCalls P) Q E) (hw : Holds stored w) :
    x.Safe (World.step P) Disciplined (fun a t => Q a ∧ Holds stored t)
      (fun e t => E e ∧ Holds stored t) w := by
  refine Within.safe hx (fun c s b t hc hB hJ => ⟨⟨s, t, hB⟩, ?_⟩) (fun t ht => ht.disciplined) hw
  obtain ⟨hj, hwr, ha⟩ := World.step_quiet hc hB
  refine ⟨hj.trans hJ.stored, ?_, ?_⟩
  · rw [hwr]
    exact hJ.disciplined.written
  · rw [ha]
    exact hJ.disciplined.advances

/-! ## Advancing and writing -/

variable {disposition : InstallDisposition} {nextAction : Option InstallAction}

/-- Advancing a sound journal to an action that fits. -/
lemma safe_advance (hs : journal.Sound) (hf : journal.Fits disposition nextAction)
    (hw : Holds stored w) : (advance journal disposition nextAction).Safe (World.step P) Disciplined
      (fun next t => next = journal.advanced disposition nextAction ∧ next.Valid ∧ Holds stored t)
      (fun e t => e.Ordinary ∧ Disciplined t) w := by
  rintro an t ⟨han, rfl⟩
  have hc := advance_cases hs hf
  rw [← han] at hc
  have hac : Disciplined { w with advances := w.advances ++
      [⟨journal, disposition, nextAction, an⟩] } := by
    refine ⟨hw.disciplined.written, fun a ha => ?_⟩
    rcases List.mem_append.mp ha with ha | ha
    · exact hw.disciplined.advances a ha
    · rw [List.mem_singleton.mp ha]
      rcases hc with h | h | h
      · exact .inr (.inl h)
      · exact .inr (.inr h)
      · exact .inl h.2
  refine ⟨hac, safe_mapErr.mpr (safe_ofExcept.mpr ?_)⟩
  rcases hc with rfl | ⟨-, rfl⟩ | ⟨hm, rfl⟩
  · exact ⟨nofun, hac⟩
  · exact ⟨nofun, hac⟩
  · exact ⟨rfl, valid_advanced hs hm hf, hw.stored, hac⟩

/-- Writing a journal that follows the stored one. -/
lemma safe_writeJournal (hf : Follows stored journal) (hw : Holds stored w) :
    (writeJournal journal).Safe (World.step P) Disciplined
      (fun _ t => journal.Valid ∧ Holds (some journal) t) (fun _ t => Disciplined t) w := by
  refine safe_bind.mpr (safe_mapErr.mpr (safe_ofExcept.mpr ?_))
  rcases hv : journal.validate with e | ⟨⟩
  · exact hw.disciplined
  · have hwr : Disciplined { w with
        journal := some journal
        written := w.written ++ [⟨w.journal, journal⟩]
        proof := if journal.revision = 1 then none else w.proof } := by
      refine ⟨fun e he => ?_, hw.disciplined.advances⟩
      rcases List.mem_append.mp he with he | he
      · exact hw.disciplined.written e he
      · rw [List.mem_singleton.mp he]
        exact ⟨hv, hw.stored ▸ hf⟩
    rintro an t (rfl | ⟨⟨err, rfl⟩, rfl⟩)
    · refine ⟨hwr, safe_ofExcept.mpr ?_⟩
      rcases an with e | ⟨⟩
      · exact hwr
      · exact ⟨validate_eq_ok.mp hv, rfl, hwr⟩
    · exact ⟨hw.disciplined, hw.disciplined⟩

/-- A journal with other forced stops. -/
structure SameButForced (journal next : InstallJournalV1) : Prop where
  plan : SamePlan journal next
  revision : next.revision = journal.revision
  disposition : next.disposition = journal.disposition
  action : next.nextAction = journal.nextAction
  index : next.layoutOperationIndex = journal.layoutOperationIndex
  abandoned : next.abandoned = journal.abandoned
  receipt : next.candidateOwnerReceipt = journal.candidateOwnerReceipt

lemma sameButForced_withForcedStop (journal : InstallJournalV1) (forced : Option UnitId) :
    SameButForced journal (journal.withForcedStop forced) := by
  rcases forced with _ | unit
  · exact ⟨.rfl, rfl, rfl, rfl, rfl, rfl, rfl⟩
  · by_cases h : journal.forcedStops.contains unit
    · rw [withForcedStop, if_pos h]
      exact ⟨.rfl, rfl, rfl, rfl, rfl, rfl, rfl⟩
    · rw [withForcedStop, if_neg h]
      exact ⟨⟨rfl, rfl, rfl, rfl, rfl, rfl, rfl⟩, rfl, rfl, rfl, rfl, rfl, rfl⟩

lemma Succeeds.forced {next : InstallJournalV1} (h : Succeeds old journal)
    (hn : SameButForced journal next) : Succeeds old next := by
  refine ⟨h.plan.trans hn.plan, hn.revision.trans h.revision, ?_⟩
  rcases h.move with ⟨ho, hj⟩ | ⟨ho, hj⟩ | ⟨ho, hj⟩ | ⟨ho, hj, ha⟩ | ⟨ho, hj⟩ | ⟨ho, hj⟩
  · exact .forward ho (hn.disposition.trans hj)
  · exact .enter ho (hn.disposition.trans hj)
  · exact .commit ho (hn.disposition.trans hj)
  · exact .abandon ho (hn.disposition.trans hj) (hn.abandoned.trans ha)
  · exact .rollback ho (hn.disposition.trans hj)
  · exact .finish ho (hn.disposition.trans hj)

/-- Persisting a journal that succeeds the stored one. -/
lemma safe_persist (hf : Succeeds old journal) (hw : Holds (some old) w) :
    (persist journal).Safe (World.step P) Disciplined
      (fun next t => SameButForced journal next ∧ next.Valid ∧ Holds (some next) t)
      (fun e t => e.Ordinary ∧ Disciplined t) w := by
  rintro forced t ⟨x, -, rfl⟩
  have hd : Disciplined { w with site := x } := ⟨hw.disciplined.written, hw.disciplined.advances⟩
  have hw' : Holds (some old) { w with site := x } := ⟨hw.stored, hd⟩
  have hs := sameButForced_withForcedStop journal forced
  refine ⟨hd, safe_bind.mpr (safe_mapErr.mpr ?_)⟩
  refine (safe_writeJournal (.next old rfl (hf.forced hs)) hw').mono (fun _ t ht => ?_)
    fun e t ht => ?_
  · exact ⟨hs, ht⟩
  · exact ⟨nofun, ht⟩

/-! ## One turn of a loop -/

/-- How a program of the coordinator fails. -/
def Ends (e : InstallCoordinatorError) (t : World X) : Prop := e.Ordinary ∧ Disciplined t

variable {x : Coord InstallCoordinatorError α}

/-- A quiet program before the rest. -/
lemma safe_quiet {β : Type} {R : β → World X → Prop} {f : α → Coord InstallCoordinatorError β}
    (hx : x.Within (quietCalls P) Q InstallCoordinatorError.Ordinary) (hw : Holds stored w)
    (hf : ∀ a t, Q a → Holds stored t → (f a).Safe (World.step P) Disciplined R Ends t) :
    (x >>= f).Safe (World.step P) Disciplined R Ends w := by
  refine safe_bind.mpr ((safe_of_within hx hw).mono ?_ ?_)
  · rintro a t ⟨hQ, ht⟩
    exact hf a t hQ ht
  · rintro e t ⟨he, ht⟩
    exact ⟨he, ht.disciplined⟩

/-- The journal after an advance and a write. -/
structure Recorded (journal : InstallJournalV1) (disposition : InstallDisposition)
    (nextAction : Option InstallAction) (next : InstallJournalV1) : Prop where
  valid : next.Valid
  plan : SamePlan journal next
  disposition : next.disposition = disposition
  action : next.nextAction = nextAction
  index : next.layoutOperationIndex = journal.layoutOperationIndex

lemma samePlan_advanced : SamePlan journal (journal.advanced disposition nextAction) :=
  ⟨rfl, rfl, rfl, rfl, rfl, rfl, rfl⟩

lemma succeeds_advanced (hp : SamePlan old journal) (hr : journal.revision = old.revision)
    (hm : DispositionMove old (journal.advanced disposition nextAction)) :
    Succeeds old (journal.advanced disposition nextAction) :=
  ⟨hp.trans samePlan_advanced, congrArg (· + 1) hr, hm⟩

variable {R : α → World X → Prop}

/-- Advance, persist, and go on from the journal written. -/
lemma safe_record {f : InstallJournalV1 → Coord InstallCoordinatorError α} (hs : journal.Sound)
    (hf : journal.Fits disposition nextAction) (hp : SamePlan old journal)
    (hr : journal.revision = old.revision)
    (hm : DispositionMove old (journal.advanced disposition nextAction)) (hw : Holds (some old) w)
    (hn : ∀ next t, Recorded journal disposition nextAction next → Holds (some next) t → (f
      next).Safe (World.step P) Disciplined R Ends t) :
    (advance journal disposition nextAction >>= fun next => persist next >>= f).Safe (World.step P)
      Disciplined R Ends w := by
  refine safe_bind.mpr ((safe_advance hs hf hw).mono ?_ fun e t h => h)
  rintro _ t ⟨rfl, -, ht⟩
  have hsu := succeeds_advanced hp hr hm
  refine safe_bind.mpr ((safe_persist hsu ht).mono ?_ fun e t h => h)
  rintro next u ⟨hfo, hv, hu⟩
  exact hn next u ⟨hv, samePlan_advanced.trans hfo.plan, hfo.disposition, hfo.action, hfo.index⟩ hu

/-! ## Rollback -/

/-- What a turn of `drive_rollback` leaves: nearer its end, or ended. -/
def RollbackStep.Kept (journal : InstallJournalV1) (left : Nat) : RollbackStep → World X → Prop
  | .again next _ restartedPrior, t => Holds (some next) t ∧ SamePlan journal next ∧
      ∃ action, AtAction next .rollback action ∧
        rollbackLeft next.layoutOperationIndex action restartedPrior < left
  | .done _, t => Disciplined t

variable {action next : InstallAction} {left index fuel : Nat} {restored : Option RestoredRelease}
  {restartedPrior : Bool}

lemma safe_rollbackTo (hold : AtAction old .rollback action) (hp : SamePlan old journal)
    (hr : journal.revision = old.revision) (hs : journal.Sound) (hf : journal.Fits .rollback (some next))
    (hl : rollbackLeft journal.layoutOperationIndex next restartedPrior < left)
        (hw : Holds (some old) w) :
    (rollbackTo journal next restored restartedPrior).Safe (World.step P) Disciplined
      (RollbackStep.Kept old left) Ends w := by
  refine safe_record hs hf hp hr (.rollback hold.disposition rfl) hw ?_
  intro wr t hwr ht
  refine safe_pure.mpr ⟨ht, hp.trans hwr.plan, next, ?_, ?_⟩
  · exact ⟨hwr.valid, hwr.disposition, hwr.action⟩
  · rw [hwr.index]
    exact hl

lemma ofRollback_ordinary {A : Prop} (e : StepError) (h : e.Ordinary A) : e.ofRollback.Ordinary := by
  rcases e with err | err | detail
  · exact h
  · exact h
  · exact nofun

lemma nextRollback_left (h : nextRollback action = .ok next) :
    rollbackLeft index next restartedPrior < rollbackLeft index action restartedPrior := by
  cases action <;> cases h <;> simp [rollbackLeft, rollbackRank]

variable {e : InstallCoordinatorError}

lemma nextRollback_ordinary (h : nextRollback action = .error e) : e.Ordinary := by
  cases action <;> cases h <;> exact nofun

lemma safe_rollbackActionStep (h : AtAction journal .rollback action) (hw : Holds (some journal) w) :
    (rollbackActionStep journal action restored restartedPrior).Safe (World.step P) Disciplined
      (RollbackStep.Kept journal (rollbackLeft journal.layoutOperationIndex action restartedPrior))
      Ends w := by
  have hq := allowsQuiet P
  unfold rollbackActionStep
  split
  · next hl =>
    subst hl
    refine safe_quiet ((calm_reconcileLayoutOperation hq _ _).mapErr ofRollback_ordinary) hw
      fun _ t _ ht => ?_
    refine safe_quiet (Q := fun next => if journal.layoutOperationIndex - 1 = 0 then
      next = .reloadPriorManager else next = .restorePriorLayout) ?_ ht fun next u hne hu => ?_
    · split
      · exact rfl
      · exact rfl
    · refine safe_rollbackTo h ⟨rfl, rfl, rfl, rfl, rfl, rfl, rfl⟩ rfl (sound_layoutRollback h)
        (fits_layoutRollback h hne) ?_ hu
      split at hne <;> subst hne <;>
        simp [rollbackLeft, rollbackRank] <;> omega
  · next hl =>
    refine safe_quiet ((calm_reconcileAction hq _ _).mapErr ofRollback_ordinary) hw
      fun _ t _ ht => ?_
    refine safe_quiet (Q := fun _ => True) ?_ ht fun restored u _ hu => ?_
    · exact Calm.ite
        (Calm.bind (within_ask.mpr ⟨trivial, fun _ _ => trivial⟩) fun _ => Calm.pure) Calm.pure
    · refine safe_quiet (Q := fun next => nextRollback action = .ok next) ?_ hu
        fun next v hne hv => ?_
      · rcases hn : nextRollback action with e | next
        · exact nextRollback_ordinary hn
        · exact rfl
      · exact safe_rollbackTo h .rfl rfl h.valid.sound (fits_nextRollback h hl hne)
          (nextRollback_left hne) hv

/-- One turn of `drive_rollback`. -/
lemma safe_rollbackStep (h : AtAction journal .rollback action) (hw : Holds (some journal) w) :
    (rollbackStep journal restored restartedPrior).Safe (World.step P) Disciplined
      (RollbackStep.Kept journal (rollbackLeft journal.layoutOperationIndex action restartedPrior))
      Ends w := by
  unfold rollbackStep
  rw [h.action]
  refine safe_quiet (Q := fun lost => lost = true → action = .provePrior ∧ restartedPrior = false)
    ?_ hw fun lost t hlo ht => ?_
  · refine Within.ite (fun hc => ?_) fun _ => within_pure.mpr Bool.noConfusion
    refine (calm_priorRuntimeLost (allowsQuiet P) journal).mono (fun _ _ _ => ?_) fun _ => id
    exact ⟨hc.1, by simpa using hc.2⟩
  · split
    · next hl =>
      obtain ⟨rfl, rfl⟩ := hlo hl
      refine safe_rollbackTo h .rfl rfl h.valid.sound (fits_restartPrior h) ?_ ht
      simp only [rollbackLeft, rollbackRank, if_true, Bool.false_eq_true, if_false]
      omega
    · split
      · next hf =>
        subst hf
        refine safe_record h.valid.sound (fits_finish h) .rfl rfl (.finish h.disposition rfl) ht ?_
        intro next u _ hu
        exact safe_pure.mpr hu.disciplined
      · exact safe_rollbackActionStep h ht

/-- The loop of `drive_rollback`, with enough fuel. -/
lemma safe_rollbackLoop (h : AtAction journal .rollback action) (hw : Holds (some journal) w)
    (hf : rollbackLeft journal.layoutOperationIndex action restartedPrior < fuel) :
    (rollbackLoop fuel journal restored restartedPrior).Safe (World.step P) Disciplined
      (fun _ t => Disciplined t) Ends w := by
  induction fuel generalizing journal action restored restartedPrior w with
  | zero => exact absurd hf (Nat.not_lt_zero _)
  | succ fuel ih =>
    refine safe_bind.mpr ((safe_rollbackStep h hw).mono ?_ fun e t he => he)
    rintro (⟨next, restored', restartedPrior'⟩ | outcome) t ht
    · obtain ⟨hh, -, action', ha, hl⟩ := ht
      exact ih ha hh (by omega)
    · exact ht

lemma safe_driveRollback (h : AtAction journal .rollback action) (hw : Holds (some journal) w) :
    (driveRollback journal).Safe (World.step P) Disciplined (fun _ t => Disciplined t) Ends w := by
  refine safe_quiet (Q := fun _ => True) (within_ask.mpr ⟨trivial, fun _ _ => trivial⟩) hw
    fun _ t _ ht => ?_
  refine safe_rollbackLoop h ht ?_
  cases action <;> simp [rollbackLeft, rollbackFuel, rollbackRank] <;> omega

/-! ## Forward -/

/-- What a turn of `drive_forward` leaves: nearer its end, at a rollback action, or ended. -/
def ForwardStep.Kept (journal : InstallJournalV1) (left : Nat) : ForwardStep → World X → Prop
  | .again next, t => Holds (some next) t ∧ SamePlan journal next ∧
      ∃ action, AtAction next .forward action ∧
        forwardLeft next.layoutOperationCount next.layoutOperationIndex action < left
  | .rollback next, t => Holds (some next) t ∧ ∃ action, AtAction next .rollback action
  | .done _, t => Disciplined t

lemma safe_forwardTo (hold : AtAction old .forward action) (hp : SamePlan old journal)
    (hr : journal.revision = old.revision) (hs : journal.Sound) (hf : journal.Fits .forward (some next))
    (hl : forwardLeft journal.layoutOperationCount journal.layoutOperationIndex next < left)
    (hw : Holds (some old) w) :
    (forwardTo journal next).Safe (World.step P) Disciplined (ForwardStep.Kept old left) Ends w := by
  refine safe_record hs hf hp hr (.forward hold.disposition rfl) hw ?_
  intro wr t hwr ht
  refine safe_pure.mpr ⟨ht, hp.trans hwr.plan, next, ?_, ?_⟩
  · exact ⟨hwr.valid, hwr.disposition, hwr.action⟩
  · rw [hwr.index, hwr.plan.count]
    exact hl

variable {detail : String}

/-- Entering rollback from a forward action. -/
lemma safe_failTo (hold : AtAction old .forward action) (hp : SamePlan old journal)
    (hr : journal.revision = old.revision) (ha : journal.abandoned = old.abandoned)
    (hs : journal.Sound) (he : Enters journal next)
    (hre : next = .unloadCandidateRuntime → journal.targetPlatform.runningUnit.isSome
      → journal.candidateOwnerReceipt.isSome) (hw : Holds (some old) w) :
    (failTo journal (truncateDetail detail) next).Safe (World.step P) Disciplined
      (ForwardStep.Kept old left) Ends w := by
  have hn : journal.abandoned = false := ha.trans hold.not_abandoned
  have hp' : SamePlan old { journal with failure := some (truncateDetail detail) } :=
    ⟨hp.transaction, hp.prior, hp.candidate, hp.priorPlatform, hp.target, hp.record, hp.count⟩
  refine safe_record (hs.failed (truncateDetail_size detail)) (fits_enter hn he hre)
    hp' hr (.enter hold.disposition rfl) hw ?_
  intro wr t hwr ht
  refine safe_pure.mpr ⟨ht, next, ?_⟩
  exact ⟨hwr.valid, hwr.disposition, hwr.action⟩

/-- Abandoning a transaction that has changed nothing. -/
lemma safe_abandon (h : AtAction journal .forward action) (ha : Abandonable journal)
    (hw : Holds (some journal) w) :
    (abandon journal detail).Safe (World.step P) Disciplined (fun _ t => Disciplined t) Ends w := by
  have hs : { journal with failure := some (truncateDetail detail), abandoned := true }.Sound :=
    { h.valid.sound.failed (truncateDetail_size detail) with }
  refine safe_bind.mpr ((safe_advance hs (fits_abandon ha) hw).mono ?_ fun e t he => he)
  rintro _ t ⟨rfl, -, ht⟩
  have hsu : Succeeds journal
      ({ journal with failure := some (truncateDetail detail), abandoned := true }.advanced
        .rolledBack none) :=
    ⟨⟨rfl, rfl, rfl, rfl, rfl, rfl, rfl⟩, rfl, .abandon h.disposition rfl rfl⟩
  refine safe_bind.mpr (safe_mapErr.mpr ?_)
  refine (safe_writeJournal (.next journal rfl hsu) ht).mono (fun _ u hu => ?_) fun e u hu => ?_
  · exact safe_pure.mpr hu.2.disciplined
  · exact ⟨nofun, hu⟩

lemma nextForward_left {ct : Nat} (h : nextForward action = .ok next) :
    forwardLeft ct index next < forwardLeft ct index action := by
  cases action <;> cases h <;> simp [forwardLeft, forwardRank]

lemma nextForward_ordinary (h : nextForward action = .error e) : e.Ordinary := by
  cases action <;> cases h <;> exact nofun

lemma safe_forwardLayoutStep (h : AtAction journal .forward .installCandidateLayout)
    (hw : Holds (some journal) w) : (forwardLayoutStep journal).Safe (World.step P) Disciplined
      (ForwardStep.Kept journal (forwardLeft journal.layoutOperationCount
        journal.layoutOperationIndex .installCandidateLayout)) Ends w := by
  have hqt := allowsQuiet P
  have hl : journal.layoutOperationIndex < journal.layoutOperationCount := by
    simpa [layoutCursorMatchesAction] using h.fits.cursor
  have hq : (outcome (reconcileLayoutOperation journal true)).Within (quietCalls P)
      (fun r => ∀ e, r = .error e → e.Ordinary False) InstallCoordinatorError.Ordinary := by
    refine Within.outcome (Within.mono (calm_reconcileLayoutOperation hqt journal true) ?_ ?_)
    · rintro _ _ e ⟨⟩
    · rintro e he _ ⟨⟩
      exact he
  refine safe_quiet hq hw fun r t hr ht => ?_
  rcases r with e | ⟨⟩
  · have he := hr e rfl
    rcases e with error | error | detail
    · -- the operation failed: roll back what is done of the layout
      refine safe_quiet (reconcileForwardLayoutProgressAfterError_within hqt journal) ht ?_
      rintro progressed u (rfl | rfl) hu
      · refine safe_failTo h .rfl rfl rfl h.valid.sound ?_ ?_ hu
        · split
          · next h0 =>
            exact ⟨rfl, by simpa [layoutCursorMatchesAction] using h0⟩
          · next h0 =>
            refine ⟨rfl, ?_⟩
            simp only [layoutCursorMatchesAction, decide_eq_true_eq]
            omega
        · split <;> simp
      · refine safe_failTo h ⟨rfl, rfl, rfl, rfl, rfl, rfl, rfl⟩ rfl rfl (sound_layoutForward h) ?_ ?_ hu
        · refine ⟨rfl, ?_⟩
          simp [layoutCursorMatchesAction]
        · simp
    · exact ⟨he, ht.disciplined⟩
    · exact he.elim
  · refine safe_quiet (Q := fun next => if journal.layoutOperationIndex + 1 =
      journal.layoutOperationCount then next = .installCandidateLauncher
      else next = .installCandidateLayout) ?_ ht fun next u hn hu => ?_
    · split
      · exact rfl
      · exact rfl
    · refine safe_forwardTo h ⟨rfl, rfl, rfl, rfl, rfl, rfl, rfl⟩ rfl (sound_layoutForward h)
        (fits_layoutForward h hn) ?_ hu
      split at hn <;> subst hn <;>
        simp only [forwardLeft, forwardRank] <;> omega

/-- The exact-state test of this journal's record is exact about its layout. -/
def JournalExact (P : InstallPlatform X) (journal : InstallJournalV1) : Prop :=
  ExactAnswers (quietCalls P) journal.platformRecord journal.layoutOperationCount

lemma JournalExact.of_samePlan {next : InstallJournalV1} (h : JournalExact P journal)
    (hp : SamePlan journal next) : JournalExact P next := by
  unfold JournalExact
  rw [hp.record, hp.count]
  exact h

section

variable (hexact : JournalExact P journal) (h : AtAction journal .forward action)
include hexact h

lemma safe_forwardActionStep (hl : action ≠ .installCandidateLayout) (hw : Holds (some journal) w) :
    (forwardActionStep journal action).Safe (World.step P) Disciplined (ForwardStep.Kept journal
        (forwardLeft journal.layoutOperationCount journal.layoutOperationIndex action)) Ends w := by
  have hqt := allowsQuiet P
  have hq : (outcome (reconcileForward journal action)).Within (quietCalls P) (fun r => match r with
        | .ok next => action ≠ .restoreCandidateRuntime ∧ next = journal ∨
            action = .restoreCandidateRuntime ∧ Captured journal next
        | .error e => e.Ordinary (Abandonable journal)) InstallCoordinatorError.Ordinary :=
    Within.outcome (reconcileForward_within hqt journal action)
  refine safe_quiet hq hw fun r t hr ht => ?_
  rcases r with e | next
  · rcases e with err | err | detail
    · -- the step failed: enter rollback, or abandon
      refine safe_quiet (enterRollback_within hqt (fun _ : True => hexact) action _) ht ?_
      rintro ⟨entered, entry⟩ u he hu
      replace he := he trivial
      rcases entry with next | detail
      · obtain ⟨hen, ⟨rfl, hne⟩ | hc⟩ := he
        · exact safe_failTo h .rfl rfl rfl h.valid.sound hen (fun hn => absurd hn hne) hu
        · have hs := hc.same_or
          refine safe_failTo h hc.samePlan ?_ ?_ (hc.sound h.valid.sound) ?_ ?_ hu
          · obtain rfl | ⟨rc, -, -, rfl⟩ := hs <;> rfl
          · obtain rfl | ⟨rc, -, -, rfl⟩ := hs <;> rfl
          · obtain rfl | ⟨rc, -, -, rfl⟩ := hs <;> exact ⟨hen.rollback, hen.cursor⟩
          · intro _ hrn
            rw [hc.samePlan.target] at hrn
            exact hc.bound hrn
      · obtain ⟨rfl, ha⟩ := he
        exact safe_bind.mpr ((safe_abandon h ha hu).mono (fun _ v hv => hv) fun e v hv => hv)
    · exact ⟨hr, ht.disciplined⟩
    · exact safe_bind.mpr ((safe_abandon h hr ht).mono (fun _ v hv => hv) fun e v hv => hv)
  · refine safe_quiet (Q := fun n => nextForward action = .ok n) ?_ ht fun n u hn hu => ?_
    · rcases hn : nextForward action with e | n
      · exact nextForward_ordinary hn
      · exact rfl
    · rcases hr with ⟨hne, rfl⟩ | ⟨rfl, hc⟩
      · exact safe_forwardTo h .rfl rfl h.valid.sound (fits_nextForward h hl hne hn)
          (nextForward_left hn) hu
      · cases hn
        have hi : next.layoutOperationIndex = journal.layoutOperationIndex := by
          obtain rfl | ⟨rc, -, -, rfl⟩ := hc.same_or <;> rfl
        have hre : next.revision = journal.revision := by
          obtain rfl | ⟨rc, -, -, rfl⟩ := hc.same_or <;> rfl
        refine safe_forwardTo h hc.samePlan hre (hc.sound h.valid.sound) (fits_proveCandidate h hc) ?_ hu
        rw [hi, hc.samePlan.count]
        simp [forwardLeft, forwardRank]

/-- One turn of `drive_forward`. -/
lemma safe_forwardStep (hw : Holds (some journal) w) :
    (forwardStep journal).Safe (World.step P) Disciplined (ForwardStep.Kept journal
        (forwardLeft journal.layoutOperationCount journal.layoutOperationIndex action)) Ends w := by
  unfold forwardStep
  rw [h.action]
  dsimp only
  split
  · next hc =>
    subst hc
    refine safe_record h.valid.sound (fits_commit h) .rfl rfl (.commit h.disposition rfl) hw ?_
    intro next t _ ht
    exact safe_pure.mpr ht.disciplined
  · split
    · next hl =>
      subst hl
      exact safe_forwardLayoutStep h hw
    · next hl => exact safe_forwardActionStep hexact h hl hw

/-- The loop of `drive_forward`, with enough fuel. -/
lemma safe_forwardLoop (hw : Holds (some journal) w)
    (hf : forwardLeft journal.layoutOperationCount journal.layoutOperationIndex action < fuel) :
    (forwardLoop fuel journal).Safe (World.step P) Disciplined (fun _ t => Disciplined t) Ends w := by
  induction fuel generalizing journal action w with
  | zero => exact absurd hf (Nat.not_lt_zero _)
  | succ fuel ih =>
    refine safe_bind.mpr ((safe_forwardStep hexact h hw).mono ?_ fun e t he => he)
    rintro (next | next | oc) t ht
    · obtain ⟨hh, hp, action', ha, hl⟩ := ht
      exact ih (hexact.of_samePlan hp) ha hh (by omega)
    · obtain ⟨hh, action', ha⟩ := ht
      exact safe_driveRollback ha hh
    · exact ht

lemma safe_driveForward (hw : Holds (some journal) w) :
    (driveForward journal).Safe (World.step P) Disciplined (fun _ t => Disciplined t) Ends w := by
  refine safe_forwardLoop hexact h hw ?_
  cases action <;> simp only [forwardLeft, forwardFuel, forwardRank] <;> omega

end

/-! ## Install and recover -/

variable {I : World X → Prop}

/-- The stored journal, validated; reading changes nothing. -/
lemma safe_loadJournal (hI : I w) : loadJournal.Safe (World.step P) I
      (fun r t => t = w ∧ r = w.journal ∧ ∀ journal, r = some journal → journal.Valid)
      (fun _ t => t = w) w := by
  refine safe_bind.mpr (safe_bind.mpr (safe_ask.mpr ?_))
  rintro an t ⟨rfl, ha⟩
  refine ⟨hI, safe_ofExcept.mpr ?_⟩
  rcases an with e | loaded
  · exact rfl
  · have hl : loaded = t.journal := ha loaded rfl
    rcases loaded with _ | journal
    · refine safe_pure.mpr ⟨rfl, hl, fun journal hj => ?_⟩
      cases hj
    · refine safe_bind.mpr (safe_mapErr.mpr (safe_ofExcept.mpr ?_))
      rcases hv : validate journal with e | ⟨⟩
      · exact rfl
      · refine safe_pure.mpr ⟨rfl, hl, ?_⟩
        rintro _ ⟨⟩
        exact validate_eq_ok.mp hv

variable (hP : LayoutExact P)
include hP

/-- A plan the platform accepted, so that its exact-state test is exact about its layout. -/
lemma within_validateTransactionPlan (prior t : PlatformState)
    (transitions : PlatformTransitionStates) (ct : Nat) (rec : PlatformTransactionRecord) :
    (perform (.validateTransactionPlan prior t transitions ct rec)).Within
      (quietCalls P) (fun _ => ExactAnswers (quietCalls P) rec ct) (fun _ => True) := by
  refine Within.bind (within_ask.mpr ⟨trivial, fun an ha => ?_⟩)
  rcases an with e | ⟨⟩
  · trivial
  · obtain ⟨w, w', x, hc, -⟩ := ha
    rintro point exp index rc _ ⟨y, y', z, ht, -⟩ rfl
    exact hP _ _ _ _ _ _ _ hc _ _ _ _ _ _ ht

lemma safe_resume (hv : journal.Valid) (hw : Holds (some journal) w) :
    (resume journal).Safe (World.step P) Disciplined (fun _ t => Disciplined t) Ends w := by
  refine safe_quiet (Within.mapErr ((within_validateTransactionPlan hP _ _ _ _ _).mono
    (fun _ => id) fun _ _ => nofun)) hw fun _ t hexact ht => ?_
  rcases hd : journal.disposition with _ | _ | _ | _
  · obtain ⟨action, ha⟩ := atAction_of_valid hv hd rfl
    exact safe_driveForward hexact ha ht
  · obtain ⟨action, ha⟩ := atAction_of_valid hv hd rfl
    exact safe_driveRollback ha ht
  iterate 2 exact safe_pure.mpr ht.disciplined

lemma safe_installWithLock (request : InstallRequest) (hw : Disciplined w) :
    (installWithLock request).Safe (World.step P) Disciplined (fun _ t => Disciplined t) Ends w := by
  refine safe_bind.mpr (safe_mapErr.mpr ((safe_loadJournal hw).mono ?_ ?_))
  · rintro loaded t ⟨rfl, hl, hva⟩
    have ht : Holds loaded t := ⟨hl.symm, hw⟩
    split
    · next journal hp =>
      obtain ⟨rfl, -⟩ := Option.filter_eq_some_iff.mp hp
      exact safe_resume hP (hva journal rfl) ht
    · next hi =>
      refine safe_quiet (prepareWithLock_within (allowsQuiet P).observing
        (within_validateTransactionPlan hP) request) ht fun journal u hpr hu => ?_
      obtain ⟨hj, hf, hexact⟩ := hpr
      have hfo : Follows loaded journal := by
        refine .fresh hf fun old hold => ?_
        simpa [hold] using hi
      refine safe_bind.mpr (safe_mapErr.mpr ((safe_writeJournal hfo hu).mono ?_
        fun e v hv => ⟨nofun, hv⟩))
      rintro _ v ⟨-, hv⟩
      exact safe_driveForward hexact ⟨hj, hf.disposition, hf.action⟩ hv
  · rintro e t rfl
    exact ⟨nofun, hw⟩

omit hP in
/-- Taking the lock first. -/
lemma safe_locked {E : InstallCoordinatorError → World X → Prop} (hI : I w)
    (hE : ∀ e, E (.store e) w) (hx : x.Safe (World.step P) I R E w) :
    (mapErr InstallCoordinatorError.store (access .acquireLock) >>= fun _ => x).Safe (World.step P)
      I R E w := by
  refine safe_bind.mpr (safe_mapErr.mpr (safe_bind.mpr (safe_ask.mpr ?_)))
  rintro an t rfl
  refine ⟨hI, safe_ofExcept.mpr ?_⟩
  rcases an with e | ⟨⟩
  · exact hE e
  · exact hx

/-- **A session** keeps everything in order, and ends within its fuel. -/
theorem safe_session (s : Session) (hw : Disciplined w) :
    s.program.Safe (World.step P) Disciplined (fun _ t => Disciplined t) Ends w := by
  rcases s with rq | _
  · refine safe_bind.mpr (safe_locked hw (fun _ => ⟨nofun, hw⟩) ?_)
    exact (safe_installWithLock hP rq hw).mono (fun _ _ h => h) fun _ _ h => h
  · refine safe_locked hw (fun _ => ⟨nofun, hw⟩) ?_
    refine safe_bind.mpr (safe_mapErr.mpr ((safe_loadJournal hw).mono ?_ ?_))
    · rintro (_ | journal) t ⟨rfl, hs, hv⟩
      · exact safe_pure.mpr hw
      · exact safe_bind.mpr ((safe_resume hP (hv journal rfl) ⟨hs.symm, hw⟩).mono
          (fun _ _ h => h) fun _ _ h => h)
    · rintro e t rfl
      exact ⟨nofun, hw⟩

/-! ## Runs -/

omit hP in
/-- Sessions one after another, from any disk. -/
def sessions (P : InstallPlatform X) : Machine (World X) Ended where
  init w := w.written = [] ∧ w.advances = []
  step := World.Session P

/-- **Journal discipline.** -/
theorem journal_discipline {w : World X} (h : (sessions P).Reachable w) :
    (∀ e ∈ w.written, e.journal.validate = .ok () ∧ Follows e.replaced e.journal) ∧
      ∀ a ∈ w.advances, a.Accepted := by
  have hd : Disciplined w := by
    refine h.invariant (fun s hs => ?_) fun s e t hs hst => ?_
    · refine ⟨fun e he => ?_, fun a ha => ?_⟩
      · simp [hs.1] at he
      · simp [hs.2] at ha
    · exact (Program.Safe.exec hst hs (safe_session hP e.session hs)).1
  exact ⟨hd.written, hd.advances⟩

omit hP

/-! ## A run

A candidate that already runs, with a journal that is about to take its receipt, on a platform that
hands over receipts of one kind. -/

/-- The candidate. -/
def benchUnit : UnitId := ⟨String.ofList (List.replicate 64 'a'), by simp [isUnitId]⟩

/-- Nothing installed. -/
def benchPrior : PlatformState := ⟨none, none, false, none, false⟩

/-- The candidate is up and its owner is to be bound. -/
def benchJournal : InstallJournalV1 where
  schemaVersion := installJournalSchemaVersion
  revision := 9
  transactionId := ⟨String.ofList ['t'], by decide +kernel⟩
  disposition := .forward
  nextAction := some .restoreCandidateRuntime
  priorActiveUnit := none
  candidateUnit := benchUnit
  targetPolicy := .enabledAndRunning
  priorPlatform := benchPrior
  targetPlatform := InstallTargetPolicy.enabledAndRunning.targetPlatform benchPrior benchUnit
  transitionStates :=
    { priorUnloaded := benchPrior
      candidateManager := ⟨some benchUnit, some benchUnit, false, none, false⟩
      candidateAutostart := ⟨some benchUnit, some benchUnit, false, none, true⟩
      priorManager := benchPrior
      priorAutostart := benchPrior }
  layoutOperationCount := 1
  layoutOperationIndex := 1
  platformRecord := ⟨.linux, 1, [0]⟩
  candidateOwnerReceipt := none
  failure := none
  abandoned := false
  forcedStops := []

/-- What the platform answers, with its receipts of one kind. -/
def benchReply (kind : PlatformKind) : (call : PlatformCall) → Except InstallPlatformError call.Reply
  | .inspect => .ok benchJournal.targetPlatform
  | .matchesExactState checkpoint _ index _ _ =>
    .ok (checkpoint == .candidateRuntime && index == 1)
  | .captureCandidateOwnerReceipt .. => .ok ⟨kind, 1, [0]⟩
  | .validateTransactionPlan _ _ _ count _ => if count = 1 then .ok () else .error ⟨"count"⟩
  | .waitForNewerOwner .. => .ok ()
  | _ => .error ⟨"unsupported"⟩

/-- The platform. -/
def bench (kind : PlatformKind) : Answering Unit where
  call call _ := (benchReply kind call, ())
  switched _ _ := ()

lemma bench_layoutExact (kind : PlatformKind) : LayoutExact (bench kind).platform := by
  intro prior target transitions count record x x' hp point exp index receipt y y' ht
  have hc : count = 1 := by
    by_contra hn
    have hr : (Except.ok () : Except InstallPlatformError Unit) = .error ⟨"count"⟩ :=
      (Prod.mk.inj hp).1.trans (if_neg hn)
    cases hr
  have hm : (point == .candidateRuntime && index == 1) := (Except.ok.inj (Prod.mk.inj ht).1).symm
  simp only [Bool.and_eq_true, beq_iff_eq] at hm
  obtain ⟨rfl, rfl⟩ := hm
  exact hc.symm

/-- The world before. -/
def benchStart : World Unit := ⟨(), some benchUnit, some benchJournal, [], [], none⟩

/-- The world after `recover`. -/
def benchEnd (kind : PlatformKind) : World Unit :=
  (Session.recover.program.run.runWith (bench kind).handler benchStart).2

lemma benchEnd_reachable (kind : PlatformKind) :
    (sessions (bench kind).platform).Reachable (benchEnd kind) := by
  have hs : (sessions (bench kind).platform).Reachable benchStart := .init ⟨rfl, rfl⟩
  exact hs.step (e := ⟨.recover, _⟩) ((bench kind).session_run .recover benchStart)

/-- With receipts of the record's platform, three journals are written, up to the commit. -/
theorem journal_discipline_bench : (benchEnd .linux).written.length = 3 ∧
    ∀ e ∈ (benchEnd .linux).written, e.journal.validate = .ok () ∧ Follows e.replaced e.journal :=
  ⟨by decide +kernel, (journal_discipline (bench_layoutExact .linux) (benchEnd_reachable .linux)).1⟩

/-- With receipts of another platform, `advance` is refused although its revision is not at the
end. -/
theorem advance_refused_for_receipt : LayoutExact (bench .macos).platform ∧
    (sessions (bench .macos).platform).Reachable (benchEnd .macos) ∧
    (benchEnd .macos).advances.map Advance.result = [.error .invalidOwnerReceipt] :=
  ⟨bench_layoutExact .macos, benchEnd_reachable .macos, rfl⟩

end Hypercolor.Install
