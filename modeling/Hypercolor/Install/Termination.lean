import Mathlib.Control.Monad.Basic
import Hypercolor.Install.Discipline

/-!
# The drivers end

`drive_forward` and `drive_rollback` as written have no bound; here they carry fuel, and the fuel
counts their turns. **`drivers_end`**: whatever the platform and the store answer, and however their
answers contradict each other, neither loop takes more turns than `forwardFuel` and `rollbackFuel`
of a valid journal, and `enter_rollback` ends.

A turn that goes on has advanced the journal, and `advance` validates: it brings the forward loop
nearer its end because a layout action has its cursor below the count, and the rollback loop because
going back to start the prior again is possible once.
-/

namespace Hypercolor.Install

open Lib Attempt Nat Within InstallAction InstallJournalV1

/-- Any answers of the platform and the store. `advance` is the coordinator's own. -/
def anyAnswers : Contract calls where
  allowed _ := True
  answers
    | .advance journal disposition nextAction, answer =>
        answer = journal.advance disposition nextAction
    | _, _ => True

lemma anyAnswers_quiet : AllowsQuiet anyAnswers := fun _ _ => trivial

variable {journal : InstallJournalV1} {disposition : InstallDisposition}
  {nextAction : Option InstallAction} {α : Type}

/-- A program that ends, and only with what satisfies `Q`. -/
def Returns (Q : α → Prop) (x : Coord InstallCoordinatorError α) : Prop :=
  x.Within anyAnswers Q InstallCoordinatorError.Ordinary

lemma returns_advance : Returns (fun next => SamePlan journal next ∧
    next.disposition = disposition ∧ next.nextAction = nextAction ∧
      next.layoutOperationIndex = journal.layoutOperationIndex)
    (advance journal disposition nextAction) := by
  refine bind (within_ask.mpr ⟨trivial, fun an ha => mapErr ?_⟩)
  rcases an with e | next
  · exact nofun
  · obtain ⟨rfl, -⟩ := advance_eq_ok (Eq.symm ha)
    exact ⟨samePlan_advanced, rfl, rfl, rfl⟩

lemma returns_writeJournal : Returns (fun _ => journal.Valid) ((writeJournal journal).mapErr .store) := by
  refine mapErr (seq (Q := fun _ => journal.Valid) (mapErr ?_) fun _ hv => ?_)
  · rcases hv : journal.validate with e | ⟨⟩
    · exact nofun
    · exact validate_eq_ok.mp hv
  · exact (calm_access trivial).mono (fun _ _ => hv) fun _ _ => nofun

/-- Advance, persist, and go on from the journal written. -/
lemma returns_record {f : InstallJournalV1 → Coord InstallCoordinatorError α}
    (hn : ∀ next, Recorded journal disposition nextAction next → Returns Q (f next)) :
    Returns Q (advance journal disposition nextAction >>= fun next => persist next >>= f) := by
  refine seq returns_advance fun next ha => ?_
  obtain ⟨hp, hd, hac, hi⟩ := ha
  refine seq (Q := Recorded journal disposition nextAction) ?_ hn
  refine bind (within_ask.mpr ⟨trivial, fun forced _ => ?_⟩)
  have hf := sameButForced_withForcedStop next forced
  refine seq returns_writeJournal fun _ hv => ?_
  exact ⟨hv, hp.trans hf.plan, hf.disposition.trans hd, hf.action.trans hac, hf.index.trans hi⟩

/-! ## Rollback -/

/-- What a turn of `drive_rollback` leaves: nearer its end, or ended. -/
def RollbackStep.Nearer (left : Nat) : RollbackStep → Prop
  | .again next _ restartedPrior => ∃ action, next.nextAction = some action ∧
      rollbackLeft next.layoutOperationIndex action restartedPrior < left
  | .done _ => True

variable {action next : InstallAction} {left fuel : Nat} {restored : Option RestoredRelease}
  {restartedPrior : Bool}

lemma returns_rollbackTo (hleft : rollbackLeft journal.layoutOperationIndex next restartedPrior < left) :
    Returns (RollbackStep.Nearer left) (rollbackTo journal next restored restartedPrior) := by
  refine returns_record fun wr hw => ⟨next, hw.action, ?_⟩
  rw [hw.index]
  exact hleft

lemma returns_rollbackActionStep
    (hleft : rollbackLeft journal.layoutOperationIndex action restartedPrior ≤ left) :
    Returns (RollbackStep.Nearer left) (rollbackActionStep journal action restored restartedPrior) := by
  have hq := anyAnswers_quiet
  unfold rollbackActionStep
  split
  · next hl =>
    subst hl
    refine Calm.then_within ((calm_reconcileLayoutOperation hq _ _).mapErr ofRollback_ordinary)
      fun _ => ?_
    refine seq (Q := fun next => if journal.layoutOperationIndex - 1 = 0 then
      next = .reloadPriorManager else next = .restorePriorLayout) ?_ fun next hne => ?_
    · split
      · exact rfl
      · exact rfl
    · refine returns_rollbackTo (Nat.lt_of_lt_of_le ?_ hleft)
      split at hne <;> subst hne <;>
        simp [rollbackLeft, rollbackRank] <;> omega
  · refine ((calm_reconcileAction hq _ _).mapErr ofRollback_ordinary).then_within fun _ => ?_
    refine Calm.then_within ?_ fun restored => ?_
    · exact Calm.ite
        (Calm.bind (within_ask.mpr ⟨trivial, fun _ _ => trivial⟩) fun _ => Calm.pure) Calm.pure
    · rcases hn : nextRollback action with e | next
      · exact nextRollback_ordinary hn
      · exact returns_rollbackTo (Nat.lt_of_lt_of_le (nextRollback_left hn) hleft)

/-- One turn of `drive_rollback`. -/
lemma returns_rollbackStep (ha : ∀ action, journal.nextAction = some action →
      rollbackLeft journal.layoutOperationIndex action restartedPrior ≤ left) :
    Returns (RollbackStep.Nearer left) (rollbackStep journal restored restartedPrior) := by
  unfold rollbackStep
  rcases hn : journal.nextAction with _ | action
  · exact nofun
  · have hleft := ha action hn
    refine seq (Q := fun lost => lost = true → action = .provePrior ∧ restartedPrior = false)
      ?_ fun lost hlo => ?_
    · refine ite (fun hc => ?_) fun _ => within_pure.mpr Bool.noConfusion
      refine (calm_priorRuntimeLost anyAnswers_quiet journal).mono (fun _ _ _ => ?_) fun _ he => he
      exact ⟨hc.1, by simpa using hc.2⟩
    · split
      · next hl =>
        obtain ⟨rfl, rfl⟩ := hlo hl
        refine returns_rollbackTo (Nat.lt_of_lt_of_le ?_ hleft)
        simp only [rollbackLeft, rollbackRank, if_true, Bool.false_eq_true, if_false]
        omega
      · split
        · exact returns_record fun _ _ => trivial
        · exact returns_rollbackActionStep hleft

/-- The loop of `drive_rollback` ends within its fuel. -/
lemma returns_rollbackLoop (ha : ∀ action, journal.nextAction = some action →
      rollbackLeft journal.layoutOperationIndex action restartedPrior ≤ left)
    (hf : left < fuel) : Returns (fun _ => True) (rollbackLoop fuel journal restored restartedPrior) := by
  induction fuel generalizing journal restored restartedPrior left with
  | zero => exact absurd hf (not_lt_zero _)
  | succ fuel ih =>
    refine seq (returns_rollbackStep ha) fun step hs => ?_
    rcases step with ⟨next, restored', restarted'⟩ | outcome
    · obtain ⟨action, hn, hl⟩ := hs
      refine ih (fun action' hn' => ?_) (Nat.lt_of_lt_of_le hl (Nat.le_of_lt_succ hf))
      rw [hn] at hn'
      cases hn'
      exact Nat.le_refl _
    · trivial

lemma rollbackLeft_lt (action : InstallAction) :
    rollbackLeft journal.layoutOperationIndex action restartedPrior < rollbackFuel journal := by
  unfold rollbackLeft rollbackFuel
  cases action <;> simp only [rollbackRank] <;> split <;> omega

lemma returns_driveRollback : Returns (fun _ => True) (driveRollback journal) := by
  refine Calm.then_within (within_ask.mpr ⟨trivial, fun _ _ => trivial⟩) fun _ => ?_
  exact returns_rollbackLoop (fun action _ => le_pred_of_lt (rollbackLeft_lt action))
    (pred_lt (by simp [rollbackFuel]))

/-! ## Forward -/

/-- What a turn of `drive_forward` leaves: nearer its end, about to roll back, or ended. -/
def ForwardStep.Nearer (left : Nat) : ForwardStep → Prop
  | .again next => next.Valid ∧ ∃ action, next.nextAction = some action ∧
      forwardLeft next.layoutOperationCount next.layoutOperationIndex action < left
  | .rollback _ => True
  | .done _ => True

lemma returns_forwardTo
    (hleft : forwardLeft journal.layoutOperationCount journal.layoutOperationIndex next < left) :
    Returns (ForwardStep.Nearer left) (forwardTo journal next) := by
  refine returns_record fun wr hw => ⟨hw.valid, next, hw.action, ?_⟩
  rw [hw.index, hw.plan.count]
  exact hleft

lemma returns_failTo {fl : String} : Returns (ForwardStep.Nearer left) (failTo journal fl next) :=
  returns_record fun _ _ => trivial

lemma returns_abandon {dt : String} : Returns (fun _ => True) (abandon journal dt) := by
  refine seq returns_advance fun next _ => ?_
  exact seq returns_writeJournal fun _ _ => trivial

/-- A valid journal at a layout operation has one left. -/
lemma cursor_lt (hv : journal.Valid) (h : journal.nextAction = some .installCandidateLayout) :
    journal.layoutOperationIndex < journal.layoutOperationCount := by
  have hc := hv.fits.cursor
  have ha := hv.fits.action
  rw [h] at hc ha
  rcases hd : journal.disposition <;> rw [hd] at hc ha
  case forward => simpa [layoutCursorMatchesAction] using hc
  all_goals cases ha

section

variable
  (hleft : forwardLeft journal.layoutOperationCount journal.layoutOperationIndex action ≤ left)
include hleft

lemma returns_forwardLayoutStep (hl : action = .installCandidateLayout)
    (hlt : journal.layoutOperationIndex < journal.layoutOperationCount) :
    Returns (ForwardStep.Nearer left) (forwardLayoutStep journal) := by
  have hq := anyAnswers_quiet
  subst hl
  refine bind (outcome ((calm_reconcileLayoutOperation hq journal true).mono
    (fun _ _ => ?_) fun e he => ?_))
  · refine seq (Q := fun next => if journal.layoutOperationIndex + 1 =
      journal.layoutOperationCount then next = .installCandidateLauncher
      else next = .installCandidateLayout) ?_ fun next hn => ?_
    · split
      · exact rfl
      · exact rfl
    · refine returns_forwardTo (Nat.lt_of_lt_of_le ?_ hleft)
      split at hn <;> subst hn <;>
        simp only [forwardLeft, forwardRank] <;> omega
  · rcases e with err | err | dt
    · refine seq (reconcileForwardLayoutProgressAfterError_within hq journal) fun _ _ => ?_
      exact returns_failTo
    · exact he
    · exact he.elim

lemma returns_forwardActionStep :
    Returns (ForwardStep.Nearer left) (forwardActionStep journal action) := by
  have hq := anyAnswers_quiet
  refine bind (outcome ((reconcileForward_within hq journal action).mono
    (fun reconciled hr => ?_) fun e he => ?_))
  · have hs : reconciled.layoutOperationIndex = journal.layoutOperationIndex ∧
        reconciled.layoutOperationCount = journal.layoutOperationCount := by
      rcases hr with ⟨-, rfl⟩ | ⟨-, hc⟩
      · exact ⟨rfl, rfl⟩
      · obtain rfl | ⟨rc, -, -, rfl⟩ := hc.same_or <;> exact ⟨rfl, rfl⟩
    rcases hn : nextForward action with e | next
    · exact nextForward_ordinary hn
    · refine returns_forwardTo (Nat.lt_of_lt_of_le ?_ hleft)
      rw [hs.1, hs.2]
      exact nextForward_left hn
  · rcases e with err | err | dt
    · refine seq (enterRollback_within hq False.elim action _) fun entered _ => ?_
      obtain ⟨journal, next | dt⟩ := entered
      · exact returns_failTo
      · exact seq returns_abandon fun _ _ => trivial
    · exact he
    · exact seq returns_abandon fun _ _ => trivial

end

/-- One turn of `drive_forward`. -/
lemma returns_forwardStep (hv : journal.Valid) (ha : ∀ action, journal.nextAction = some action →
      forwardLeft journal.layoutOperationCount journal.layoutOperationIndex action ≤ left) :
    Returns (ForwardStep.Nearer left) (forwardStep journal) := by
  unfold forwardStep
  rcases hn : journal.nextAction with _ | action
  · exact nofun
  · have hleft := ha action hn
    dsimp only
    split
    · exact returns_record fun _ _ => trivial
    · split
      · next hl => exact returns_forwardLayoutStep hleft hl (cursor_lt hv (hl ▸ hn))
      · exact returns_forwardActionStep hleft

/-- The loop of `drive_forward` ends within its fuel. -/
lemma returns_forwardLoop (hv : journal.Valid) (ha : ∀ action, journal.nextAction = some action →
      forwardLeft journal.layoutOperationCount journal.layoutOperationIndex action ≤ left)
    (hf : left < fuel) : Returns (fun _ => True) (forwardLoop fuel journal) := by
  induction fuel generalizing journal left with
  | zero => exact absurd hf (not_lt_zero _)
  | succ fuel ih =>
    refine seq (returns_forwardStep hv ha) fun step hs => ?_
    rcases step with next | next | oc
    · obtain ⟨hv', action, hn, hl⟩ := hs
      have hf' := Nat.lt_of_lt_of_le hl (Nat.le_of_lt_succ hf)
      refine ih hv' (fun action' hn' => ?_) hf'
      rw [hn] at hn'
      cases hn'
      exact Nat.le_refl _
    · exact returns_driveRollback
    · trivial

lemma forwardLeft_lt (action : InstallAction) :
    forwardLeft journal.layoutOperationCount journal.layoutOperationIndex action < forwardFuel
      journal := by
  cases action <;> simp only [forwardLeft, forwardFuel, forwardRank] <;> omega

/-! ## Every run -/

/-- **The drivers end**: whatever answers a handler gives, `advance` apart, which is the coordinator's
own, no loop takes more turns than its fuel from a valid journal, and rollback is entered or not. -/
theorem drivers_end {σ : Type} (handler : (c : InstallCall) → σ → calls.Answer c × σ)
    (hadv : ∀ journal disposition nextAction s, (handler (.advance journal disposition nextAction)
      s).1 = journal.advance disposition nextAction) (hval : journal.validate = .ok ()) (s : σ) :
    (∀ fuel, forwardFuel journal ≤ fuel →
      ((forwardLoop fuel journal).run.runWith handler s).1 ≠ .error .exhausted) ∧ (∀ action attempts,
      ((enterRollback journal action attempts).run.runWith handler s).1 ≠ .error .exhausted) ∧
    ∀ fuel restored restartedPrior, rollbackFuel journal ≤ fuel →
      ((rollbackLoop fuel journal restored restartedPrior).run.runWith handler s).1 ≠
        .error .exhausted := by
  have hval' := validate_eq_ok.mp hval
  have hr : ∀ {α : Type} {x : Coord InstallCoordinatorError α} {Q : α → Prop}, Returns Q x →
      (x.run.runWith handler s).1 ≠ .error .exhausted := by
    intro α x Q hx he
    have hK : ∀ c s, anyAnswers.answers c (handler c s).1 := by
      rintro (_ | _ | _ | _ | ⟨journal, disposition, nextAction⟩) s
      case advance => exact hadv journal disposition nextAction s
      all_goals trivial
    have hre := Program.Within.runWith hx hK s
    rw [he] at hre
    exact hre rfl
  refine ⟨fun fuel hf => hr (returns_forwardLoop hval' (fun action _ =>
      Nat.le_pred_of_lt (forwardLeft_lt action)) (Nat.lt_of_lt_of_le (Nat.pred_lt ?_) hf)),
    fun action attempts => hr (enterRollback_within anyAnswers_quiet False.elim action attempts),
    fun fuel restored restartedPrior hf => hr (returns_rollbackLoop (fun action _ =>
      Nat.le_pred_of_lt (rollbackLeft_lt action)) (Nat.lt_of_lt_of_le (Nat.pred_lt ?_) hf))⟩
  · simp [forwardFuel]
  · simp [rollbackFuel]

/-- A candidate that is up, on its platform. -/
theorem drivers_end_bench :
    ((driveForward benchJournal).run.runWith (bench .linux).handler benchStart).1 ≠
      .error .exhausted :=
  (drivers_end (bench .linux).handler (fun _ _ _ _ => rfl) (by decide +kernel) benchStart).1 _
    (Nat.le_refl _)

end Hypercolor.Install
