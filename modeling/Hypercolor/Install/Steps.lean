import Hypercolor.Install.Reconcile

/-!
# Steps of the journal

Each place where the coordinator builds a journal and advances it, as a fact about the journal alone:
the disposition and action it advances to fit the journal it has built (`InstallJournalV1.Fits`), and
the step brings the loop nearer its end (`forwardLeft`, `rollbackLeft`).
-/

namespace Hypercolor.Install

open Lib InstallJournalV1

variable {j cap : InstallJournalV1}

/-- The journal's plan: what no step of a transaction changes. -/
structure SamePlan (journal next : InstallJournalV1) : Prop where
  transaction : next.transactionId = journal.transactionId
  prior : next.priorActiveUnit = journal.priorActiveUnit
  candidate : next.candidateUnit = journal.candidateUnit
  priorPlatform : next.priorPlatform = journal.priorPlatform
  target : next.targetPlatform = journal.targetPlatform
  record : next.platformRecord = journal.platformRecord
  count : next.layoutOperationCount = journal.layoutOperationCount

lemma SamePlan.rfl : SamePlan j j := ⟨.refl _, .refl _, .refl _, .refl _, .refl _, .refl _, .refl _⟩

lemma SamePlan.trans {a b c : InstallJournalV1} (h : SamePlan a b) (h' : SamePlan b c) : SamePlan a c :=
  ⟨h'.transaction.trans h.transaction, h'.prior.trans h.prior, h'.candidate.trans h.candidate,
    h'.priorPlatform.trans h.priorPlatform, h'.target.trans h.target, h'.record.trans h.record,
    h'.count.trans h.count⟩

/-- A valid journal that is at `action`. -/
structure AtAction (journal : InstallJournalV1) (disposition : InstallDisposition)
    (action : InstallAction) : Prop where
  valid : journal.Valid
  disposition : journal.disposition = disposition
  action : journal.nextAction = some action

variable {disp : InstallDisposition} {a nx : InstallAction}

lemma AtAction.fits (h : AtAction j disp a) : j.Fits disp (some a) := by
  have := h.valid.fits
  rwa [h.disposition, h.action] at this

/-- A journal that is not terminal is at an action. -/
lemma atAction_of_valid (hv : j.Valid) (hd : j.disposition = disp) (hp : terminal disp = false) :
    ∃ a, AtAction j disp a := by
  have hs := hv.fits.terminal_iff
  rw [hd, hp] at hs
  rcases ha : j.nextAction with _ | a
  · simp [ha] at hs
  · exact ⟨a, hv, hd, ha⟩

/-- A nonterminal journal is not abandoned. -/
lemma AtAction.not_abandoned (h : AtAction j disp a) : j.abandoned = false := by
  by_contra ha
  have hd := (h.fits.abandoned (by simpa using ha)).1
  have := h.fits.terminal_iff
  simp [hd, terminal] at this

/-! ## Owner receipts -/

lemma Captured.samePlan (h : Captured j cap) : SamePlan j cap := by
  obtain rfl | ⟨rc, -, -, rfl⟩ := h.same_or
  · exact .rfl
  · exact ⟨.refl _, .refl _, .refl _, .refl _, .refl _, .refl _, .refl _⟩

lemma Captured.sound (h : Captured j cap) (hs : j.Sound) : cap.Sound := by
  obtain rfl | ⟨rc, hv, hr, rfl⟩ := h.same_or
  · exact hs
  · refine { hs with receipt := ?_ }
    rintro _ ⟨⟩
    exact ⟨hv, hr⟩

/-! ## Forward -/

/-- How many turns `drive_forward` has left after this one. -/
def InstallAction.forwardRank : InstallAction → Nat
  | .preflightCandidate => 10
  | .unloadPrior => 9
  | .provePriorGuardReleased => 8
  | .installCandidateLayout => 7
  | .installCandidateLauncher => 6
  | .switchToCandidate => 5
  | .reloadCandidateManager => 4
  | .restoreCandidateAutostart => 3
  | .restoreCandidateRuntime => 2
  | .proveCandidate => 1
  | _ => 0

/-- An upper bound for the turns `drive_forward` has left. -/
def forwardLeft (count index : Nat) (action : InstallAction) : Nat :=
  action.forwardRank + (count - index)

/-- Advancing past a forward action whose journal is unchanged. -/
lemma fits_nextForward (h : AtAction j .forward a)
    (hl : a ≠ .installCandidateLayout) (hru : a ≠ .restoreCandidateRuntime)
    (hn : nextForward a = .ok nx) : j.Fits .forward (some nx) := by
  have hp := h.valid.sound.count_pos
  obtain ⟨hal, hc, ht, hac, hf, he, hab⟩ := h.fits
  refine ⟨?_, ?_, rfl, ?_, hf, ?_, fun ha => ?_⟩
  · intro hr
    cases a <;> cases hn <;> simp_all [receiptAllowed]
  · cases a <;> cases hn <;>
      simp_all [layoutCursorMatchesAction]
  · cases a <;> cases hn <;> rfl
  · cases a <;> cases hn <;> simp_all [receiptExpected]
  · exact absurd (hab ha).1 (by simp)

/-- Advancing past the start of the candidate, with its owner bound. -/
lemma fits_proveCandidate (h : AtAction j .forward .restoreCandidateRuntime)
    (hc : Captured j cap) : cap.Fits .forward (some .proveCandidate) := by
  obtain ⟨hal, hcr, ht, hac, hf, he, han⟩ := h.fits
  have hab : j.abandoned ≠ true := fun ha => absurd (han ha).1 nofun
  have hb := hc.bound
  obtain rfl | ⟨rc, -, -, rfl⟩ := hc.same_or
  · exact ⟨fun _ => rfl, hcr, rfl, rfl, hf, fun hr _ => hb hr,
      fun ha => absurd ha hab⟩
  · exact ⟨fun _ => rfl, hcr, rfl, rfl, hf, fun _ _ => rfl, fun ha => absurd ha hab⟩

/-- Advancing past a layout operation. -/
lemma fits_layoutForward (h : AtAction j .forward .installCandidateLayout)
    (hn : if j.layoutOperationIndex + 1 = j.layoutOperationCount then nx =
      .installCandidateLauncher else nx = .installCandidateLayout) :
    { j with layoutOperationIndex := j.layoutOperationIndex + 1 }.Fits .forward
      (some nx) := by
  obtain ⟨hal, hc, ht, hac, hf, hep, hab⟩ := h.fits
  have hl : j.layoutOperationIndex < j.layoutOperationCount := by
    simpa [layoutCursorMatchesAction] using hc
  have hno : j.candidateOwnerReceipt.isSome ≠ true := fun hr => by
    simpa [receiptAllowed] using hal hr
  refine ⟨fun hr => absurd hr hno, ?_, rfl, ?_, hf, ?_, fun ha => ?_⟩
  · split at hn <;> subst hn <;> simp [layoutCursorMatchesAction] <;> omega
  · split at hn <;> subst hn <;> rfl
  · intro _ he
    split at hn <;> subst hn <;> simp [receiptExpected] at he
  · exact absurd (hab ha).1 (by simp)

lemma sound_layoutForward (h : AtAction j .forward .installCandidateLayout) :
    { j with layoutOperationIndex := j.layoutOperationIndex + 1 }.Sound := by
  have hl : j.layoutOperationIndex < j.layoutOperationCount := by
    simpa [layoutCursorMatchesAction] using h.fits.cursor
  exact { h.valid.sound with index_le := hl }

/-- The last step. -/
lemma fits_commit (h : AtAction j .forward .commit) : j.Fits .committed none := by
  obtain ⟨hal, hc, ht, hac, hf, he, hab⟩ := h.fits
  exact ⟨fun _ => rfl, hc, rfl, rfl, hf, fun hr _ => he hr rfl,
    fun ha => absurd (hab ha).1 nofun⟩

/-! ## From forward to rollback -/

variable {fl : String}

/-- A recorded failure changes nothing else. -/
lemma InstallJournalV1.Sound.failed (h : j.Sound) (hl : fl.utf8ByteSize ≤ 4096) :
    { j with failure := some fl }.Sound :=
  { h with failure_len := by rintro _ ⟨⟩; exact hl }

/-- Entering rollback at an action the cursor allows. -/
lemma fits_enter (hab : j.abandoned = false) (hen : Enters j a)
    (hre : a = .unloadCandidateRuntime → j.targetPlatform.runningUnit.isSome =
      true → j.candidateOwnerReceipt.isSome) : { j with failure := some fl }.Fits .rollback (some a) := by
  refine ⟨fun _ => rfl, hen.cursor, rfl, hen.rollback, rfl, fun hr he => ?_, fun ha => ?_⟩
  · cases a <;> simp_all [receiptExpected]
  · simp [hab] at ha

/-- Abandoning a transaction that has changed nothing. -/
lemma fits_abandon (h : Abandonable j) :
    { j with failure := some fl, abandoned := true }.Fits .rolledBack none :=
  ⟨fun _ => rfl, by simpa [layoutCursorMatchesAction] using h.index, rfl, rfl, rfl,
    nofun, fun _ => ⟨rfl, h.receipt, h.index⟩⟩

/-! ## Rollback -/

/-- How many turns `drive_rollback` has left after this one, apart from layout operations. -/
def InstallAction.rollbackRank : InstallAction → Nat
  | .unloadCandidateRuntime => 11
  | .unloadCandidateAutostart => 10
  | .unloadCandidateManager => 9
  | .proveCandidateGuardReleased => 8
  | .restorePriorActive => 7
  | .restorePriorLauncher => 6
  | .restorePriorLayout => 5
  | .reloadPriorManager => 4
  | .restorePriorAutostart => 3
  | .restorePriorRuntime => 2
  | .provePrior => 1
  | _ => 0

/-- An upper bound for the turns `drive_rollback` has left: going back to start the prior again is
possible once. -/
def rollbackLeft (index : Nat) (action : InstallAction) (restartedPrior : Bool) : Nat :=
  action.rollbackRank + index + if restartedPrior then 0 else 2

/-- Advancing past a rollback action whose journal is unchanged. -/
lemma fits_nextRollback (h : AtAction j .rollback a)
    (hl : a ≠ .restorePriorLayout) (hn : nextRollback a = .ok nx) : j.Fits .rollback (some nx) := by
  have hp := h.valid.sound.count_pos
  obtain ⟨hal, hc, ht, hac, hf, hep, hab⟩ := h.fits
  refine ⟨fun _ => rfl, ?_, rfl, ?_, hf, ?_, fun ha => absurd (hab ha).1 nofun⟩
  · cases a <;> cases hn <;> simp_all [layoutCursorMatchesAction]
  · cases a <;> cases hn <;> rfl
  · intro _ he
    cases a <;> cases hn <;> simp [receiptExpected] at he

/-- Going back one step to start the prior again. -/
lemma fits_restartPrior (h : AtAction j .rollback .provePrior) :
    j.Fits .rollback (some .restorePriorRuntime) := by
  obtain ⟨hal, hc, ht, hac, hf, he, hab⟩ := h.fits
  exact ⟨fun _ => rfl, hc, rfl, rfl, hf, nofun, fun ha => absurd (hab ha).1 nofun⟩

/-- Advancing past the undoing of a layout operation. -/
lemma fits_layoutRollback (h : AtAction j .rollback .restorePriorLayout)
    (hn : if j.layoutOperationIndex - 1 = 0 then nx = .reloadPriorManager else nx = .restorePriorLayout) :
    { j with layoutOperationIndex := j.layoutOperationIndex - 1 }.Fits .rollback
      (some nx) := by
  obtain ⟨hal, hc, ht, hac, hf, hep, hab⟩ := h.fits
  refine ⟨fun _ => rfl, ?_, rfl, ?_, hf, ?_, fun ha => absurd (hab ha).1 nofun⟩
  · split at hn <;> subst hn <;> simp [layoutCursorMatchesAction] <;> omega
  · split at hn <;> subst hn <;> rfl
  · intro _ he
    split at hn <;> subst hn <;> simp [receiptExpected] at he

lemma sound_layoutRollback (h : AtAction j .rollback .restorePriorLayout) :
    { j with layoutOperationIndex := j.layoutOperationIndex - 1 }.Sound :=
  { h.valid.sound with index_le := Nat.le_trans (Nat.sub_le _ _) h.valid.sound.index_le }

/-- The last step. -/
lemma fits_finish (h : AtAction j .rollback .finishRollback) : j.Fits .rolledBack none := by
  obtain ⟨hal, hc, ht, hac, hf, he, hab⟩ := h.fits
  exact ⟨fun _ => rfl, hc, rfl, rfl, hf, nofun, fun ha => absurd (hab ha).1 nofun⟩

end Hypercolor.Install
