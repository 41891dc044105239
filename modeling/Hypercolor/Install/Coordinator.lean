import Hypercolor.Install.Calls

/-!
# The install coordinator

`coordinator.rs` as programs over the calls of `Install.Calls`: the checkpoints of a journal and the
transition of each action, reconciliation of an action from what an inspection shows, the forward
and the rollback loop, and `install` and `recover`.

The two `loop`s that stop a stray service look a second time at most, so they are written as one
look, a stop and another look. `drive_forward` and `drive_rollback` carry fuel; `forwardFuel` and
`rollbackFuel` are enough of it for a valid journal.
-/

namespace Hypercolor.Install

open Lib Attempt InstallJournalV1

/-! ## Checkpoints and transitions -/

/-- `Checkpoints` -/
structure Checkpoints where
  prior : InstallationState
  priorUnloaded : InstallationState
  candidateLayout : InstallationState
  candidateLauncher : InstallationState
  candidateActive : InstallationState
  candidateManager : InstallationState
  candidateAutostart : InstallationState
  candidateRuntime : InstallationState
  priorActiveRestored : InstallationState
  priorLauncherRestored : InstallationState
  priorLayoutRestored : InstallationState
  priorManager : InstallationState
  priorAutostart : InstallationState

variable (journal : InstallJournalV1)

/-- `new` -/
def Checkpoints.new : Checkpoints :=
  let ofPrior (platform : PlatformState) : InstallationState :=
    ⟨journal.priorActiveUnit, platform⟩
  let ofCandidate (platform : PlatformState) : InstallationState :=
    ⟨some journal.candidateUnit, platform⟩
  let priorUnloaded := journal.transitionStates.priorUnloaded
  let candidateLayout := { priorUnloaded with layoutUnit := journal.priorActiveUnit }
  let candidateLauncher := { candidateLayout with
    launcherUnit := journal.targetPlatform.launcherUnit.bind fun _ => journal.priorActiveUnit }
  let candidateActive := { candidateLauncher with
    layoutUnit := some journal.candidateUnit
    launcherUnit := journal.targetPlatform.launcherUnit.map fun _ => journal.candidateUnit }
  let priorActiveRestored := { candidateActive with
    layoutUnit := journal.priorActiveUnit
    launcherUnit := journal.targetPlatform.launcherUnit.bind fun _ => journal.priorActiveUnit }
  let priorLauncherRestored := { priorActiveRestored with
    launcherUnit := journal.priorPlatform.launcherUnit }
  let priorLayoutRestored := { priorLauncherRestored with layoutUnit := journal.priorPlatform.layoutUnit }
  { prior := ofPrior journal.priorPlatform
    priorUnloaded := ofPrior priorUnloaded
    candidateLayout := ofPrior candidateLayout
    candidateLauncher := ofPrior candidateLauncher
    candidateActive := ofCandidate candidateActive
    candidateManager := ofCandidate journal.transitionStates.candidateManager
    candidateAutostart := ofCandidate journal.transitionStates.candidateAutostart
    candidateRuntime := ofCandidate journal.targetPlatform
    priorActiveRestored := ofPrior priorActiveRestored
    priorLauncherRestored := ofPrior priorLauncherRestored
    priorLayoutRestored := ofPrior priorLayoutRestored
    priorManager := ofPrior journal.transitionStates.priorManager
    priorAutostart := ofPrior journal.transitionStates.priorAutostart }

/-- `TransitionKind` -/
inductive TransitionKind where
  | mutation | preflight | guardRelease | ownerPublication

/-- `Transition` -/
structure Transition where
  before : InstallationState
  after : InstallationState
  beforeCheckpoint : PlatformCheckpoint
  afterCheckpoint : PlatformCheckpoint
  kind : TransitionKind

variable (action : InstallAction)

/-- `for_action` -/
def Transition.forAction : Except InstallCoordinatorError Transition :=
  let c := Checkpoints.new journal
  match action with
  | .preflightCandidate =>
    .ok ⟨c.prior, c.prior, .priorOriginal, .priorOriginal, .preflight⟩
  | .unloadPrior =>
    .ok ⟨c.prior, c.priorUnloaded, .priorOriginal, .priorUnloaded, .mutation⟩
  | .provePriorGuardReleased =>
    .ok ⟨c.priorUnloaded, c.priorUnloaded, .priorUnloaded, .priorUnloaded, .guardRelease⟩
  | .installCandidateLauncher =>
    .ok ⟨c.candidateLayout, c.candidateLauncher, .candidateLayout, .candidateLauncher, .mutation⟩
  | .switchToCandidate =>
    .ok ⟨c.candidateLauncher, c.candidateActive, .candidateLauncher, .candidateActive, .mutation⟩
  | .reloadCandidateManager =>
    .ok ⟨c.candidateActive, c.candidateManager, .candidateActive, .candidateManager, .mutation⟩
  | .restoreCandidateAutostart =>
    .ok ⟨c.candidateManager, c.candidateAutostart, .candidateManager, .candidateAutostart, .mutation⟩
  | .restoreCandidateRuntime =>
    .ok ⟨c.candidateAutostart, c.candidateRuntime, .candidateAutostart, .candidateRuntime, .mutation⟩
  | .proveCandidate =>
    .ok ⟨c.candidateRuntime, c.candidateRuntime, .candidateRuntime, .candidateRuntime, .ownerPublication⟩
  | .unloadCandidateRuntime =>
    .ok ⟨c.candidateRuntime, c.candidateAutostart, .candidateRuntime, .candidateAutostart, .mutation⟩
  | .unloadCandidateAutostart =>
    .ok ⟨c.candidateAutostart, c.candidateManager, .candidateAutostart, .candidateManager, .mutation⟩
  | .unloadCandidateManager =>
    .ok ⟨c.candidateManager, c.candidateActive, .candidateManager, .candidateActive, .mutation⟩
  | .proveCandidateGuardReleased =>
    .ok ⟨c.candidateActive, c.candidateActive, .candidateActive, .candidateActive, .guardRelease⟩
  | .restorePriorActive =>
    .ok ⟨c.candidateActive, c.priorActiveRestored, .candidateActive, .priorActiveRestored, .mutation⟩
  | .restorePriorLauncher =>
    .ok ⟨c.priorActiveRestored, c.priorLauncherRestored, .priorActiveRestored,
      .priorLauncherRestored, .mutation⟩
  | .reloadPriorManager =>
    .ok ⟨c.priorLayoutRestored, c.priorManager, .priorLayoutRestored, .priorManager, .mutation⟩
  | .restorePriorAutostart =>
    .ok ⟨c.priorManager, c.priorAutostart, .priorManager, .priorAutostart, .mutation⟩
  | .restorePriorRuntime =>
    .ok ⟨c.priorAutostart, c.prior, .priorAutostart, .priorRestored, .mutation⟩
  | .provePrior =>
    .ok ⟨c.prior, c.prior, .priorRestored, .priorRestored, .ownerPublication⟩
  | .installCandidateLayout | .restorePriorLayout | .commit | .finishRollback =>
    .error (.invalidAction action)

/-- `next_forward` -/
def nextForward : InstallAction → Except InstallCoordinatorError InstallAction
  | .preflightCandidate => .ok .unloadPrior
  | .unloadPrior => .ok .provePriorGuardReleased
  | .provePriorGuardReleased => .ok .installCandidateLayout
  | .installCandidateLayout => .ok .installCandidateLauncher
  | .installCandidateLauncher => .ok .switchToCandidate
  | .switchToCandidate => .ok .reloadCandidateManager
  | .reloadCandidateManager => .ok .restoreCandidateAutostart
  | .restoreCandidateAutostart => .ok .restoreCandidateRuntime
  | .restoreCandidateRuntime => .ok .proveCandidate
  | .proveCandidate => .ok .commit
  | action => .error (.invalidAction action)

/-- `next_rollback` -/
def nextRollback : InstallAction → Except InstallCoordinatorError InstallAction
  | .unloadCandidateRuntime => .ok .unloadCandidateAutostart
  | .unloadCandidateAutostart => .ok .unloadCandidateManager
  | .unloadCandidateManager => .ok .proveCandidateGuardReleased
  | .proveCandidateGuardReleased => .ok .restorePriorActive
  | .restorePriorActive => .ok .restorePriorLauncher
  | .restorePriorLauncher => .ok .restorePriorLayout
  | .restorePriorLayout => .ok .reloadPriorManager
  | .reloadPriorManager => .ok .restorePriorAutostart
  | .restorePriorAutostart => .ok .restorePriorRuntime
  | .restorePriorRuntime => .ok .provePrior
  | .provePrior => .ok .finishRollback
  | action => .error (.invalidAction action)

/-- `ReplayPolicy::for_action`, true for `IdempotentCommand` -/
def InstallAction.isIdempotentCommand : InstallAction → Bool
  | .reloadCandidateManager | .unloadCandidateManager | .reloadPriorManager => true
  | _ => false

/-- `is_baseline_step` -/
def InstallAction.isBaselineStep : InstallAction → Bool
  | .preflightCandidate | .unloadPrior => true
  | _ => false

/-! ## The store -/

/-- `InstallStore::load_journal` -/
def loadJournal : Coord InstallStoreError (Option InstallJournalV1) := do
  match ← access .readJournal with
  | none => pure none
  | some journal => do
    (ofExcept journal.validate).mapErr .invalidJournal
    pure (some journal)

/-- `InstallStore::write_journal` -/
def writeJournal : Coord InstallStoreError Unit := do
  (ofExcept journal.validate).mapErr .invalidJournal
  access (.replaceJournal journal)

/-- `InstallJournalV1::advance`, with the `?` of its callers -/
def advance (journal : InstallJournalV1) (disposition : InstallDisposition)
    (nextAction : Option InstallAction) : Coord InstallCoordinatorError InstallJournalV1 := do
  let result ← ask (S := calls) (.advance journal disposition nextAction)
  (ofExcept result).mapErr .model

/-- The first half of `persist`: the forced stop the platform reports, if any, recorded once. -/
def InstallJournalV1.withForcedStop : Option UnitId → InstallJournalV1
  | none => journal
  | some unit =>
    if journal.forcedStops.contains unit then journal
    else { journal with forcedStops := journal.forcedStops ++ [unit] }

/-- `InstallCoordinator::persist`, which returns the journal it wrote -/
def persist : Coord InstallCoordinatorError InstallJournalV1 := do
  let forced ← ask (S := calls) .takeForcedStop
  (writeJournal (journal.withForcedStop forced)).mapErr .store
  pure (journal.withForcedStop forced)

/-! ## Inspection -/

/-- `InstallCoordinator::inspect_state` -/
def inspectState : Coord InstallCoordinatorError InstallationState := do
  let activeUnit ← (access .activeUnit).mapErr .store
  let platform ← (perform .inspect).mapErr .inspectPlatform
  (ofExcept (PlatformState.validate platform)).mapErr .model
  pure ⟨activeUnit, platform⟩

/-- `layout_checkpoint` in `matches_except_runtime` -/
def PlatformCheckpoint.isLayout : PlatformCheckpoint → Bool
  | .candidateLayout | .priorLayoutRestored => true
  | _ => false

variable (actual expected : InstallationState) (checkpoint : PlatformCheckpoint)
  (layoutOperationIndex : Nat) (record : PlatformTransactionRecord)

/-- `InstallCoordinator::matches_checkpoint_at` -/
def matchesCheckpointAt (receipt : Option PlatformOwnerReceipt) : Coord InstallCoordinatorError Bool :=
  let platformMatches : Bool :=
    if checkpoint.isLayout then
      actual.platform.launcherUnit == expected.platform.launcherUnit
        && actual.platform.loaded == expected.platform.loaded
        && actual.platform.runningUnit == expected.platform.runningUnit
        && actual.platform.autostartEnabled == expected.platform.autostartEnabled
    else actual.platform == expected.platform
  if actual.activeUnit != expected.activeUnit || !platformMatches then pure false
  else (perform (.matchesExactState checkpoint expected.platform layoutOperationIndex record
    receipt)).mapErr .inspectPlatform

/-- `InstallCoordinator::matches_except_runtime` -/
def matchesExceptRuntime : Coord InstallCoordinatorError Bool :=
  if actual.activeUnit != expected.activeUnit
      || actual.platform.launcherUnit != expected.platform.launcherUnit
      || actual.platform.autostartEnabled != expected.platform.autostartEnabled
      || !checkpoint.isLayout && actual.platform.layoutUnit != expected.platform.layoutUnit then
    pure false
  else (perform (.matchesExactStateExceptRuntime checkpoint expected.platform layoutOperationIndex
    record)).mapErr .inspectPlatform

/-- A state, its checkpoint and the layout index it is looked for at. -/
structure Target where
  state : InstallationState
  checkpoint : PlatformCheckpoint
  index : Nat

variable (actual : InstallationState)

/-- Does the inspected state match a target, for this journal? -/
def matchesTarget (target : Target) : Coord InstallCoordinatorError Bool :=
  matchesCheckpointAt actual target.state target.checkpoint target.index journal.platformRecord
    journal.candidateOwnerReceipt

/-- `InstallCoordinator::require_state` -/
def requireState (before : InstallationState) (after : Target) : Coord InstallCoordinatorError Unit := do
  let actual ← inspectState
  if ← matchesTarget journal actual after then pure ()
  else throw (.stateDrift action before after.state actual)

/-- The search of `stop_first` for a stopped state that stopping the service would reach. -/
def reachable (journal : InstallJournalV1) (actual : InstallationState) :
    List Target → Coord InstallCoordinatorError Bool
  | [] => pure false
  | target :: rest => do
    if target.state.platform.runningUnit.isNone then
      if ← matchesExceptRuntime actual target.state target.checkpoint target.index
          journal.platformRecord then pure true
      else reachable journal actual rest
    else reachable journal actual rest

/-- `InstallCoordinator::stop_first` -/
def stopFirst (targets : List Target) : Coord InstallCoordinatorError Bool := do
  if actual.platform.runningUnit.isNone then pure false
  else if ← reachable journal actual targets then
    (perform (.stopUnjournaledRuntime journal.platformRecord)).mapErr (.platform action)
  else pure false

/-! ## Reconciliation -/

/-- What one look at the platform showed. -/
structure Observation where
  actual : InstallationState
  beforeMatches : Bool
  afterMatches : Bool

/-- One pass of the loop of `reconcile_action` and `reconcile_layout_operation`: inspect, and compare
with both ends of the step. -/
def observe (before after : Target) : Coord InstallCoordinatorError Observation := do
  let actual ← inspectState
  let beforeMatches ← matchesTarget journal actual before
  let afterMatches ← matchesTarget journal actual after
  pure ⟨actual, beforeMatches, afterMatches⟩

/-- The loop itself: when neither end matches and a stray service could be stopped, look again. -/
def observeOrStop (before after : Target)
    (targets : List Target) : Coord InstallCoordinatorError Observation := do
  let seen ← observe journal before after
  if seen.beforeMatches || seen.afterMatches then pure seen
  else if ← stopFirst journal action seen.actual targets then observe journal before after
  else pure seen

/-- The first half of `reconcile_layout_operation`: the two ends of the layout operation at the
journal's cursor. -/
def layoutTargets (installing : Bool) : Target × Target :=
  let c := Checkpoints.new journal
  let index := journal.layoutOperationIndex
  if installing then
    (if index = 0 then ⟨c.priorUnloaded, .priorUnloaded, index⟩
      else ⟨c.candidateLayout, .candidateLayout, index⟩,
      ⟨c.candidateLayout, .candidateLayout, index + 1⟩)
  else
    (if index = journal.layoutOperationCount then
        ⟨c.priorLauncherRestored, .priorLauncherRestored, index⟩
      else ⟨c.priorLayoutRestored, .priorLayoutRestored, index⟩,
      ⟨c.priorLayoutRestored, .priorLayoutRestored, index - 1⟩)

/-- `InstallCoordinator::reconcile_layout_operation` -/
def reconcileLayoutOperation (installing : Bool) : Coord StepError Unit := do
  let action : InstallAction := if installing then .installCandidateLayout else .restorePriorLayout
  let unit := if installing then some journal.candidateUnit else journal.priorPlatform.layoutUnit
  if !installing && journal.layoutOperationIndex == 0 then
    throw (.fatal (.model .invalidLayoutOperationCursor))
  else do
    let (before, after) := layoutTargets journal installing
    let seen ← (observeOrStop journal action before after [before, after]).mapErr .fatal
    if seen.afterMatches then pure ()
    else if !seen.beforeMatches then
      throw (.fatal (.stateDrift action before.state after.state seen.actual))
    else do
      (perform (.installLayoutOperation after.checkpoint unit (min before.index after.index)
        journal.platformRecord)).mapErr fun source => .effect (.platform action source)
      (requireState journal action before.state after).mapErr .fatal

/-- `InstallCoordinator::reconcile_forward_layout_progress_after_error`, which returns the
journal with its cursor moved -/
def reconcileForwardLayoutProgressAfterError : Coord InstallCoordinatorError InstallJournalV1 := do
  let (before, after) := layoutTargets journal true
  let actual ← inspectState
  if ← matchesTarget journal actual after then
    pure { journal with layoutOperationIndex := journal.layoutOperationIndex + 1 }
  else if ← matchesTarget journal actual before then pure journal
  else throw (.stateDrift .installCandidateLayout before.state after.state actual)

/-- `InstallCoordinator::abandonment` -/
def abandonment : Coord InstallCoordinatorError (Option String) := do
  let atUnload : Bool := action == .unloadPrior
  if journal.disposition != .forward || !action.isBaselineStep || journal.layoutOperationIndex != 0
      || journal.candidateOwnerReceipt.isSome || atUnload && actual.platform.runningUnit.isNone
      || actual.activeUnit != journal.priorActiveUnit then pure none
  else do
    let untouched : Bool ← (perform (.matchesUntouchedPrior journal.priorPlatform
      journal.platformRecord atUnload)).mapErr .inspectPlatform
    pure (if untouched then
        some ("abandoned at " ++ action.debug ++ ": the running release restarted or stopped " ++
          "before it was unloaded, so its original service could no longer be proven; " ++
          "nothing had changed")
      else none)

/-- `InstallCoordinator::apply_effect` -/
def applyEffect (checkpoint : PlatformCheckpoint) (after : InstallationState) :
    Coord InstallCoordinatorError Unit :=
  match action with
  | .unloadPrior | .unloadCandidateRuntime | .restoreCandidateRuntime | .restorePriorRuntime =>
    (perform (.restoreRuntime after.platform journal.platformRecord
      journal.candidateOwnerReceipt)).mapErr (.platform action)
  | .unloadCandidateAutostart | .restoreCandidateAutostart | .restorePriorAutostart =>
    (perform (.restoreAutostart after.platform journal.platformRecord)).mapErr (.platform action)
  | .unloadCandidateManager | .reloadCandidateManager | .reloadPriorManager =>
    (perform (.reloadManager after.platform journal.platformRecord)).mapErr (.platform action)
  | .installCandidateLauncher =>
    (perform (.installLauncher checkpoint journal.targetPlatform.launcherUnit
      journal.platformRecord)).mapErr (.platform action)
  | .restorePriorLauncher =>
    (perform (.installLauncher checkpoint journal.priorPlatform.launcherUnit
      journal.platformRecord)).mapErr (.platform action)
  | .switchToCandidate => (access (.setActive (some journal.candidateUnit))).mapErr .store
  | .restorePriorActive => (access (.setActive journal.priorActiveUnit)).mapErr .store
  | .installCandidateLayout | .restorePriorLayout | .proveCandidate | .provePrior
  | .preflightCandidate | .provePriorGuardReleased | .proveCandidateGuardReleased | .commit
  | .finishRollback => throw (.invalidAction action)

/-- The end of `reconcile_action` for an action that changes nothing: its proof, between two
inspections. -/
def reconcileProof (transition : Transition)
    (seen : Observation) (proof : PlatformCall) : Coord StepError Unit := do
  let index := journal.layoutOperationIndex
  if !seen.beforeMatches then
    let candidateFailed ← (if action = .proveCandidate then
        (matchesExceptRuntime seen.actual transition.before transition.beforeCheckpoint index
          journal.platformRecord).mapErr .fatal
      else pure false)
    let drift := InstallCoordinatorError.stateDrift action transition.before transition.after seen.actual
    throw (if candidateFailed then .effect drift else .fatal drift)
  else do
    let _ ← (perform proof).mapErr fun source => .effect (.platform action source)
    (requireState journal action transition.before
      ⟨transition.after, transition.afterCheckpoint, index⟩).mapErr .fatal

/-- The end of `reconcile_action` for an action that changes the platform. -/
def reconcileMutation (transition : Transition) (seen : Observation) : Coord StepError Unit := do
  if !action.isIdempotentCommand && seen.afterMatches then pure ()
  else if !seen.beforeMatches && !seen.afterMatches then
    throw (.fatal (.stateDrift action transition.before transition.after seen.actual))
  else do
    (applyEffect journal action transition.afterCheckpoint transition.after).mapErr .effect
    (requireState journal action transition.before
      ⟨transition.after, transition.afterCheckpoint, journal.layoutOperationIndex⟩).mapErr .fatal

/-- `InstallCoordinator::reconcile_action` -/
def reconcileAction : Coord StepError Unit := do
  let transition ← (ofExcept (Transition.forAction journal action)).mapErr .fatal
  let before : Target :=
    ⟨transition.before, transition.beforeCheckpoint, journal.layoutOperationIndex⟩
  let after : Target :=
    ⟨transition.after, transition.afterCheckpoint, journal.layoutOperationIndex⟩
  let stoppedTargets := [before, after].filter fun target =>
    !action.isBaselineStep && target.state.platform.runningUnit.isNone
  let seen ← (observeOrStop journal action before after stoppedTargets).mapErr .fatal
  let abandoned ← (if action.isBaselineStep && !seen.beforeMatches && !seen.afterMatches then
      (abandonment journal action seen.actual).mapErr .fatal
    else pure none)
  match abandoned with
  | some detail => throw (.abandon detail)
  | none =>
    match transition.kind with
    | .preflight =>
      reconcileProof journal action transition seen
        (.preflightAuthority journal.candidateUnit transition.before journal.platformRecord)
    | .guardRelease =>
      reconcileProof journal action transition seen
        (.waitForGuardRelease transition.after.platform journal.platformRecord)
    | .ownerPublication =>
      reconcileProof journal action transition seen
        (.waitForNewerOwner transition.afterCheckpoint transition.after.platform
          journal.platformRecord journal.candidateOwnerReceipt)
    | .mutation => reconcileMutation journal action transition seen

/-! ## Entering rollback -/

/-- `InstallCoordinator::capture_candidate_owner_receipt`, which returns the journal with
the receipt -/
def captureCandidateOwnerReceipt (journal : InstallJournalV1) : Coord StepError InstallJournalV1 := do
  if journal.targetPlatform.runningUnit.isNone || journal.candidateOwnerReceipt.isSome then
    pure journal
  else do
    let actual ← inspectState.mapErr .fatal
    let expected := (Checkpoints.new journal).candidateRuntime
    if ← (matchesCheckpointAt actual expected .candidateRuntime journal.layoutOperationIndex
        journal.platformRecord none).mapErr .fatal then do
      let receipt : PlatformOwnerReceipt ← (perform (.captureCandidateOwnerReceipt
        journal.targetPlatform journal.platformRecord)).mapErr fun source =>
          .fatal (.platform .restoreCandidateRuntime source)
      (ofExcept receipt.validate).mapErr fun source => .fatal (.model source)
      pure { journal with candidateOwnerReceipt := some receipt }
    else throw (.effect (.stateDrift .restoreCandidateRuntime expected expected actual))

/-- The first of the candidates whose target the inspected state matches. -/
def firstMatch (journal : InstallJournalV1) (actual : InstallationState) :
    List (Target × InstallAction) → Coord InstallCoordinatorError (Option InstallAction)
  | [] => pure none
  | (target, action) :: rest => do
    if ← matchesTarget journal actual target then pure (some action)
    else firstMatch journal actual rest

/-- `rollback_entry_for`: the states a rollback can enter at, each with its entry, in the order they
are tried. -/
def rollbackEntries : List (Target × InstallAction) :=
  let c := Checkpoints.new journal
  let index := journal.layoutOperationIndex
  [(⟨c.candidateRuntime, .candidateRuntime, index⟩, .unloadCandidateRuntime),
    (⟨c.candidateAutostart, .candidateAutostart, index⟩, .unloadCandidateAutostart),
    (⟨c.candidateManager, .candidateManager, index⟩, .unloadCandidateManager),
    (⟨c.candidateActive, .candidateActive, index⟩, .proveCandidateGuardReleased),
    (⟨c.candidateLauncher, .candidateLauncher, index⟩, .restorePriorLauncher)] ++
  (if 0 < index then [(⟨c.candidateLayout, .candidateLayout, index⟩, .restorePriorLayout)]
    else []) ++
  [(⟨c.priorUnloaded, .priorUnloaded, index⟩, .reloadPriorManager),
    (⟨c.prior, .priorOriginal, index⟩, .finishRollback)]

/-- `InstallCoordinator::rollback_entry_for` -/
def rollbackEntryFor : Coord InstallCoordinatorError (Option InstallAction) :=
  firstMatch journal actual (rollbackEntries journal)

/-- `targets` in `rollback_entry_action` -/
def rollbackStopTargets : List Target :=
  let c := Checkpoints.new journal
  let index := journal.layoutOperationIndex
  [⟨c.candidateAutostart, .candidateAutostart, index⟩, ⟨c.candidateManager, .candidateManager, index⟩,
    ⟨c.candidateActive, .candidateActive, index⟩,
    ⟨c.candidateLauncher, .candidateLauncher, index⟩] ++
  (if 0 < index then [⟨c.candidateLayout, .candidateLayout, index⟩] else []) ++
  [⟨c.priorUnloaded, .priorUnloaded, index⟩]

variable (failedAction : InstallAction)

/-- The drift `rollback_entry_action` reports -/
def entryDrift (actual : InstallationState) : Coord InstallCoordinatorError InstallAction := do
  let transition ← Attempt.ofExcept (Transition.forAction journal failedAction)
  throw (.stateDrift failedAction transition.before transition.after actual)

/-- `InstallCoordinator::rollback_entry_action` -/
def rollbackEntryAction : Coord InstallCoordinatorError InstallAction := do
  let actual ← inspectState
  match ← rollbackEntryFor journal actual with
  | some action => pure action
  | none =>
    if failedAction.isBaselineStep then entryDrift journal failedAction actual
    else if ← stopFirst journal failedAction actual (rollbackStopTargets journal) then do
      let actual ← inspectState
      match ← rollbackEntryFor journal actual with
      | some action => pure action
      | none => entryDrift journal failedAction actual
    else entryDrift journal failedAction actual

/-- `RollbackEntry` -/
inductive RollbackEntry where
  | action (action : InstallAction)
  | abandon (detail : String)

/-- One turn of the loop of `enter_rollback`; `retry` is what it does when the candidate stopped or
restarted after it matched. -/
def enterRollbackOnce (retry : InstallCoordinatorError →
      Coord InstallCoordinatorError (InstallJournalV1 × RollbackEntry)) :
    Coord InstallCoordinatorError (InstallJournalV1 × RollbackEntry) := do
  match ← outcome (rollbackEntryAction journal failedAction) with
  | .error (.stateDrift action before after actual) =>
    if failedAction.isBaselineStep then do
      let seen ← inspectState
      match ← abandonment journal failedAction seen with
      | some detail => pure (journal, .abandon detail)
      | none => throw (.stateDrift action before after actual)
    else throw (.stateDrift action before after actual)
  | .error error => throw error
  | .ok nextAction =>
    if nextAction ≠ .unloadCandidateRuntime then pure (journal, .action nextAction)
    else
      match ← outcome (captureCandidateOwnerReceipt journal) with
      | .ok journal => pure (journal, .action nextAction)
      | .error (.effect error) => retry error
      | .error (.fatal error) => throw error
      | .error (.abandon detail) => throw (.invalidAbandonment detail)

/-- `InstallCoordinator::enter_rollback`, with the attempts it has left after the first; it
returns the journal with the receipt it bound -/
def enterRollback (journal : InstallJournalV1) (failedAction : InstallAction) :
    Nat → Coord InstallCoordinatorError (InstallJournalV1 × RollbackEntry)
  | 0 => enterRollbackOnce journal failedAction throw
  | attempts + 1 =>
    enterRollbackOnce journal failedAction fun _ => enterRollback journal failedAction attempts

/-- `MAX_ROLLBACK_ENTRY_ATTEMPTS` -/
def maxRollbackEntryAttempts : Nat := 3

/-! ## The loops -/

/-- `InstallOutcome` -/
inductive InstallOutcome where
  | committed (activeUnit : UnitId)
  | rolledBack (activeUnit : Option UnitId) (failure : String) (abandoned : Bool)
      (restored : Option RestoredRelease)
  deriving DecidableEq

/-- `InstallCoordinator::abandon` -/
def abandon (detail : String) : Coord InstallCoordinatorError InstallOutcome := do
  let failure := truncateDetail detail
  let journal ← advance { journal with failure := some failure, abandoned := true } .rolledBack none
  (writeJournal journal).mapErr .store
  pure (.rolledBack journal.priorActiveUnit failure true none)

/-- `InstallCoordinator::prior_runtime_lost` -/
def priorRuntimeLost : Coord InstallCoordinatorError Bool := do
  if journal.priorPlatform.runningUnit.isNone then pure false
  else do
    let actual ← inspectState
    matchesTarget journal actual
      ⟨(Checkpoints.new journal).priorAutostart, .priorAutostart, journal.layoutOperationIndex⟩

/-- Where one turn of `drive_rollback` leaves it. -/
inductive RollbackStep where
  | again (journal : InstallJournalV1) (restored : Option RestoredRelease) (restartedPrior : Bool)
  | done (outcome : InstallOutcome)

/-- Advance, persist and go on. -/
def rollbackTo (nextAction : InstallAction) (restored : Option RestoredRelease) (restartedPrior : Bool) :
    Coord InstallCoordinatorError RollbackStep := do
  let journal ← advance journal .rollback (some nextAction)
  let journal ← persist journal
  pure (.again journal restored restartedPrior)

/-- The error a rollback ends with when a step fails. -/
def StepError.ofRollback : StepError → InstallCoordinatorError
  | .effect error | .fatal error => error
  | .abandon detail => .invalidAbandonment detail

variable (restored : Option RestoredRelease) (restartedPrior : Bool)

/-- The turn of `drive_rollback` at an action other than the last. -/
def rollbackActionStep : Coord InstallCoordinatorError RollbackStep := do
  if action = .restorePriorLayout then do
    (reconcileLayoutOperation journal false).mapErr StepError.ofRollback
    let journal := { journal with layoutOperationIndex := journal.layoutOperationIndex - 1 }
    let nextAction ← (if journal.layoutOperationIndex = 0 then
        Attempt.ofExcept (nextRollback action) else pure action)
    rollbackTo journal nextAction restored restartedPrior
  else do
    (reconcileAction journal action).mapErr StepError.ofRollback
    let restored ← (if action = .provePrior then do
        let release ← Attempt.ask (S := calls) .takeRestoredRelease
        pure ((release : Option RestoredRelease).filter fun release =>
          journal.priorPlatform.runningUnit == some release.unit)
      else pure restored)
    let nextAction ← Attempt.ofExcept (nextRollback action)
    rollbackTo journal nextAction restored restartedPrior

/-- One turn of `drive_rollback`. -/
def rollbackStep : Coord InstallCoordinatorError RollbackStep := do
  match journal.nextAction with
  | none => throw .missingNextAction
  | some action =>
    let lost ← (if action = .provePrior ∧ ¬restartedPrior then priorRuntimeLost journal
      else pure false)
    if lost then rollbackTo journal .restorePriorRuntime restored true
    else if action = .finishRollback then do
      let journal ← advance journal .rolledBack none
      let journal ← persist journal
      pure (.done (.rolledBack journal.priorActiveUnit (journal.failure.getD "") false restored))
    else rollbackActionStep journal action restored restartedPrior

/-- The loop of `drive_rollback`. -/
def rollbackLoop : Nat → InstallJournalV1 → Option RestoredRelease → Bool →
    Coord InstallCoordinatorError InstallOutcome
  | 0, _, _, _ => throw .exhausted
  | fuel + 1, journal, restored, restartedPrior => do
    match ← rollbackStep journal restored restartedPrior with
    | .again journal restored restartedPrior => rollbackLoop fuel journal restored restartedPrior
    | .done outcome => pure outcome

/-- More turns than `drive_rollback` can take. -/
def rollbackFuel : Nat := journal.layoutOperationIndex + 17

/-- `InstallCoordinator::drive_rollback` -/
def driveRollback : Coord InstallCoordinatorError InstallOutcome := do
  let _ ← ask (S := calls) .takeRestoredRelease
  rollbackLoop (rollbackFuel journal) journal none false

/-- Where one turn of `drive_forward` leaves it. -/
inductive ForwardStep where
  | again (journal : InstallJournalV1)
  | rollback (journal : InstallJournalV1)
  | done (outcome : InstallOutcome)

/-- Advance to a forward action, persist and go on. -/
def forwardTo (nextAction : InstallAction) : Coord InstallCoordinatorError ForwardStep := do
  let journal ← advance journal .forward (some nextAction)
  let journal ← persist journal
  pure (.again journal)

/-- Record the failure, advance to a rollback action and persist. -/
def failTo (failure : String) (nextAction : InstallAction) :
    Coord InstallCoordinatorError ForwardStep := do
  let journal ← advance { journal with failure := some failure } .rollback (some nextAction)
  let journal ← persist journal
  pure (.rollback journal)

/-- The turn of `drive_forward` at a layout operation. -/
def forwardLayoutStep : Coord InstallCoordinatorError ForwardStep := do
  match ← Attempt.outcome (reconcileLayoutOperation journal true) with
  | .ok () => do
    let journal := { journal with layoutOperationIndex := journal.layoutOperationIndex + 1 }
    let nextAction ← (if journal.layoutOperationIndex = journal.layoutOperationCount then
        Attempt.ofExcept (nextForward .installCandidateLayout) else pure .installCandidateLayout)
    forwardTo journal nextAction
  | .error (.effect error) => do
    let failure := truncateDetail error.display
    let journal ← reconcileForwardLayoutProgressAfterError journal
    failTo journal failure
      (if journal.layoutOperationIndex = 0 then .reloadPriorManager else .restorePriorLayout)
  | .error (.fatal error) => throw error
  | .error (.abandon detail) => throw (.invalidAbandonment detail)

/-- Reconcile, and bind the candidate's owner once it runs. -/
def reconcileForward : Coord StepError InstallJournalV1 := do
  reconcileAction journal action
  if action = .restoreCandidateRuntime then captureCandidateOwnerReceipt journal else pure journal

/-- The turn of `drive_forward` at an action other than a layout operation or the last. -/
def forwardActionStep : Coord InstallCoordinatorError ForwardStep := do
  match ← Attempt.outcome (reconcileForward journal action) with
  | .ok journal => do
    let nextAction ← Attempt.ofExcept (nextForward action)
    forwardTo journal nextAction
  | .error (.effect error) => do
    let failure := truncateDetail error.display
    match ← enterRollback journal action (maxRollbackEntryAttempts - 1) with
    | (journal, .action nextAction) => failTo journal failure nextAction
    | (journal, .abandon detail) => do
      let outcome ← abandon journal (detail ++ ": " ++ failure)
      pure (.done outcome)
  | .error (.abandon detail) => do
    let outcome ← abandon journal detail
    pure (.done outcome)
  | .error (.fatal error) => throw error

/-- One turn of `drive_forward`. -/
def forwardStep : Coord InstallCoordinatorError ForwardStep := do
  match journal.nextAction with
  | none => throw .missingNextAction
  | some action =>
    if action = .commit then do
      let journal ← advance journal .committed none
      let journal ← persist journal
      pure (.done (.committed journal.candidateUnit))
    else if action = .installCandidateLayout then forwardLayoutStep journal
    else forwardActionStep journal action

/-- The loop of `drive_forward`. -/
def forwardLoop : Nat → InstallJournalV1 → Coord InstallCoordinatorError InstallOutcome
  | 0, _ => throw .exhausted
  | fuel + 1, journal => do
    match ← forwardStep journal with
    | .again journal => forwardLoop fuel journal
    | .rollback journal => driveRollback journal
    | .done outcome => pure outcome

/-- More turns than `drive_forward` can take. -/
def forwardFuel : Nat := journal.layoutOperationCount + 12

/-- `InstallCoordinator::drive_forward` -/
def driveForward : Coord InstallCoordinatorError InstallOutcome :=
  forwardLoop (forwardFuel journal) journal

/-! ## Install and recover -/

/-- `InstallRequest`; of the candidate's record only the unit is used here -/
structure InstallRequest where
  transactionId : InstallTransactionId
  candidate : UnitId
  targetPolicy : InstallTargetPolicy

/-- Is a transaction under way? -/
def InstallJournalV1.pending : Bool :=
  journal.disposition = .forward || journal.disposition = .rollback

/-- `InstallCoordinator::resume` -/
def resume : Coord InstallCoordinatorError InstallOutcome := do
  let _ ← (perform (.validateTransactionPlan journal.priorPlatform journal.targetPlatform
    journal.transitionStates journal.layoutOperationCount journal.platformRecord)).mapErr .preparePlatform
  match journal.disposition with
  | .forward => driveForward journal
  | .rollback => driveRollback journal
  | .committed => pure (.committed journal.candidateUnit)
  | .rolledBack =>
    pure (.rolledBack journal.priorActiveUnit (journal.failure.getD "") journal.abandoned none)

variable (request : InstallRequest)

/-- `InstallCoordinator::prepare_with_lock` -/
def prepareWithLock : Coord InstallCoordinatorError InstallJournalV1 := do
  let stored ← loadJournal.mapErr .store
  if stored.any pending then throw .pendingPreparation
  else do
    let priorActiveUnit ← (access .activeUnit).mapErr .store
    let priorPlatform : PlatformState ← (perform .inspect).mapErr .inspectPlatform
    (ofExcept priorPlatform.validate).mapErr .model
    let targetPlatform := request.targetPolicy.targetPlatform priorPlatform request.candidate
    let prepared : PreparedPlatformTransaction ← (perform (.prepareTransaction request.candidate
      ⟨priorActiveUnit, priorPlatform⟩ targetPlatform)).mapErr .preparePlatform
    (ofExcept prepared.record.validate).mapErr .model
    (ofExcept (prepared.transitions.validate priorPlatform targetPlatform)).mapErr .model
    let _ ← (perform (.validateTransactionPlan priorPlatform targetPlatform prepared.transitions
      prepared.layoutOperationCount prepared.record)).mapErr .preparePlatform
    (ofExcept (new request.transactionId priorActiveUnit request.candidate
      priorPlatform request.targetPolicy prepared.transitions prepared.layoutOperationCount
      prepared.record)).mapErr .model

/-- `InstallCoordinator::install_with_lock` -/
def installWithLock : Coord InstallCoordinatorError InstallOutcome := do
  let stored ← loadJournal.mapErr .store
  match stored.filter pending with
  | some journal => resume journal
  | none => do
    let journal ← prepareWithLock request
    (writeJournal journal).mapErr .store
    driveForward journal

/-- `InstallCoordinator::install` -/
def install : Coord InstallCoordinatorError InstallOutcome := do
  let _ ← (access .acquireLock).mapErr .store
  installWithLock request

/-- `InstallCoordinator::recover_with_lock` -/
def recoverWithLock : Coord InstallCoordinatorError (Option InstallOutcome) := do
  match ← loadJournal.mapErr .store with
  | none => pure none
  | some journal => do
    let outcome ← resume journal
    pure (some outcome)

/-- `InstallCoordinator::recover` -/
def recover : Coord InstallCoordinatorError (Option InstallOutcome) := do
  let _ ← (access .acquireLock).mapErr .store
  recoverWithLock

end Hypercolor.Install
