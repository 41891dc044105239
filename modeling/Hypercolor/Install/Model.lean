import Mathlib.Algebra.GroupWithZero.Nat
import Mathlib.Tactic.ByContra
import Hypercolor.Lib.Fallible

/-!
# The install journal

The data of `model.rs`: units, platform states and their transition states, platform records and
owner receipts, and the journal with its `validate` and `advance`. A unit identifier and a
transaction identifier carry the check that `new` makes, so that every value of the type has passed
it.

**`InstallJournalV1.validate_eq_ok`** says what a valid journal is, as named facts
(`InstallJournalV1.Valid`).
-/

namespace Hypercolor.Install

open Lib Nat

/-- `INSTALL_JOURNAL_SCHEMA_VERSION` -/
def installJournalSchemaVersion : Nat := 3
/-- `MAX_PLATFORM_TRANSACTION_RECORD_BYTES` -/
def maxPlatformTransactionRecordBytes : Nat := 12 * 1024
/-- `MAX_LINUX_TRANSACTION_RECORD_BYTES` -/
def maxLinuxTransactionRecordBytes : Nat := 128 * 1024
/-- `MAX_PLATFORM_OWNER_RECEIPT_BYTES` -/
def maxPlatformOwnerReceiptBytes : Nat := 1024
/-- `MAX_LAYOUT_OPERATIONS` -/
def maxLayoutOperations : Nat := 256
/-- The largest `u64`, the type of a journal's revision. -/
def maxRevision : Nat := 2 ^ 64 - 1

/-- `InstallModelError` -/
inductive InstallModelError where
  | runningWithoutLoadedLauncher
  | unsupportedJournalSchema (version : Nat)
  | zeroJournalRevision
  | invalidTargetState
  | invalidTransitionStates
  | invalidLayoutOperationCount
  | invalidLayoutOperationCursor
  | invalidTerminalState
  | invalidDispositionAction
  | invalidFailureDisposition
  | failureDetailTooLarge
  | journalRevisionOverflow
  | zeroPlatformRecordSchema
  | emptyPlatformRecord
  | platformRecordTooLarge (limit : Nat)
  | zeroOwnerReceiptSchema
  | emptyOwnerReceipt
  | ownerReceiptTooLarge (limit : Nat)
  | invalidOwnerReceipt
  | invalidAbandonment
  | invalidForcedStop
  deriving DecidableEq, Repr

/-! ## Units and platform states -/

/-- The check of `UnitId::new`, 64 lowercase hexadecimal characters after an optional
`legacy-` -/
def isUnitId (value : String) : Bool :=
  let legacy := ['l', 'e', 'g', 'a', 'c', 'y', '-']
  let digest := if legacy.isPrefixOf value.toList then value.toList.drop 7 else value.toList
  digest.length = 64 && digest.all fun c => c.isDigit || ('a' ≤ c && c ≤ 'f')

/-- `UnitId` -/
structure UnitId where
  value : String
  accepted : isUnitId value
  deriving DecidableEq

/-- The check of `InstallTransactionId::new` -/
def isInstallTransactionId (value : String) : Bool :=
  !value.isEmpty && value.utf8ByteSize ≤ 64 && value.toList.all fun c =>
    c.isAlphanum || c = '-' || c = '_'

/-- `InstallTransactionId` -/
structure InstallTransactionId where
  value : String
  accepted : isInstallTransactionId value

/-- `PlatformState` -/
structure PlatformState where
  layoutUnit : Option UnitId
  launcherUnit : Option UnitId
  loaded : Bool
  runningUnit : Option UnitId
  autostartEnabled : Bool
  deriving DecidableEq

/-- `validate` -/
def PlatformState.validate (state : PlatformState) : Except InstallModelError Unit :=
  failIf (state.runningUnit.isSome && !state.loaded) .runningWithoutLoadedLauncher

/-- `InstallationState` -/
structure InstallationState where
  activeUnit : Option UnitId
  platform : PlatformState
  deriving DecidableEq

/-- `PlatformCheckpoint` -/
inductive PlatformCheckpoint where
  | priorOriginal | priorUnloaded | candidateLayout | candidateLauncher | candidateActive
  | candidateManager | candidateAutostart | candidateRuntime | priorActiveRestored
  | priorLauncherRestored | priorLayoutRestored | priorManager | priorAutostart | priorRestored
  deriving DecidableEq

/-- `PlatformTransitionStates` -/
structure PlatformTransitionStates where
  priorUnloaded : PlatformState
  candidateManager : PlatformState
  candidateAutostart : PlatformState
  priorManager : PlatformState
  priorAutostart : PlatformState

/-- `validate` -/
def PlatformTransitionStates.validate (states : PlatformTransitionStates)
    (prior target : PlatformState) : Except InstallModelError Unit := do
  states.priorUnloaded.validate
  states.candidateManager.validate
  states.candidateAutostart.validate
  states.priorManager.validate
  states.priorAutostart.validate
  failIf (states.priorUnloaded.layoutUnit != prior.layoutUnit
      || states.priorUnloaded.launcherUnit != prior.launcherUnit
      || states.priorUnloaded.runningUnit.isSome
      || states.priorUnloaded.autostartEnabled != prior.autostartEnabled
      || states.candidateManager.layoutUnit != target.layoutUnit
      || states.candidateManager.launcherUnit != target.launcherUnit
      || states.candidateManager.autostartEnabled != prior.autostartEnabled
      || states.candidateManager.runningUnit.isSome
      || states.candidateAutostart.layoutUnit != target.layoutUnit
      || states.candidateAutostart.launcherUnit != target.launcherUnit
      || states.candidateAutostart.loaded != states.candidateManager.loaded
      || states.candidateAutostart.runningUnit != states.candidateManager.runningUnit
      || states.candidateAutostart.autostartEnabled != target.autostartEnabled
      || states.priorManager.layoutUnit != prior.layoutUnit
      || states.priorManager.launcherUnit != prior.launcherUnit
      || states.priorManager.autostartEnabled != prior.autostartEnabled
      || states.priorManager.runningUnit.isSome
      || states.priorAutostart.layoutUnit != prior.layoutUnit
      || states.priorAutostart.launcherUnit != prior.launcherUnit
      || states.priorAutostart.loaded != states.priorManager.loaded
      || states.priorAutostart.runningUnit != states.priorManager.runningUnit
      || states.priorAutostart.autostartEnabled != prior.autostartEnabled)
    .invalidTransitionStates

/-! ## Records and receipts -/

/-- The variants of `PlatformTransactionRecord` and of `PlatformOwnerReceipt`; each carries a schema
version and a payload. -/
inductive PlatformKind where
  | linux | macos | macosAppBundle | windowsMachine
  deriving DecidableEq

/-- `PlatformTransactionRecord` -/
structure PlatformTransactionRecord where
  platform : PlatformKind
  schemaVersion : Nat
  payload : List UInt8

/-- The `limit` of `PlatformTransactionRecord::validate` -/
def PlatformKind.recordLimit : PlatformKind → Nat
  | .linux => maxLinuxTransactionRecordBytes
  | .macos | .macosAppBundle | .windowsMachine => maxPlatformTransactionRecordBytes

/-- `validate` -/
def PlatformTransactionRecord.validate (record : PlatformTransactionRecord) :
    Except InstallModelError Unit := do
  failIf (record.schemaVersion == 0) .zeroPlatformRecordSchema
  failIf record.payload.isEmpty .emptyPlatformRecord
  failIf (record.platform.recordLimit < record.payload.length)
    (.platformRecordTooLarge record.platform.recordLimit)

/-- `PlatformOwnerReceipt` -/
structure PlatformOwnerReceipt where
  platform : PlatformKind
  schemaVersion : Nat
  payload : List UInt8

/-- `validate` -/
def PlatformOwnerReceipt.validate (receipt : PlatformOwnerReceipt) : Except InstallModelError Unit := do
  failIf (receipt.schemaVersion == 0) .zeroOwnerReceiptSchema
  failIf receipt.payload.isEmpty .emptyOwnerReceipt
  failIf (maxPlatformOwnerReceiptBytes < receipt.payload.length)
    (.ownerReceiptTooLarge maxPlatformOwnerReceiptBytes)

/-- `matches_record` -/
def PlatformOwnerReceipt.matchesRecord (receipt : PlatformOwnerReceipt)
    (record : PlatformTransactionRecord) : Bool :=
  receipt.platform == record.platform

/-- `PreparedPlatformTransaction` -/
structure PreparedPlatformTransaction where
  record : PlatformTransactionRecord
  transitions : PlatformTransitionStates
  layoutOperationCount : Nat

/-! ## Dispositions, actions and policies -/

/-- `InstallDisposition` -/
inductive InstallDisposition where
  | forward | rollback | committed | rolledBack
  deriving DecidableEq

/-- `InstallAction` -/
inductive InstallAction where
  | preflightCandidate | unloadPrior | provePriorGuardReleased | installCandidateLayout
  | installCandidateLauncher | switchToCandidate | reloadCandidateManager
  | restoreCandidateAutostart | restoreCandidateRuntime | proveCandidate | commit
  | unloadCandidateRuntime | unloadCandidateAutostart | unloadCandidateManager
  | proveCandidateGuardReleased | restorePriorActive | restorePriorLauncher | restorePriorLayout
  | reloadPriorManager | restorePriorAutostart | restorePriorRuntime | provePrior | finishRollback
  deriving DecidableEq

/-- `is_forward` -/
def InstallAction.isForward : InstallAction → Bool
  | .preflightCandidate | .unloadPrior | .provePriorGuardReleased | .installCandidateLayout
  | .installCandidateLauncher | .switchToCandidate | .reloadCandidateManager
  | .restoreCandidateAutostart | .restoreCandidateRuntime | .proveCandidate | .commit => true
  | _ => false

/-- `is_rollback` -/
def InstallAction.isRollback : InstallAction → Bool
  | .unloadCandidateRuntime | .unloadCandidateAutostart | .unloadCandidateManager
  | .proveCandidateGuardReleased | .restorePriorActive | .restorePriorLauncher
  | .restorePriorLayout | .reloadPriorManager | .restorePriorAutostart | .restorePriorRuntime
  | .provePrior | .finishRollback => true
  | _ => false

/-- `InstallTargetPolicy` -/
inductive InstallTargetPolicy where
  | preserve | enableOnFirstInstall | enabledAndRunning | disabled

/-- `target_platform` -/
def InstallTargetPolicy.targetPlatform (policy : InstallTargetPolicy) (prior : PlatformState)
    (candidate : UnitId) : PlatformState :=
  let (launcherUnit, loaded, running, autostartEnabled) :=
    match policy with
    | .preserve =>
      (prior.launcherUnit.map fun _ => candidate, prior.loaded, prior.runningUnit.isSome,
        prior.autostartEnabled)
    | .enableOnFirstInstall =>
      if prior.launcherUnit.isNone then (some candidate, true, true, true)
      else (some candidate, prior.loaded, prior.runningUnit.isSome, prior.autostartEnabled)
    | .enabledAndRunning => (some candidate, true, true, true)
    | .disabled => (some candidate, false, false, false)
  { layoutUnit := some candidate
    launcherUnit
    loaded
    runningUnit := if running then some candidate else none
    autostartEnabled }

/-! ## The journal -/

/-- `InstallJournalV1` -/
structure InstallJournalV1 where
  schemaVersion : Nat
  revision : Nat
  transactionId : InstallTransactionId
  disposition : InstallDisposition
  nextAction : Option InstallAction
  priorActiveUnit : Option UnitId
  candidateUnit : UnitId
  targetPolicy : InstallTargetPolicy
  priorPlatform : PlatformState
  targetPlatform : PlatformState
  transitionStates : PlatformTransitionStates
  layoutOperationCount : Nat
  layoutOperationIndex : Nat
  platformRecord : PlatformTransactionRecord
  candidateOwnerReceipt : Option PlatformOwnerReceipt
  failure : Option String
  abandoned : Bool
  forcedStops : List UnitId

namespace InstallJournalV1

/-- `new` -/
def new (transactionId : InstallTransactionId) (priorActiveUnit : Option UnitId)
    (candidateUnit : UnitId) (priorPlatform : PlatformState) (targetPolicy : InstallTargetPolicy)
    (transitionStates : PlatformTransitionStates) (layoutOperationCount : Nat)
    (platformRecord : PlatformTransactionRecord) : Except InstallModelError InstallJournalV1 := do
  priorPlatform.validate
  platformRecord.validate
  let targetPlatform := targetPolicy.targetPlatform priorPlatform candidateUnit
  transitionStates.validate priorPlatform targetPlatform
  failIf (layoutOperationCount == 0 || maxLayoutOperations < layoutOperationCount)
    .invalidLayoutOperationCount
  return {
    schemaVersion := installJournalSchemaVersion
    revision := 1
    transactionId
    disposition := .forward
    nextAction := some .preflightCandidate
    priorActiveUnit
    candidateUnit
    targetPolicy
    priorPlatform
    targetPlatform
    transitionStates
    layoutOperationCount
    layoutOperationIndex := 0
    platformRecord
    candidateOwnerReceipt := none
    failure := none
    abandoned := false
    forcedStops := [] }

/-- `receipt_allowed` in `validate` -/
def receiptAllowed : InstallDisposition → Option InstallAction → Bool
  | .forward, some .proveCandidate | .forward, some .commit => true
  | .forward, _ => false
  | .rollback, _ | .committed, _ | .rolledBack, _ => true

/-- `layout_cursor_matches_action` in `validate` -/
def layoutCursorMatchesAction (count index : Nat) : InstallDisposition → Option InstallAction → Bool
  | .forward, some .preflightCandidate
  | .forward, some .unloadPrior
  | .forward, some .provePriorGuardReleased => index == 0
  | .forward, some .installCandidateLayout => index < count
  | .forward, _ | .committed, _ => index == count
  | .rollback, some .restorePriorLayout => 0 < index
  | .rollback, some .reloadPriorManager
  | .rollback, some .restorePriorAutostart
  | .rollback, some .restorePriorRuntime
  | .rollback, some .provePrior
  | .rollback, some .finishRollback
  | .rolledBack, none => index == 0
  | .rollback, some _ => index == count
  | _, _ => true

/-- `terminal` in `validate` -/
def terminal : InstallDisposition → Bool
  | .committed | .rolledBack => true
  | .forward | .rollback => false

/-- `action_matches_disposition` in `validate` -/
def actionMatchesDisposition : InstallDisposition → Option InstallAction → Bool
  | .forward, action => action.any InstallAction.isForward
  | .rollback, action => action.any InstallAction.isRollback
  | .committed, action | .rolledBack, action => action.isNone

/-- `failure_matches_disposition` in `validate` -/
def failureMatchesDisposition (failure : Option String) : InstallDisposition → Bool
  | .forward | .committed => failure.isNone
  | .rollback | .rolledBack => failure.isSome

/-- The actions of `receipt_required` in `validate` -/
def receiptExpected : InstallDisposition → Option InstallAction → Bool
  | .forward, some .proveCandidate
  | .forward, some .commit
  | .committed, none
  | .rollback, some .unloadCandidateRuntime => true
  | _, _ => false

variable (journal : InstallJournalV1)

/-- `forced_stops_valid` in `validate` -/
def forcedStopsValid : Bool :=
  journal.forcedStops.zipIdx.all fun (unit, index) =>
    !(journal.forcedStops.take index).contains unit &&
      (unit == journal.candidateUnit || some unit == journal.priorActiveUnit)

/-- The checks of `validate` on an owner receipt -/
def validateReceipt : Except InstallModelError Unit :=
  match journal.candidateOwnerReceipt with
  | none => .ok ()
  | some receipt => do
    receipt.validate
    failIf (!receipt.matchesRecord journal.platformRecord ||
      journal.targetPlatform.runningUnit.isNone) .invalidOwnerReceipt
    failIf (!receiptAllowed journal.disposition journal.nextAction) .invalidOwnerReceipt

/-- `validate` -/
def validate (journal : InstallJournalV1) : Except InstallModelError Unit := do
  failIf (journal.schemaVersion != installJournalSchemaVersion)
    (.unsupportedJournalSchema journal.schemaVersion)
  failIf (journal.revision == 0) .zeroJournalRevision
  journal.priorPlatform.validate
  journal.platformRecord.validate
  failIf (journal.targetPlatform !=
    journal.targetPolicy.targetPlatform journal.priorPlatform journal.candidateUnit)
    .invalidTargetState
  journal.targetPlatform.validate
  journal.validateReceipt
  journal.transitionStates.validate journal.priorPlatform journal.targetPlatform
  failIf (journal.layoutOperationCount == 0 || maxLayoutOperations < journal.layoutOperationCount
    || journal.layoutOperationCount < journal.layoutOperationIndex) .invalidLayoutOperationCount
  failIf (!layoutCursorMatchesAction journal.layoutOperationCount journal.layoutOperationIndex
    journal.disposition journal.nextAction) .invalidLayoutOperationCursor
  failIf (terminal journal.disposition != journal.nextAction.isNone) .invalidTerminalState
  failIf (!actionMatchesDisposition journal.disposition journal.nextAction) .invalidDispositionAction
  failIf (!failureMatchesDisposition journal.failure journal.disposition) .invalidFailureDisposition
  failIf (journal.failure.any fun failure => 4096 < failure.utf8ByteSize) .failureDetailTooLarge
  failIf (journal.targetPlatform.runningUnit.isSome
    && receiptExpected journal.disposition journal.nextAction
    && journal.candidateOwnerReceipt.isNone) .invalidOwnerReceipt
  failIf (journal.abandoned && (journal.disposition != .rolledBack
    || journal.candidateOwnerReceipt.isSome || journal.layoutOperationIndex != 0))
    .invalidAbandonment
  failIf (!journal.forcedStopsValid) .invalidForcedStop

/-- `advance`, which leaves the journal it is given changed; here it
returns it. -/
def advance (disposition : InstallDisposition)
    (nextAction : Option InstallAction) : Except InstallModelError InstallJournalV1 := do
  failIf (maxRevision < journal.revision + 1) .journalRevisionOverflow
  let advanced := { journal with revision := journal.revision + 1, disposition, nextAction }
  advanced.validate
  return advanced

/-! ## What a valid journal is

`Sound` is about the plan, the cursor and the receipt, whatever the next action is; `Fits` is what a
disposition and an action ask of the rest. -/

/-- The checks of `validate` that no disposition or action takes part in, apart from the platform of
a receipt. -/
structure Sound (journal : InstallJournalV1) : Prop where
  schema : journal.schemaVersion = installJournalSchemaVersion
  prior : journal.priorPlatform.validate = .ok ()
  record : journal.platformRecord.validate = .ok ()
  target_eq : journal.targetPlatform =
    journal.targetPolicy.targetPlatform journal.priorPlatform journal.candidateUnit
  target : journal.targetPlatform.validate = .ok ()
  receipt : ∀ receipt, journal.candidateOwnerReceipt = some receipt →
    receipt.validate = .ok () ∧ journal.targetPlatform.runningUnit.isSome
  transitions :
    journal.transitionStates.validate journal.priorPlatform journal.targetPlatform = .ok ()
  count_pos : 0 < journal.layoutOperationCount
  count_le : journal.layoutOperationCount ≤ maxLayoutOperations
  index_le : journal.layoutOperationIndex ≤ journal.layoutOperationCount
  failure_len : ∀ failure, journal.failure = some failure → failure.utf8ByteSize ≤ 4096
  forced : journal.forcedStopsValid

/-- The receipt, if any, is of the record's platform. -/
def ReceiptMatches : Prop :=
  ∀ receipt, journal.candidateOwnerReceipt = some receipt →
    receipt.platform = journal.platformRecord.platform

/-- The checks of `validate` on a disposition and an action. -/
structure Fits (journal : InstallJournalV1) (disposition : InstallDisposition)
    (nextAction : Option InstallAction) : Prop where
  receipt_allowed : journal.candidateOwnerReceipt.isSome →
    receiptAllowed disposition nextAction
  cursor : layoutCursorMatchesAction journal.layoutOperationCount journal.layoutOperationIndex
    disposition nextAction
  terminal_iff : terminal disposition = nextAction.isNone
  action : actionMatchesDisposition disposition nextAction
  failure : failureMatchesDisposition journal.failure disposition
  receipt_expected : journal.targetPlatform.runningUnit.isSome →
    receiptExpected disposition nextAction → journal.candidateOwnerReceipt.isSome
  abandoned : journal.abandoned → disposition = .rolledBack ∧
    journal.candidateOwnerReceipt = none ∧ journal.layoutOperationIndex = 0

/-- What `validate` accepts. -/
structure Valid (journal : InstallJournalV1) : Prop where
  revision_pos : 0 < journal.revision
  sound : journal.Sound
  matched : journal.ReceiptMatches
  fits : journal.Fits journal.disposition journal.nextAction

variable {j : InstallJournalV1}

lemma validateReceipt_eq_ok : j.validateReceipt = .ok () ↔
    ∀ rc, j.candidateOwnerReceipt = some rc → rc.validate = .ok () ∧
      rc.platform = j.platformRecord.platform ∧ j.targetPlatform.runningUnit.isSome ∧
      receiptAllowed j.disposition j.nextAction := by
  unfold validateReceipt
  split
  · next h => simp [h]
  · next rc h =>
    simp [h, check_eq_ok, PlatformOwnerReceipt.matchesRecord, Option.isSome_iff_ne_none, and_assoc]

theorem validate_eq_ok : j.validate = .ok () ↔ j.Valid := by
  simp only [validate, check_eq_ok, failIf_eq_ok, validateReceipt_eq_ok]
  constructor
  · rintro ⟨hs, hrv, hp, hre, hte, ht, hr, htr, hl, hc, hter, ha, hf, hln, hep, hab, hfo⟩
    refine ⟨?_, ⟨?_, hp, hre, ?_, ht, ?_, htr, ?_, ?_, ?_, ?_, ?_⟩, ?_, ⟨?_, ?_, ?_, ?_, ?_, ?_, ?_⟩⟩
    · simpa [Nat.pos_iff_ne_zero] using hrv
    · simpa using hs
    · simpa using hte
    · exact fun rc h => ⟨(hr rc h).1, (hr rc h).2.2.1⟩
    · simp at hl; omega
    · simp at hl; omega
    · simp at hl; omega
    · intro fl h
      simpa [h] using hln
    · simpa using hfo
    · exact fun rc h => (hr rc h).2.1
    · intro h
      obtain ⟨rc, h⟩ := Option.isSome_iff_exists.mp h
      exact (hr rc h).2.2.2
    · simpa using hc
    · simpa using hter
    · simpa using ha
    · simpa using hf
    · intro hrn he
      simpa [hrn, he] using hep
    · intro h
      simpa [h, and_assoc] using hab
  · rintro ⟨hrv, ⟨hs, hp, hre, hte, ht, hr, htr, hpo, hle, hi, hln, hfo⟩, hm, ⟨hal, hc, hter, ha, hf,
      hep, hab⟩⟩
    refine ⟨?_, ?_, hp, hre, ?_, ht, ?_, htr, ?_, ?_, ?_, ?_, ?_, ?_, ?_, ?_, ?_⟩
    · simpa using hs
    · simp; omega
    · simpa using hte
    · intro rc h
      exact ⟨(hr rc h).1, hm rc h, (hr rc h).2, hal (by simp [h])⟩
    · simp; omega
    · simpa using hc
    · simpa using hter
    · simpa using ha
    · simpa using hf
    · rcases h : j.failure with _ | fl
      · rfl
      · simpa using hln fl h
    · by_contra hne
      simp only [Bool.not_eq_false, Bool.and_eq_true] at hne
      obtain ⟨⟨hrn, he⟩, hn⟩ := hne
      simp_all
    · rcases h : j.abandoned with _ | _
      · rfl
      · simpa [and_assoc] using hab h
    · simpa using hfo

/-- A sound journal whose receipt is of another platform is refused for it. -/
lemma validate_of_mismatch (hrv : 0 < j.revision) (hs : j.Sound)
    (hm : ¬ j.ReceiptMatches) : j.validate = .error .invalidOwnerReceipt := by
  simp only [ReceiptMatches, not_forall] at hm
  obtain ⟨rc, hr, hn⟩ := hm
  have hre : j.validateReceipt = .error .invalidOwnerReceipt := by
    unfold validateReceipt
    rw [hr]
    refine (bind_of_eq_ok (hs.receipt rc hr).1).trans ?_
    have hn' : rc.matchesRecord j.platformRecord = false := by
      simpa [PlatformOwnerReceipt.matchesRecord] using hn
    rw [hn']
    rfl
  refine (bind_of_eq_ok (failIf_eq_ok.mpr (by simpa using hs.schema))).trans ?_
  refine (bind_of_eq_ok (failIf_eq_ok.mpr (by simp; omega))).trans ?_
  refine (bind_of_eq_ok hs.prior).trans ((bind_of_eq_ok hs.record).trans ?_)
  refine (bind_of_eq_ok (failIf_eq_ok.mpr (by simpa using hs.target_eq))).trans ?_
  refine (bind_of_eq_ok hs.target).trans ?_
  rw [hre]
  rfl

/-- Where a fitting `advance` takes a journal. -/
def advanced (journal : InstallJournalV1) (disposition : InstallDisposition)
    (nextAction : Option InstallAction) : InstallJournalV1 :=
  { journal with revision := journal.revision + 1, disposition, nextAction }

variable {disposition : InstallDisposition} {nextAction : Option InstallAction}

lemma valid_advanced (hs : j.Sound) (hm : j.ReceiptMatches) (hf : j.Fits disposition nextAction) :
    (j.advanced disposition nextAction).Valid where
  revision_pos := succ_pos _
  sound := { hs with }
  matched := hm
  fits := { hf with }

/-- **What `advance` does** with a sound journal and an action that fits it: it moves, unless the
revision is at its end or the receipt is of another platform. -/
lemma advance_cases (hs : j.Sound) (hf : j.Fits disposition nextAction) :
    j.advance disposition nextAction = .error .journalRevisionOverflow ∨
    (¬ j.ReceiptMatches ∧ j.advance disposition nextAction = .error .invalidOwnerReceipt) ∨
    (j.ReceiptMatches ∧ j.advance disposition nextAction = .ok (j.advanced disposition nextAction)) := by
  by_cases hov : maxRevision < j.revision + 1
  · refine .inl ?_
    unfold advance failIf
    rw [if_pos (by simpa using hov)]
    rfl
  · have hc : failIf (decide (maxRevision < j.revision + 1))
        InstallModelError.journalRevisionOverflow = .ok () := failIf_eq_ok.mpr (by simpa using hov)
    refine .inr ?_
    by_cases hm : j.ReceiptMatches
    · refine .inr ⟨hm, (bind_of_eq_ok hc).trans ?_⟩
      exact bind_of_eq_ok (validate_eq_ok.mpr (valid_advanced hs hm hf))
    · refine .inl ⟨hm, (bind_of_eq_ok hc).trans ?_⟩
      have hr : (j.advanced disposition nextAction).validate = .error .invalidOwnerReceipt :=
        validate_of_mismatch (succ_pos _) { hs with } hm
      show ((j.advanced disposition nextAction).validate >>= _) = _
      rw [hr]
      rfl

/-- An `advance` that succeeds has moved the journal and validated it. -/
lemma advance_eq_ok {nx : InstallJournalV1} (h : j.advance disposition nextAction = .ok nx) :
    nx = j.advanced disposition nextAction ∧ nx.Valid := by
  obtain ⟨-, h⟩ := check_eq_ok.mp h
  obtain ⟨hv, ⟨⟩⟩ := check_eq_ok.mp h
  exact ⟨rfl, validate_eq_ok.mp hv⟩

/-- The target of a valid prior state is valid. -/
lemma target_validate {pol : InstallTargetPolicy} {prior : PlatformState} {candidate : UnitId}
    (h : prior.validate = .ok ()) : (pol.targetPlatform prior candidate).validate = .ok () := by
  simp only [PlatformState.validate, failIf_eq_ok, Bool.and_eq_false_iff] at h ⊢
  cases pol <;> simp only [InstallTargetPolicy.targetPlatform] <;> (try split) <;>
    cases hr : prior.runningUnit <;> simp_all

/-- The first journal of a transaction. -/
structure Fresh (journal : InstallJournalV1) : Prop where
  revision : journal.revision = 1
  disposition : journal.disposition = .forward
  action : journal.nextAction = some .preflightCandidate

/-- **A new journal is valid.** -/
theorem new_valid {transactionId : InstallTransactionId} {priorActiveUnit : Option UnitId}
    {candidateUnit : UnitId} {priorPlatform : PlatformState} {targetPolicy : InstallTargetPolicy}
    {transitionStates : PlatformTransitionStates} {ct : Nat} {platformRecord : PlatformTransactionRecord}
    (h : new transactionId priorActiveUnit candidateUnit priorPlatform targetPolicy
      transitionStates ct platformRecord = .ok j) : j.Valid ∧ j.Fresh := by
  simp only [new, check_eq_ok, failIf_eq_ok] at h
  obtain ⟨hp, hr, ht, hc, ⟨⟩⟩ := h
  refine ⟨⟨Nat.one_pos, ⟨rfl, hp, hr, rfl, target_validate hp, (by simp), ht,
    ?_, ?_, zero_le _, (by simp), rfl⟩, (by rintro _ ⟨⟩), ⟨by simp, rfl, rfl, rfl, rfl,
    (by rintro - ⟨⟩), by rintro ⟨⟩⟩⟩, rfl, rfl, rfl⟩
  · simp only [Bool.or_eq_false_iff, beq_eq_false_iff_ne] at hc
    exact Nat.pos_of_ne_zero hc.1
  · simp only [Bool.or_eq_false_iff, decide_eq_false_iff_not] at hc
    exact Nat.le_of_not_lt hc.2

end InstallJournalV1

end Hypercolor.Install
