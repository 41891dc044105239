import Hypercolor.Lib.Program
import Hypercolor.Install.Model

/-!
# What the coordinator calls

The methods of the `InstallPlatform` trait, the operations of `InstallStore` and the journal's own
`advance`, as the calls of a program (`Lib.Program`). The platform is code outside the coordinator
and the disk is outside the program, so both are only calls here; what they may do is said by the
behaviours of `Install.World`. `advance` is a pure function and is answered by it; it is a call so
that each use is seen.
-/

namespace Hypercolor.Install

open Lib

/-- `InstallPlatformError` -/
structure InstallPlatformError where
  detail : String
  deriving DecidableEq

/-- `InstallStoreError`; the variants other than `InvalidJournal` by their text -/
inductive InstallStoreError where
  | invalidJournal (source : InstallModelError)
  | other (detail : String)
  deriving DecidableEq

/-- `RestoredRelease` -/
structure RestoredRelease where
  unit : UnitId
  version : String
  ofInstance : String
  processId : UInt32
  executableSha256 : String
  deriving DecidableEq

/-- The methods of `InstallPlatform` that can fail -/
inductive PlatformCall where
  | inspect
  | prepareTransaction (candidate : UnitId) (prior : InstallationState) (target : PlatformState)
  | matchesExactState (checkpoint : PlatformCheckpoint) (expected : PlatformState)
      (layoutOperationIndex : Nat) (record : PlatformTransactionRecord)
      (candidateOwnerReceipt : Option PlatformOwnerReceipt)
  | captureCandidateOwnerReceipt (expected : PlatformState) (record : PlatformTransactionRecord)
  | validateTransactionPlan (prior target : PlatformState) (transitions : PlatformTransitionStates)
      (layoutOperationCount : Nat) (record : PlatformTransactionRecord)
  | preflightAuthority (candidate : UnitId) (prior : InstallationState)
      (record : PlatformTransactionRecord)
  | waitForGuardRelease (unloaded : PlatformState) (record : PlatformTransactionRecord)
  | installLauncher (checkpoint : PlatformCheckpoint) (unit : Option UnitId)
      (record : PlatformTransactionRecord)
  | installLayoutOperation (checkpoint : PlatformCheckpoint) (unit : Option UnitId)
      (operationIndex : Nat) (record : PlatformTransactionRecord)
  | reloadManager (expected : PlatformState) (record : PlatformTransactionRecord)
  | restoreAutostart (expected : PlatformState) (record : PlatformTransactionRecord)
  | restoreRuntime (expected : PlatformState) (record : PlatformTransactionRecord)
      (candidateOwnerReceipt : Option PlatformOwnerReceipt)
  | waitForNewerOwner (checkpoint : PlatformCheckpoint) (expected : PlatformState)
      (record : PlatformTransactionRecord) (candidateOwnerReceipt : Option PlatformOwnerReceipt)
  | stopUnjournaledRuntime (record : PlatformTransactionRecord)
  | matchesExactStateExceptRuntime (checkpoint : PlatformCheckpoint) (expected : PlatformState)
      (layoutOperationIndex : Nat) (record : PlatformTransactionRecord)
  | matchesUntouchedPrior (prior : PlatformState) (record : PlatformTransactionRecord)
      (restarted : Bool)

/-- What each method returns on success. -/
def PlatformCall.Reply : PlatformCall → Type
  | .inspect => PlatformState
  | .prepareTransaction .. => PreparedPlatformTransaction
  | .captureCandidateOwnerReceipt .. => PlatformOwnerReceipt
  | .matchesExactState .. | .stopUnjournaledRuntime .. | .matchesExactStateExceptRuntime ..
  | .matchesUntouchedPrior .. => Bool
  | _ => Unit

/-- The operations of `InstallStore` the coordinator uses. Reading and replacing the journal
file stand for the file operations of `load_journal` and `write_journal`, coding included. -/
inductive StoreCall where
  | acquireLock
  | activeUnit
  | setActive (unit : Option UnitId)
  | readJournal
  | replaceJournal (journal : InstallJournalV1)

/-- What each operation returns on success. -/
def StoreCall.Reply : StoreCall → Type
  | .activeUnit => Option UnitId
  | .readJournal => Option InstallJournalV1
  | .acquireLock | .setActive _ | .replaceJournal _ => Unit

/-- Every call of the coordinator. -/
inductive InstallCall where
  | platform (call : PlatformCall)
  | takeRestoredRelease
  | takeForcedStop
  | store (call : StoreCall)
  | advance (journal : InstallJournalV1) (disposition : InstallDisposition)
      (nextAction : Option InstallAction)

/-- The coordinator's calls and their answers. -/
def calls : Signature where
  Call := InstallCall
  Answer
    | .platform call => Except InstallPlatformError call.Reply
    | .takeRestoredRelease => Option RestoredRelease
    | .takeForcedStop => Option UnitId
    | .store call => Except InstallStoreError call.Reply
    | .advance .. => Except InstallModelError InstallJournalV1

/-- A function of the coordinator. -/
abbrev Coord (ε α : Type) : Type := Attempt calls ε α

/-- Call a method of the platform. -/
def perform (call : PlatformCall) : Coord InstallPlatformError call.Reply :=
  (Attempt.ask (S := calls) (.platform call) : Coord InstallPlatformError _) >>=
    fun reply => Attempt.ofExcept reply

/-- Call an operation of the store. -/
def access (call : StoreCall) : Coord InstallStoreError call.Reply :=
  (Attempt.ask (S := calls) (.store call) : Coord InstallStoreError _) >>=
    fun reply => Attempt.ofExcept reply

/-! ## Errors -/

/-- `InstallCoordinatorError`; `exhausted` is not of the source, it ends a loop of the model
whose fuel is used up, and no run on a valid journal meets it. -/
inductive InstallCoordinatorError where
  | pendingPreparation
  | store (source : InstallStoreError)
  | model (source : InstallModelError)
  | platform (action : InstallAction) (source : InstallPlatformError)
  | inspectPlatform (source : InstallPlatformError)
  | preparePlatform (source : InstallPlatformError)
  | stateDrift (action : InstallAction) (before after actual : InstallationState)
  | missingNextAction
  | invalidAbandonment (detail : String)
  | invalidAction (action : InstallAction)
  | exhausted
  deriving DecidableEq

/-- `StepError` -/
inductive StepError where
  | effect (error : InstallCoordinatorError)
  | fatal (error : InstallCoordinatorError)
  | abandon (detail : String)

/-! ## Their texts

A failed step's text becomes the failure the journal records. `{:?}` of the source is `debug`,
`{}` is `display`. -/

/-- `#[derive(Debug)]` of `InstallAction` -/
def InstallAction.debug : InstallAction → String
  | .preflightCandidate => "PreflightCandidate"
  | .unloadPrior => "UnloadPrior"
  | .provePriorGuardReleased => "ProvePriorGuardReleased"
  | .installCandidateLayout => "InstallCandidateLayout"
  | .installCandidateLauncher => "InstallCandidateLauncher"
  | .switchToCandidate => "SwitchToCandidate"
  | .reloadCandidateManager => "ReloadCandidateManager"
  | .restoreCandidateAutostart => "RestoreCandidateAutostart"
  | .restoreCandidateRuntime => "RestoreCandidateRuntime"
  | .proveCandidate => "ProveCandidate"
  | .commit => "Commit"
  | .unloadCandidateRuntime => "UnloadCandidateRuntime"
  | .unloadCandidateAutostart => "UnloadCandidateAutostart"
  | .unloadCandidateManager => "UnloadCandidateManager"
  | .proveCandidateGuardReleased => "ProveCandidateGuardReleased"
  | .restorePriorActive => "RestorePriorActive"
  | .restorePriorLauncher => "RestorePriorLauncher"
  | .restorePriorLayout => "RestorePriorLayout"
  | .reloadPriorManager => "ReloadPriorManager"
  | .restorePriorAutostart => "RestorePriorAutostart"
  | .restorePriorRuntime => "RestorePriorRuntime"
  | .provePrior => "ProvePrior"
  | .finishRollback => "FinishRollback"

/-- `#[derive(Debug)]` of `Option<UnitId>` -/
def debugUnit : Option UnitId → String
  | none => "None"
  | some unit => "Some(UnitId(\"" ++ unit.value ++ "\"))"

/-- `#[derive(Debug)]` of `InstallationState` -/
def InstallationState.debug (state : InstallationState) : String :=
  "InstallationState \x7b active_unit: " ++ debugUnit state.activeUnit ++
    ", platform: PlatformState \x7b layout_unit: " ++ debugUnit state.platform.layoutUnit ++
    ", launcher_unit: " ++ debugUnit state.platform.launcherUnit ++
    ", loaded: " ++ toString state.platform.loaded ++
    ", running_unit: " ++ debugUnit state.platform.runningUnit ++
    ", autostart_enabled: " ++ toString state.platform.autostartEnabled ++ " \x7d \x7d"

/-- `#[error]` of `InstallModelError` -/
def InstallModelError.display : InstallModelError → String
  | .runningWithoutLoadedLauncher => "platform state cannot report a running unit while unloaded"
  | .unsupportedJournalSchema version =>
    "install journal schema " ++ toString version ++ " is unsupported"
  | .zeroJournalRevision => "install journal revision must be nonzero"
  | .invalidTargetState => "install journal target state does not name the candidate unit"
  | .invalidTransitionStates => "install journal platform transition states are inconsistent"
  | .invalidLayoutOperationCount => "install journal layout operation cursor is invalid"
  | .invalidLayoutOperationCursor =>
    "install journal action is inconsistent with its layout operation cursor"
  | .invalidTerminalState => "install journal terminal disposition and next action disagree"
  | .invalidDispositionAction => "install journal disposition and next action disagree"
  | .invalidFailureDisposition => "install journal disposition and failure detail disagree"
  | .failureDetailTooLarge => "install journal failure detail exceeds 4096 bytes"
  | .journalRevisionOverflow => "install journal revision overflow"
  | .zeroPlatformRecordSchema => "platform transaction record schema must be nonzero"
  | .emptyPlatformRecord => "platform transaction record must not be empty"
  | .platformRecordTooLarge limit =>
    "platform transaction record exceeds " ++ toString limit ++ " bytes"
  | .zeroOwnerReceiptSchema => "platform owner receipt schema must be nonzero"
  | .emptyOwnerReceipt => "platform owner receipt must not be empty"
  | .ownerReceiptTooLarge limit => "platform owner receipt exceeds " ++ toString limit ++ " bytes"
  | .invalidOwnerReceipt => "platform owner receipt does not match this transaction"
  | .invalidAbandonment => "install journal abandonment is valid only for an effect-free rollback"
  | .invalidForcedStop => "install journal names a forced stop outside this transaction"

/-- `#[error]` of `InstallStoreError` -/
def InstallStoreError.display : InstallStoreError → String
  | .invalidJournal source => "invalid install journal: " ++ source.display
  | .other detail => detail

/-- `#[error]` of `InstallCoordinatorError` -/
def InstallCoordinatorError.display : InstallCoordinatorError → String
  | .pendingPreparation =>
    "an existing install transaction must be recovered before preparing another"
  | .store source => source.display
  | .model source => source.display
  | .platform action source =>
    "install platform failed during " ++ action.debug ++ ": " ++ source.detail
  | .inspectPlatform source => "failed to inspect install platform state: " ++ source.detail
  | .preparePlatform source =>
    "failed to prepare exact install platform record: " ++ source.detail
  | .stateDrift action before after actual =>
    "install state drift before " ++ action.debug ++ ": expected " ++ before.debug ++ " or " ++
      after.debug ++ ", observed " ++ actual.debug
  | .missingNextAction => "install journal has no next action while nonterminal"
  | .invalidAbandonment detail =>
    "install transaction cannot be abandoned after it changed the platform: " ++ detail
  | .invalidAction action =>
    "install action " ++ action.debug ++ " is invalid for the current disposition"
  | .exhausted => ""

/-- The characters of a text that end within its first `bytes` bytes. -/
def takeBytes : Nat → List Char → List Char
  | _, [] => []
  | bytes, c :: rest => if c.utf8Size ≤ bytes then c :: takeBytes (bytes - c.utf8Size) rest else []

/-- `truncate_detail`, with `MAX_FAILURE_DETAIL_BYTES` -/
def truncateDetail (detail : String) : String :=
  if detail.utf8ByteSize ≤ 4096 then detail else String.ofList (takeBytes 4096 detail.toList)

lemma takeBytes_size (bytes : Nat) (text : List Char) :
    ((takeBytes bytes text).map Char.utf8Size).sum ≤ bytes := by
  induction text generalizing bytes with
  | nil => simp [takeBytes]
  | cons c rest ih =>
    simp only [takeBytes]
    split
    · have := ih (bytes - c.utf8Size)
      simp only [List.map_cons, List.sum_cons]
      omega
    · simp

lemma utf8ByteSize_ofList (text : List Char) :
    (String.ofList text).utf8ByteSize = (text.map Char.utf8Size).sum := by
  induction text with
  | nil => rfl
  | cons c rest ih =>
    rw [← List.singleton_append, String.ofList_append, String.utf8ByteSize_append, ih,
      ← String.singleton_eq_ofList, String.utf8ByteSize_singleton]
    simp

/-- A recorded failure is never too long for `validate`. -/
lemma truncateDetail_size (detail : String) : (truncateDetail detail).utf8ByteSize ≤ 4096 := by
  unfold truncateDetail
  split
  · assumption
  · rw [utf8ByteSize_ofList]
    exact takeBytes_size 4096 _

end Hypercolor.Install
