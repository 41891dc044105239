import Hypercolor.Persistence.Destination

/-!
# The config file and its two writers

Every persisting operation of the manager holds the write lock. It writes its document through the
destination of the config file, whose pending snapshot a background worker retries, or, as a staged
capture commit, replaces the file directly.

* `AttemptStep` is `try_write_stage_aware` for attempts that a newer admission stands down, with the
  critical sections of `DestinationState`. `Step` is one critical section or file operation of the
  operation in progress, or of the one retry that may run beside it.
* Any file operation may fail. A document is its serialized text.
* Left out: the live pointer, authorities and change stream, which read nothing of the file; shutdown,
  after which the journal of the setup decides at the next start.
-/

namespace Hypercolor.Config.ConfigFile

open Persistence (Attempt AtomicWriteCommitResult DestinationState Generation Payload PersistenceError
  PendingRetry)

variable {D : Type}

/-! ## Attempts -/

/-- `try_write_stage_aware`: one step of a foreground attempt or a retry on the destination and the
file. -/
inductive AttemptStep (digest : Payload → D) :
    DestinationState D → Option Payload → Attempt D →
      DestinationState D → Option Payload → Attempt D → Prop where
  | startSuperseded {st : DestinationState D} {file : Option Payload} {a : Attempt D}
      (hs : a.stage = .start) (hg : a.generation ≠ st.latestAdmittedGeneration) :
      AttemptStep digest st file a st file { a with stage := .finish .superseded }
  | startCurrent {st : DestinationState D} {file : Option Payload} {a : Attempt D}
      (hs : a.stage = .start) (hg : a.generation = st.latestAdmittedGeneration) :
      AttemptStep digest st file a st file { a with stage := .verify st.durable }
  | verifyHit {st : DestinationState D} {file : Option Payload} {a : Attempt D}
      (hs : a.stage = .verify (some (digest a.payload))) (hb : file = some a.payload) :
      AttemptStep digest st file a st file { a with stage := .finish .durableWritten }
  | verifyMiss {st : DestinationState D} {file : Option Payload} {a : Attempt D} {durable : Option D}
      (hs : a.stage = .verify durable) :
      AttemptStep digest st file a st file { a with stage := .staging }
  | stageOk {st : DestinationState D} {file : Option Payload} {a : Attempt D} (hs : a.stage = .staging) :
      AttemptStep digest st file a st file { a with stage := .replace }
  | stageFail {st : DestinationState D} {file : Option Payload} {a : Attempt D} (error : PersistenceError)
      (hs : a.stage = .staging) :
      AttemptStep digest st file a st file { a with stage := .finish (.failedBeforeReplacement error) }
  | replaceSuperseded {st : DestinationState D} {file : Option Payload} {a : Attempt D}
      (hs : a.stage = .replace) (hg : a.generation ≠ st.latestAdmittedGeneration) :
      AttemptStep digest st file a st file { a with stage := .finish .superseded }
  -- the rename happens under the lock its check was made under
  | replaceOk {st : DestinationState D} {file : Option Payload} {a : Attempt D}
      (hs : a.stage = .replace) (hg : a.generation = st.latestAdmittedGeneration) :
      AttemptStep digest st file a { st with durable := none } (some a.payload)
        { a with stage := .barrier }
  | replaceFail {st : DestinationState D} {file : Option Payload} {a : Attempt D}
      (hs : a.stage = .replace) (hg : a.generation = st.latestAdmittedGeneration) :
      AttemptStep digest st file a { st with durable := none } file
        { a with stage := .finish (.failedBeforeReplacement .replace) }
  | barrierOk {st : DestinationState D} {file : Option Payload} {a : Attempt D}
      (hs : a.stage = .barrier) :
      AttemptStep digest st file a st file { a with stage := .record }
  | barrierFail {st : DestinationState D} {file : Option Payload} {a : Attempt D}
      (hs : a.stage = .barrier) :
      AttemptStep digest st file a st file
        { a with stage := .finish (.replacementVisibleButNotDurable .syncDirectory) }
  -- the stamp read after the barrier may fail to name the staged file
  | record {st : DestinationState D} {file : Option Payload} {a : Attempt D} (durable : Option D)
      (hs : a.stage = .record) (hd : durable = none ∨ durable = some (digest a.payload)) :
      AttemptStep digest st file a { st with durable } file { a with stage := .finish .durableWritten }

/-! ## Operations -/

/-- Why a document is admitted. -/
inductive Purpose where
  /-- `ConfigManager::persist` -/
  | persist
  /-- `PreparedConfigMutation::persist` -/
  | prepared
  /-- `supersede_pending_snapshot` -/
  | supersede
deriving DecidableEq

/-- The operation that holds the write lock, before its next step. -/
inductive Op (D : Type) where
  | none
  /-- Before `reserve`. -/
  | reserving (purpose : Purpose) (document : Payload)
  /-- Before `admit`. -/
  | admitting (purpose : Purpose) (document : Payload) (generation : Generation)
  /-- In `begin_foreground`. -/
  | beginning (purpose : Purpose) (document : Payload) (generation : Generation)
  /-- In `try_write_stage_aware`, or before `finish_attempt`. -/
  | attempting (purpose : Purpose) (a : Attempt D)
  /-- In the wait loop of `commit_wait`. -/
  | waiting (document : Payload) (generation : Generation)
  /-- A staged commit that found its snapshot current. -/
  | staged (document : Payload)
  /-- It has read whether a snapshot is pending. -/
  | replacing (document : Payload) (olderSnapshotPending : Bool)
  /-- It has renamed the staged file, before the directory barrier. -/
  | renamed (document : Payload) (olderSnapshotPending : Bool)
  /-- `durable_replace` has returned. -/
  | replaced (document : Payload) (olderSnapshotPending : Bool)
  /-- Before the live config is installed. -/
  | forgotten (document : Payload) (olderSnapshotPending : Bool)

/-- The document of the operation in progress. -/
def Op.document : Op D → Option Payload
  | .none => Option.none
  | .attempting _ a => some a.payload
  | .reserving _ document | .admitting _ document _ | .beginning _ document _ | .waiting document _
  | .staged document | .replacing document _ | .renamed document _ | .replaced document _
  | .forgotten document _ => some document

/-- How an operation goes on after its attempt: a prepared mutation waits until it is durable. -/
def Op.afterAttempt (purpose : Purpose) (a : Attempt D) (result : AtomicWriteCommitResult) : Op D :=
  match purpose, result with
  | .prepared, .failedBeforeReplacement _ | .prepared, .replacementVisibleButNotDurable _ =>
    .waiting a.payload a.generation
  | _, _ => .none

/-- Whether an operation whose attempt ended has succeeded: `persist` and the prepared mutation are
refused when a newer admission supersedes them, the staged commit never is. -/
def succeeds (purpose : Purpose) (result : AtomicWriteCommitResult) : Bool :=
  match purpose, result with
  | .supersede, _ => true
  | _, .superseded => false
  | .prepared, .failedBeforeReplacement _ | .prepared, .replacementVisibleButNotDurable _ => false
  | _, _ => true

/-- The file with its destination and the retry that may run; `last` is the document of the last
persisting operation that succeeded. -/
structure Disk (D : Type) where
  st : DestinationState D
  file : Option Payload
  retry : Option (Attempt D)
  last : Option Payload

/-- `AtomicFileWriter::pending_failure` -/
def Disk.pendingFailure (disk : Disk D) : Option PersistenceError :=
  if disk.st.pending.isSome then disk.st.lagError else none

/-- `ConfigManager::persistence_status`, whether it is `Durable` -/
def Disk.isDurable (disk : Disk D) : Bool := disk.pendingFailure.isNone

/-- The disk and the operation in progress. -/
structure World (D : Type) extends Disk D where
  op : Op D

namespace World

/-- `commit_stage_aware`, and what its callers do with the result: an attempt of the operation has
ended. -/
def attempted (w : World D) (purpose : Purpose) (a : Attempt D) (result : AtomicWriteCommitResult) :
    World D :=
  { w with
    st := w.st.finishAttempt a.generation result false
    op := .afterAttempt purpose a result
    last := if succeeds purpose result then some a.payload else w.last }

/-- `commit_staged_capture_if_current`, its end: the live config is installed; an older snapshot is
superseded first. -/
def installed (w : World D) (document : Payload) (olderSnapshotPending : Bool) : World D :=
  if olderSnapshotPending then { w with op := .reserving .supersede document }
  else { w with op := .none, last := some document }

end World

/-- What a step does, as far as the claims about runs tell steps apart. -/
inductive Event where
  | step
  /-- The directory barrier of a staged commit fails, after its rename. -/
  | stagedBarrierFails

/-- One critical section or file operation. -/
inductive Step (digest : Payload → D) : World D → Event → World D → Prop where
  -- `persist` and `with_prepared_mutation`
  | persist {w : World D} (purpose : Purpose) (document : Payload) (ho : w.op = .none)
      (hp : purpose ≠ .supersede) :
      Step digest w .step { w with op := .reserving purpose document }
  | reserve {w : World D} {purpose : Purpose} {document : Payload}
      (ho : w.op = .reserving purpose document) :
      Step digest w .step { w with
        st := w.st.reserve
        op := .admitting purpose document (w.st.nextGeneration + 1) }
  -- the transaction of a prepared mutation gave up before this store
  | abandon {w : World D} {document : Payload} {g : Generation}
      (ho : w.op = .admitting .prepared document g) :
      Step digest w .step { w with op := .none }
  | admitDocument {w : World D} {purpose : Purpose} {document : Payload} {g : Generation}
      (ho : w.op = .admitting purpose document g) :
      Step digest w .step { w with
        st := w.st.recordAdmission g document
        op := .beginning purpose document g }
  | beginRefused {w : World D} {purpose : Purpose} {document : Payload} {g : Generation}
      {st : DestinationState D} (ho : w.op = .beginning purpose document g)
      (hb : w.st.beginForeground g = .refused st) :
      Step digest w .step { w with
        st
        op := .none
        last := if succeeds purpose .superseded then some document else w.last }
  | beginStarted {w : World D} {purpose : Purpose} {document : Payload} {g : Generation}
      {st : DestinationState D} (ho : w.op = .beginning purpose document g)
      (hb : w.st.beginForeground g = .started st) :
      Step digest w .step { w with
        st
        op := .attempting purpose
          ⟨g, document, if purpose = .prepared then .commitWait else .commit, .start⟩ }
  | attempt {w : World D} {purpose : Purpose} {a a' : Attempt D} {st : DestinationState D}
      {file : Option Payload} (ho : w.op = .attempting purpose a)
      (ha : AttemptStep digest w.st w.file a st file a') :
      Step digest w .step { w with st, file, op := .attempting purpose a' }
  | finish {w : World D} {purpose : Purpose} {a : Attempt D} {result : AtomicWriteCommitResult}
      (ho : w.op = .attempting purpose a) (hs : a.stage = .finish result) :
      Step digest w .step (w.attempted purpose a result)
  | waitSuperseded {w : World D} {document : Payload} {g : Generation} (ho : w.op = .waiting document g)
      (hg : w.st.latestAdmittedGeneration ≠ g) : Step digest w .step { w with op := .none }
  | waitWritten {w : World D} {document : Payload} {g : Generation} (ho : w.op = .waiting document g)
      (hg : w.st.latestAdmittedGeneration = g) (hp : w.st.pending = none)
          (ha : w.st.activeGeneration = none) :
      Step digest w .step { w with op := .none, last := some document }
  -- `commit_staged_capture_if_current`
  | commitStaged {w : World D} (document : Payload) (ho : w.op = .none) :
      Step digest w .step { w with op := .staged document }
  | readPending {w : World D} {document : Payload} (ho : w.op = .staged document) :
      Step digest w .step { w with op := .replacing document w.pendingFailure.isSome }
  | replaceFails {w : World D} {document : Payload} {older : Bool}
      (ho : w.op = .replacing document older) :
      Step digest w .step { w with op := .none }
  | replace {w : World D} {document : Payload} {older : Bool} (ho : w.op = .replacing document older) :
      Step digest w .step { w with file := some document, op := .renamed document older }
  | barrierFails {w : World D} {document : Payload} {older : Bool} (ho : w.op = .renamed document older) :
      Step digest w .stagedBarrierFails { w with op := .none }
  | barrier {w : World D} {document : Payload} {older : Bool} (ho : w.op = .renamed document older) :
      Step digest w .step { w with op := .replaced document older }
  | forgetDurableBytes {w : World D} {document : Payload} {older : Bool}
      (ho : w.op = .replaced document older) :
      Step digest w .step { w with st := { w.st with durable := none }, op := .forgotten document older }
  | install {w : World D} {document : Payload} {older : Bool} (ho : w.op = .forgotten document older) :
      Step digest w .step (w.installed document older)
  -- `retry_once`
  | retryStart {w : World D} {pending : PendingRetry} (hf : w.st.foregroundGeneration = none)
      (ha : w.st.activeGeneration = none) (hp : w.st.pending = some pending) :
      Step digest w .step { w with
        st := w.st.activate pending.generation
        retry := some ⟨pending.generation, pending.payload, .retry, .start⟩ }
  | retryAttempt {w : World D} {a a' : Attempt D} {st : DestinationState D} {file : Option Payload}
      (hr : w.retry = some a) (ha : AttemptStep digest w.st w.file a st file a') :
      Step digest w .step { w with st, file, retry := some a' }
  | retryFinish {w : World D} {a : Attempt D} {result : AtomicWriteCommitResult} (hr : w.retry = some a)
      (hs : a.stage = .finish result) :
      Step digest w .step { w with st := w.st.finishAttempt a.generation result true, retry := none }

/-- A manager over a file that holds `initial`. -/
def World.new (initial : Option Payload) : World D where
  st := .default
  file := initial
  op := .none
  retry := none
  last := none

/-- Every interleaving of the operations of one manager with the retries. -/
def machine (digest : Payload → D) (initial : Option Payload) : Lib.Machine (World D) Event where
  init w := w = World.new initial
  step := Step digest

end Hypercolor.Config.ConfigFile
