import Mathlib.Logic.Function.Basic
import Mathlib.Tactic
import Hypercolor.Lib.Machine

/-!
# One persistence destination and the threads that share it

`hypercolor-persistence`: every store file has one `Destination`, whose state is guarded by a
mutex. Foreground commits, write-behind commits and the background retry workers race on it.

* `DestinationState` and its operations (`recordAdmission`, `beginForeground`, `finishAttempt`,
  `retryStart`, `unsettled`) are the critical sections of `lib.rs`.
* `Task` is the program counter of a thread, or a value a thread owns (a reservation, an admitted
  handle). `Step` is one atomic step of one of them: a critical section, a file operation, or a
  section of the retry queue's own lock. Every interleaving of every number of threads is a run of
  `machine`.
* Any file operation may fail, at any time. A verification succeeds only when the file holds the
  payload it is compared with; the digest recorded beside the durable bytes only decides whether
  a verification is tried, so the hash is an arbitrary function.
* Left out: the diagnostic clocks of `flush_error`, the requested file mode and the rollback
  history, none of which the coordinator's decisions read. A condition variable only says when a
  waiting thread looks again, so a waiting thread may look at any time.
-/

namespace Hypercolor.Persistence

abbrev Generation := Nat
abbrev Payload := List UInt8

/-- `PersistenceError`: the stages an attempt can fail at. -/
inductive PersistenceError where
  | createTemporary
  | writeTemporary
  | setTemporaryMode
  | syncTemporary
  | replace
  | syncDirectory
deriving DecidableEq

/-- `AtomicWriteOutcome` -/
inductive AtomicWriteOutcome where
  | written
  | superseded

/-- `AtomicWriteCommitResult` -/
inductive AtomicWriteCommitResult where
  | durableWritten
  | superseded
  | failedBeforeReplacement (error : PersistenceError)
  | replacementVisibleButNotDurable (error : PersistenceError)
deriving DecidableEq

/-- `PersistenceFlushOutcome` -/
inductive PersistenceFlushOutcome where
  | clean
  | written
  | superseded

/-- `PendingRetry` -/
structure PendingRetry where
  generation : Generation
  payload : Payload

/-- `DestinationState`: the state under the mutex; `durable` is the digest of the bytes last made
durable. -/
structure DestinationState (D : Type) where
  nextGeneration : Generation
  latestAdmittedGeneration : Generation
  pending : Option PendingRetry
  activeGeneration : Option Generation
  foregroundGeneration : Option Generation
  lastOutcome : Option AtomicWriteOutcome
  lastError : Option PersistenceError
  lagError : Option PersistenceError
  durable : Option D
  landedGeneration : Generation
  attemptsSinceLanding : Nat

/-- `StandDown`: how late a newer admission can stand an attempt down. -/
inductive StandDown where
  | untilReplacement
  | untilStarted

namespace DestinationState

variable {D : Type}

/-- `default` -/
def default : DestinationState D where
  nextGeneration := 0
  latestAdmittedGeneration := 0
  pending := none
  activeGeneration := none
  foregroundGeneration := none
  lastOutcome := none
  lastError := none
  lagError := none
  durable := none
  landedGeneration := 0
  attemptsSinceLanding := 0

variable (st : DestinationState D)

/-- `AtomicFileWriter::reserve` -/
def reserve : DestinationState D :=
  { st with nextGeneration := st.nextGeneration + 1 }

/-- `Destination::record_admission`: record `payload` as the newest durable intent unless a newer
generation already holds that place. -/
def recordAdmission (generation : Generation) (payload : Payload) : DestinationState D :=
  if generation ≤ st.latestAdmittedGeneration then st
  else
    { st with
      latestAdmittedGeneration := generation
      pending := some ⟨generation, payload⟩
      foregroundGeneration := some generation
      lastOutcome := none
      lastError := none }

/-- A handle gives up its claim on the foreground, if it is the one that holds it. -/
def releaseForeground (generation : Generation) : DestinationState D :=
  if st.foregroundGeneration = some generation then { st with foregroundGeneration := none } else st

/-- An attempt becomes the active one. -/
def activate (generation : Generation) : DestinationState D :=
  { st with activeGeneration := some generation }

/-- One look of `begin_foreground`: refused, started, or still waiting for the active attempt. -/
inductive Begin (D : Type) where
  | refused (st : DestinationState D)
  | started (st : DestinationState D)
  | blocked

/-- The loop body of `Destination::begin_foreground` -/
def beginForeground (generation : Generation) : Begin D :=
  if generation ≠ st.latestAdmittedGeneration then .refused (st.releaseForeground generation)
  else if st.activeGeneration.isNone then
    .started ((st.activate generation).releaseForeground generation)
  else .blocked

/-- The critical section of `Destination::finish_attempt` -/
def finishAttempt (generation : Generation)
    (result : AtomicWriteCommitResult) (background : Bool) : DestinationState D :=
  let st := if st.activeGeneration = some generation then { st with activeGeneration := none }
    else st
  match result with
  | .durableWritten =>
      { st with
        attemptsSinceLanding := 0
        pending := if st.pending.map PendingRetry.generation = some generation then none
          else st.pending
        landedGeneration := max st.landedGeneration generation
        lastOutcome := if background then some .written else none
        lastError := none
        lagError := none }
  | .superseded =>
      { st with
        attemptsSinceLanding := st.attemptsSinceLanding + 1
        lastOutcome := if background then some .superseded else none }
  | .failedBeforeReplacement error | .replacementVisibleButNotDurable error =>
      { st with
        attemptsSinceLanding := st.attemptsSinceLanding + 1
        lagError := some error
        lastError := some error }

/-- The value `retry_needed` that `finish_attempt` computes in the same critical section. -/
def retryNeeded : Bool :=
  st.pending.isSome && st.activeGeneration.isNone && st.foregroundGeneration.isNone

/-- The predicate `unsettled` of `AtomicFileWriter::flush` -/
def unsettled (target : Generation) : Bool :=
  (st.pending.isSome || st.activeGeneration.isSome) && decide (st.landedGeneration < target)

/-- The end of `AtomicFileWriter::flush`: what a settled flush reports. -/
def flushOutcome : PersistenceFlushOutcome :=
  match st.lastOutcome with
  | some .written => .written
  | some .superseded => .superseded
  | none => if st.pending.isSome || st.activeGeneration.isSome then .written else .clean

end DestinationState

/-! ## Threads -/

/-- Who runs an attempt: `commit` or `commit_stage_aware`, `commit_and_wait_durable`,
`WriteBehind::commit`, or a retry worker. -/
inductive Caller where
  | commit
  | commitWait
  | writeBehind
  | retry
deriving DecidableEq

/-- The stand-down rule each caller passes to `try_write_stage_aware`. -/
def Caller.standDown : Caller → StandDown
  | .writeBehind => .untilStarted
  | _ => .untilReplacement

/-- Whether nobody waits on the attempt. -/
def Caller.background : Caller → Bool
  | .writeBehind | .retry => true
  | .commit | .commitWait => false

/-- Where an attempt stands in `try_write_stage_aware`. -/
inductive Stage (D : Type) where
  /-- Before the first critical section. -/
  | start
  /-- About to verify the file against the payload, with the durable digest it read. -/
  | verify (durable : Option D)
  /-- Preparing the temporary file. -/
  | staging
  /-- Before the critical section that replaces. -/
  | replace
  /-- A write-behind attempt about to rename outside the lock. -/
  | rename
  /-- Renamed, before the directory barrier. -/
  | barrier
  /-- Past the barrier, before recording the durable bytes. -/
  | record
  /-- Done, before `finish_attempt`. -/
  | finish (result : AtomicWriteCommitResult)

/-- A running attempt. -/
structure Attempt (D : Type) where
  generation : Generation
  payload : Payload
  caller : Caller
  stage : Stage D

/-- What a thread does once its retry is scheduled or need not be. -/
inductive After where
  /-- The commit or the drop returns. -/
  | done
  /-- `kick` returns. -/
  | kicked
  /-- A retry worker schedules the destination again. -/
  | requeue
  /-- A retry worker looks whether anything is pending. -/
  | recheck
  /-- `commit_and_wait_durable` waits. -/
  | waiting (generation : Generation)
  /-- `commit_and_wait_durable` returned. -/
  | committed (generation : Generation) (outcome : AtomicWriteOutcome)
  /-- `flush` takes its target; `began` was newest when it was called. -/
  | flush (began : Generation)

/-- A thread at one of its atomic steps, or a value it holds. -/
inductive Task (D : Type) where
  | idle
  | reserved (generation : Generation)
  | handle (generation : Generation) (payload : Payload) (behind : Bool)
  /-- In `begin_foreground`, already disarmed. -/
  | beginning (generation : Generation) (payload : Payload) (caller : Caller)
  | attempt (a : Attempt D)
  /-- Before the pending check of `schedule_retry`. -/
  | schedule (after : After)
  /-- Before the queue section of `RetrySupervisor::schedule`. -/
  | enqueue (after : After)
  /-- A retry worker that popped the destination, before `retry_once`. -/
  | worker
  | requeue
  | recheck
  | waiting (generation : Generation)
  | committed (generation : Generation) (outcome : AtomicWriteOutcome)
  | flushStart (began : Generation)
  | flushing (began target : Generation)
  | flushed (began : Generation) (outcome : PersistenceFlushOutcome)

/-- The task a thread continues with. -/
def After.task {D : Type} : After → Task D
  | .done | .kicked => .idle
  | .requeue => .requeue
  | .recheck => .recheck
  | .waiting g => .waiting g
  | .committed g o => .committed g o
  | .flush began => .flushStart began

/-- What a caller does with the result of its attempt. -/
def Caller.after (caller : Caller) (generation : Generation) (result : AtomicWriteCommitResult) : After :=
  match caller, result with
  | .commit, _ | .writeBehind, _ => .done
  | .commitWait, .durableWritten => .committed generation .written
  | .commitWait, .superseded => .committed generation .superseded
  | .commitWait, _ => .waiting generation
  | .retry, .durableWritten | .retry, .superseded => .recheck
  | .retry, _ => .requeue

/-- The file, with the history of what was done to it: the replacements, newest first, and what
was on it each time a generation's barrier or verification made it durable. -/
structure File where
  bytes : Option Payload
  replaced : List (Generation × Payload)
  landings : List (Generation × Option Payload)

/-- A destination with its file, its place in the retry queue and every thread that can touch it;
`admitted` lists the admissions so far. -/
structure World (D : Type) where
  st : DestinationState D
  file : File
  queued : Bool
  tasks : Nat → Task D
  admitted : List (Generation × Payload)

namespace World

variable {D : Type}

variable (w : World D)

/-- Thread `i` moves on. -/
def goto (i : Nat) (t : Task D) : World D :=
  { w with tasks := Function.update w.tasks i t }

/-- Thread `i`'s attempt moves to another stage. -/
def stage (w : World D) (i : Nat) (a : Attempt D) (s : Stage D) : World D :=
  w.goto i (.attempt { a with stage := s })

/-- `a`'s rename took effect. -/
def renamed (a : Attempt D) : World D :=
  { w with file := { w.file with
      bytes := some a.payload
      replaced := (a.generation, a.payload) :: w.file.replaced } }

/-- `a`'s barrier or verification made the file durable as it is. -/
def landed (a : Attempt D) : World D :=
  { w with file := { w.file with landings := (a.generation, w.file.bytes) :: w.file.landings } }

/-- `Destination::admit`, `Destination::admit_write_behind`: `payload` is admitted as generation
`g`. -/
def admitPayload (g : Generation) (payload : Payload) : World D :=
  { w with st := w.st.recordAdmission g payload, admitted := (g, payload) :: w.admitted }

/-- The critical section of thread `i` left `st` behind. -/
def locked (st : DestinationState D) : World D := { w with st := st }

/-- The destination is, or is no longer, in the retry queue. -/
def queue (queued : Bool) : World D := { w with queued := queued }

/-- The thread continues, scheduling a retry first when one is needed. -/
def resume (i : Nat) (after : After) : World D :=
  w.goto i (if w.st.retryNeeded then .schedule after else after.task)

/-- One atomic step of thread `i`. -/
inductive Step (digest : Payload → D) : World D → Nat → World D → Prop where
  -- reservations and admissions
  | reserve (w : World D) (i : Nat) (ht : w.tasks i = .idle) :
      Step digest w i
        ((w.locked w.st.reserve).goto i (.reserved (w.st.nextGeneration + 1)))
  | unreserve (w : World D) (i : Nat) (g : Generation) (ht : w.tasks i = .reserved g) :
      Step digest w i (w.goto i .idle)
  | admitPayload (w : World D) (i : Nat) (g : Generation) (payload : Payload) (behind : Bool)
      (ht : w.tasks i = .reserved g) :
      Step digest w i ((w.admitPayload g payload).goto i (.handle g payload behind))
  -- `Drop for AdmittedAtomicWrite`
  | dropHandle (w : World D) (i : Nat) (g : Generation) (payload : Payload) (behind : Bool)
      (ht : w.tasks i = .handle g payload behind) :
      Step digest w i ((w.locked (w.st.releaseForeground g)).goto i (.schedule .done))
  -- a commit disarms its handle and enters `begin_foreground`
  | commit (w : World D) (i : Nat) (g : Generation) (payload : Payload) (caller : Caller)
      (ht : w.tasks i = .handle g payload (caller == .writeBehind)) (hc : caller ≠ .retry) :
      Step digest w i (w.goto i (.beginning g payload caller))
  | beginRefused (w : World D) (i : Nat) (g : Generation) (payload : Payload) (caller : Caller)
      (st : DestinationState D) (ht : w.tasks i = .beginning g payload caller)
      (hb : w.st.beginForeground g = .refused st) :
      Step digest w i ((w.locked st).goto i (caller.after g .superseded).task)
  | beginStarted (w : World D) (i : Nat) (g : Generation) (payload : Payload) (caller : Caller)
      (st : DestinationState D) (ht : w.tasks i = .beginning g payload caller)
      (hb : w.st.beginForeground g = .started st) :
      Step digest w i ((w.locked st).goto i (.attempt ⟨g, payload, caller, .start⟩))
  -- `try_write_stage_aware`
  | startSuperseded (w : World D) (i : Nat) (a : Attempt D) (ht : w.tasks i = .attempt a)
      (hs : a.stage = .start) (hg : a.generation ≠ w.st.latestAdmittedGeneration) :
      Step digest w i (w.stage i a (.finish .superseded))
  | startCurrent (w : World D) (i : Nat) (a : Attempt D) (ht : w.tasks i = .attempt a)
      (hs : a.stage = .start) (hg : a.generation = w.st.latestAdmittedGeneration) :
      Step digest w i (w.stage i a (.verify w.st.durable))
  | verifyHit (w : World D) (i : Nat) (a : Attempt D) (ht : w.tasks i = .attempt a)
      (hs : a.stage = .verify (some (digest a.payload))) (hb : w.file.bytes = some a.payload) :
      Step digest w i ((w.landed a).stage i a (.finish .durableWritten))
  | verifyMiss (w : World D) (i : Nat) (a : Attempt D) (durable : Option D)
      (ht : w.tasks i = .attempt a) (hs : a.stage = .verify durable) :
      Step digest w i (w.stage i a .staging)
  | stageOk (w : World D) (i : Nat) (a : Attempt D) (ht : w.tasks i = .attempt a)
      (hs : a.stage = .staging) : Step digest w i (w.stage i a .replace)
  | stageFail (w : World D) (i : Nat) (a : Attempt D) (error : PersistenceError)
      (ht : w.tasks i = .attempt a) (hs : a.stage = .staging) :
      Step digest w i (w.stage i a (.finish (.failedBeforeReplacement error)))
  | replaceSuperseded (w : World D) (i : Nat) (a : Attempt D) (ht : w.tasks i = .attempt a)
      (hs : a.stage = .replace) (hd : a.caller.standDown = .untilReplacement)
      (hg : a.generation ≠ w.st.latestAdmittedGeneration) :
      Step digest w i (w.stage i a (.finish .superseded))
  -- a foreground attempt renames under the lock its check was made under
  | replaceOk (w : World D) (i : Nat) (a : Attempt D) (ht : w.tasks i = .attempt a)
      (hs : a.stage = .replace) (hd : a.caller.standDown = .untilReplacement)
      (hg : a.generation = w.st.latestAdmittedGeneration) :
      Step digest w i
        (((w.locked { w.st with durable := none }).renamed a).stage i a .barrier)
  | replaceFail (w : World D) (i : Nat) (a : Attempt D) (ht : w.tasks i = .attempt a)
      (hs : a.stage = .replace) (hd : a.caller.standDown = .untilReplacement)
      (hg : a.generation = w.st.latestAdmittedGeneration) :
      Step digest w i ((w.locked { w.st with durable := none }).stage i a
        (.finish (.failedBeforeReplacement .replace)))
  -- a write-behind attempt makes no check and renames outside the lock
  | replaceUnlock (w : World D) (i : Nat) (a : Attempt D) (ht : w.tasks i = .attempt a)
      (hs : a.stage = .replace) (hd : a.caller.standDown = .untilStarted) :
      Step digest w i ((w.locked { w.st with durable := none }).stage i a .rename)
  | renameOk (w : World D) (i : Nat) (a : Attempt D) (ht : w.tasks i = .attempt a)
      (hs : a.stage = .rename) : Step digest w i ((w.renamed a).stage i a .barrier)
  | renameFail (w : World D) (i : Nat) (a : Attempt D) (ht : w.tasks i = .attempt a)
      (hs : a.stage = .rename) :
      Step digest w i (w.stage i a (.finish (.failedBeforeReplacement .replace)))
  | barrierOk (w : World D) (i : Nat) (a : Attempt D) (ht : w.tasks i = .attempt a)
      (hs : a.stage = .barrier) : Step digest w i ((w.landed a).stage i a .record)
  | barrierFail (w : World D) (i : Nat) (a : Attempt D) (ht : w.tasks i = .attempt a)
      (hs : a.stage = .barrier) :
      Step digest w i
        (w.stage i a (.finish (.replacementVisibleButNotDurable .syncDirectory)))
  -- the stamp read after the barrier may fail to name the staged file
  | record (w : World D) (i : Nat) (a : Attempt D) (durable : Option D)
      (ht : w.tasks i = .attempt a) (hs : a.stage = .record)
      (hd : durable = none ∨ durable = some (digest a.payload)) :
      Step digest w i
        ((w.locked { w.st with durable := durable }).stage i a (.finish .durableWritten))
  | finish (w : World D) (i : Nat) (a : Attempt D) (result : AtomicWriteCommitResult)
      (ht : w.tasks i = .attempt a) (hs : a.stage = .finish result) :
      Step digest w i
        ((w.locked (w.st.finishAttempt a.generation result a.caller.background)).resume i
          (a.caller.after a.generation result))
  -- `schedule_retry` and the retry workers
  | schedulePending (w : World D) (i : Nat) (after : After) (ht : w.tasks i = .schedule after)
      (hp : w.st.pending.isSome) : Step digest w i (w.goto i (.enqueue after))
  | scheduleClean (w : World D) (i : Nat) (after : After) (ht : w.tasks i = .schedule after)
      (hp : w.st.pending = none) : Step digest w i (w.goto i after.task)
  | enqueue (w : World D) (i : Nat) (after : After) (ht : w.tasks i = .enqueue after) :
      Step digest w i ((w.queue true).goto i after.task)
  | pop (w : World D) (i : Nat) (ht : w.tasks i = .idle) (hq : w.queued) :
      Step digest w i ((w.queue false).goto i .worker)
  | retryBusy (w : World D) (i : Nat) (ht : w.tasks i = .worker)
      (hb : w.st.foregroundGeneration.isSome ∨ w.st.activeGeneration.isSome) :
      Step digest w i (w.goto i (if w.st.pending.isSome then .requeue else .idle))
  | retryClean (w : World D) (i : Nat) (ht : w.tasks i = .worker)
      (hf : w.st.foregroundGeneration = none) (ha : w.st.activeGeneration = none)
      (hp : w.st.pending = none) : Step digest w i (w.goto i .idle)
  | retryStart (w : World D) (i : Nat) (pending : PendingRetry) (ht : w.tasks i = .worker)
      (hf : w.st.foregroundGeneration = none) (ha : w.st.activeGeneration = none)
      (hp : w.st.pending = some pending) :
      Step digest w i ((w.locked (w.st.activate pending.generation)).goto i
        (.attempt ⟨pending.generation, pending.payload, .retry, .start⟩))
  | requeue (w : World D) (i : Nat) (ht : w.tasks i = .requeue) :
      Step digest w i ((w.queue true).goto i .idle)
  | recheck (w : World D) (i : Nat) (ht : w.tasks i = .recheck) :
      Step digest w i (w.goto i (if w.st.pending.isSome then .requeue else .idle))
  -- the wait loop of `commit_wait`
  | waitSuperseded (w : World D) (i : Nat) (g : Generation) (ht : w.tasks i = .waiting g)
      (hg : w.st.latestAdmittedGeneration ≠ g) :
      Step digest w i (w.goto i (.committed g .superseded))
  | waitWritten (w : World D) (i : Nat) (g : Generation) (ht : w.tasks i = .waiting g)
      (hg : w.st.latestAdmittedGeneration = g) (hp : w.st.pending = none)
      (ha : w.st.activeGeneration = none) :
      Step digest w i (w.goto i (.committed g .written))
  | waitShutdown (w : World D) (i : Nat) (g : Generation) (ht : w.tasks i = .waiting g) :
      Step digest w i (w.goto i .idle)
  -- `kick` and `flush`
  | kick (w : World D) (i : Nat) (ht : w.tasks i = .idle) :
      Step digest w i (w.goto i (.schedule .kicked))
  | flush (w : World D) (i : Nat) (ht : w.tasks i = .idle) :
      Step digest w i (w.goto i (.schedule (.flush w.st.latestAdmittedGeneration)))
  | flushReady (w : World D) (i : Nat) (began : Generation) (ht : w.tasks i = .flushStart began)
      (hu : w.st.unsettled w.st.latestAdmittedGeneration = false) :
      Step digest w i ((w.locked { w.st with lastOutcome := none }).goto i
        (.flushed began w.st.flushOutcome))
  | flushWait (w : World D) (i : Nat) (began : Generation) (ht : w.tasks i = .flushStart began)
      (hu : w.st.unsettled w.st.latestAdmittedGeneration) :
      Step digest w i (w.goto i (.flushing began w.st.latestAdmittedGeneration))
  | flushDone (w : World D) (i : Nat) (began target : Generation)
      (ht : w.tasks i = .flushing began target) (hu : w.st.unsettled target = false) :
      Step digest w i ((w.locked { w.st with lastOutcome := none }).goto i
        (.flushed began w.st.flushOutcome))
  | flushTimeout (w : World D) (i : Nat) (began target : Generation)
      (ht : w.tasks i = .flushing began target) : Step digest w i (w.goto i .idle)
  -- a thread goes on after its call returned
  | committedReturn (w : World D) (i : Nat) (g : Generation) (outcome : AtomicWriteOutcome)
      (ht : w.tasks i = .committed g outcome) : Step digest w i (w.goto i .idle)
  | flushedReturn (w : World D) (i : Nat) (began : Generation)
      (outcome : PersistenceFlushOutcome) (ht : w.tasks i = .flushed began outcome) :
      Step digest w i (w.goto i .idle)

/-- A destination whose file holds `initial`, with every thread idle. -/
def new (initial : Option Payload) : World D where
  st := .default
  file := ⟨initial, [], []⟩
  queued := false
  tasks := fun _ => .idle
  admitted := []

/-- Every interleaving of any number of threads on one destination. -/
def machine (digest : Payload → D) (initial : Option Payload) : Lib.Machine (World D) Nat where
  init w := w = new initial
  step := Step digest

end World

end Hypercolor.Persistence
