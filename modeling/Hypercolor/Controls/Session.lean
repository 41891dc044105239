import Hypercolor.Lib.LastWrite

/-!
# Control patch sessions

A control surface admits edits into a pending batch and sends batches to the daemon one after the
other. `ControlMutationQueue` has the pending batch and the one in flight; a `Session` adds the
mutation tasks that are running, with where each one stands, the local values, the version token and
the target. `Session.step` is one callback, or one turn of a task: a spawned task first runs when it
is polled, and then from one reply to the next.

The daemon's replies and the flush guard's answers are arguments. Admission of a raw value is the
parameter `jsonToControlValue`. The callbacks that recover, report errors and announce a commit act
outside the session and are left out. What is kept for the record, and is not in the code: the edits
that were admitted, the requests that were sent, and the values that were applied.
-/

namespace Hypercolor.Controls

open Lib

/-- `ControlValueMap` -/
abbrev ControlValueMap (V : Type) := Table String V

variable {V : Type}

/-- `merge_control_values` -/
def mergeControlValues (values nextValues : ControlValueMap V) : ControlValueMap V :=
  merge values nextValues

/-- `ControlMutationBatch` -/
structure ControlMutationBatch (V : Type) where
  target : String
  values : ControlValueMap V

/-- `ControlMutationQueue` -/
structure ControlMutationQueue (V : Type) where
  pending : Option (ControlMutationBatch V)
  inFlight : Option (ControlMutationBatch V)

namespace ControlMutationQueue

variable (q : ControlMutationQueue V)

variable (target : String) (values : ControlValueMap V)

/-- `merge` -/
def merge : ControlMutationQueue V :=
  if values.keys = [] then q
  else
    match q.pending with
    | some batch =>
        if batch.target = target then
          { q with pending := some { batch with values := mergeControlValues batch.values values } }
        else { q with pending := some ⟨target, values⟩ }
    | none => { q with pending := some ⟨target, values⟩ }

/-- `insert` -/
def insert (target name : String) (value : V) : ControlMutationQueue V :=
  q.merge target (AList.singleton name value)

/-- `start_flush_for`: the outer `none` is the error: the pending batch was of another target, and
is dropped. -/
def startFlushFor (activeTarget : String) :
    Option (Option (ControlMutationBatch V)) × ControlMutationQueue V :=
  if q.inFlight.isSome then (some none, q)
  else
    match q.pending with
    | none => (some none, q)
    | some batch =>
        if batch.target ≠ activeTarget then (none, { q with pending := none })
        else (some (some batch), { q with pending := none, inFlight := some batch })

/-- `complete_flush` -/
def completeFlush : Option (ControlMutationBatch V) × ControlMutationQueue V :=
  match q.pending with
  | none => (none, { q with inFlight := none })
  | some next => (some next, { q with pending := none, inFlight := some next })

/-- `retire_flush_for` -/
def retireFlushFor (activeTarget : String) :
    Option (Option (ControlMutationBatch V)) × ControlMutationQueue V :=
  { q with inFlight := none }.startFlushFor activeTarget

/-- `take_pending_for_retry` -/
def takePendingForRetry (target : String) : ControlValueMap V × ControlMutationQueue V :=
  match q.pending with
  | some batch =>
      if batch.target = target then (batch.values, { q with pending := none }) else (∅, q)
  | none => (∅, q)

/-- The values of a batch over those of the server, when it is of this target. -/
def showBatch (batch : Option (ControlMutationBatch V)) : ControlValueMap V :=
  match batch with
  | some batch => if batch.target = target then mergeControlValues values batch.values else values
  | none => values

/-- `reconcile_values` -/
def reconcileValues : ControlValueMap V :=
  showBatch target (showBatch target values q.inFlight) q.pending

/-- `fail_flush` -/
def failFlush (_ : ControlMutationQueue V) : ControlMutationQueue V := ⟨none, none⟩

/-- `clear_pending` -/
def clearPending : ControlMutationQueue V := { q with pending := none }

end ControlMutationQueue

/-- `MutationOutcome`, as a patch returns it -/
inductive MutationOutcome where
  | applied (newVersion : Option UInt64)
  | stale (current : UInt64)

/-- `ReconcileAction` -/
inductive ReconcileAction where
  | adopt (newVersion : Option UInt64)
  | retryOnce (current : UInt64)
  | giveUp (current : UInt64)

/-- `reconcile_outcome` -/
def reconcileOutcome (outcome : MutationOutcome) (alreadyRetried : Bool) : ReconcileAction :=
  match outcome with
  | .applied newVersion => .adopt newVersion
  | .stale current => if alreadyRetried then .giveUp current else .retryOnce current

/-- `merge_retry_batch` -/
def mergeRetryBatch (failed newer : ControlValueMap V) : ControlValueMap V := merge failed newer

/-! ## The session -/

/-- A running mutation: spawned and not polled yet, or waiting for the reply to its batch. -/
inductive Stage where
  | spawned
  | waiting (retried : Bool)

structure MutationTask (V : Type) where
  batch : ControlMutationBatch V
  stage : Stage

/-- A call of `patch`. -/
structure Request (V : Type) where
  target : String
  values : ControlValueMap V
  version : Option UInt64

/-- The signals and the queue of `use_control_patch_session`; `tasks` are its mutations that
have not ended, and the last three fields are kept for the record. -/
structure Session (V : Type) where
  active : Bool
  target : Option String
  values : ControlValueMap V
  version : Option UInt64
  queue : ControlMutationQueue V
  tasks : List (MutationTask V)
  admitted : List (String × V)
  requests : List (Request V)
  applied : ControlValueMap V

/-- What happens to a session. `reply none` is a patch that failed, and `guardPasses` is what the
flush guard answers where it is asked. -/
inductive SessionEvent (D R : Type) where
  | change (controls : D) (name : String) (raw : R)
  | changes (controls : D) (updates : List (String × R))
  | flush (guardPasses : Bool)
  | poll (task : Nat)
  | reply (task : Nat) (outcome : Option MutationOutcome) (guardPasses : Bool)
  | clearPending
  | setTarget (target : Option String)
  | dispose

namespace Session

variable (s : Session V)

/-- A new session. -/
def new (target : Option String) (values : ControlValueMap V) (initialVersion : Option UInt64) :
    Session V where
  active := true
  target := target
  values := values
  version := initialVersion
  queue := ⟨none, none⟩
  tasks := []
  admitted := []
  requests := []
  applied := ∅

/-- `OptimisticControlSession::admit_raw_update_to`, when the value was admitted -/
def admitUpdate (target name : String) (value : V) : Session V :=
  { s with
    values := s.values.insert name value
    queue := s.queue.insert target name value
    admitted := s.admitted ++ [(name, value)] }

/-- `OptimisticControlSession::admit_raw_updates_to` -/
def admitUpdates (target : String) (admitted : List (String × V)) : Session V :=
  { s with
    values := mergeControlValues s.values (collect admitted)
    queue := s.queue.merge target (collect admitted)
    admitted := s.admitted ++ admitted }

/-- `flush_core`, up to the spawned mutation -/
def flushCore (guardPasses : Bool) : Session V :=
  if ¬ s.active then { s with queue := s.queue.clearPending }
  else if ¬ guardPasses then { s with queue := s.queue.clearPending }
  else
    match s.target with
    | none => { s with queue := s.queue.clearPending }
    | some activeTarget =>
        match s.queue.startFlushFor activeTarget with
        | (some (some batch), queue) =>
            { s with queue := queue, tasks := s.tasks ++ [⟨batch, .spawned⟩] }
        | (_, queue) => { s with queue := queue }

/-- The task at a place goes on as another, or ends. -/
def setTask (task : Nat) (next : Option (MutationTask V)) : Session V :=
  { s with
    tasks := match next with
      | some next => s.tasks.set task next
      | none => s.tasks.eraseIdx task }

/-- The task fails: every unconfirmed batch is dropped. -/
def failTask (task : Nat) : Session V :=
  { s with queue := s.queue.failFlush }.setTask task none

variable (task : Nat) (batch : ControlMutationBatch V)

/-- A task tracks its batch and calls `patch`. -/
def sendBatch (retried : Bool) : Session V :=
  { s with
    queue := { s.queue with inFlight := some batch }
    requests := s.requests ++ [Request.mk batch.target batch.values s.version] }.setTask task
      (some ⟨batch, .waiting retried⟩)

/-- `next_batch_after_target_change`: the target changed under a task: it goes on with what is
pending for the new one, or fails. The batch it goes on with is of the active target, so it is sent
at once. -/
def afterTargetChange (task : Nat) : Session V :=
  match s.target with
  | none => s.failTask task
  | some activeTarget =>
      match s.queue.retireFlushFor activeTarget with
      | (some (some next), queue) => { s with queue := queue }.sendBatch task next false
      | (some none, queue) => { s with queue := queue }.setTask task none
      | (none, queue) => { s with queue := queue }.failTask task

/-- A batch at the top of the loop `'batches`. -/
def beginBatch : Session V :=
  if ¬ s.active then s.failTask task
  else if s.target ≠ some batch.target then s.afterTargetChange task
  else s.sendBatch task batch false

/-- The batch was applied: the next one begins, or the task ends. -/
def commitBatch (task : Nat) (guardPasses : Bool) : Session V :=
  if ¬ guardPasses then s.failTask task
  else
    match s.queue.completeFlush with
    | (some next, queue) => { s with queue := queue }.beginBatch task next
    | (none, queue) => { s with queue := queue }.setTask task none

/-- The mutation of `flush_core`, from one `await` of `patch` to the next: the reply to a task's
batch. -/
def receive (retried : Bool) (outcome : Option MutationOutcome) (guardPasses : Bool) : Session V :=
  if ¬ s.active then s.failTask task
  else if s.target ≠ some batch.target then s.afterTargetChange task
  else
    match outcome with
    | none => s.failTask task
    | some outcome =>
        match reconcileOutcome outcome retried with
        | .adopt newVersion =>
            { s with
              version := newVersion.or s.version
              applied := mergeControlValues s.applied batch.values }.commitBatch task guardPasses
        | .retryOnce current =>
            match s.queue.takePendingForRetry batch.target with
            | (newer, queue) =>
                { s with version := some current, queue := queue }.sendBatch task
                  { batch with values := mergeRetryBatch batch.values newer } true
        | .giveUp current => { s with version := some current }.failTask task

variable {D R : Type} (jsonToControlValue : String → D → R → Option V)

/-- `normalize_raw_control_updates`, before it is collected -/
def normalizeUpdates (controls : D) (updates : List (String × R)) : List (String × V) :=
  updates.filterMap fun (name, raw) =>
    (jsonToControlValue name controls raw).map fun value => (name, value)

/-- Where an event is possible, the state after it. -/
def step (event : SessionEvent D R) : Option (Session V) :=
  match event with
  | .change controls name raw =>
      match s.target, jsonToControlValue name controls raw with
      | some target, some value => some (s.admitUpdate target name value)
      | _, _ => some s
  | .changes controls updates =>
      match s.target with
      | some target =>
          some (s.admitUpdates target (normalizeUpdates jsonToControlValue controls updates))
      | none => some s
  | .flush guardPasses => some (s.flushCore guardPasses)
  | .poll task =>
      match s.tasks[task]? with
      | some ⟨batch, .spawned⟩ => some (s.beginBatch task batch)
      | _ => none
  | .reply task outcome guardPasses =>
      match s.tasks[task]? with
      | some ⟨batch, .waiting retried⟩ => some (s.receive task batch retried outcome guardPasses)
      | _ => none
  | .clearPending => some { s with queue := s.queue.clearPending }
  | .setTarget target => some { s with target := target }
  | .dispose => some { s with active := false }

end Session

end Hypercolor.Controls
