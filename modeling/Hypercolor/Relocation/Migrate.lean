import Hypercolor.Persistence.Destination

/-!
# Relocation of a store

A store moves from a legacy path to a canonical one. A run reads both documents; where the legacy one is
newer it is imported, and moved aside once its copy is durable. Then the store writes on its own.

* `plan` and `afterCommit` are the decisions of `migrate`. `Step` is one file operation or decision of
  a run, with a crash after any of them.
* A replacement that no barrier has proven durable may or may not survive a crash, and what a later run
  finds has survived.
* Nobody else writes the two paths, so no import is superseded in a run.
-/

namespace Hypercolor.Relocation

open Persistence (AtomicWriteCommitResult)

abbrev Bytes := List UInt8

/-! ## Stores -/

/-- `VersionedDocument` -/
structure VersionedDocument (D : Type) where
  version : UInt32
  document : D

/-- `MigratedStore`: what a store's codec makes of the contents of a file. -/
structure MigratedStore (D E : Type) where
  decodeCurrent : Bytes → Except E (VersionedDocument D)
  decodeLegacy : Bytes → Except E (Option (VersionedDocument D))
  encode : D → Except E Bytes

/-- `RawJsonRelocation`, where `probe` is `probe_schema_version` -/
def rawJsonRelocation (E : Type) (probe : Bytes → UInt32) : MigratedStore Bytes E where
  decodeCurrent bytes := .ok ⟨probe bytes, bytes⟩
  decodeLegacy bytes := .ok (some ⟨probe bytes, bytes⟩)
  encode document := .ok document

/-- `LegacyDisposition` -/
inductive LegacyDisposition where
  | backup
  | retain

/-- `PathMigrationEntry` -/
structure PathMigrationEntry where
  legacy : String
  canonical : String
  disposition : LegacyDisposition

/-- `is_noop` -/
def PathMigrationEntry.isNoop (entry : PathMigrationEntry) : Bool := entry.legacy == entry.canonical

/-- `backup_path` -/
def PathMigrationEntry.backupPath (entry : PathMigrationEntry) (timestamp : Nat) : String :=
  entry.legacy ++ ".migrated-" ++ toString timestamp

/-- `MigrationOutcome` -/
inductive MigrationOutcome where
  | freshInstall
  | alreadyMigrated
  | imported (backup : Option String)
  | importRetrying
  | importSuperseded

/-- `Migrated` -/
structure Migrated (D : Type) where
  document : Option D
  outcome : MigrationOutcome

/-! ## Decisions -/

/-- How `migrate` goes on once it has read both files. -/
inductive Plan (D : Type) where
  | done (migrated : Migrated D)
  | import (legacy : VersionedDocument D)

variable {D E : Type}

variable (store : MigratedStore D E)

/-- What the store reads at the canonical path, if a file is there. -/
def readCurrent : Option Bytes → Except E (Option (VersionedDocument D))
  | some bytes => (store.decodeCurrent bytes).map some
  | none => .ok none

/-- What the store reads at the legacy path, if a file is there. -/
def readLegacy : Option Bytes → Except E (Option (VersionedDocument D))
  | some bytes => store.decodeLegacy bytes
  | none => .ok none

/-- `migrate`, its precedence -/
def precedence : Option (VersionedDocument D) → Option (VersionedDocument D) → Plan D
  | none, none => .done ⟨none, .freshInstall⟩
  | none, some legacy => .import legacy
  | some current, none => .done ⟨some current.document, .alreadyMigrated⟩
  | some current, some legacy =>
    if current.version < legacy.version then .import legacy
    else .done ⟨some current.document, .alreadyMigrated⟩

/-- `migrate`, before `import` -/
def plan (entry : PathMigrationEntry) (canonical legacy : Option Bytes) : Except E (Plan D) :=
  (readCurrent store canonical).bind fun current =>
    if entry.isNoop then .ok (precedence current none)
    else (readLegacy store legacy).map (precedence current)

/-- How `import` goes on after the attempt. -/
inductive AfterCommit (D : Type) where
  | retire
  | done (migrated : Migrated D)

/-- `import`, after `commit_stage_aware` -/
def afterCommit (canonical : Option Bytes) (legacy : VersionedDocument D) :
    AtomicWriteCommitResult → Except E (AfterCommit D)
  | .durableWritten => .ok .retire
  | .superseded =>
    match canonical with
    | some bytes =>
      (store.decodeCurrent bytes).map fun winner => .done ⟨some winner.document, .importSuperseded⟩
    | none => .ok (.done ⟨none, .importSuperseded⟩)
  | .failedBeforeReplacement _ | .replacementVisibleButNotDurable _ =>
    .ok (.done ⟨some legacy.document, .importRetrying⟩)

/-! ## Disks and runs -/

/-- The two paths and the backup. `canonical` is what is durable there, `unsynced` what has replaced
it since without a barrier, newest first. -/
structure Disk where
  canonical : Option Bytes
  unsynced : List Bytes
  legacy : Option Bytes
  backup : Option (String × Bytes)
  retirementSynced : Bool

/-- What a reader finds at the canonical path. -/
def Disk.visible (disk : Disk) : Option Bytes := disk.unsynced.head?.or disk.canonical

/-- An attempt of the writer: whether it has renamed, and whether nothing newer is admitted. -/
structure Attempt where
  payload : Bytes
  renamed : Bool
  newest : Bool

/-- A run of the daemon. -/
inductive Process (D : Type) where
  | down
  /-- `migrate` has failed. -/
  | failed
  /-- The import is admitted; whether its attempt has renamed. -/
  | committing (legacy : VersionedDocument D) (payload : Bytes) (renamed : Bool)
  /-- The import is durable. -/
  | retiring (legacy : VersionedDocument D)
  /-- The legacy file is moved aside, before the directory barrier. -/
  | retired (legacy : VersionedDocument D) (backup : String)
  /-- The store is up; its newest document has version `floor`. -/
  | up (floor : UInt32) (pending : Option Bytes) (attempt : Option Attempt)

/-- `newest` is the newest document that is durable, and `wrote` whether a run has made one durable. -/
structure State (D : Type) where
  disk : Disk
  process : Process D
  newest : Option D
  wrote : Bool

/-- What a step tells. -/
inductive Event (D : Type) where
  | step
  /-- `migrate` starts an import. -/
  | imports
  /-- `migrate` returns. -/
  | returns (migrated : Migrated D)

namespace State

variable (store : MigratedStore D E) (s : State D)

/-- A payload becomes durable at the canonical path. -/
def landed (payload : Bytes) : State D :=
  { s with
    disk := { s.disk with canonical := some payload, unsynced := [] }
    newest := (store.decodeCurrent payload).toOption.map (·.document)
    wrote := true }

/-- A payload becomes visible at the canonical path. -/
def replaced (s : State D) (payload : Bytes) : State D :=
  { s with disk := { s.disk with unsynced := payload :: s.disk.unsynced } }

def goto (s : State D) (process : Process D) : State D := { s with process }

/-- At a crash, at most one of the replacements that are not synced survives. -/
def survived : Option Bytes → State D
  | some payload => s.landed store payload
  | none => { s with disk := { s.disk with unsynced := [] } }

/-- At a crash, a retirement that is not synced may be lost. -/
def reverted (s : State D) (kept : Bool) : State D :=
  if s.disk.retirementSynced || kept then { s with disk := { s.disk with retirementSynced := true } }
  else { s with disk := { s.disk with
    legacy := s.disk.backup.map Prod.snd
    backup := none
    retirementSynced := true } }

def crashed (survivor : Option Bytes) (kept : Bool) : State D :=
  ((s.survived store survivor).goto .down).reverted kept

end State

/-- The version of the document that a run starts from. -/
def startVersion (store : MigratedStore D E) (canonical : Option Bytes) : UInt32 :=
  match canonical with
  | some bytes => match store.decodeCurrent bytes with
    | .ok current => current.version
    | .error _ => 0
  | none => 0

/-- One step of the run at hand, or its crash. -/
inductive Step (store : MigratedStore D E) (entry : PathMigrationEntry) : State D → Event D →
    State D → Prop where
  -- `migrate` reads both files
  | fails {s : State D} (error : E) (hp : s.process = .down)
      (hplan : plan store entry s.disk.visible s.disk.legacy = .error error) :
      Step store entry s .step (s.goto .failed)
  | unreadable {s : State D} (hp : s.process = .down) : Step store entry s .step (s.goto .failed)
  | migrates {s : State D} {migrated : Migrated D} (hp : s.process = .down)
      (hplan : plan store entry s.disk.visible s.disk.legacy = .ok (.done migrated)) :
      Step store entry s (.returns migrated) (s.goto (.up (startVersion store s.disk.visible) none none))
  | imports {s : State D} {legacy : VersionedDocument D} {payload : Bytes} (hp : s.process = .down)
      (hplan : plan store entry s.disk.visible s.disk.legacy = .ok (.import legacy))
      (hencode : store.encode legacy.document = .ok payload) :
      Step store entry s .imports (s.goto (.committing legacy payload false))
  | encodeFails {s : State D} {legacy : VersionedDocument D} (error : E) (hp : s.process = .down)
      (hplan : plan store entry s.disk.visible s.disk.legacy = .ok (.import legacy))
      (hencode : store.encode legacy.document = .error error) :
      Step store entry s .imports (s.goto .failed)
  -- the attempt of the import
  | commitFails {s : State D} {legacy : VersionedDocument D} {payload : Bytes} {migrated : Migrated D}
      (error : Persistence.PersistenceError) (hp : s.process = .committing legacy payload false)
      (hafter : afterCommit store s.disk.visible legacy (.failedBeforeReplacement error) =
        .ok (.done migrated)) :
      Step store entry s (.returns migrated) (s.goto (.up legacy.version (some payload) none))
  | commitRenames {s : State D} {legacy : VersionedDocument D} {payload : Bytes}
      (hp : s.process = .committing legacy payload false) :
      Step store entry s .step ((s.replaced payload).goto (.committing legacy payload true))
  | commitUnsynced {s : State D} {legacy : VersionedDocument D} {payload : Bytes} {migrated : Migrated D}
      (error : Persistence.PersistenceError) (hp : s.process = .committing legacy payload true)
      (hafter : afterCommit store s.disk.visible legacy (.replacementVisibleButNotDurable error) =
        .ok (.done migrated)) :
      Step store entry s (.returns migrated) (s.goto (.up legacy.version (some payload) none))
  | commitLands {s : State D} {legacy : VersionedDocument D} {payload : Bytes}
      (hp : s.process = .committing legacy payload true)
      (hafter : afterCommit store s.disk.visible legacy .durableWritten = .ok .retire) :
      Step store entry s .step ((s.landed store payload).goto (.retiring legacy))
  -- `retire_legacy`
  | retains {s : State D} {legacy : VersionedDocument D} (hp : s.process = .retiring legacy)
      (hd : entry.disposition = .retain) :
      Step store entry s (.returns ⟨some legacy.document, .imported none⟩)
        (s.goto (.up legacy.version none none))
  | retireFails {s : State D} {legacy : VersionedDocument D} (hp : s.process = .retiring legacy)
      (hd : entry.disposition = .backup) : Step store entry s .step (s.goto .failed)
  | retires {s : State D} {legacy : VersionedDocument D} {bytes : Bytes} (timestamp : Nat)
      (hp : s.process = .retiring legacy) (hd : entry.disposition = .backup)
      (hl : s.disk.legacy = some bytes) :
      Step store entry s .step { s with
        disk := { s.disk with
          legacy := none
          backup := some (entry.backupPath timestamp, bytes)
          retirementSynced := false }
        process := .retired legacy (entry.backupPath timestamp) }
  -- a directory barrier that fails is only logged
  | retirementSyncs {s : State D} {legacy : VersionedDocument D} {backup : String} (synced : Bool)
      (hp : s.process = .retired legacy backup) :
      Step store entry s (.returns ⟨some legacy.document, .imported (some backup)⟩)
        { s with
          disk := { s.disk with retirementSynced := synced }
          process := .up legacy.version none none }
  -- the store admits a newer document, of no lower version
  | writes {s : State D} {floor : UInt32} {pending : Option Bytes} {attempt : Option Attempt}
      {payload : Bytes}
      {document : VersionedDocument D} (hp : s.process = .up floor pending attempt)
      (hd : store.decodeCurrent payload = .ok document) (hv : floor ≤ document.version) :
      Step store entry s .step (s.goto (.up document.version (some payload)
        (attempt.map fun attempt => { attempt with newest := false })))
  -- the attempts of the store and of the retries
  | begins {s : State D} {floor : UInt32} {payload : Bytes}
      (hp : s.process = .up floor (some payload) none) :
      Step store entry s .step (s.goto (.up floor (some payload) (some ⟨payload, false, true⟩)))
  | attemptFails {s : State D} {floor : UInt32} {pending : Option Bytes} {attempt : Attempt}
      (hp : s.process = .up floor pending (some attempt)) :
      Step store entry s .step (s.goto (.up floor pending none))
  | attemptRenames {s : State D} {floor : UInt32} {pending : Option Bytes} {attempt : Attempt}
      (hp : s.process = .up floor pending (some attempt)) (hr : attempt.renamed = false) :
      Step store entry s .step
        ((s.replaced attempt.payload).goto (.up floor pending (some { attempt with renamed := true })))
  -- after its barrier, or after it has verified that the file holds its payload
  | attemptLands {s : State D} {floor : UInt32} {pending : Option Bytes} {attempt : Attempt}
      (hp : s.process = .up floor pending (some attempt))
      (hr : attempt.renamed ∨ s.disk.visible = some attempt.payload) :
      Step store entry s .step
        ((s.landed store attempt.payload).goto
            (.up floor (if attempt.newest then none else pending) none))
  | crashes {s : State D} (survivor : Option Bytes) (kept : Bool)
      (hs : ∀ payload, survivor = some payload → payload ∈ s.disk.unsynced) :
      Step store entry s .step (s.crashed store survivor kept)

/-! ## The first state -/

variable (store : MigratedStore D E) (entry : PathMigrationEntry)

/-- What the legacy file holds for the relocation. -/
def legacyDocument (legacy : Option Bytes) : Option (VersionedDocument D) :=
  if entry.isNoop then none
  else legacy.bind fun bytes => (store.decodeLegacy bytes).toOption.join

/-- The newer of two documents, by version and then canonical path. -/
def newer (current legacy : Option (VersionedDocument D)) : Option D :=
  match current, legacy with
  | none, none => none
  | none, some legacy => some legacy.document
  | some current, none => some current.document
  | some current, some legacy =>
    some (if current.version < legacy.version then legacy.document else current.document)

/-- Before the first run, with these contents of the two paths. -/
def State.new (canonical legacy : Option Bytes) : State D where
  disk := ⟨canonical, [], legacy, none, true⟩
  process := .down
  newest := newer (canonical.bind fun bytes => (store.decodeCurrent bytes).toOption)
    (legacyDocument store entry legacy)
  wrote := false

/-- Every sequence of runs and crashes. -/
def machine (canonical legacy : Option Bytes) : Lib.Machine (State D) (Event D) where
  init s := s = State.new store entry canonical legacy
  step := Step store entry

end Hypercolor.Relocation
