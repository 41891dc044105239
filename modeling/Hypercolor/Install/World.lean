import Hypercolor.Install.Coordinator
import Hypercolor.Lib.Machine

/-!
# The world of an install

The disk, the platform, and what has happened so far. A platform is any relation between calls,
answers and its own states; the disk answers reads truthfully, and an operation that changes it may
report an error whether or not it took effect. The coordinator is run by sessions, each an `install`
or a `recover`, each of which may be cut anywhere.

`written`, `advances` and `proof` are records of the run, read by no call.
-/

namespace Hypercolor.Install

open Lib

/-- The trait `InstallPlatform`: a platform: what each method may answer in each of its states, and
where it may leave it. -/
structure InstallPlatform (X : Type) where
  call : (call : PlatformCall) → X → Except InstallPlatformError call.Reply → X → Prop
  takeRestoredRelease : X → Option RestoredRelease → X → Prop
  takeForcedStop : X → Option UnitId → X → Prop
  /-- The layout and the launcher are reached through the active pointer, so the platform shows other
  units once it names another one. -/
  switched : Option UnitId → X → X → Prop

/-- One use of `advance`, with its result. -/
structure Advance where
  journal : InstallJournalV1
  disposition : InstallDisposition
  nextAction : Option InstallAction
  result : Except InstallModelError InstallJournalV1

/-- One journal that reached the disk, with the one it replaced. -/
structure Write where
  replaced : Option InstallJournalV1
  journal : InstallJournalV1

/-- A successful `wait_for_newer_owner`. -/
structure OwnerProof where
  checkpoint : PlatformCheckpoint
  expected : PlatformState
  record : PlatformTransactionRecord
  receipt : Option PlatformOwnerReceipt

/-- The world. -/
structure World (X : Type) where
  /-- The platform. -/
  site : X
  /-- The active pointer. -/
  active : Option UnitId
  /-- The journal file. -/
  journal : Option InstallJournalV1
  /-- Every journal that reached the disk, the oldest first. -/
  written : List Write
  /-- Every use of `advance`, the oldest first. -/
  advances : List Advance
  /-- The last owner proof, when nothing changed the installation and no transaction began since. -/
  proof : Option OwnerProof

/-- The methods that change the installation. -/
def PlatformCall.isEffect : PlatformCall → Bool
  | .installLauncher .. | .installLayoutOperation .. | .reloadManager .. | .restoreAutostart ..
  | .restoreRuntime .. | .stopUnjournaledRuntime .. => true
  | _ => false

/-- What a call of the platform leaves of the last owner proof. -/
def nextProof (proof : Option OwnerProof) :
    (call : PlatformCall) → Except InstallPlatformError call.Reply → Option OwnerProof
  | .waitForNewerOwner checkpoint expected record receipt, .ok _ =>
    some ⟨checkpoint, expected, record, receipt⟩
  | call, _ => if call.isEffect then none else proof

variable {X : Type}

/-- **The calls**, over a platform. -/
def World.step (P : InstallPlatform X) : Behaviour calls (World X)
  | .platform call, w, answer, w' => ∃ x, P.call call w.site answer x ∧
      w' = { w with site := x, proof := nextProof w.proof call answer }
  | .takeRestoredRelease, w, answer, w' => ∃ x, P.takeRestoredRelease w.site answer x ∧
      w' = { w with site := x }
  | .takeForcedStop, w, answer, w' => ∃ x, P.takeForcedStop w.site answer x ∧
      w' = { w with site := x }
  | .store .acquireLock, w, _, w' => w' = w
  | .store .activeUnit, w, answer, w' => w' = w ∧ ∀ unit, answer = .ok unit → unit = w.active
  | .store (.setActive unit), w, answer, w' =>
    (∃ x, P.switched unit w.site x ∧ w' = { w with site := x, active := unit, proof := none }) ∨
    (∃ error, answer = .error error) ∧ w' = w
  | .store .readJournal, w, answer, w' =>
    w' = w ∧ ∀ journal, answer = .ok journal → journal = w.journal
  | .store (.replaceJournal journal), w, answer, w' =>
    w' = { w with
      journal := some journal
      written := w.written ++ [⟨w.journal, journal⟩]
      proof := if journal.revision = 1 then none else w.proof } ∨
    (∃ error, answer = .error error) ∧ w' = w
  | .advance journal disposition nextAction, w, answer, w' =>
    answer = journal.advance disposition nextAction ∧
      w' = { w with advances := w.advances ++ [⟨journal, disposition, nextAction, answer⟩] }

/-! ## Sessions -/

/-- What a process does. -/
inductive Session where
  | install (request : InstallRequest)
  | recover

/-- Its program. -/
def Session.program : Session → Coord InstallCoordinatorError (Option InstallOutcome)
  | .install request => do
    let outcome ← Install.install request
    pure (some outcome)
  | .recover => Install.recover

/-- A session, and how it ended: with an outcome, with an error, or cut. -/
structure Ended where
  session : Session
  result : Option (Except InstallCoordinatorError (Option InstallOutcome))

/-- A session leads from one world to another. -/
def World.Session (P : InstallPlatform X) (w : World X) (e : Ended) (w' : World X) : Prop :=
  e.session.program.run.Exec (World.step P) w e.result w'

/-! ## Platforms that answer -/

/-- A platform that is a function. -/
structure Answering (X : Type) where
  call : (call : PlatformCall) → X → Except InstallPlatformError call.Reply × X
  switched : Option UnitId → X → X

namespace Answering

/-- As a platform; it has no release to report and stops nothing by force. -/
def platform (A : Answering X) : InstallPlatform X where
  call call x answer x' := (answer, x') = A.call call x
  takeRestoredRelease x answer x' := answer = none ∧ x' = x
  takeForcedStop x answer x' := answer = none ∧ x' = x
  switched unit x x' := x' = A.switched unit x

/-- Its world, where every operation of the store succeeds. -/
def handler (A : Answering X) : (c : InstallCall) → World X → calls.Answer c × World X
  | .platform call, w =>
    ((A.call call w.site).1, { w with
      site := (A.call call w.site).2
      proof := nextProof w.proof call (A.call call w.site).1 })
  | .takeRestoredRelease, w => ((none : Option RestoredRelease), w)
  | .takeForcedStop, w => ((none : Option UnitId), w)
  | .store .acquireLock, w => (Except.ok (), w)
  | .store .activeUnit, w => (Except.ok w.active, w)
  | .store (.setActive unit), w =>
    (Except.ok (), { w with site := A.switched unit w.site, active := unit, proof := none })
  | .store .readJournal, w => (Except.ok w.journal, w)
  | .store (.replaceJournal journal), w =>
    (Except.ok (), { w with
      journal := some journal
      written := w.written ++ [⟨w.journal, journal⟩]
      proof := if journal.revision = 1 then none else w.proof })
  | .advance journal disposition nextAction, w =>
    (journal.advance disposition nextAction, { w with advances := w.advances ++
      [⟨journal, disposition, nextAction, journal.advance disposition nextAction⟩] })

lemma handler_step (A : Answering X) (c : InstallCall) (w : World X) :
    World.step A.platform c w (A.handler c w).1 (A.handler c w).2 := by
  rcases c with call | _ | _ | (_ | _ | unit | _ | journal) | _
  · exact ⟨_, rfl, rfl⟩
  iterate 2 exact ⟨_, ⟨rfl, rfl⟩, rfl⟩
  · exact rfl
  · exact ⟨rfl, fun _ h => (Except.ok.inj h).symm⟩
  · exact .inl ⟨_, rfl, rfl⟩
  · exact ⟨rfl, fun _ h => (Except.ok.inj h).symm⟩
  · exact .inl rfl
  · exact ⟨rfl, rfl⟩

/-- What a session does on it. -/
lemma session_run (A : Answering X) (s : Session) (w : World X) :
    World.Session A.platform w ⟨s, some (s.program.run.runWith A.handler w).1⟩
      (s.program.run.runWith A.handler w).2 :=
  Program.exec_runWith (S := calls) (B := World.step A.platform) A.handler_step s.program.run w

end Answering

/-! ## Quiet calls -/

/-- Every call but `advance` and the replacement of the journal. -/
def InstallCall.quiet : InstallCall → Prop
  | .advance .. | .store (.replaceJournal _) => False
  | _ => True

/-- The calls that leave the installation, the disk and the last owner proof as they are. -/
def InstallCall.observes : InstallCall → Prop
  | .platform (.waitForNewerOwner ..) => False
  | .platform call => call.isEffect = false
  | .takeRestoredRelease | .takeForcedStop => True
  | .store .acquireLock | .store .activeUnit | .store .readJournal => True
  | _ => False

variable {c : InstallCall}

lemma InstallCall.observes.quiet (h : c.observes) : c.quiet := by
  rcases c with call | _ | _ | (_ | _ | unit | _ | journal) | _
  all_goals first
    | exact h.elim
    | trivial

/-- A quiet call leaves the journal and the records of writes and advances as they are. -/
lemma World.step_quiet {P : InstallPlatform X} {w w' : World X} {answer : calls.Answer c}
    (hc : c.quiet) (h : World.step P c w answer w') :
    w'.journal = w.journal ∧ w'.written = w.written ∧ w'.advances = w.advances := by
  rcases c with call | _ | _ | call | _
  · obtain ⟨x, -, rfl⟩ := h
    exact ⟨rfl, rfl, rfl⟩
  · obtain ⟨x, -, rfl⟩ := h
    exact ⟨rfl, rfl, rfl⟩
  · obtain ⟨x, -, rfl⟩ := h
    exact ⟨rfl, rfl, rfl⟩
  · rcases call with _ | _ | unit | _ | journal
    · cases h
      exact ⟨rfl, rfl, rfl⟩
    · obtain ⟨rfl, -⟩ := h
      exact ⟨rfl, rfl, rfl⟩
    · obtain ⟨x, -, rfl⟩ | ⟨-, rfl⟩ := h <;> exact ⟨rfl, rfl, rfl⟩
    · obtain ⟨rfl, -⟩ := h
      exact ⟨rfl, rfl, rfl⟩
    · exact hc.elim
  · exact hc.elim

end Hypercolor.Install
