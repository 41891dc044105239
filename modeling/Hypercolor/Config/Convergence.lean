import Hypercolor.Config.ConfigFile

/-!
# Whether the config file catches up

* **`file_converges`**: as long as no staged commit fails after its rename, the file holds the
  document of the last operation that succeeded whenever nothing is in progress or pending, and the
  status is only durable where the file has caught up.
* **`staged_failure_stays`**: a staged commit that fails after its rename leaves its document in the
  file, and the status durable.

An operation in progress may already have put its own document in the file, and `Durable` then refers
to that document. An older retry may put its own there between the steps of a staged
commit, which is why that commit reads `pending_failure` before it replaces the file.
-/

namespace Hypercolor.Config.ConfigFile

open Option

open Persistence (Attempt AtomicWriteCommitResult DestinationState Generation Payload PersistenceError
  PendingRetry)

variable {D : Type} {digest : Payload → D} {w w' : World D} {disk disk' : Disk D}

/-! ## What is claimed -/

section

variable (disk : Disk D)

/-- The file holds the document of the last operation that succeeded. -/
def Disk.Current : Prop :=
  ∀ document, disk.last = some document → disk.file = some document

/-- What the file and the status owe to the operations. While one is in progress, the status may be
durable for its document, which is then in the file. -/
structure Converged (w : World D) : Prop where
  settled : w.op = .none → w.st.pending = none → w.Current
  reported : w.isDurable → w.Current ∨ ∃ document, w.op.document = some document ∧ w.file = some document

/-! ## The invariant -/

/-- The payload is the document of the last operation that succeeded. -/
def Disk.Last (payload : Payload) : Prop := ∀ document, disk.last = some document → payload = document

/-- The file holds a document, or that of the last operation. -/
def Disk.Between (document : Payload) : Prop := disk.file = some document ∨ disk.Current

/-- The attempt has put its payload in the file. -/
def Written (a : Attempt D) : Prop :=
  match a.stage with
  | .barrier | .record | .finish .durableWritten => True
  | _ => False

/-- Nothing newer than the pending snapshot is admitted. -/
structure Calm (disk : Disk D) : Prop where
  foreground : disk.st.foregroundGeneration = none
  idle : disk.retry = none → disk.st.activeGeneration = none
  retry : ∀ a, disk.retry = some a → a.generation = disk.st.latestAdmittedGeneration
  pending : ∀ x, disk.st.pending = some x → disk.Last x.payload

/-- Between operations. -/
structure Quiet (disk : Disk D) : Prop extends Calm disk where
  current : disk.st.pending = none → disk.Current
  lag : disk.st.pending.isSome → disk.st.lagError.isSome

/-- A staged commit has replaced the file. -/
structure Loose (disk : Disk D) (document : Payload) : Prop extends Calm disk where
  between : disk.Between document

/-- Before the admission of a document. -/
def Before : Purpose → Payload → Prop
  | .supersede, document => Loose disk document
  | _, _ => Quiet disk

/-- A document is the newest admission. -/
structure Admitted (disk : Disk D) (purpose : Purpose) (document : Payload) (g : Generation) : Prop where
  latest : g = disk.st.latestAdmittedGeneration
  pending : disk.st.pending = some ⟨g, document⟩
  covered : disk.st.lagError = none ∨ purpose = .supersede → disk.Between document

/-- Before the attempt of the operation, an older retry may still run. -/
structure Beginning (disk : Disk D) (purpose : Purpose) (document : Payload) (g : Generation) :
    Prop extends
    Admitted disk purpose document g where
  foreground : disk.st.foregroundGeneration = some g
  idle : disk.retry = none → disk.st.activeGeneration = none
  retry : ∀ a, disk.retry = some a → a.generation < g ∧ disk.Last a.payload

/-- During the attempt of the operation nothing else runs. -/
structure Attempting (disk : Disk D) (purpose : Purpose) (a : Attempt D) : Prop extends
    Admitted disk purpose a.payload a.generation where
  foreground : disk.st.foregroundGeneration = none
  active : disk.st.activeGeneration = some a.generation
  retry : disk.retry = none
  written : Written a → disk.file = some a.payload
  stage : a.stage ≠ .finish .superseded

/-- A prepared mutation waits for a retry of its own document. -/
structure Waiting (disk : Disk D) (document : Payload) (g : Generation) : Prop where
  latest : g = disk.st.latestAdmittedGeneration
  foreground : disk.st.foregroundGeneration = none
  idle : disk.retry = none → disk.st.activeGeneration = none
  retry : ∀ a, disk.retry = some a → a.generation = disk.st.latestAdmittedGeneration
  pending : ∀ x, disk.st.pending = some x → x.payload = document ∧ disk.st.lagError.isSome
  landed : disk.st.pending = none → disk.file = some document

/-- What holds at each place of an operation. -/
def OpOk : Op D → Prop
  | .none | .staged _ => Quiet disk
  | .reserving purpose document => Before disk purpose document
  | .admitting purpose document g =>
    Before disk purpose document ∧ disk.st.latestAdmittedGeneration < g ∧ g ≤ disk.st.nextGeneration
  | .beginning purpose document g => Beginning disk purpose document g
  | .attempting purpose a => Attempting disk purpose a
  | .waiting document g => Waiting disk document g
  | .replacing _ older => Quiet disk ∧ (older = false → disk.st.pending = none)
  | .renamed document older | .replaced document older | .forgotten document older =>
    Loose disk document ∧ (older = false → disk.st.pending = none ∧ disk.file = some document)

end

/-- Where a staged commit may have replaced what a retry wrote. -/
def Op.Replaces : Op D → Prop
  | .reserving .supersede _ | .admitting .supersede _ _ | .beginning .supersede _ _ | .renamed _ _
  | .replaced _ _ | .forgotten _ _ => True
  | _ => False

/-- What holds in every reachable state. -/
structure Inv (w : World D) : Prop where
  latest_le : w.st.latestAdmittedGeneration ≤ w.st.nextGeneration
  pending : ∀ x, w.st.pending = some x → x.generation = w.st.latestAdmittedGeneration
  active : ∀ a, w.retry = some a → w.st.activeGeneration = some a.generation
  retry : ∀ a, w.retry = some a → a.generation = w.st.latestAdmittedGeneration →
    w.st.pending = some ⟨a.generation, a.payload⟩
  written : ∀ a, w.retry = some a → Written a → ¬ w.op.Replaces → w.file = some a.payload
  op : OpOk w.toDisk w.op

/-! ## What a step of an attempt can do -/

section

variable {st st' : DestinationState D} {file file' : Option Payload} {a a' : Attempt D}

/-- A step of an attempt leaves what was admitted. -/
lemma AttemptStep.spec (h : AttemptStep digest st file a st' file' a') :
    (∃ durable, st' = { st with durable }) ∧ a'.generation = a.generation ∧ a'.payload = a.payload ∧
      (file' = file ∨ file' = some a.payload ∧ a.generation = st.latestAdmittedGeneration) ∧
      (Written a' → Written a ∧ file' = file ∨ file' = some a.payload) ∧
      (a.generation = st.latestAdmittedGeneration → a'.stage ≠ .finish .superseded) := by
  cases h with
  | startSuperseded hs hg | replaceSuperseded hs hg =>
    exact ⟨⟨_, rfl⟩, rfl, rfl, .inl rfl, fun h => h.elim, fun he => absurd he hg⟩
  | startCurrent hs hg | verifyMiss hs | stageOk hs | stageFail e hs | replaceFail hs hg
  | barrierFail hs => exact ⟨⟨_, rfl⟩, rfl, rfl, .inl rfl, fun h => h.elim, fun _ => by simp⟩
  | verifyHit hs hb => exact ⟨⟨_, rfl⟩, rfl, rfl, .inl rfl, fun _ => .inr hb, fun _ => by simp⟩
  | replaceOk hs hg => exact ⟨⟨_, rfl⟩, rfl, rfl, .inr ⟨rfl, hg⟩, fun _ => .inr rfl, fun _ => by simp⟩
  | barrierOk hs | record durable hs hd =>
    refine ⟨⟨_, rfl⟩, rfl, rfl, .inl rfl, fun _ => .inl ⟨?_, rfl⟩, fun _ => by simp⟩
    rw [Written, hs]
    trivial

end

/-! ## What the end of an attempt can do -/

/-- A destination after the attempt that it had active. -/
structure Finished (st st' : DestinationState D) (g : Generation)
    (result : AtomicWriteCommitResult) : Prop where
  next : st'.nextGeneration = st.nextGeneration
  latest : st'.latestAdmittedGeneration = st.latestAdmittedGeneration
  foreground : st'.foregroundGeneration = st.foregroundGeneration
  idle : st'.activeGeneration = none
  durable : result = .durableWritten → st'.lagError = none ∧
    st'.pending = if st.pending.map PendingRetry.generation = some g then none else st.pending
  undurable : result ≠ .durableWritten → st'.pending = st.pending ∧
    (st'.lagError = st.lagError ∨ st'.lagError.isSome)
  failed : result ≠ .durableWritten → result ≠ .superseded → st'.lagError.isSome

variable {st st' : DestinationState D} {g : Generation}

/-- What the end of an attempt leaves. -/
lemma finished (h : st.activeGeneration = some g) (res : AtomicWriteCommitResult)
    (background : Bool) : Finished st (st.finishAttempt g res background) g res := by
  cases res with
  | durableWritten =>
    simp only [DestinationState.finishAttempt, h, if_true]
    exact ⟨rfl, rfl, rfl, rfl, fun _ => ⟨rfl, rfl⟩, fun hn => absurd rfl hn, fun hn => absurd rfl hn⟩
  | superseded =>
    simp only [DestinationState.finishAttempt, h, if_true]
    exact ⟨rfl, rfl, rfl, rfl, (fun he => nomatch he), fun _ => ⟨rfl, .inl rfl⟩,
      fun _ hn => absurd rfl hn⟩
  | failedBeforeReplacement e | replacementVisibleButNotDurable e =>
    simp only [DestinationState.finishAttempt, h, if_true]
    exact ⟨rfl, rfl, rfl, rfl, (fun he => nomatch he), fun _ => ⟨rfl, .inr rfl⟩, fun _ _ => rfl⟩

variable {res : AtomicWriteCommitResult}

/-- What was not pending is not pending afterwards. -/
lemma Finished.pending_none (h : Finished st st' g res) (hp : st.pending = none) :
    st'.pending = none := by
  by_cases hre : res = .durableWritten
  · rw [(h.durable hre).2, hp]
    rfl
  · rw [(h.undurable hre).1, hp]

variable {x : PendingRetry}

/-- What is pending afterwards was pending. -/
lemma Finished.of_pending (h : Finished st st' g res) (hp : st'.pending = some x) :
    st.pending = some x := by
  by_cases hre : res = .durableWritten
  · have he := (h.durable hre).2
    rw [hp] at he
    split at he
    · cases he
    · exact he.symm
  · rw [← (h.undurable hre).1, hp]

/-! ## Steps of the operation -/

variable {a a' : Attempt D} {op : Op D} {purpose : Purpose} {doc : Payload}

namespace Inv

/-- A retry at rest writes what is pending. -/
lemma calm_retry (h : Inv w) (hc : Calm w.toDisk) (ha : w.retry = some a) :
    w.st.pending = some ⟨a.generation, a.payload⟩ := h.retry a ha (hc.retry a ha)

/-- A quiet world with nothing pending has no retry. -/
lemma retry_none (h : Inv w) (hc : Calm w.toDisk) (hp : w.st.pending = none) : w.retry = none := by
  rcases hre : w.retry with _ | a
  · rfl
  · rw [h.calm_retry hc hre] at hp
    cases hp

/-- A step that only moves the operation. -/
lemma move (h : Inv w) (hop : OpOk w.toDisk op) (hre : w.op.Replaces → op.Replaces) :
    Inv { w with op } where
  latest_le := h.latest_le
  pending := h.pending
  active := h.active
  retry := h.retry
  written a ha hwr hn := h.written a ha hwr fun hw => hn (hre hw)
  op := hop

lemma reserve (h : Inv w) (ho : w.op = .reserving purpose doc) :
    Inv { w with st := w.st.reserve, op := .admitting purpose doc (w.st.nextGeneration + 1) } where
  latest_le := Nat.le_succ_of_le h.latest_le
  pending := h.pending
  active := h.active
  retry := h.retry
  written a ha hwr hn := h.written a ha hwr fun hw => hn <| by
    rw [ho] at hw
    cases purpose <;> exact hw
  op := by
    have hop := h.op
    rw [ho] at hop
    refine ⟨?_, Nat.lt_succ_of_le h.latest_le, le_refl _⟩
    cases purpose with
    | persist | prepared =>
        exact ⟨⟨hop.foreground, hop.idle, hop.retry, hop.pending⟩, hop.current, hop.lag⟩
    | supersede => exact ⟨⟨hop.foreground, hop.idle, hop.retry, hop.pending⟩, hop.between⟩

end Inv

lemma Before.calm (h : Before disk purpose doc) : Calm disk := by
  cases purpose with
  | persist | prepared | supersede => exact h.toCalm

/-- Between operations, what is pending has failed. -/
lemma Quiet.pending_none (h : Quiet disk) (hl : disk.st.lagError = none) : disk.st.pending = none := by
  rcases hp : disk.st.pending with _ | x
  · rfl
  · have hso := h.lag (by rw [hp]; rfl)
    rw [hl] at hso
    cases hso

/-- Between operations, no failure is read exactly where nothing is pending. -/
lemma Quiet.pendingFailure (h : Quiet disk) (hn : disk.pendingFailure.isSome = false) :
    disk.st.pending = none := by
  by_contra hp
  have hso := isSome_iff_ne_none.mpr hp
  rw [Disk.pendingFailure, if_pos hso, h.lag hso] at hn
  cases hn

/-- Unless a failure is reported, the file is the last operation's. -/
lemma Before.covered (h : Before disk purpose doc)
    (hl : disk.st.lagError = none ∨ purpose = .supersede) : disk.Between doc := by
  cases purpose with
  | persist | prepared =>
    rcases hl with hl | he
    · exact .inr (Quiet.current h (Quiet.pending_none h hl))
    · cases he
  | supersede => exact Loose.between h

variable {file : Option Payload}

namespace Inv

lemma admitDocument (h : Inv w) (ho : w.op = .admitting purpose doc g) :
    Inv { w with st := w.st.recordAdmission g doc, op := .beginning purpose doc g } := by
  have hop := h.op
  rw [ho] at hop
  obtain ⟨hb, hl, hle⟩ := hop
  have hc := hb.calm
  rw [DestinationState.recordAdmission, if_neg (Nat.not_le.mpr hl)]
  refine ⟨hle, ?_, h.active, ?_, ?_, ?_⟩
  · rintro x ⟨⟩
    rfl
  · intro a ha he
    -- the retry is of the snapshot that was pending
    exact absurd (hc.retry a ha) (ne_of_gt (he ▸ hl))
  · intro a ha hwr hn
    refine h.written a ha hwr fun hw => hn ?_
    rw [ho] at hw
    cases purpose <;> exact hw
  · refine ⟨⟨rfl, rfl, hb.covered⟩, rfl, hc.idle, fun a ha => ⟨?_, ?_⟩⟩
    · rw [hc.retry a ha]
      exact hl
    · exact hc.pending _ (h.calm_retry hc ha)

lemma beginStarted (h : Inv w) (ho : w.op = .beginning purpose doc g)
    (hb : w.st.beginForeground g = .started st) :
    Inv { w with
      st
      op := .attempting purpose
        ⟨g, doc, if purpose = .prepared then .commitWait else .commit, .start⟩ } := by
  have hop := h.op
  rw [ho] at hop
  rw [DestinationState.beginForeground, if_neg (not_not_intro hop.latest)] at hb
  split at hb
  · rename_i hac
    have hre : w.retry = none := by
      rcases hre : w.retry with _ | a
      · rfl
      · rw [h.active a hre] at hac
        cases hac
    cases hb
    have hf : (w.st.activate g).foregroundGeneration = some g := hop.foreground
    rw [DestinationState.releaseForeground, if_pos hf]
    refine ⟨h.latest_le, h.pending, ?_, ?_, ?_, ?_⟩
    · intro a ha
      cases hre.symm.trans ha
    · intro a ha
      cases hre.symm.trans ha
    · intro a ha
      cases hre.symm.trans ha
    · exact ⟨⟨hop.latest, hop.pending, hop.covered⟩, rfl, rfl, hre, fun hw => hw.elim, by simp⟩
  · cases hb

/-- The operation is never refused, as it holds the write lock. -/
lemma not_beginRefused (h : Inv w) (ho : w.op = .beginning purpose doc g) :
    w.st.beginForeground g ≠ .refused st := by
  have hop := h.op
  rw [ho] at hop
  rw [DestinationState.beginForeground, if_neg (not_not_intro hop.latest)]
  split
  iterate 2 exact fun he => nomatch he

/-- **A step of a foreground attempt.** -/
theorem attempt (h : Inv w) (ho : w.op = .attempting purpose a)
    (ha : AttemptStep digest w.st w.file a st file a') :
    Inv { w with st, file, op := .attempting purpose a' } := by
  have hop := h.op
  rw [ho] at hop
  obtain ⟨⟨durable, rfl⟩, hg, hp, hf, hwr, hst⟩ := ha.spec
  have hn : ∀ b, w.retry ≠ some b := fun b hb => by
    cases hop.retry.symm.trans hb
  refine ⟨h.latest_le, h.pending, fun b hb => absurd hb (hn b), fun b hb => absurd hb (hn b),
    fun b hb => absurd hb (hn b), ⟨⟨?_, ?_, ?_⟩, hop.foreground, ?_, hop.retry, ?_, hst hop.latest⟩⟩
  · rw [hg]
    exact hop.latest
  · rw [hg, hp]
    exact hop.pending
  · intro hl
    rw [hp]
    rcases hf with rfl | ⟨rfl, -⟩
    · exact hop.covered hl
    · exact .inl rfl
  · rw [hg]
    exact hop.active
  · intro hw
    rw [hp]
    rcases hwr hw with ⟨hold, rfl⟩ | hne
    · exact hop.written hold
    · exact hne

/-- The end of a foreground attempt. -/
lemma finish (h : Inv w) (ho : w.op = .attempting purpose a) (hs : a.stage = .finish res) :
    Inv (w.attempted purpose a res) := by
  have hop := h.op
  rw [ho] at hop
  have he := finished hop.active res false
  have hn : ∀ b, w.retry ≠ some b := fun b hb => by
    cases hop.retry.symm.trans hb
  have hp := hop.pending
  refine ⟨?_, ?_, fun b hb => absurd hb (hn b), fun b hb => absurd hb (hn b),
    fun b hb => absurd hb (hn b), ?_⟩
  · dsimp only [World.attempted]
    rw [he.latest, he.next]
    exact h.latest_le
  · intro x hx
    exact (h.pending x (he.of_pending hx)).trans he.latest.symm
  · -- what is pending afterwards is the document, and has failed
    have hl : res ≠ .durableWritten → (w.st.finishAttempt a.generation res false).lagError.isSome :=
      fun hne => he.failed hne fun heq => hop.stage (heq ▸ hs)
    have hk : ∀ x, (w.st.finishAttempt a.generation res false).pending = some x →
        x.payload = a.payload ∧ res ≠ .durableWritten := by
      intro x hx
      have hx' := he.of_pending hx
      rw [hp] at hx'
      cases hx'
      refine ⟨rfl, fun heq => ?_⟩
      have hc := (he.durable heq).2
      rw [hp, map_some, if_pos rfl, hx] at hc
      cases hc
    have hf : (w.st.finishAttempt a.generation res false).pending = none → w.file = some a.payload := by
      intro hx
      refine hop.written ?_
      rw [Written, hs]
      by_cases heq : res = .durableWritten
      · rw [heq]
        trivial
      · rw [(he.undurable heq).1, hp] at hx
        cases hx
    have hq : Quiet { w.toDisk with
        st := w.st.finishAttempt a.generation res false, last := some a.payload } := by
      refine ⟨⟨he.foreground.trans hop.foreground, fun _ => he.idle, fun b hb => absurd hb (hn b), ?_⟩,
        ?_, ?_⟩
      · rintro x hx doc ⟨⟩
        exact (hk x hx).1
      · rintro hx doc ⟨⟩
        exact hf hx
      · intro hx
        obtain ⟨x, hx⟩ := isSome_iff_exists.mp hx
        exact hl (hk x hx).2
    have hw : Waiting { w.toDisk with st := w.st.finishAttempt a.generation res false }
        a.payload a.generation :=
      ⟨hop.latest.trans he.latest.symm, he.foreground.trans hop.foreground, fun _ => he.idle,
        fun b hb => absurd hb (hn b), fun x hx => ⟨(hk x hx).1, hl (hk x hx).2⟩, hf⟩
    have hst : res ≠ .superseded := fun heq => hop.stage (heq ▸ hs)
    cases purpose <;> cases res <;>
      first
        | exact hq
        | exact hw
        | exact absurd rfl hst

end Inv

/-! ## Steps of a retry -/

/-- A retry starts, or goes one step. -/
structure RetryMoves (disk disk' : Disk D) : Prop where
  next : disk'.st.nextGeneration = disk.st.nextGeneration
  latest : disk'.st.latestAdmittedGeneration = disk.st.latestAdmittedGeneration
  pending : disk'.st.pending = disk.st.pending
  foreground : disk'.st.foregroundGeneration = disk.st.foregroundGeneration
  lag : disk'.st.lagError = disk.st.lagError
  last : disk'.last = disk.last
  busy : disk'.retry ≠ none
  retry : ∀ a, disk'.retry = some a →
    disk.st.foregroundGeneration = none ∧ a.generation = disk.st.latestAdmittedGeneration ∨
      ∃ b, disk.retry = some b ∧ a.generation = b.generation ∧ a.payload = b.payload
  file : disk'.file = disk.file ∨ ∃ b x, disk.retry = some b ∧
    b.generation = disk.st.latestAdmittedGeneration ∧ disk.st.pending = some x ∧
      disk'.file = some x.payload

namespace RetryMoves

section

variable (h : RetryMoves disk disk')
include h

/-- With nothing pending the retry thread writes nothing. -/
lemma file_eq (hp : disk.st.pending = none) : disk'.file = disk.file := by
  rcases h.file with he | ⟨b, x, -, -, hx, -⟩
  · exact he
  · cases hp.symm.trans hx

lemma retry_latest (hre : ∀ a, disk.retry = some a → a.generation = disk.st.latestAdmittedGeneration)
    (ha : disk'.retry = some a) : a.generation = disk'.st.latestAdmittedGeneration := by
  rw [h.latest]
  rcases h.retry a ha with ⟨-, he⟩ | ⟨b, hb, he, -⟩
  · exact he
  · exact he.trans (hre b hb)

lemma calm (hc : Calm disk) : Calm disk' where
  foreground := h.foreground.trans hc.foreground
  idle hn := absurd hn h.busy
  retry _ ha := h.retry_latest hc.retry ha
  pending x hx doc hd := hc.pending x (h.pending.symm.trans hx) doc (h.last.symm.trans hd)

lemma quiet (hq : Quiet disk) : Quiet disk' where
  toCalm := h.calm hq.toCalm
  current hx doc hd := by
    rw [h.pending] at hx
    rw [h.file_eq hx]
    exact hq.current hx doc (h.last.symm.trans hd)
  lag hx := by
    rw [h.lag]
    exact hq.lag (h.pending ▸ hx)

lemma loose (hl : Loose disk doc) : Loose disk' doc where
  toCalm := h.calm hl.toCalm
  between := by
    rcases h.file with he | ⟨b, x, -, -, hx, he⟩
    · rcases hl.between with hd | hc
      · exact .inl (he.trans hd)
      · exact .inr fun ls hla => he.trans (hc ls (h.last.symm.trans hla))
    · exact .inr fun ls hla =>
        he.trans (congrArg some (hl.pending x hx ls (h.last.symm.trans hla)))

theorem before (hb : Before disk purpose doc) : Before disk' purpose doc := by
  cases purpose with
  | persist | prepared => exact h.quiet hb
  | supersede => exact h.loose hb

lemma beginning (hb : Beginning disk purpose doc g) : Beginning disk' purpose doc g := by
  -- the retry is of an older snapshot, and stands down before it renames
  have hf : disk'.file = disk.file := by
    rcases h.file with he | ⟨b, x, hre, hlat, -, -⟩
    · exact he
    · have hlt := (hb.retry b hre).1
      rw [hlat, hb.latest] at hlt
      exact absurd hlt (lt_irrefl _)
  refine ⟨⟨hb.latest.trans h.latest.symm, h.pending.trans hb.pending, fun hla => ?_⟩,
    h.foreground.trans hb.foreground, fun hn => absurd hn h.busy, fun a ha => ?_⟩
  · rw [h.lag] at hla
    rcases hb.covered hla with hd | hc
    · exact .inl (hf.trans hd)
    · exact .inr fun ls hl => hf.trans (hc ls (h.last.symm.trans hl))
  · rcases h.retry a ha with ⟨hn, -⟩ | ⟨b, hre, hg, hp⟩
    · cases hb.foreground.symm.trans hn
    · rw [hg, hp]
      exact ⟨(hb.retry b hre).1,
        fun ls hl => (hb.retry b hre).2 ls (h.last.symm.trans hl)⟩

lemma waiting (hw : Waiting disk doc g) : Waiting disk' doc g where
  latest := hw.latest.trans h.latest.symm
  foreground := h.foreground.trans hw.foreground
  idle hn := absurd hn h.busy
  retry _ ha := h.retry_latest hw.retry ha
  pending x hx := by
    rw [h.lag]
    exact hw.pending x (h.pending.symm.trans hx)
  landed hx := by
    rw [h.pending] at hx
    rw [h.file_eq hx]
    exact hw.landed hx

lemma opOk (hop : OpOk disk op) (ha : ∀ purpose a, op ≠ .attempting purpose a) : OpOk disk' op := by
  cases op with
  | none | staged => exact h.quiet hop
  | reserving => exact h.before hop
  | admitting =>
    refine ⟨h.before hop.1, ?_⟩
    rw [h.latest, h.next]
    exact hop.2
  | beginning => exact h.beginning hop
  | attempting purpose a => exact absurd rfl (ha purpose a)
  | waiting => exact h.waiting hop
  | replacing =>
    refine ⟨h.quiet hop.1, fun holder => ?_⟩
    rw [h.pending]
    exact hop.2 holder
  | renamed | replaced | forgotten =>
    refine ⟨h.loose hop.1, fun holder => ?_⟩
    obtain ⟨hp, hf⟩ := hop.2 holder
    rw [h.pending, h.file_eq hp]
    exact ⟨hp, hf⟩

end

end RetryMoves

namespace Inv

/-- The retry thread takes what is pending. -/
lemma retryStart {p : PendingRetry} (h : Inv w) (hf : w.st.foregroundGeneration = none)
    (ha : w.st.activeGeneration = none) (hp : w.st.pending = some p) :
    Inv { w with
      st := w.st.activate p.generation
      retry := some ⟨p.generation, p.payload, .retry, .start⟩ } := by
  have hm : RetryMoves w.toDisk { w.toDisk with
      st := w.st.activate p.generation
      retry := some ⟨p.generation, p.payload, .retry, .start⟩ } := by
    refine ⟨rfl, rfl, rfl, rfl, rfl, rfl, some_ne_none _, ?_, .inl rfl⟩
    rintro a ⟨⟩
    exact .inl ⟨hf, h.pending p hp⟩
  refine ⟨h.latest_le, h.pending, ?_, ?_, ?_, hm.opOk h.op fun purpose a ho => ?_⟩
  · rintro a ⟨⟩
    rfl
  · rintro a ⟨⟩ -
    exact hp
  · rintro a ⟨⟩ hw
    exact hw.elim
  · have hop := h.op
    rw [ho] at hop
    cases hop.active.symm.trans ha

section

variable (h : Inv w) (hr : w.retry = some a)
include h hr

lemma not_attempting (purpose : Purpose) (b : Attempt D) : w.op ≠ .attempting purpose b := fun ho => by
  have hop := h.op
  rw [ho] at hop
  cases hop.retry.symm.trans hr

/-- A step of the retry. -/
lemma retryAttempt (ha : AttemptStep digest w.st w.file a st file a') :
    Inv { w with st, file, retry := some a' } := by
  obtain ⟨⟨durable, rfl⟩, hg, hp, hf, hwr, -⟩ := ha.spec
  have hm : RetryMoves w.toDisk
      { w.toDisk with st := { w.st with durable }, file, retry := some a' } := by
    refine ⟨rfl, rfl, rfl, rfl, rfl, rfl, some_ne_none _, ?_, ?_⟩
    · rintro b ⟨⟩
      exact .inr ⟨a, hr, hg, hp⟩
    · rcases hf with he | ⟨he, hl⟩
      · exact .inl he
      · exact .inr ⟨a, _, hr, hl, h.retry a hr hl, he⟩
  refine ⟨h.latest_le, h.pending, ?_, ?_, ?_, hm.opOk h.op (h.not_attempting hr)⟩
  · rintro b ⟨⟩
    rw [hg]
    exact h.active a hr
  · rintro b ⟨⟩ he
    rw [hg, hp]
    exact h.retry a hr (hg.symm.trans he)
  · rintro b ⟨⟩ hw hn
    rw [hp]
    rcases hwr hw with ⟨hold, rfl⟩ | hne
    · exact h.written a hr hold hn
    · exact hne

/-- What a retry of the pending snapshot leaves pending has failed. -/
lemma finished_pending (hl : a.generation = w.st.latestAdmittedGeneration)
    (he : Finished w.st st a.generation res) (hx : st.pending = some x) : res ≠ .durableWritten := by
  rintro rfl
  have hc := (he.durable rfl).2
  rw [h.retry a hr hl, map_some, if_pos rfl, hx] at hc
  cases hc

/-- What a retry of the pending snapshot has landed is in the file. -/
lemma finished_landed (hs : a.stage = .finish res) (hl : a.generation = w.st.latestAdmittedGeneration)
    (hen : Finished w.st st a.generation res) (hno : ¬ w.op.Replaces)
    (hn : st.pending = none) : w.file = some a.payload := by
  refine h.written a hr ?_ hno
  rw [Written, hs]
  by_cases he : res = .durableWritten
  · rw [he]
    trivial
  · rw [(hen.undurable he).1, h.retry a hr hl] at hn
    cases hn

end

lemma retryFinish_calm (he : Finished w.st st a.generation res) (hc : Calm w.toDisk) :
    Calm { w.toDisk with st, retry := none } where
  foreground := he.foreground.trans hc.foreground
  idle _ := he.idle
  retry _ hb := nomatch hb
  pending x hx := hc.pending x (he.of_pending hx)

lemma retryFinish_quiet (h : Inv w) (hr : w.retry = some a) (hs : a.stage = .finish res)
    (he : Finished w.st st a.generation res) (hno : ¬ w.op.Replaces) (hq : Quiet w.toDisk) :
    Quiet { w.toDisk with st, retry := none } where
  toCalm := retryFinish_calm he hq.toCalm
  current hn doc hd := by
    have hl := hq.retry a hr
    rw [← hq.pending _ (h.retry a hr hl) doc hd]
    exact h.finished_landed hr hs hl he hno hn
  lag hso := by
    obtain ⟨x, hx⟩ := isSome_iff_exists.mp hso
    have hne := h.finished_pending hr (hq.retry a hr) he hx
    rcases (he.undurable hne).2 with heq | hso
    · rw [heq]
      exact hq.lag (by rw [he.of_pending hx]; rfl)
    · exact hso

lemma retryFinish_loose (he : Finished w.st st a.generation res)
    (hl : Loose w.toDisk doc) : Loose { w.toDisk with st, retry := none } doc where
  toCalm := retryFinish_calm he hl.toCalm
  between := hl.between

section

variable (h : Inv w) (hr : w.retry = some a) (hs : a.stage = .finish res)
include h hr hs

lemma retryFinish_beginning (he : Finished w.st st a.generation res)
    (ho : w.op = .beginning purpose doc g) :
    Beginning { w.toDisk with st, retry := none } purpose doc g := by
  have hop := h.op
  rw [ho] at hop
  obtain ⟨hlt, hla⟩ := hop.retry a hr
  -- the retry is of an older snapshot, so the document stays pending
  have hpe : st.pending = some ⟨g, doc⟩ := by
    by_cases heq : res = .durableWritten
    · rw [(he.durable heq).2, hop.pending, map_some, if_neg]
      exact fun heq => (ne_of_gt hlt) (some_inj.mp heq)
    · rw [(he.undurable heq).1, hop.pending]
  refine ⟨⟨hop.latest.trans he.latest.symm, hpe, fun hl => ?_⟩,
    he.foreground.trans hop.foreground, fun _ => he.idle, fun b hb => nomatch hb⟩
  by_cases hp : purpose = .supersede
  · exact hop.covered (.inr hp)
  have hl : st.lagError = none := hl.resolve_right hp
  by_cases heq : res = .durableWritten
  · -- it has put the last operation's document in the file
    refine .inr fun ls hld => ?_
    rw [← hla ls hld]
    refine h.written a hr ?_ ?_
    · rw [Written, hs, heq]
      trivial
    · rw [ho]
      cases purpose with
      | persist | prepared => exact id
      | supersede => exact absurd rfl hp
  · rcases (he.undurable heq).2 with hsa | hso
    · exact hop.covered (.inl (hsa.symm.trans hl))
    · rw [hl] at hso
      cases hso

lemma retryFinish_waiting (he : Finished w.st st a.generation res)
    (ho : w.op = .waiting doc g) : Waiting { w.toDisk with st, retry := none } doc g := by
  have hop := h.op
  rw [ho] at hop
  have hl := hop.retry a hr
  refine ⟨hop.latest.trans he.latest.symm, he.foreground.trans hop.foreground, fun _ => he.idle,
    (fun b hb => nomatch hb), fun x hx => ?_, fun hn => ?_⟩
  · obtain ⟨hp, hla⟩ := hop.pending x (he.of_pending hx)
    refine ⟨hp, ?_⟩
    rcases (he.undurable (h.finished_pending hr hl he hx)).2 with heq | hso
    · exact (congrArg isSome heq).trans hla
    · exact hso
  · rw [← (hop.pending _ (h.retry a hr hl)).1]
    exact h.finished_landed hr hs hl he (by rw [ho]; exact id) hn

/-- The end of the retry. -/
lemma retryFinish : Inv { w with st := w.st.finishAttempt a.generation res true, retry := none } := by
  have he := finished (h.active a hr) res true
  refine ⟨?_, ?_, (fun b hb => nomatch hb), (fun b hb => nomatch hb), (fun b hb => nomatch hb), ?_⟩
  · rw [he.latest, he.next]
    exact h.latest_le
  · intro x hx
    exact (h.pending x (he.of_pending hx)).trans he.latest.symm
  · have hop := h.op
    have hn := h.not_attempting hr
    have hq := h.retryFinish_quiet hr hs he
    cases ho : w.op with
    | none | staged =>
      rw [ho] at hop hq
      exact hq id hop
    | reserving purpose doc =>
      rw [ho] at hop hq
      cases purpose with
      | persist | prepared => exact hq id hop
      | supersede => exact retryFinish_loose he hop
    | admitting purpose doc g =>
      rw [ho] at hop hq
      refine ⟨?_, ?_⟩
      · cases purpose with
        | persist | prepared => exact hq id hop.1
        | supersede => exact retryFinish_loose he hop.1
      · rw [he.latest, he.next]
        exact hop.2
    | beginning purpose doc g => exact h.retryFinish_beginning hr hs he ho
    | attempting purpose b => exact absurd ho (hn purpose b)
    | waiting doc g => exact h.retryFinish_waiting hr hs he ho
    | replacing doc older =>
      rw [ho] at hop hq
      exact ⟨hq id hop.1, fun holder => he.pending_none (hop.2 holder)⟩
    | renamed doc older | replaced doc older | forgotten doc older =>
      rw [ho] at hop
      exact ⟨retryFinish_loose he hop.1,
        fun holder => ⟨he.pending_none (hop.2 holder).1, (hop.2 holder).2⟩⟩

end

/-! ## Steps of a staged commit -/

lemma readPending (h : Inv w) (ho : w.op = .staged doc) :
    Inv { w with op := .replacing doc w.pendingFailure.isSome } := by
  have hop := h.op
  rw [ho] at hop
  refine h.move ⟨hop, Quiet.pendingFailure hop⟩ fun hw => ?_
  rw [ho] at hw
  exact hw

variable {older : Bool}

/-- The staged document is in the file. -/
theorem replace (h : Inv w) (ho : w.op = .replacing doc older) :
    Inv { w with file := some doc, op := .renamed doc older } := by
  have hop := h.op
  rw [ho] at hop
  exact ⟨h.latest_le, h.pending, h.active, h.retry, fun _ _ _ hn => absurd trivial hn,
    ⟨⟨⟨hop.1.foreground, hop.1.idle, hop.1.retry, hop.1.pending⟩, .inl rfl⟩,
      fun holder => ⟨hop.2 holder, rfl⟩⟩⟩

lemma forgetDurableBytes (h : Inv w) (ho : w.op = .replaced doc older) :
    Inv { w with st := { w.st with durable := none }, op := .forgotten doc older } := by
  have hop := h.op
  rw [ho] at hop
  exact ⟨h.latest_le, h.pending, h.active, h.retry, fun _ _ _ hn => absurd trivial hn,
    ⟨⟨⟨hop.1.foreground, hop.1.idle, hop.1.retry, hop.1.pending⟩, hop.1.between⟩, hop.2⟩⟩

/-- The staged document is the live one. -/
lemma install (h : Inv w) (ho : w.op = .forgotten doc older) : Inv (w.installed doc older) := by
  have hop := h.op
  rw [ho] at hop
  cases older with
  | true => exact h.move hop.1 fun _ => trivial
  | false =>
    obtain ⟨hp, hf⟩ := hop.2 rfl
    have hre := h.retry_none hop.1.toCalm hp
    refine ⟨h.latest_le, h.pending, h.active, h.retry, fun a ha => ?_, ⟨⟨hop.1.foreground, hop.1.idle,
      hop.1.retry, fun x hx => ?_⟩, fun _ => ?_, fun hso => ?_⟩⟩
    · cases hre.symm.trans ha
    · cases hp.symm.trans hx
    · rintro ls ⟨⟩
      exact hf
    · rw [World.installed, if_neg Bool.false_ne_true, hp] at hso
      cases hso

/-- The wait of a caller ends. -/
lemma waitWritten (h : Inv w) (ho : w.op = .waiting doc g) (hp : w.st.pending = none)
    (ha : w.st.activeGeneration = none) : Inv { w with op := .none, last := some doc } := by
  have hop := h.op
  rw [ho] at hop
  have hre : ∀ a, w.retry ≠ some a := fun a hr => by
    cases (h.active a hr).symm.trans ha
  refine ⟨h.latest_le, h.pending, h.active, h.retry, fun a hr => absurd hr (hre a),
    ⟨⟨hop.foreground, hop.idle, hop.retry, fun x hx => ?_⟩, fun _ => ?_, fun hso => ?_⟩⟩
  · cases hp.symm.trans hx
  · rintro ls ⟨⟩
    exact hop.landed hp
  · rw [hp] at hso
    cases hso

/-! ## All steps -/

/-- **The invariant** outlives every step but the failing barrier. -/
theorem step {e : Event} (h : Inv w) (hs : Step digest w e w') (he : e ≠ .stagedBarrierFails) :
    Inv w' := by
  have hop := h.op
  cases hs with
  | persist purpose doc ho hp =>
    rw [ho] at hop
    refine h.move ?_ fun hw => ?_
    · cases purpose with
      | persist | prepared => exact hop
      | supersede => exact absurd rfl hp
    · rw [ho] at hw
      exact hw.elim
  | reserve ho => exact h.reserve ho
  | abandon ho | replaceFails ho =>
    rw [ho] at hop
    exact h.move hop.1 fun hw => by
      rw [ho] at hw
      exact hw
  | admitDocument ho => exact h.admitDocument ho
  | beginRefused ho hb => exact absurd hb (h.not_beginRefused ho)
  | beginStarted ho hb => exact h.beginStarted ho hb
  | attempt ho ha => exact h.attempt ho ha
  | finish ho hs => exact h.finish ho hs
  | waitSuperseded ho hg =>
    rw [ho] at hop
    exact absurd hop.latest.symm hg
  | waitWritten ho hg hp ha => exact h.waitWritten ho hp ha
  | commitStaged doc ho =>
    rw [ho] at hop
    exact h.move hop fun hw => by
      rw [ho] at hw
      exact hw
  | readPending ho => exact h.readPending ho
  | replace ho => exact h.replace ho
  | barrierFails ho => exact absurd rfl he
  | barrier ho =>
    rw [ho] at hop
    exact h.move hop fun _ => trivial
  | forgetDurableBytes ho => exact h.forgetDurableBytes ho
  | install ho => exact h.install ho
  | retryStart hf ha hp => exact h.retryStart hf ha hp
  | retryAttempt hr ha => exact h.retryAttempt hr ha
  | retryFinish hr hs => exact h.retryFinish hr hs

/-- It holds before the first operation. -/
lemma new (initial : Option Payload) : Inv (World.new initial : World D) where
  latest_le := le_refl 0
  pending _ hx := nomatch hx
  active _ ha := nomatch ha
  retry _ ha := nomatch ha
  written _ ha := nomatch ha
  op := ⟨⟨rfl, fun _ => rfl, (fun _ ha => nomatch ha), fun _ hx => nomatch hx⟩,
    (fun _ _ hd => nomatch hd), fun hso => nomatch hso⟩

end Inv

/-! ## What the status says -/

lemma Before.reported (h : Before disk purpose doc)
    (hf : disk.pendingFailure.isSome = false) : disk.Between doc := by
  cases purpose with
  | persist | prepared => exact .inr (Quiet.current h (Quiet.pendingFailure h hf))
  | supersede => exact Loose.between h

lemma Admitted.reported (h : Admitted disk purpose doc g)
    (hf : disk.pendingFailure.isSome = false) : disk.Between doc := by
  refine h.covered (.inl ?_)
  rw [Disk.pendingFailure, h.pending, isSome_some, if_pos rfl] at hf
  exact not_isSome_iff_eq_none.mp (ne_true_of_eq_false hf)

lemma Waiting.reported (h : Waiting disk doc g)
    (hf : disk.pendingFailure.isSome = false) : disk.file = some doc := by
  refine h.landed ?_
  by_contra hp
  obtain ⟨x, hx⟩ := ne_none_iff_exists'.mp hp
  rw [Disk.pendingFailure, hx, isSome_some, if_pos rfl, (h.pending x hx).2] at hf
  cases hf

/-- What the invariant says of the file. -/
lemma Inv.converged (h : Inv w) : Converged w := by
  have hop := h.op
  refine ⟨fun ho hp => ?_, fun hd => ?_⟩
  · rw [ho] at hop
    exact hop.current hp
  · have hf : w.pendingFailure.isSome = false := by
      rw [Disk.isDurable, isNone_iff_eq_none] at hd
      rw [hd]
      rfl
    have hqt : Quiet w.toDisk → w.Current := fun hq => hq.current (hq.pendingFailure hf)
    have hb : ∀ {doc}, w.op.document = some doc → w.Between doc →
        w.Current ∨ ∃ doc, w.op.document = some doc ∧ w.file = some doc :=
      fun hdo hb => hb.elim (fun hfi => .inr ⟨_, hdo, hfi⟩) .inl
    cases ho : w.op with
    | none | staged =>
      rw [ho] at hop
      exact .inl (hqt hop)
    | replacing =>
      rw [ho] at hop
      exact .inl (hqt hop.1)
    | reserving =>
      rw [ho] at hop hb
      exact hb rfl (Before.reported hop hf)
    | admitting =>
      rw [ho] at hop hb
      exact hb rfl (Before.reported hop.1 hf)
    | beginning | attempting =>
      rw [ho] at hop hb
      exact hb rfl (Admitted.reported hop.toAdmitted hf)
    | waiting =>
      rw [ho] at hop
      exact .inr ⟨_, rfl, Waiting.reported hop hf⟩
    | renamed | replaced | forgotten =>
      rw [ho] at hop hb
      exact hb rfl hop.1.between

/-! ## The result -/

/-- **The file converges** as long as no staged commit fails after its rename. -/
theorem file_converges {initial : Option Payload}
    (h : ((machine digest initial).restrict fun e _ => e ≠ .stagedBarrierFails).Reachable w) :
    Converged w := by
  refine Inv.converged (h.invariant (fun w hi => ?_) fun w e w' hw hst => hw.step hst.1 hst.2)
  rw [show w = World.new initial from hi]
  exact Inv.new initial

/-- A manager that has committed one staged document. -/
def committed (document : Payload) : World Payload where
  st := .default
  file := some document
  retry := none
  op := .none
  last := some document

lemma reachable_committed (doc : Payload) :
    ((machine (fun bs => bs) none).restrict fun e _ => e ≠ .stagedBarrierFails).Reachable
      (committed doc) := by
  have hn : Event.step ≠ .stagedBarrierFails := fun he => nomatch he
  exact .step (.step (.step (.step (.step (.step (.init rfl) ⟨.commitStaged doc rfl, hn⟩)
    ⟨.readPending rfl, hn⟩) ⟨.replace rfl, hn⟩) ⟨.barrier rfl, hn⟩)
    ⟨.forgetDurableBytes rfl, hn⟩) ⟨@Step.install _ _ _ doc false rfl, hn⟩

/-- After the commit a store fails before its rename, and the retry makes up for it. -/
theorem file_converges_committed : ∃ w : World Payload, w.op = .none ∧ w.st.pending = none ∧
    w.last = some [3] ∧ w.file = some [3] ∧ Converged w := by
  have hn : Event.step ≠ .stagedBarrierFails := fun he => nomatch he
  have h₁ := (reachable_committed [1]).step ⟨.persist .persist [3] rfl (by decide), hn⟩
  have h₂ := h₁.step ⟨.reserve rfl, hn⟩
  have h₃ := h₂.step ⟨.admitDocument rfl, hn⟩
  have h₄ := h₃.step ⟨.beginStarted rfl rfl, hn⟩
  have h₅ := h₄.step ⟨.attempt rfl (.startCurrent rfl rfl), hn⟩
  have h₆ := h₅.step ⟨.attempt rfl (.verifyMiss rfl), hn⟩
  have h₇ := h₆.step ⟨.attempt rfl (.stageFail .createTemporary rfl), hn⟩
  have h₈ := h₇.step ⟨.finish rfl rfl, hn⟩
  have h₉ := h₈.step ⟨.retryStart rfl rfl rfl, hn⟩
  have h₁₀ := h₉.step ⟨.retryAttempt rfl (.startCurrent rfl rfl), hn⟩
  have h₁₁ := h₁₀.step ⟨.retryAttempt rfl (.verifyMiss rfl), hn⟩
  have h₁₂ := h₁₁.step ⟨.retryAttempt rfl (.stageOk rfl), hn⟩
  have h₁₃ := h₁₂.step ⟨.retryAttempt rfl (.replaceOk rfl rfl), hn⟩
  have h₁₄ := h₁₃.step ⟨.retryAttempt rfl (.barrierOk rfl), hn⟩
  have h₁₅ := h₁₄.step ⟨.retryAttempt rfl (.record none rfl (.inl rfl)), hn⟩
  have h₁₆ := h₁₅.step ⟨.retryFinish rfl rfl, hn⟩
  exact ⟨_, rfl, rfl, rfl, rfl, file_converges h₁₆⟩

/-- **A staged commit that fails after its rename stays in the file**, and nothing is pending or
reported. -/
theorem staged_failure_stays : ∃ w : World Payload, (machine (fun bytes => bytes) none).Reachable w ∧
    w.op = .none ∧ w.st.pending = none ∧ w.isDurable ∧ w.last = some [1] ∧ w.file = some [2] ∧
    ¬ Converged w := by
  have hrc : (machine (fun bytes => bytes) none).Reachable { committed [1] with file := some [2] } :=
    .step (.step (.step (.step (.of_restrict (reachable_committed [1])) (.commitStaged [2] rfl))
      (.readPending rfl)) (.replace rfl)) (.barrierFails rfl)
  refine ⟨_, hrc, rfl, rfl, rfl, rfl, rfl, fun h => ?_⟩
  have hf : (some [2] : Option Payload) = some [1] := h.settled rfl rfl [1] rfl
  exact absurd hf (by decide)

end Hypercolor.Config.ConfigFile
