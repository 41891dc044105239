import Hypercolor.Persistence.Invariant

/-!
# What a destination promises its callers

**Results**, over every interleaving of any number of threads:

* `never_backwards`: one attempt at a time, replacements in the order of the admissions, the file
  shows the newest replacement, and a quiet destination holds the newest admission.
* `waits_truthful`: a flush returns only once what was newest when it began has landed, and a
  durable wait reports `Written` only for its own bytes.
* `never_stranded`: somebody is always responsible for a pending snapshot.
-/

namespace Hypercolor.Persistence

open World.Step World DestinationState

variable {D : Type} {initial : Option Payload} {w w' : World D}

/-- The generations admitted so far. -/
def World.generations (w : World D) : Set Generation := { g | ∃ p, (g, p) ∈ w.admitted }

/-! ## Never backwards -/

variable {g : Generation}

namespace Inv

/-- A generation was admitted with one payload. -/
lemma payload_unique (h : Inv initial w) {p q : Payload} (hp : (g, p) ∈ w.admitted)
    (hq : (g, q) ∈ w.admitted) : p = q := by
  have hi := List.inj_on_of_nodup_map h.shared.nodup
  exact congrArg Prod.snd (hi hp hq rfl)

lemma isGreatest_latest (h : Inv initial w) (hpo : 0 < w.st.latestAdmittedGeneration) :
    IsGreatest w.generations w.st.latestAdmittedGeneration := by
  constructor
  · exact h.latest_admitted hpo
  · rintro g ⟨p, hp⟩
    exact (h.shared.admitted_le _ hp).2

lemma latest_pos (h : Inv initial w) (ha : w.admitted ≠ []) : 0 < w.st.latestAdmittedGeneration := by
  obtain ⟨x, hx⟩ := List.exists_mem_of_ne_nil _ ha
  obtain ⟨hp, hl⟩ := h.shared.admitted_le x hx
  exact lt_of_lt_of_le hp hl

/-- Replacements never go back, and repeat a generation only with its own payload. -/
lemma replaced_increasing (h : Inv initial w) :
    w.file.replaced.Pairwise fun newer older => older.1 < newer.1 ∨ older = newer := by
  refine h.shared.sorted.imp_of_mem ?_
  rintro ⟨g, p⟩ ⟨k, q⟩ hn holder hl
  rcases lt_or_eq_of_le hl with hlt | he
  · exact .inl hlt
  · cases (he : k = g)
    have hp := h.payload_unique (h.shared.replaced _ holder) (h.shared.replaced _ hn)
    exact .inr (by rw [hp])

end Inv

/-- **Persistence never goes backwards.** -/
theorem never_backwards (digest : Payload → D) (initial : Option Payload) (w : World D)
    (h : (machine digest initial).Reachable w) :
    (∀ i j a b, w.tasks i = .attempt a → w.tasks j = .attempt b → i = j) ∧
    (∀ i a, w.tasks i = .attempt a → w.st.activeGeneration = some a.generation) ∧
    (w.file.replaced.Pairwise fun newer older => older.1 < newer.1 ∨ older = newer) ∧
    (∀ x ∈ w.file.replaced, x ∈ w.admitted) ∧ w.file.bytes = shown initial w.file.replaced ∧
    (∀ x, w.st.pending = some x →
      IsGreatest w.generations x.generation ∧ (x.generation, x.payload) ∈ w.admitted) ∧
    (w.st.pending = none → w.st.activeGeneration = none → w.admitted ≠ [] →
      IsGreatest w.generations w.st.landedGeneration ∧
      ∃ p, (w.st.landedGeneration, p) ∈ w.admitted ∧ w.file.bytes = some p) := by
  have hin : Inv initial w := Inv.of_reachable h
  refine ⟨?_, ?_, hin.replaced_increasing, hin.shared.replaced, hin.shared.bytes, ?_, ?_⟩
  · intro i j a b hi hj
    by_contra hn
    exact hin.only_attempt hj hn a hi
  · intro i a hi
    exact (hin.task hi).active
  · intro x hx
    obtain ⟨hla, ha, hl⟩ := hin.shared.pending x hx
    refine ⟨?_, ha⟩
    rw [hla]
    exact hin.isGreatest_latest (Nat.zero_lt_of_lt hl)
  · intro hp _ ha
    obtain ⟨-, -, hl, hb⟩ := hin.shared.settled hp
    have hpo := hin.latest_pos ha
    rw [show w.st.landedGeneration = w.st.latestAdmittedGeneration from hl]
    exact ⟨hin.isGreatest_latest hpo, hb hpo⟩

/-- A run of one durable wait and one flush after it, from an empty destination: the directory barrier
of the write fails, a retry makes up for it, both return, and the file holds the payload. -/
lemma saved_reachable : ∃ w : World Unit, (machine (fun _ => ()) none).Reachable w ∧
    w.tasks 0 = .committed 1 .written ∧ w.tasks 1 = .flushed 1 .written ∧
    w.admitted = [(1, [7])] ∧ w.st.pending = none ∧ w.st.activeGeneration = none := by
  have h₀ : (machine (fun _ => ()) none).Reachable (new none) := .init rfl
  have h₁ := h₀.step (reserve _ 0 rfl)
  have h₂ := h₁.step (admitPayload _ 0 1 [7] false rfl)
  have h₃ := h₂.step (commit _ 0 1 [7] .commitWait rfl (by decide))
  have h₄ := h₃.step (beginStarted _ 0 1 [7] .commitWait _ rfl rfl)
  have h₅ := h₄.step (startCurrent _ 0 _ rfl rfl rfl)
  have h₆ := h₅.step (verifyMiss _ 0 _ _ rfl rfl)
  have h₇ := h₆.step (stageOk _ 0 _ rfl rfl)
  have h₈ := h₇.step (replaceOk _ 0 _ rfl rfl rfl rfl)
  have h₉ := h₈.step (barrierFail _ 0 _ rfl rfl)
  have h₁₀ := h₉.step (finish _ 0 _ _ rfl rfl)
  have h₁₁ := h₁₀.step (schedulePending _ 0 (.waiting 1) rfl rfl)
  have h₁₂ := h₁₁.step (enqueue _ 0 (.waiting 1) rfl)
  have h₁₃ := h₁₂.step (pop _ 2 rfl rfl)
  have h₁₄ := h₁₃.step (retryStart _ 2 ⟨1, [7]⟩ rfl rfl rfl rfl)
  have h₁₅ := h₁₄.step (startCurrent _ 2 _ rfl rfl rfl)
  have h₁₆ := h₁₅.step (verifyMiss _ 2 _ _ rfl rfl)
  have h₁₇ := h₁₆.step (stageOk _ 2 _ rfl rfl)
  have h₁₈ := h₁₇.step (replaceOk _ 2 _ rfl rfl rfl rfl)
  have h₁₉ := h₁₈.step (barrierOk _ 2 _ rfl rfl)
  have h₂₀ := h₁₉.step (record _ 2 _ (some ()) rfl rfl (.inr rfl))
  have h₂₁ := h₂₀.step (finish _ 2 _ .durableWritten rfl rfl)
  have h₂₂ := h₂₁.step (waitWritten _ 0 1 rfl rfl rfl rfl)
  have h₂₃ := h₂₂.step (flush _ 1 rfl)
  have h₂₄ := h₂₃.step (scheduleClean _ 1 (.flush 1) rfl rfl)
  have h₂₅ := h₂₄.step (flushReady _ 1 1 rfl rfl)
  exact ⟨_, h₂₅, rfl, rfl, rfl, rfl, rfl⟩

/-- A barrier fails, and the retry lands. -/
theorem never_backwards_saved : ∃ w : World Unit,
    (machine (fun _ => ()) none).Reachable w ∧ w.admitted = [(1, [7])] ∧
    ∃ p, (w.st.landedGeneration, p) ∈ w.admitted ∧ w.file.bytes = some p := by
  obtain ⟨w, hw, -, -, had, hp, ha⟩ := saved_reachable
  obtain ⟨-, -, -, -, -, -, hq⟩ := never_backwards (fun _ => ()) none w hw
  exact ⟨w, hw, had, (hq hp ha (by rw [had]; simp)).2⟩

/-! ## Flush and durable waits -/

/-- **Flush and durable waits tell the truth.** A flush that returned carries the generation that
was newest when it was called. -/
theorem waits_truthful (digest : Payload → D) (initial : Option Payload) (w : World D)
    (h : (machine digest initial).Reachable w) :
    (∀ i began outcome, w.tasks i = .flushed began outcome → began ≤ w.st.landedGeneration) ∧
    (∀ i g, w.tasks i = .committed g .written →
      ∃ p, (g, p) ∈ w.admitted ∧ (g, some p) ∈ w.file.landings) := by
  have hin : Inv initial w := Inv.of_reachable h
  constructor
  · intro i began outcome hi
    exact hin.task hi
  · intro i g hi
    exact hin.task hi

/-- The writer and the flush that waited for the retry. -/
theorem waits_truthful_saved : ∃ w : World Unit,
    (machine (fun _ => ()) none).Reachable w ∧ w.tasks 0 = .committed 1 .written ∧
    1 ≤ w.st.landedGeneration ∧ ∃ p, (1, p) ∈ w.admitted ∧ (1, some p) ∈ w.file.landings := by
  obtain ⟨w, hw, hwa, hf, -⟩ := saved_reachable
  obtain ⟨hfl, hc⟩ := waits_truthful (fun _ => ()) none w hw
  exact ⟨w, hw, hwa, hfl 1 1 .written hf, hc 0 1 hwa⟩

/-! ## Nothing is stranded -/

/-- The scheduling step belongs to a finishing attempt, a dropped handle or a retry worker, rather
than to a `kick` or a `flush` that only asks. -/
def After.owes : After → Prop
  | .kicked | .flush _ => False
  | _ => True

/-- The thread still has a scheduling step of its own ahead. -/
def Task.owes : Task D → Prop
  | .schedule after | .enqueue after => after.owes
  | .worker | .requeue | .recheck => True
  | _ => False

/-- Somebody is responsible for a pending snapshot. -/
def Covered (w : World D) : Prop :=
  w.st.pending.isSome → w.st.activeGeneration.isSome ∨ w.st.foregroundGeneration.isSome ∨
    w.queued ∨ ∃ i, (w.tasks i).owes

lemma Caller.after_owes (caller : Caller) (g : Generation) (res : AtomicWriteCommitResult) :
    (caller.after g res).owes := by
  cases caller <;> cases res <;> trivial

namespace Covered

variable {i : Nat}

lemma goto_of_owes (w : World D) (i : Nat) {t : Task D} (ht : t.owes) : Covered (w.goto i t) := by
  intro _
  refine .inr (.inr (.inr ⟨i, ?_⟩))
  simpa only [goto, Function.update_self] using ht

/-- A thread moves on and passes on what it owes. -/
lemma goto (h : Covered w) (w' : World D) (hpe : w'.st.pending.isSome → w.st.pending.isSome)
    (hac : w.st.activeGeneration.isSome → w'.st.activeGeneration.isSome)
    (hfo : w.st.foregroundGeneration.isSome → w'.st.foregroundGeneration.isSome)
    (hqu : w.queued → w'.queued) (hta : w'.tasks = w.tasks) (t : Task D)
    (ht : (w.tasks i).owes → t.owes) : Covered (w'.goto i t) := by
  intro hp
  rcases h (hpe hp) with ha | hf | hq | ⟨j, hj⟩
  · exact .inl (hac ha)
  · exact .inr (.inl (hfo hf))
  · exact .inr (.inr (.inl (hqu hq)))
  · by_cases hi : j = i
    · subst hi
      exact goto_of_owes w' j (ht hj) hp
    · refine .inr (.inr (.inr ⟨j, ?_⟩))
      simpa only [World.goto, Function.update_of_ne hi, hta] using hj

/-- A thread that owes nothing moves on, leaving pending, active and foreground as they are. -/
lemma walk (h : Covered w) {t₀ : Task D} (ht : w.tasks i = t₀) (hn : ¬ t₀.owes)
    (st : DestinationState D) (f : File) (hp : st.pending = w.st.pending)
    (ha : st.activeGeneration = w.st.activeGeneration)
    (hf : st.foregroundGeneration = w.st.foregroundGeneration) (t : Task D) :
    Covered ({ w with st := st, file := f }.goto i t) := by
  apply h.goto { w with st := st, file := f }
  · rw [hp]
    exact id
  · rw [ha]
    exact id
  · rw [hf]
    exact id
  · exact id
  · rfl
  · rw [ht]
    intro how
    exact absurd how hn

lemma admitPayload (h : Covered w) (p : Payload) (behind : Bool) (ht : w.tasks i = .reserved g) :
    Covered ((w.admitPayload g p).goto i (.handle g p behind)) := by
  by_cases hg : g ≤ w.st.latestAdmittedGeneration
  · have hs : w.st.recordAdmission g p = w.st := if_pos hg
    apply h.goto (w.admitPayload g p)
    · rw [World.admitPayload, hs]
      exact id
    · rw [World.admitPayload, hs]
      exact id
    · rw [World.admitPayload, hs]
      exact id
    · exact id
    · rfl
    · rw [ht]
      exact False.elim
  · intro _
    have hc := recordAdmission_core p (not_le.mp hg)
    refine .inr (.inl ?_)
    rw [show ((w.admitPayload g p).goto i (.handle g p behind)).st.foregroundGeneration =
      some g from congrArg Core.foreground hc]
    rfl

/-- A finishing attempt schedules a retry unless the foreground will write. -/
lemma finish (w : World D) (i : Nat) (a : Attempt D) (res : AtomicWriteCommitResult)
    (ha : w.st.activeGeneration = some a.generation) :
    Covered ((w.locked (w.st.finishAttempt a.generation res a.caller.background)).resume i
      (a.caller.after a.generation res)) := by
  rw [resume]
  split_ifs with hr
  · exact goto_of_owes _ i (a.caller.after_owes _ _)
  · intro hp
    have hn : (w.st.finishAttempt a.generation res a.caller.background).activeGeneration = none := by
      cases res <;> simp [finishAttempt, ha]
    refine .inr (.inl ?_)
    by_contra hf
    apply hr
    simp only [locked, retryNeeded, hn, Bool.and_eq_true]
    exact ⟨⟨hp, rfl⟩, Option.isNone_iff_eq_none.mpr (Option.not_isSome_iff_eq_none.mp hf)⟩

/-- A worker or a check that finds nothing pending stops; otherwise it schedules again. -/
lemma requeue_if_pending (w : World D) (i : Nat) :
    Covered (w.goto i (if w.st.pending.isSome then .requeue else .idle)) := by
  split_ifs with hp
  · exact goto_of_owes w i trivial
  · intro hp'
    exact absurd hp' hp

variable {digest : Payload → D}

lemma step (hi : Inv initial w) (h : Covered w) (hst : World.Step digest w i w') : Covered w' := by
  cases hst with
  | reserve ht => exact h.walk ht id w.st.reserve w.file rfl rfl rfl _
  | unreserve g ht | commit g p caller ht hc | startSuperseded a ht hs hg | startCurrent a ht hs hg
  | verifyMiss a durable ht hs | stageOk a ht hs | stageFail a e ht hs
  | replaceSuperseded a ht hs hd hg | renameFail a ht hs | barrierFail a ht hs
  | waitSuperseded g ht hg | waitWritten g ht hg hp ha | waitShutdown g ht | kick ht | flush ht
  | flushWait began ht hu | flushTimeout began t ht | committedReturn g oc ht
  | flushedReturn began oc ht => exact h.walk ht id w.st w.file rfl rfl rfl _
  | admitPayload g p behind ht => exact h.admitPayload p behind ht
  | dropHandle g p behind ht | pop ht hq => exact goto_of_owes _ i trivial
  | beginRefused g p caller st ht hb =>
    rw [beginForeground] at hb
    split_ifs at hb with hg
    cases hb
    -- the foreground belongs to a newer admission
    have hn : w.st.foregroundGeneration ≠ some g := by
      intro hf
      exact hg (hi.shared.foreground g hf).1
    rw [releaseForeground, if_neg hn]
    exact h.walk ht id w.st w.file rfl rfl rfl _
  | beginStarted g p caller st ht hb =>
    rw [beginForeground] at hb
    split_ifs at hb
    cases hb
    intro _
    refine .inl ?_
    rw [releaseForeground]
    split_ifs <;> rfl
  | verifyHit a ht hs hb | barrierOk a ht hs => exact h.walk ht id w.st (w.landed a).file rfl rfl rfl _
  | replaceOk a ht hs hd hg =>
    exact h.walk ht id { w.st with durable := none } (w.renamed a).file rfl rfl rfl _
  | replaceFail a ht hs hd hg | replaceUnlock a ht hs hd =>
    exact h.walk ht id { w.st with durable := none } w.file rfl rfl rfl _
  | renameOk a ht hs => exact h.walk ht id w.st (w.renamed a).file rfl rfl rfl _
  | record a durable ht hs hd =>
    exact h.walk ht id { w.st with durable := durable } w.file rfl rfl rfl _
  | finish a res ht hs => exact finish w i a res (hi.task ht).active
  | schedulePending after ht hp =>
    apply h.goto w id id id id rfl
    rw [ht]
    exact id
  | scheduleClean after ht hp =>
    intro hp'
    rw [show (w.goto i after.task).st.pending = none from hp] at hp'
    cases hp'
  | enqueue after ht | requeue ht =>
    intro _
    exact .inr (.inr (.inl rfl))
  | retryBusy ht hb | recheck ht => exact requeue_if_pending w i
  | retryClean ht hf ha hp =>
    intro hp'
    rw [show (w.goto i .idle).st.pending = none from hp] at hp'
    cases hp'
  | retryStart pend ht hf ha hp =>
    intro _
    exact .inl rfl
  | flushReady began ht hu | flushDone began t ht hu =>
    exact h.walk ht id { w.st with lastOutcome := none } w.file rfl rfl rfl _

lemma of_reachable (h : (machine digest initial).Reachable w) : Covered w := by
  apply h.invariant_of (J := Inv initial)
  · intro s hs
    exact Inv.of_reachable hs
  · rintro _ rfl ⟨⟩
  · intro s j t hs _ hc hst
    exact hc.step hs hst

end Covered

/-- **No dirty snapshot is stranded.** -/
theorem never_stranded (digest : Payload → D) (initial : Option Payload) (w : World D)
    (h : (machine digest initial).Reachable w) (x : PendingRetry)
    (hx : w.st.pending = some x) : (∃ i a, w.tasks i = .attempt a) ∨
    (w.st.foregroundGeneration = some x.generation ∧
      ∃ i p, (∃ behind, w.tasks i = .handle x.generation p behind) ∨
        ∃ caller, w.tasks i = .beginning x.generation p caller) ∨ w.queued ∨ ∃ i, (w.tasks i).owes := by
  have hin : Inv initial w := Inv.of_reachable h
  rcases Covered.of_reachable h (by rw [hx]; rfl) with ha | hf | hq | ho
  · obtain ⟨g, hg⟩ := Option.isSome_iff_exists.mp ha
    obtain ⟨i, hi⟩ := hin.claims.active g hg
    obtain ⟨a, ht, -⟩ := Task.claim_running hi
    exact .inl ⟨i, a, ht⟩
  · obtain ⟨g, hg⟩ := Option.isSome_iff_exists.mp hf
    have hgx : g = x.generation := (hin.shared.foreground g hg).1.trans (hin.shared.pending x hx).1.symm
    subst hgx
    refine .inr (.inl ⟨hg, ?_⟩)
    obtain ⟨i, hi⟩ := hin.claims.foreground _ hg
    rcases Task.claim_owning hi with ⟨p, behind, ht⟩ | ⟨p, caller, ht⟩
    · exact ⟨i, p, .inl ⟨behind, ht⟩⟩
    · exact ⟨i, p, .inr ⟨caller, ht⟩⟩
  · exact .inr (.inr (.inl hq))
  · exact .inr (.inr (.inr ho))

/-- A handle dropped without a commit leaves its thread to schedule the retry. -/
theorem never_stranded_dropped : ∃ w : World Unit,
    (machine (fun _ => ()) none).Reachable w ∧ w.st.pending = some ⟨1, [7]⟩ ∧
    ((∃ i a, w.tasks i = .attempt a) ∨ (w.st.foregroundGeneration = some 1 ∧
        ∃ i p, (∃ behind, w.tasks i = .handle 1 p behind) ∨
          ∃ caller, w.tasks i = .beginning 1 p caller) ∨ w.queued ∨ ∃ i, (w.tasks i).owes) := by
  have h₀ : (machine (fun _ => ()) none).Reachable (new none) := .init rfl
  have h₁ := h₀.step (reserve _ 0 rfl)
  have h₂ := h₁.step (admitPayload _ 0 1 [7] false rfl)
  have h₃ := h₂.step (dropHandle _ 0 1 [7] false rfl)
  exact ⟨_, h₃, rfl, never_stranded (fun _ => ()) none _ h₃ ⟨1, [7]⟩ rfl⟩

end Hypercolor.Persistence
