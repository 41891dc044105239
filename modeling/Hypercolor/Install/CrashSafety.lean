import Mathlib.Data.List.Chain
import Hypercolor.Install.Discipline

/-!
# Crash safety

What an install ends in, on a platform whose inspections are truthful, wherever earlier sessions were
cut and however many there were:

* a session returns `Committed` only when the candidate is the active release, the platform is in the
  journal's target state, and the owner of the candidate was proven since anything last changed;
* it returns a rollback that is not an abandonment only when the active release and the platform are
  the recorded prior ones;
* once a journal has gone to `Rollback` its install never ends `Committed`.

This is **`crash_safe`**. What an effect does is not assumed at all: it may leave the platform
anywhere, report an error or not, and the process may die before it is journaled. It is enough that
the coordinator looks before it writes a journal that promises something (`Consistent`), and that
nothing changes the installation between the look and the write.
-/

namespace Hypercolor.Install

open Lib Attempt List InstallJournalV1 Checkpoints

variable {X ε α : Type} {P : InstallPlatform X}

/-- The truthful half of the contract of `InstallPlatform`: the platform has a state, `inspect` reports
it, and only the effects change it. -/
structure LifecyclePlatform (P : InstallPlatform X) where
  state : X → PlatformState
  inspect : ∀ x seen x', P.call .inspect x (.ok seen) x' → seen = state x
  observer : ∀ call x answer x', call.isEffect = false → P.call call x answer x' →
    state x' = state x
  takeRestoredRelease : ∀ x answer x', P.takeRestoredRelease x answer x' → state x' = state x
  takeForcedStop : ∀ x answer x', P.takeForcedStop x answer x' → state x' = state x

/-! ## What a journal promises -/

/-- The installation is in this state. -/
structure Shows (L : LifecyclePlatform P) (s : InstallationState) (w : World X) : Prop where
  active : w.active = s.activeUnit
  platform : L.state w.site = s.platform

namespace InstallJournalV1

variable (journal : InstallJournalV1)

/-- The candidate has been proven: all that is left is to say so. -/
def proven : Bool :=
  journal.disposition = .committed || journal.disposition = .forward && journal.nextAction = some .commit

/-- The prior has been proven, or was never left. -/
def restored : Bool :=
  journal.disposition = .rolledBack && !journal.abandoned ||
    journal.disposition = .rollback && journal.nextAction = some .finishRollback

/-- The proof of the candidate's owner. -/
def ownerProof : OwnerProof :=
  ⟨.candidateRuntime, journal.targetPlatform, journal.platformRecord, journal.candidateOwnerReceipt⟩

/-- A journal that promises nothing yet. -/
def Open : Prop := journal.proven = false ∧ journal.restored = false

end InstallJournalV1

variable (L : LifecyclePlatform P)

/-- The candidate is in place and its owner proven. -/
structure Proven (journal : InstallJournalV1) (w : World X) : Prop where
  shows : Shows L (new journal).candidateRuntime w
  proof : w.proof = some journal.ownerProof

/-- The installation keeps what the journal promises. -/
structure Consistent (journal : InstallJournalV1) (w : World X) : Prop where
  proven : journal.proven → Proven L journal w
  restored : journal.restored → Shows L (new journal).prior w

/-- **The invariant.** -/
structure Recoverable (w : World X) : Prop where
  consistent : ∀ journal, w.journal = some journal → Consistent L journal w
  follows : ∀ e ∈ w.written, Follows e.replaced e.journal
  chained : w.written.IsChain fun a b => b.replaced = some a.journal
  last : ∀ e, w.written.getLast? = some e → w.journal = some e.journal
  first : w.written = [] → ∀ journal, w.journal = some journal → journal.Fresh

/-- Recoverable, with this journal on the disk. -/
structure Stored (journal : InstallJournalV1) (w : World X) : Prop where
  journal : w.journal = some journal
  recoverable : Recoverable L w

/-! ## What calls keep -/

/-- Nothing an observation could change has changed. -/
structure Untouched (w w' : World X) : Prop where
  journal : w'.journal = w.journal
  written : w'.written = w.written
  active : w'.active = w.active
  state : L.state w'.site = L.state w.site
  proof : w'.proof = w.proof

variable {L} {w w' w'' : World X} {journal old : InstallJournalV1}

lemma Untouched.rfl : Untouched L w w := ⟨.refl _, .refl _, .refl _, .refl _, .refl _⟩

section

variable (h : Untouched L w w')
include h

namespace Untouched

lemma trans (h' : Untouched L w' w'') : Untouched L w w'' :=
  ⟨h'.journal.trans h.journal, h'.written.trans h.written, h'.active.trans h.active,
    h'.state.trans h.state, h'.proof.trans h.proof⟩

lemma shows {s : InstallationState} (hs : Shows L s w) : Shows L s w' :=
  ⟨h.active.trans hs.active, h.state.trans hs.platform⟩

lemma proven (hp : Proven L journal w) : Proven L journal w' := ⟨h.shows hp.shows, h.proof.trans hp.proof⟩

lemma consistent (hc : Consistent L journal w) : Consistent L journal w' :=
  ⟨fun hp => h.proven (hc.proven hp), fun hr => h.shows (hc.restored hr)⟩

/-- The invariant is about what an observation leaves alone. -/
lemma recoverable (hw : Recoverable L w) : Recoverable L w' := by
  refine ⟨fun journal hj => ?_, ?_, ?_, fun e he => ?_, fun hw' journal hj => ?_⟩
  · exact h.consistent (hw.consistent journal (h.journal ▸ hj))
  · rw [h.written]
    exact hw.follows
  · rw [h.written]
    exact hw.chained
  · rw [h.journal]
    exact hw.last e (h.written ▸ he)
  · exact hw.first (h.written ▸ hw') journal (h.journal ▸ hj)

lemma stored (hw : Stored L journal w) : Stored L journal w' :=
  ⟨h.journal.trans hw.journal, h.recoverable hw.recoverable⟩

end Untouched

end

/-- An observation. -/
lemma step_observes {c : InstallCall} {an : calls.Answer c} (hc : c.observes)
    (h : World.step P c w an w') : Untouched L w w' := by
  rcases c with cl | _ | _ | (_ | _ | unit | _ | stored) | _
  · obtain ⟨x, hca, rfl⟩ := h
    have he : cl.isEffect = false := by
      cases cl <;> first | exact hc | exact hc.elim
    refine ⟨rfl, rfl, rfl, L.observer cl _ _ _ he hca, ?_⟩
    cases cl <;> first | rfl | exact hc.elim | exact absurd he nofun
  · obtain ⟨x, hca, rfl⟩ := h
    exact ⟨rfl, rfl, rfl, L.takeRestoredRelease _ _ _ hca, rfl⟩
  · obtain ⟨x, hca, rfl⟩ := h
    exact ⟨rfl, rfl, rfl, L.takeForcedStop _ _ _ hca, rfl⟩
  · cases h
    exact .rfl
  · obtain ⟨rfl, -⟩ := h
    exact .rfl
  · exact hc.elim
  · obtain ⟨rfl, -⟩ := h
    exact .rfl
  · exact hc.elim
  · exact hc.elim

/-- A quiet call, under a journal that promises nothing. -/
lemma step_open {c : InstallCall} {an : calls.Answer c} (hc : c.quiet)
    (hon : journal.Open) (h : World.step P c w an w') (hw : Stored L journal w) :
        Stored L journal w' := by
  obtain ⟨hjr, hwr, -⟩ := World.step_quiet hc h
  have hj : w'.journal = some journal := hjr.trans hw.journal
  refine ⟨hj, ⟨fun j hj' => ?_, ?_, ?_, fun e he => ?_, fun hw' j hj' => ?_⟩⟩
  · obtain rfl : journal = j := Option.mem_unique hj hj'
    exact ⟨fun hp => by simp [hon.1] at hp, fun hr => by simp [hon.2] at hr⟩
  · rw [hwr]
    exact hw.recoverable.follows
  · rw [hwr]
    exact hw.recoverable.chained
  · rw [hjr]
    exact hw.recoverable.last e (hwr ▸ he)
  · exact hw.recoverable.first (hwr ▸ hw') j (hjr ▸ hj')

/-! ## Frames -/

/-- Quiet calls, whatever they answer. -/
def quietly : Contract calls := ⟨InstallCall.quiet, fun _ _ => True⟩

/-- Observations, whatever they answer. -/
def observing : Contract calls := ⟨InstallCall.observes, fun _ _ => True⟩

lemma quietly_quiet : AllowsQuiet quietly := fun _ => id

lemma observing_observes : AllowsObserving observing := fun _ => id

section

variable {Q : α → Prop} {E : ε → Prop} {x : Coord ε α}

/-- A quiet program, under a journal that promises nothing. -/
lemma safe_open (hx : x.Within quietly Q E) (hon : journal.Open) (hw : Stored L journal w) :
    x.Safe (World.step P) (Recoverable L) (fun a t => Q a ∧ Stored L journal t)
      (fun e t => E e ∧ Stored L journal t) w :=
  Within.safe hx (fun _ _ _ _ hc hB hJ => ⟨trivial, step_open hc hon hB hJ⟩)
    (fun _ ht => ht.recoverable) hw

/-- A program of observations. -/
lemma safe_observing (hx : x.Within observing Q E) (hw : Recoverable L w) :
    x.Safe (World.step P) (Recoverable L) (fun a t => Q a ∧ Untouched L w t)
      (fun e t => E e ∧ Untouched L w t) w :=
  Within.safe hx (fun _ _ _ _ hc hB hJ => ⟨trivial, hJ.trans (step_observes hc hB)⟩)
    (fun _ ht => ht.recoverable hw) .rfl

end

/-! ## Inspection -/

/-- An inspection shows the installation. -/
lemma safe_inspect {I : World X → Prop} (hI : ∀ t, Untouched L w t → I t) :
    inspectState.Safe (World.step P) I
      (fun actual t => Untouched L w t ∧ Shows L actual t) (fun _ t => Untouched L w t) w := by
  refine safe_bind.mpr (safe_mapErr.mpr (safe_bind.mpr (safe_ask.mpr ?_)))
  rintro an t ⟨rfl, ha⟩
  refine ⟨hI _ .rfl, safe_ofExcept.mpr ?_⟩
  rcases an with e | unit
  · exact .rfl
  · have hun : unit = t.active := ha unit rfl
    refine safe_bind.mpr (safe_mapErr.mpr (safe_bind.mpr (safe_ask.mpr ?_)))
    intro an u hB
    have hu : Untouched L t u := step_observes (c := .platform .inspect) rfl hB
    obtain ⟨x, hc, -⟩ := hB
    refine ⟨hI _ hu, safe_ofExcept.mpr ?_⟩
    rcases an with e | seen
    · exact hu
    · have hs : seen = L.state t.site := L.inspect _ _ _ hc
      refine safe_bind.mpr (safe_mapErr.mpr (safe_ofExcept.mpr ?_))
      split
      · refine safe_pure.mpr ⟨hu, ?_, ?_⟩
        · exact hu.active.trans hun.symm
        · exact hu.state.trans hs.symm
      · exact hu

lemma safe_inspectState (hw : Recoverable L w) : inspectState.Safe (World.step P) (Recoverable L)
      (fun actual t => Untouched L w t ∧ Shows L actual t) (fun _ t => Untouched L w t) w :=
  safe_inspect fun _ h => h.recoverable hw

/-- The inspected state is the target's, apart from the layout unit at a layout checkpoint. -/
structure Agrees (actual : InstallationState) (target : Target) : Prop where
  active : actual.activeUnit = target.state.activeUnit
  platform : target.checkpoint.isLayout = false → actual.platform = target.state.platform

lemma matchesTarget_agrees (actual : InstallationState) (t : Target) :
    (matchesTarget journal actual t).Within observing
      (fun mt => mt = true → Agrees actual t) (fun _ => True) := by
  refine Within.ite (fun _ => within_pure.mpr Bool.noConfusion) fun hn => ?_
  have ha : Agrees actual t := by
    simp only [Bool.or_eq_true, bne_iff_ne, ne_eq, not_or, Decidable.not_not] at hn
    refine ⟨hn.1, fun hl => ?_⟩
    simpa [hl] using hn.2
  refine Within.mapErr (Within.mono (calm_perform ?_) (fun _ _ _ => ha) fun _ _ => trivial)
  exact observing_observes (.platform (.matchesExactState ..)) rfl

lemma Agrees.shows {actual : InstallationState} {t : Target} (h : Agrees actual t)
    (hl : t.checkpoint.isLayout = false) (hw : Shows L actual w) : Shows L t.state w :=
  ⟨hw.active.trans h.active, hw.platform.trans (h.platform hl)⟩

variable {a fl : InstallAction}

/-- A required state that is not one of the layout is there. -/
lemma safe_requireState {before : InstallationState} {after : Target}
    (hl : after.checkpoint.isLayout = false) (hw : Recoverable L w) :
    (requireState journal a before after).Safe (World.step P) (Recoverable L)
      (fun _ t => Untouched L w t ∧ Shows L after.state t) (fun _ t => Untouched L w t) w := by
  refine safe_bind.mpr ((safe_inspectState hw).mono ?_ fun _ _ h => h)
  rintro actual t ⟨ht, hs⟩
  refine safe_bind.mpr ((safe_observing (matchesTarget_agrees actual after)
    (ht.recoverable hw)).mono ?_ fun _ _ h => ht.trans h.2)
  rintro mt u ⟨ha, hu⟩
  split
  · next hm =>
    exact safe_pure.mpr ⟨ht.trans hu, (ha hm).shows hl (hu.shows hs)⟩
  · exact ht.trans hu

/-! ## Proofs -/

/-- What a reconciled action has established. -/
structure Established (L : LifecyclePlatform P) (journal : InstallJournalV1) (action : InstallAction)
    (w : World X) : Prop where
  candidate : action = .proveCandidate → Proven L journal w
  prior : action = .provePrior → Shows L (new journal).prior w

/-- An owner proof between two inspections: the state is there, and the proof is of it. -/
lemma safe_reconcileProof {tr : Transition} {seen : Observation}
    {point : PlatformCheckpoint} {exp : PlatformState}
    {rec : PlatformTransactionRecord} {rc : Option PlatformOwnerReceipt}
    (hon : journal.Open) (hl : tr.afterCheckpoint.isLayout = false)
    (hw : Stored L journal w) : (reconcileProof journal a tr seen
      (.waitForNewerOwner point exp rec rc)).Safe (World.step P) (Recoverable L)
      (fun _ t => Stored L journal t ∧ Shows L tr.after t ∧ t.proof = some ⟨point, exp, rec, rc⟩)
      (fun _ t => Stored L journal t) w := by
  unfold reconcileProof
  split
  · refine safe_bind.mpr ((safe_open (E := StepError.Ordinary True) (Calm.ite
      (calm_matchesExceptRuntime quietly_quiet _ _ _ _ _).fatal Calm.pure) hon hw).mono ?_ ?_)
    · rintro fl t ⟨-, ht⟩
      exact ht
    · rintro e t ⟨-, ht⟩
      exact ht
  · refine safe_bind.mpr (safe_mapErr.mpr (safe_bind.mpr (safe_ask.mpr ?_)))
    intro an t hB
    have ht : Stored L journal t := step_open (c := .platform (.waitForNewerOwner ..)) trivial hon hB hw
    obtain ⟨x, -, rfl⟩ := hB
    refine ⟨ht.recoverable, safe_ofExcept.mpr ?_⟩
    rcases an with e | ⟨⟩
    · exact ht
    · refine safe_mapErr.mpr ((safe_requireState hl ht.recoverable).mono ?_ ?_)
      · rintro _ u ⟨hu, hs⟩
        exact ⟨hu.stored ht, hs, hu.proof⟩
      · intro e u hu
        exact hu.stored ht

lemma safe_observeOrStop {before after : Target} {targets : List Target}
    (hon : journal.Open) (hw : Stored L journal w) :
    (observeOrStop journal a before after targets).Safe (World.step P) (Recoverable L)
      (fun _ t => Stored L journal t) (fun _ t => Stored L journal t) w :=
  (safe_open (calm_observeOrStop quietly_quiet _ _ _ _ _) hon hw).mono (fun _ _ h => h.2)
    fun _ _ h => h.2

/-- Reconciling an action keeps the journal, and establishes what its proof is about. -/
lemma safe_reconcileAction (hon : journal.Open)
    (hw : Stored L journal w) : (reconcileAction journal a).Safe (World.step P) (Recoverable L)
      (fun _ t => Stored L journal t ∧ Established L journal a t) (fun _ t => Stored L journal t) w := by
  by_cases hp : a = .proveCandidate ∨ a = .provePrior
  · obtain rfl | rfl := hp
    · refine safe_bind.mpr (safe_mapErr.mpr (safe_ofExcept.mpr ?_))
      refine safe_bind.mpr (safe_mapErr.mpr ((safe_observeOrStop hon hw).mono ?_ fun _ _ h => h))
      intro seen t ht
      refine (safe_reconcileProof hon rfl ht).mono ?_ fun _ _ h => h
      rintro _ u ⟨hu, hs, hp⟩
      exact ⟨hu, fun _ => ⟨hs, hp⟩, nofun⟩
    · refine safe_bind.mpr (safe_mapErr.mpr (safe_ofExcept.mpr ?_))
      refine safe_bind.mpr (safe_mapErr.mpr ((safe_observeOrStop hon hw).mono ?_ fun _ _ h => h))
      intro seen t ht
      refine (safe_reconcileProof hon rfl ht).mono ?_ fun _ _ h => h
      rintro _ u ⟨hu, hs, -⟩
      exact ⟨hu, nofun, fun _ => hs⟩
  · refine (safe_open (calm_reconcileAction quietly_quiet journal a) hon hw).mono ?_
      fun _ _ h => h.2
    rintro _ t ⟨-, ht⟩
    exact ⟨ht, fun h => absurd (.inl h) hp, fun h => absurd (.inr h) hp⟩

/-! ## Rollback entries -/

lemma firstMatch_agrees (actual : InstallationState) (es : List (Target × InstallAction)) :
    (firstMatch journal actual es).Within observing (fun fd => ∀ a, fd = some a →
        ∃ t, (t, a) ∈ es ∧ Agrees actual t) (fun _ => True) := by
  induction es with
  | nil => exact nofun
  | cons e rest ih =>
    obtain ⟨t, a⟩ := e
    refine Within.seq (matchesTarget_agrees actual t) fun mt hm => ?_
    split
    · next h =>
      rintro _ ⟨⟩
      exact ⟨t, mem_cons_self, hm h⟩
    · refine ih.mono (fun fd hf a' h => ?_) fun _ h => h
      obtain ⟨t', hme, ha⟩ := hf a' h
      exact ⟨t', mem_cons_of_mem _ hme, ha⟩

/-- A rollback finishes at once only from the prior state. -/
lemma finishRollback_entry {t : Target}
    (h : (t, InstallAction.finishRollback) ∈ rollbackEntries journal) :
    t = ⟨(new journal).prior, .priorOriginal, journal.layoutOperationIndex⟩ := by
  simp only [rollbackEntries, mem_append, mem_cons, not_mem_nil, or_false,
    Prod.mk.injEq, reduceCtorEq, and_false, false_or] at h
  rcases h with h | h
  · split at h
    · simp at h
    · exact absurd h not_mem_nil
  · exact h.1

/-- The inspection and the choice of an entry. -/
lemma safe_rollbackEntryFor {actual : InstallationState} (hw : Stored L journal w)
    (hs : Shows L actual w) :
    (rollbackEntryFor journal actual).Safe (World.step P) (Recoverable L)
      (fun fd t => Stored L journal t ∧ (fd = some .finishRollback →
        Shows L (new journal).prior t)) (fun _ t => Stored L journal t) w := by
  refine (safe_observing (firstMatch_agrees actual _) hw.recoverable).mono ?_
    fun _ _ h => h.2.stored hw
  rintro fd t ⟨hf, ht⟩
  refine ⟨ht.stored hw, fun hfi => ?_⟩
  obtain ⟨tg, hm, ha⟩ := hf _ hfi
  obtain rfl := finishRollback_entry hm
  exact ha.shows rfl (ht.shows hs)

lemma safe_entryDrift {actual : InstallationState}
    {R : InstallAction → World X → Prop} (hw : Stored L journal w) :
    (entryDrift journal fl actual).Safe (World.step P) (Recoverable L) R
      (fun _ t => Stored L journal t) w := by
  refine safe_bind.mpr (safe_ofExcept.mpr ?_)
  split
  · exact hw
  · exact hw

lemma safe_rollbackEntryAction (hon : journal.Open) (hw : Stored L journal w) :
    (rollbackEntryAction journal fl).Safe (World.step P) (Recoverable L)
      (fun a t => Stored L journal t ∧ (a = .finishRollback →
        Shows L (new journal).prior t)) (fun _ t => Stored L journal t) w := by
  refine safe_bind.mpr ((safe_inspectState hw.recoverable).mono ?_ fun _ _ h => h.stored hw)
  rintro actual t ⟨ht, hs⟩
  refine safe_bind.mpr ((safe_rollbackEntryFor (ht.stored hw) hs).mono ?_ fun _ _ h => h)
  rintro (_ | a) u ⟨hu, hf⟩
  · dsimp only
    split
    · exact safe_entryDrift hu
    · refine safe_bind.mpr ((safe_open (calm_stopFirst quietly_quiet _ _ _ _) hon hu).mono ?_
        fun _ _ h => h.2)
      rintro stopped v ⟨-, hv⟩
      split
      · refine safe_bind.mpr ((safe_inspectState hv.recoverable).mono ?_ fun _ _ h => h.stored hv)
        rintro again x ⟨hx, hs'⟩
        refine safe_bind.mpr ((safe_rollbackEntryFor (hx.stored hv) hs').mono ?_
          fun _ _ h => h)
        rintro (_ | a) y ⟨hy, hf⟩
        · exact safe_entryDrift hy
        · exact safe_pure.mpr ⟨hy, fun h => hf (congrArg some h)⟩
      · exact safe_entryDrift hv
  · exact safe_pure.mpr ⟨hu, fun h => hf (congrArg some h)⟩

/-- What entering rollback leaves of the journal. -/
structure Carried (journal next : InstallJournalV1) : Prop where
  plan : SamePlan journal next
  revision : next.revision = journal.revision

lemma Carried.rfl : Carried journal journal := ⟨.rfl, .refl _⟩

lemma Captured.carried {cap : InstallJournalV1} (h : Captured journal cap) : Carried journal cap := by
  refine ⟨h.samePlan, ?_⟩
  obtain rfl | ⟨rc, -, -, rfl⟩ := h.same_or
  · exact .refl _
  · exact .refl _

/-- A rollback is entered at its end only with the prior in place. -/
def EntersAt (L : LifecyclePlatform P) (journal : InstallJournalV1) :
    InstallJournalV1 × RollbackEntry → World X → Prop
  | (entered, .action action), t => Stored L journal t ∧ Carried journal entered ∧
      (action = .finishRollback → Shows L (new journal).prior t)
  | (entered, .abandon _), t => Stored L journal t ∧ Carried journal entered

lemma safe_enterRollbackOnce {retry : InstallCoordinatorError →
      Coord InstallCoordinatorError (InstallJournalV1 × RollbackEntry)} (hon : journal.Open)
    (hr : ∀ e t, Stored L journal t → (retry e).Safe (World.step P) (Recoverable L)
      (EntersAt L journal) (fun _ u => Recoverable L u) t) (hw : Stored L journal w) :
    (enterRollbackOnce journal fl retry).Safe (World.step P) (Recoverable L)
      (EntersAt L journal) (fun _ t => Recoverable L t) w := by
  refine safe_bind.mpr (safe_outcome.mpr ((safe_rollbackEntryAction hon hw).mono ?_ ?_))
  · rintro nx t ⟨ht, hf⟩
    dsimp only
    split
    · exact safe_pure.mpr ⟨ht, .rfl, hf⟩
    · next hn =>
      have hun : nx = .unloadCandidateRuntime := by simpa using hn
      subst hun
      refine safe_bind.mpr (safe_outcome.mpr ((safe_open
        (captureCandidateOwnerReceipt_within quietly_quiet.observing journal) hon ht).mono ?_ ?_))
      · rintro cap u ⟨hc, hu⟩
        exact safe_pure.mpr ⟨hu, hc.carried, nofun⟩
      · rintro (err | err | dt) u ⟨-, hu⟩
        · exact hr err u hu
        iterate 2 exact hu.recoverable
  · intro e t ht
    rcases e with _ | _ | _ | _ | _ | _ | ⟨a, before, after, actual⟩ | _ | _ | _ | _
    case stateDrift =>
      dsimp only
      split
      · refine safe_bind.mpr ((safe_inspectState ht.recoverable).mono ?_
          fun _ _ h => h.recoverable ht.recoverable)
        rintro seen u ⟨hu, -⟩
        refine safe_bind.mpr ((safe_open (abandonment_within quietly_quiet _ _ _) hon
          (hu.stored ht)).mono ?_ fun _ _ h => h.2.recoverable)
        rintro (_ | dt) v ⟨-, hv⟩
        · exact hv.recoverable
        · exact safe_pure.mpr ⟨hv, .rfl⟩
      · exact ht.recoverable
    all_goals exact ht.recoverable

lemma safe_enterRollback (hon : journal.Open) (ats : Nat) (hw : Stored L journal w) :
    (enterRollback journal fl ats).Safe (World.step P) (Recoverable L)
      (EntersAt L journal) (fun _ t => Recoverable L t) w := by
  induction ats generalizing w with
  | zero => exact safe_enterRollbackOnce hon (fun _ _ ht => ht.recoverable) hw
  | succ ats ih => exact safe_enterRollbackOnce hon (fun _ _ ht => ih ht) hw

/-! ## Writing a journal -/

lemma Consistent.forced {nx : InstallJournalV1} (h : Consistent L journal w)
    (hn : SameButForced journal nx) : Consistent L nx w := by
  have hpr : nx.proven = journal.proven := by
    simp only [InstallJournalV1.proven, hn.disposition, hn.action]
  have hrs : nx.restored = journal.restored := by
    simp only [InstallJournalV1.restored, hn.disposition, hn.action, hn.abandoned]
  refine ⟨fun hp => ?_, fun hr => ?_⟩
  · obtain ⟨⟨ha, hpl⟩, hpf⟩ := h.proven (hpr ▸ hp)
    refine ⟨⟨?_, ?_⟩, ?_⟩
    · exact ha.trans (congrArg some hn.plan.candidate.symm)
    · exact hpl.trans hn.plan.target.symm
    · rw [hpf]
      simp only [InstallJournalV1.ownerProof, hn.plan.target, hn.plan.record, hn.receipt]
  · obtain ⟨ha, hpl⟩ := h.restored (hrs ▸ hr)
    exact ⟨ha.trans hn.plan.prior.symm, hpl.trans hn.plan.priorPlatform.symm⟩

/-- The world with a journal written. -/
def World.wrote (w : World X) (journal : InstallJournalV1) : World X :=
  { w with
    journal := some journal
    written := w.written ++ [⟨w.journal, journal⟩]
    proof := if journal.revision = 1 then none else w.proof }

/-- A journal whose promises are kept may be written. -/
lemma Recoverable.wrote (hw : Recoverable L w) (hf : Follows w.journal journal)
    (hc : Consistent L journal w) (hpr : journal.proven → journal.revision ≠ 1) :
    Stored L journal (w.wrote journal) := by
  refine ⟨rfl, ⟨fun j hj => ?_, fun e he => ?_, ?_, fun e he => ?_, fun h => ?_⟩⟩
  · obtain rfl : journal = j := Option.some.inj hj
    refine ⟨fun hp => ?_, fun hr => ?_⟩
    · obtain ⟨hs, hold⟩ := hc.proven hp
      exact ⟨⟨hs.active, hs.platform⟩, (if_neg (hpr hp)).trans hold⟩
    · have hs := hc.restored hr
      exact ⟨hs.active, hs.platform⟩
  · rcases mem_append.mp he with he | he
    · exact hw.follows e he
    · rw [mem_singleton.mp he]
      exact hf
  · refine isChain_append.mpr ⟨hw.chained, isChain_singleton _, ?_⟩
    rintro ls hl _ ⟨⟩
    exact hw.last ls hl
  · simp only [World.wrote, getLast?_append, getLast?_singleton, Option.some_or, Option.some.injEq] at he
    subst he
    exact .refl _
  · simp [World.wrote] at h

lemma safe_write (hw : Recoverable L w) (hf : Follows w.journal journal)
    (hc : Consistent L journal w) (hp : journal.proven → journal.revision ≠ 1) :
    (writeJournal journal).Safe (World.step P) (Recoverable L)
      (fun _ t => Stored L journal t ∧ ∀ s, Shows L s w → Shows L s t)
          (fun _ t => Recoverable L t) w := by
  refine safe_bind.mpr (safe_mapErr.mpr (safe_ofExcept.mpr ?_))
  split
  · have hwr := hw.wrote hf hc hp
    rintro an t (rfl | ⟨⟨err, rfl⟩, rfl⟩)
    · refine ⟨hwr.recoverable, safe_ofExcept.mpr ?_⟩
      rcases an with e | ⟨⟩
      · exact hwr.recoverable
      · exact ⟨hwr, fun s hs => ⟨hs.active, hs.platform⟩⟩
    · exact ⟨hw, hw⟩
  · exact hw

/-- An `advance` that succeeds changes nothing but the journal in hand. -/
lemma safe_move {disp : InstallDisposition} {nx : Option InstallAction} (hw : Recoverable L w) :
    (advance journal disp nx).Safe (World.step P) (Recoverable L)
      (fun next t => next = journal.advanced disp nx ∧ Untouched L w t)
          (fun _ t => Untouched L w t) w := by
  rintro an t ⟨ha, rfl⟩
  have ht : Untouched L w { w with advances := w.advances ++
      [⟨journal, disp, nx, an⟩] } := ⟨rfl, rfl, rfl, rfl, rfl⟩
  refine ⟨ht.recoverable hw, safe_mapErr.mpr (safe_ofExcept.mpr ?_)⟩
  rcases an with e | next
  · exact ht
  · exact ⟨(advance_eq_ok ha.symm).1, ht⟩

/-- A stored journal of a disposition, in the course of a loop. -/
structure Going (L : LifecyclePlatform P) (disposition : InstallDisposition)
    (journal : InstallJournalV1) (w : World X) : Prop where
  stored : Stored L journal w
  disposition : journal.disposition = disposition
  revision : 0 < journal.revision

/-- Advance, persist, and go on, with the new journal's promises kept. -/
lemma safe_promise {α : Type} {old : InstallJournalV1} {disp : InstallDisposition}
    {nx : Option InstallAction} {R : α → World X → Prop}
    {f : InstallJournalV1 → Coord InstallCoordinatorError α}
    (hw : Stored L old w) (hp : 0 < old.revision) (hca : Carried old journal)
    (hm : DispositionMove old (journal.advanced disp nx)) (hc : Consistent L (journal.advanced disp nx) w)
    (hn : ∀ next t, SameButForced (journal.advanced disp nx) next →
      Stored L next t → (∀ s, Shows L s w → Shows L s t) →
      (f next).Safe (World.step P) (Recoverable L) R (fun _ u => Recoverable L u) t) :
    (advance journal disp nx >>= fun next => persist next >>= f).Safe (World.step P)
      (Recoverable L) R (fun _ t => Recoverable L t) w := by
  refine safe_bind.mpr ((safe_move hw.recoverable).mono ?_
    fun _ _ h => h.recoverable hw.recoverable)
  rintro _ t ⟨rfl, ht⟩
  refine safe_bind.mpr (safe_bind.mpr (safe_ask.mpr ?_))
  intro forced u hB
  have hu : Untouched L w u := ht.trans (step_observes (c := .takeForcedStop) trivial hB)
  have hsa := sameButForced_withForcedStop (journal.advanced disp nx) forced
  have hsu := (succeeds_advanced hca.plan hca.revision hm).forced hsa
  have hr := hsu.revision
  refine ⟨hu.recoverable hw.recoverable, safe_bind.mpr (safe_mapErr.mpr ?_)⟩
  refine (safe_write (hu.recoverable hw.recoverable) ?_ ((hu.consistent hc).forced hsa)
    fun _ => ?_).mono (fun _ v hv => ?_) fun _ _ h => h
  · exact .next old (hu.journal.trans hw.journal) hsu
  · omega
  · exact safe_pure.mpr (hn _ v hsa hv.1 fun s hs => hv.2 s (hu.shows hs))

lemma consistent_forward (h : a = .commit → Proven L journal w) :
    Consistent L (journal.advanced .forward (some a)) w := by
  refine ⟨fun hp => ?_, fun hr => ?_⟩
  · have hc : a = .commit := by
      simpa [proven, advanced] using hp
    obtain ⟨⟨ha, hpl⟩, hpr⟩ := h hc
    exact ⟨⟨ha, hpl⟩, hpr⟩
  · simp [restored, advanced] at hr

lemma consistent_rollback (h : a = .finishRollback → Shows L (new journal).prior w) :
    Consistent L (journal.advanced .rollback (some a)) w := by
  refine ⟨fun hp => ?_, fun hr => ?_⟩
  · simp [proven, advanced] at hp
  · have hf : a = .finishRollback := by
      simpa [restored, advanced] using hr
    exact ⟨(h hf).active, (h hf).platform⟩

/-! ## Rollback -/

/-- An outcome says the truth about the installation. -/
def InstallOutcome.Sound (L : LifecyclePlatform P) : InstallOutcome → World X → Prop
  | .committed unit, w => ∃ journal, w.journal = some journal ∧ journal.disposition = .committed ∧
      journal.candidateUnit = unit ∧ Proven L journal w
  | .rolledBack active _ abandoned _, w => ∃ journal, w.journal = some journal ∧
      journal.disposition = .rolledBack ∧ journal.priorActiveUnit = active ∧
      (abandoned = false → Shows L (new journal).prior w)

/-- What a turn of `drive_rollback` leaves. -/
def RollbackStep.Sound (L : LifecyclePlatform P) : RollbackStep → World X → Prop
  | .again next _ _, t => Going L .rollback next t
  | .done outcome, t => outcome.Sound L t

lemma open_of_rollback (hd : journal.disposition = .rollback)
    (ha : journal.nextAction = some a) (hn : a ≠ .finishRollback) : journal.Open := by
  simp [InstallJournalV1.Open, proven, restored, hd, ha, hn]

lemma safe_goBack {old : InstallJournalV1} (a : InstallAction)
    {rst : Option RestoredRelease} {prior : Bool} (hw : Going L .rollback old w)
        (hc : Carried old journal)
    (hf : a = .finishRollback → Shows L (new journal).prior w) :
    (rollbackTo journal a rst prior).Safe (World.step P) (Recoverable L)
      (RollbackStep.Sound L) (fun _ t => Recoverable L t) w := by
  refine safe_promise hw.stored hw.revision hc (.rollback hw.disposition rfl)
    (consistent_rollback hf) fun nx t hs ht _ => ?_
  refine safe_pure.mpr ⟨ht, hs.disposition, ?_⟩
  rw [hs.revision]
  exact Nat.succ_pos _

lemma nextRollback_finish {a nx : InstallAction} (h : nextRollback a = .ok nx)
    (hf : nx = .finishRollback) : a = .provePrior := by
  subst hf
  cases a <;> cases h
  rfl

section

variable (hw : Going L .rollback journal w)
include hw

lemma safe_undoAction {action : InstallAction} {restored : Option RestoredRelease}
    {restartedPrior : Bool} (ha : journal.nextAction = some action) (hne : action ≠ .finishRollback) :
    (rollbackActionStep journal action restored restartedPrior).Safe (World.step P)
      (Recoverable L) (RollbackStep.Sound L) (fun _ t => Recoverable L t) w := by
  have hon := open_of_rollback hw.disposition ha hne
  unfold rollbackActionStep
  split
  · next hl =>
    subst hl
    refine safe_bind.mpr (safe_mapErr.mpr ((safe_open
      (calm_reconcileLayoutOperation quietly_quiet journal false) hon hw.stored).mono ?_
      fun _ _ h => h.2.recoverable))
    rintro _ t ⟨-, ht⟩
    have hc : Carried journal { journal with layoutOperationIndex := journal.layoutOperationIndex - 1 } :=
      ⟨⟨rfl, rfl, rfl, rfl, rfl, rfl, rfl⟩, rfl⟩
    dsimp only
    split
    · exact safe_goBack .reloadPriorManager ⟨ht, hw.disposition, hw.revision⟩ hc nofun
    · exact safe_goBack .restorePriorLayout ⟨ht, hw.disposition, hw.revision⟩ hc nofun
  · refine safe_bind.mpr (safe_mapErr.mpr ((safe_reconcileAction hon hw.stored).mono ?_
      fun _ _ h => h.recoverable))
    rintro _ t ⟨ht, he⟩
    have hr : Attempt.Safe (World.step P) (Recoverable L)
        (fun (_ : Option RestoredRelease) u => Untouched L t u) (fun _ u => Untouched L t u)
        (if action = .provePrior then do
            let release ← ask (S := calls) .takeRestoredRelease
            pure ((release : Option RestoredRelease).filter fun release =>
              journal.priorPlatform.runningUnit == some release.unit)
          else pure restored : Coord InstallCoordinatorError _) t := by
      split
      · refine safe_bind.mpr (safe_ask.mpr fun release u hB => ?_)
        have hu : Untouched L t u := step_observes (c := .takeRestoredRelease) trivial hB
        exact ⟨hu.recoverable ht.recoverable, hu⟩
      · exact .rfl
    refine safe_bind.mpr (hr.mono ?_ fun _ _ h => h.recoverable ht.recoverable)
    intro _ u hu
    refine safe_bind.mpr (safe_ofExcept.mpr ?_)
    split
    · next next hn =>
      refine safe_goBack next ⟨hu.stored ht, hw.disposition, hw.revision⟩ .rfl fun hf => ?_
      exact hu.shows (he.prior (nextRollback_finish hn hf))
    · exact hu.recoverable ht.recoverable

/-- One turn of `drive_rollback`. -/
lemma safe_turnBack {rst : Option RestoredRelease} {prior : Bool} :
    (rollbackStep journal rst prior).Safe (World.step P) (Recoverable L)
      (RollbackStep.Sound L) (fun _ t => Recoverable L t) w := by
  unfold rollbackStep
  rcases ha : journal.nextAction with _ | a
  · exact hw.stored.recoverable
  · by_cases hf : a = .finishRollback
    · -- nothing is looked at or changed between the proof of the prior and the last write
      subst hf
      have hsh : Shows L (new journal).prior w := by
        refine (hw.stored.recoverable.consistent journal hw.stored.journal).restored ?_
        simp [restored, hw.disposition, ha]
      refine safe_promise hw.stored hw.revision .rfl (.finish hw.disposition rfl) ⟨?_, fun _ => ?_⟩
        fun nx t hs ht hk => ?_
      · intro hp
        simp [proven, advanced] at hp
      · exact ⟨hsh.active, hsh.platform⟩
      · refine safe_pure.mpr ⟨nx, ht.journal, hs.disposition, rfl, fun _ => ?_⟩
        have hk := hk _ hsh
        exact ⟨hk.active.trans hs.plan.prior.symm, hk.platform.trans hs.plan.priorPlatform.symm⟩
    · have hon := open_of_rollback hw.disposition ha hf
      have hl : Attempt.Safe (World.step P) (Recoverable L)
          (fun (_ : Bool) t => Stored L journal t) (fun _ t => Stored L journal t)
          (if a = .provePrior ∧ ¬prior then priorRuntimeLost journal
            else pure false) w := by
        split
        · exact (safe_open (calm_priorRuntimeLost quietly_quiet journal) hon hw.stored).mono
            (fun _ _ h => h.2) fun _ _ h => h.2
        · exact hw.stored
      refine safe_bind.mpr (hl.mono ?_ fun _ _ h => h.recoverable)
      intro lost t ht
      have hg : Going L .rollback journal t := ⟨ht, hw.disposition, hw.revision⟩
      split
      · exact safe_goBack .restorePriorRuntime hg .rfl nofun
      · exact safe_undoAction hg ha hf

lemma safe_backLoop {fuel : Nat} {rst : Option RestoredRelease} {prior : Bool} :
    (rollbackLoop fuel journal rst prior).Safe (World.step P) (Recoverable L)
      (InstallOutcome.Sound L) (fun _ t => Recoverable L t) w := by
  induction fuel generalizing journal rst prior w with
  | zero => exact hw.stored.recoverable
  | succ fuel ih =>
    refine safe_bind.mpr ((safe_turnBack hw).mono ?_ fun _ _ h => h)
    rintro (⟨nx, rst', prior'⟩ | outcome) t ht
    · exact ih ht
    · exact ht

lemma safe_rollBack : (driveRollback journal).Safe (World.step P) (Recoverable L) (InstallOutcome.Sound L)
      (fun _ t => Recoverable L t) w := by
  refine safe_bind.mpr (safe_ask.mpr fun release t hB => ?_)
  have ht : Untouched L w t := step_observes (c := .takeRestoredRelease) trivial hB
  exact ⟨ht.recoverable hw.stored.recoverable,
    safe_backLoop ⟨ht.stored hw.stored, hw.disposition, hw.revision⟩⟩

end

/-! ## Forward -/

/-- What a turn of `drive_forward` leaves. -/
def ForwardStep.Sound (L : LifecyclePlatform P) : ForwardStep → World X → Prop
  | .again next, t => Going L .forward next t
  | .rollback next, t => Going L .rollback next t
  | .done outcome, t => outcome.Sound L t

lemma open_of_forward {a : InstallAction} (hd : journal.disposition = .forward)
    (ha : journal.nextAction = some a) (hn : a ≠ .commit) : journal.Open := by
  simp [InstallJournalV1.Open, proven, restored, hd, ha, hn]

lemma safe_goOn (a : InstallAction) (hw : Going L .forward old w)
    (hc : Carried old journal) (hco : a = .commit → Proven L journal w) :
    (forwardTo journal a).Safe (World.step P) (Recoverable L) (ForwardStep.Sound L)
      (fun _ t => Recoverable L t) w := by
  refine safe_promise hw.stored hw.revision hc (.forward hw.disposition rfl)
    (consistent_forward hco) fun nx t hs ht _ => ?_
  refine safe_pure.mpr ⟨ht, hs.disposition, ?_⟩
  rw [hs.revision]
  exact Nat.succ_pos _

lemma safe_turnAround {fl : String} (a : InstallAction)
    (hw : Going L .forward old w) (hc : Carried old journal)
    (hf : a = .finishRollback → Shows L (new old).prior w) :
    (failTo journal fl a).Safe (World.step P) (Recoverable L) (ForwardStep.Sound L)
      (fun _ t => Recoverable L t) w := by
  have hc' : Carried old { journal with failure := some fl } :=
    ⟨⟨hc.plan.transaction, hc.plan.prior, hc.plan.candidate,
      hc.plan.priorPlatform, hc.plan.target, hc.plan.record,
      hc.plan.count⟩, hc.revision⟩
  refine safe_promise hw.stored hw.revision hc' (.enter hw.disposition rfl)
    (consistent_rollback fun h => ?_) fun nx t hs ht _ => ?_
  · have hsh := hf h
    exact ⟨hsh.active.trans hc.plan.prior.symm, hsh.platform.trans hc.plan.priorPlatform.symm⟩
  · refine safe_pure.mpr ⟨ht, hs.disposition, ?_⟩
    rw [hs.revision]
    exact Nat.succ_pos _

lemma safe_giveUp {dt : String} (hw : Going L .forward old w) (hc : Carried old journal) :
    (abandon journal dt).Safe (World.step P) (Recoverable L) (InstallOutcome.Sound L)
      (fun _ t => Recoverable L t) w := by
  refine safe_bind.mpr ((safe_move hw.stored.recoverable).mono ?_
    fun _ _ h => h.recoverable hw.stored.recoverable)
  rintro _ t ⟨rfl, ht⟩
  have hs : Succeeds old ({ journal with failure := some (truncateDetail dt), abandoned := true }.advanced
        .rolledBack none) :=
    ⟨hc.plan.trans ⟨rfl, rfl, rfl, rfl, rfl, rfl, rfl⟩,
      congrArg (· + 1) hc.revision, .abandon hw.disposition rfl rfl⟩
  refine safe_bind.mpr (safe_mapErr.mpr ((safe_write (ht.recoverable hw.stored.recoverable)
    (.next old (ht.journal.trans hw.stored.journal) hs) ⟨?_, ?_⟩ ?_).mono ?_
    fun _ _ h => h))
  · intro hp
    simp [proven, advanced] at hp
  · intro hr
    simp [restored, advanced] at hr
  · intro hp
    simp [proven, advanced] at hp
  · rintro _ u ⟨hu, -⟩
    exact safe_pure.mpr ⟨_, hu.journal, rfl, rfl, nofun⟩

lemma safe_layoutOn (hw : Going L .forward journal w)
    (ha : journal.nextAction = some .installCandidateLayout) :
    (forwardLayoutStep journal).Safe (World.step P) (Recoverable L) (ForwardStep.Sound L)
      (fun _ t => Recoverable L t) w := by
  have hon := open_of_forward hw.disposition ha nofun
  have hm : Carried journal { journal with layoutOperationIndex := journal.layoutOperationIndex + 1 } :=
    ⟨⟨rfl, rfl, rfl, rfl, rfl, rfl, rfl⟩, rfl⟩
  refine safe_bind.mpr (safe_outcome.mpr ((safe_open
    (calm_reconcileLayoutOperation quietly_quiet journal true) hon hw.stored).mono ?_ ?_))
  · rintro ⟨⟩ t ⟨-, ht⟩
    have hg : Going L .forward journal t := ⟨ht, hw.disposition, hw.revision⟩
    dsimp only
    split
    · exact safe_goOn .installCandidateLauncher hg hm nofun
    · exact safe_goOn .installCandidateLayout hg hm nofun
  · rintro (e | e | dt) t ⟨-, ht⟩
    · refine safe_bind.mpr ((safe_open (reconcileForwardLayoutProgressAfterError_within
        quietly_quiet journal) hon ht).mono ?_ fun _ _ h => h.2.recoverable)
      rintro progressed u ⟨hp, hu⟩
      have hg : Going L .forward journal u := ⟨hu, hw.disposition, hw.revision⟩
      have hc : Carried journal progressed := by
        obtain rfl | rfl := hp
        · exact .rfl
        · exact hm
      refine safe_turnAround _ hg hc ?_
      split <;> exact nofun
    · exact ht.recoverable
    · exact ht.recoverable

/-- Reconciling a forward action: a proven candidate is proven with the journal as it stands. -/
lemma safe_reconcileForward {action : InstallAction} (hon : journal.Open) (hw : Stored L journal w) :
    (reconcileForward journal action).Safe (World.step P) (Recoverable L)
      (fun next t => Stored L journal t ∧ Carried journal next ∧
        (action = .proveCandidate → Proven L next t)) (fun _ t => Stored L journal t) w := by
  refine safe_bind.mpr ((safe_reconcileAction hon hw).mono ?_ fun _ _ h => h)
  rintro _ t ⟨ht, he⟩
  split
  · next hr =>
    subst hr
    refine (safe_open (captureCandidateOwnerReceipt_within quietly_quiet.observing journal) hon
      ht).mono ?_
      fun _ _ h => h.2
    rintro cap u ⟨hc, hu⟩
    exact ⟨hu, hc.carried, nofun⟩
  · exact safe_pure.mpr ⟨ht, .rfl, he.candidate⟩

lemma nextForward_commit {a nx : InstallAction} (h : nextForward a = .ok nx)
    (hc : nx = .commit) : a = .proveCandidate := by
  subst hc
  cases a <;> cases h
  rfl

lemma safe_actionOn {action : InstallAction} (hw : Going L .forward journal w)
    (ha : journal.nextAction = some action) (hne : action ≠ .commit) :
    (forwardActionStep journal action).Safe (World.step P) (Recoverable L) (ForwardStep.Sound L)
      (fun _ t => Recoverable L t) w := by
  have hon := open_of_forward hw.disposition ha hne
  refine safe_bind.mpr (safe_outcome.mpr ((safe_reconcileForward hon hw.stored).mono ?_ ?_))
  · rintro reconciled t ⟨ht, hc, hp⟩
    refine safe_bind.mpr (safe_ofExcept.mpr ?_)
    split
    · next next hn =>
      refine safe_goOn next ⟨ht, hw.disposition, hw.revision⟩ hc fun hco => ?_
      exact hp (nextForward_commit hn hco)
    · exact ht.recoverable
  · rintro (error | error | detail) t ht
    · refine safe_bind.mpr ((safe_enterRollback hon _ ht).mono ?_ fun _ _ h => h)
      rintro ⟨entered, next | reason⟩ u he
      · obtain ⟨hu, hc, hf⟩ := he
        exact safe_turnAround next ⟨hu, hw.disposition, hw.revision⟩ hc hf
      · obtain ⟨hu, hc⟩ := he
        exact safe_bind.mpr ((safe_giveUp ⟨hu, hw.disposition, hw.revision⟩ hc).mono
          (fun _ _ h => h) fun _ _ h => h)
    · exact ht.recoverable
    · exact safe_bind.mpr ((safe_giveUp ⟨ht, hw.disposition, hw.revision⟩ .rfl).mono
        (fun _ _ h => h) fun _ _ h => h)

/-- One turn of `drive_forward`. -/
lemma safe_turnOn (hw : Going L .forward journal w) :
    (forwardStep journal).Safe (World.step P) (Recoverable L) (ForwardStep.Sound L)
      (fun _ t => Recoverable L t) w := by
  unfold forwardStep
  rcases ha : journal.nextAction with _ | action
  · exact hw.stored.recoverable
  · dsimp only
    split
    · next hc =>
      -- nothing is looked at or changed between the proof of the candidate and the commit
      subst hc
      have hp : Proven L journal w := by
        refine (hw.stored.recoverable.consistent journal hw.stored.journal).proven ?_
        simp [proven, hw.disposition, ha]
      refine safe_promise hw.stored hw.revision .rfl (.commit hw.disposition rfl)
        ⟨fun _ => ⟨⟨hp.shows.active, hp.shows.platform⟩, hp.proof⟩, fun hr => ?_⟩
        fun next t hs ht _ => ?_
      · simp [restored, advanced] at hr
      · refine safe_pure.mpr ⟨next, ht.journal, hs.disposition, rfl, ?_⟩
        refine (ht.recoverable.consistent next ht.journal).proven ?_
        simp [proven, hs.disposition, advanced]
    · next hn =>
      split
      · next hl =>
        subst hl
        exact safe_layoutOn hw ha
      · exact safe_actionOn hw ha hn

lemma safe_onLoop {fuel : Nat} (hw : Going L .forward journal w) :
    (forwardLoop fuel journal).Safe (World.step P) (Recoverable L) (InstallOutcome.Sound L)
      (fun _ t => Recoverable L t) w := by
  induction fuel generalizing journal w with
  | zero => exact hw.stored.recoverable
  | succ fuel ih =>
    refine safe_bind.mpr ((safe_turnOn hw).mono ?_ fun _ _ h => h)
    rintro (nx | nx | oc) t ht
    · exact ih ht
    · exact safe_rollBack ht
    · exact ht

/-! ## Sessions -/

lemma safe_takeUp (hv : journal.Valid) (hw : Stored L journal w) :
    (resume journal).Safe (World.step P) (Recoverable L) (InstallOutcome.Sound L)
      (fun _ t => Recoverable L t) w := by
  have hp := calm_perform (observing_observes (.platform (.validateTransactionPlan
    journal.priorPlatform journal.targetPlatform journal.transitionStates
    journal.layoutOperationCount journal.platformRecord)) rfl)
  refine safe_bind.mpr (safe_mapErr.mpr ((safe_observing hp hw.recoverable).mono ?_
    fun _ _ h => h.2.recoverable hw.recoverable))
  rintro _ t ⟨-, ht⟩
  have hs := ht.stored hw
  have hc := hs.recoverable.consistent journal hs.journal
  rcases hd : journal.disposition with _ | _ | _ | _
  · exact safe_onLoop ⟨hs, hd, hv.revision_pos⟩
  · exact safe_rollBack ⟨hs, hd, hv.revision_pos⟩
  · refine safe_pure.mpr ⟨journal, hs.journal, hd, rfl, hc.proven ?_⟩
    simp [proven, hd]
  · refine safe_pure.mpr ⟨journal, hs.journal, hd, rfl, fun hn => hc.restored ?_⟩
    simp [restored, hd, hn]

lemma InstallJournalV1.Fresh.open (h : journal.Fresh) : journal.Open :=
  open_of_forward h.disposition h.action nofun

lemma safe_installing (rq : InstallRequest) (hw : Recoverable L w) :
    (installWithLock rq).Safe (World.step P) (Recoverable L) (InstallOutcome.Sound L)
      (fun _ t => Recoverable L t) w := by
  refine safe_bind.mpr (safe_mapErr.mpr ((safe_loadJournal hw).mono ?_ ?_))
  · rintro loaded t ⟨rfl, hl, hva⟩
    split
    · next journal hpe =>
      obtain ⟨rfl, -⟩ := Option.filter_eq_some_iff.mp hpe
      exact safe_takeUp (hva journal rfl) ⟨hl.symm, hw⟩
    · next hi =>
      have hpr := prepareWithLock_within (R := fun _ _ => True) observing_observes
        (fun _ _ _ _ _ => calm_perform (observing_observes (.platform
          (.validateTransactionPlan ..)) rfl)) rq
      refine safe_bind.mpr ((safe_observing hpr hw).mono ?_
        fun _ _ h => h.2.recoverable hw)
      rintro journal u ⟨⟨hv, hf, -⟩, hu⟩
      have hon := hf.open
      have hfo : Follows u.journal journal := by
        refine .fresh hf fun old hold => ?_
        have : loaded = some old := hl.trans (hu.journal.symm.trans hold)
        simpa [this] using hi
      refine safe_bind.mpr (safe_mapErr.mpr ((safe_write (hu.recoverable hw) hfo ⟨?_, ?_⟩
        ?_).mono ?_ fun _ _ h => h))
      · exact fun hp => by simp [hon.1] at hp
      · exact fun hr => by simp [hon.2] at hr
      · exact fun hp => by simp [hon.1] at hp
      · rintro _ v ⟨hv', -⟩
        exact safe_onLoop ⟨hv', hf.disposition, hv.revision_pos⟩
  · rintro e t rfl
    exact hw

/-- **A session** keeps the installation recoverable, and what it returns is true. -/
theorem safe_process (s : Session) (hw : Recoverable L w) :
    s.program.Safe (World.step P) (Recoverable L) (fun r t => ∀ oc, r = some oc → oc.Sound L t)
      (fun _ t => Recoverable L t) w := by
  rcases s with rq | _
  · refine safe_bind.mpr (safe_locked hw (fun _ => hw) ?_)
    refine (safe_installing rq hw).mono (fun oc t ht => ?_) fun _ _ h => h
    rintro _ ⟨⟩
    exact ht
  · refine safe_locked hw (fun _ => hw) ?_
    refine safe_bind.mpr (safe_mapErr.mpr ((safe_loadJournal hw).mono ?_ ?_))
    · rintro (_ | journal) t ⟨rfl, hs, hv⟩
      · refine safe_pure.mpr fun oc h => ?_
        cases h
      · refine safe_bind.mpr ((safe_takeUp (hv journal rfl) ⟨hs.symm, hw⟩).mono
          (fun oc u hu => ?_) fun _ _ h => h)
        rintro _ ⟨⟩
        exact hu
    · rintro e t rfl
      exact hw

/-- Sessions one after another, from a disk with no journal or a prepared one. -/
def lifecycle (P : InstallPlatform X) : Machine (World X) Ended where
  init w := w.written = [] ∧ ∀ journal, w.journal = some journal → journal.Fresh
  step := World.Session P

lemma recoverable_of_reachable (h : (lifecycle P).Reachable w) : Recoverable L w := by
  refine h.invariant (fun s hs => ?_) fun s e t hs hst => ?_
  · obtain ⟨hwr, hf⟩ := hs
    refine ⟨fun journal hj => ?_, ?_, ?_, ?_, fun _ => hf⟩
    · have hon := (hf journal hj).open
      exact ⟨fun hp => by simp [hon.1] at hp, fun hr => by simp [hon.2] at hr⟩
    · simp [hwr]
    · simp [hwr]
    · simp [hwr]
  · exact (Program.Safe.exec hst hs (safe_process e.session hs)).1

lemma sound_of_session {s : Session} {oc : InstallOutcome} (hw : Recoverable L w)
    (h : World.Session P w ⟨s, some (.ok (some oc))⟩ w') : oc.Sound L w' :=
  (Program.Safe.exec h hw (safe_process s hw)).2 _ rfl oc rfl

/-! ## No way back from a rollback -/

/-- After a rollback, or its end, the next journal is of the same kind or of a new transaction. -/
lemma Follows.backward (h : Follows (some old) journal)
    (hold : old.disposition = .rollback ∨ old.disposition = .rolledBack) :
    journal.Fresh ∨ journal.disposition = .rollback ∨ journal.disposition = .rolledBack := by
  rcases h with ⟨hf, -⟩ | ⟨old', ho, hs⟩
  · exact .inl hf
  · cases ho
    rcases hs.move with ⟨ho, hj⟩ | ⟨ho, hj⟩ | ⟨ho, hj⟩ | ⟨ho, hj, ha⟩ | ⟨ho, hj⟩ | ⟨ho, hj⟩
    · simp [ho] at hold
    · simp [ho] at hold
    · simp [ho] at hold
    · simp [ho] at hold
    · exact .inr (.inl hj)
    · exact .inr (.inr hj)

/-- Between a rollback and a later commit a new transaction began. -/
lemma fresh_between {r c : Write} {between after : List Write}
    (hfo : ∀ e ∈ between ++ c :: after, Follows e.replaced e.journal)
    (hch : (r :: (between ++ c :: after)).IsChain fun a b => b.replaced = some a.journal)
    (hr : r.journal.disposition = .rollback ∨ r.journal.disposition = .rolledBack)
    (hc : c.journal.disposition = .committed) : ∃ e ∈ between, e.journal.Fresh := by
  induction between generalizing r with
  | nil =>
    have hre : c.replaced = some r.journal := (isChain_cons_cons.mp hch).1
    have hn := hfo c mem_cons_self
    rw [hre] at hn
    rcases hn.backward hr with hf | hb | hb
    · simp [hf.disposition] at hc
    · simp [hb] at hc
    · simp [hb] at hc
  | cons e between ih =>
    obtain ⟨hre, hrs⟩ := isChain_cons_cons.mp hch
    have hn := hfo e mem_cons_self
    rw [hre] at hn
    rcases hn.backward hr with hf | hb
    · exact ⟨e, mem_cons_self, hf⟩
    · obtain ⟨e', hm, hf⟩ :=
        ih (fun e' he' => hfo e' (mem_cons_of_mem _ he')) hrs hb
      exact ⟨e', mem_cons_of_mem _ hm, hf⟩

/-- **Crash safety.** -/
theorem crash_safe (L : LifecyclePlatform P) {w : World X} (h : (lifecycle P).Reachable w) :
    (∀ s unit w', World.Session P w ⟨s, some (.ok (some (.committed unit)))⟩ w' →
      ∃ journal, w'.journal = some journal ∧ journal.candidateUnit = unit ∧
        w'.written.getLast?.map Write.journal = some journal ∧
        journal.disposition = .committed ∧ w'.active = some unit ∧
        L.state w'.site = journal.targetPlatform ∧ w'.proof = some journal.ownerProof) ∧
    (∀ s active failure restored w',
      World.Session P w ⟨s, some (.ok (some (.rolledBack active failure false restored)))⟩ w' →
      ∃ journal, w'.journal = some journal ∧ journal.priorActiveUnit = active ∧
        w'.active = journal.priorActiveUnit ∧ L.state w'.site = journal.priorPlatform) ∧
    (∀ before r between c after, w.written = before ++ r :: (between ++ c :: after) →
      r.journal.disposition = .rollback → c.journal.disposition = .committed →
      ∃ e ∈ between, e.journal.Fresh) := by
  have hw : Recoverable L w := recoverable_of_reachable h
  refine ⟨fun s unit w' hs => ?_, fun s active failure restored w' hs => ?_, ?_⟩
  · obtain ⟨journal, hj, hd, hu, hp⟩ := sound_of_session hw hs
    have hw' : Recoverable L w' := recoverable_of_reachable (h.step hs)
    refine ⟨journal, hj, hu, ?_, hd, ?_, hp.shows.platform, hp.proof⟩
    · -- a committed journal is not the first, so it was written
      rcases hl : w'.written.getLast? with _ | e
      · have hf := hw'.first (getLast?_eq_none_iff.mp hl) journal hj
        simp [hf.disposition] at hd
      · rw [hw'.last e hl] at hj
        exact hj
    · exact hp.shows.active.trans (congrArg some hu)
  · obtain ⟨journal, hj, -, ha, hsh⟩ := sound_of_session hw hs
    exact ⟨journal, hj, ha, (hsh rfl).active, (hsh rfl).platform⟩
  · intro before r between c after hwr hr hc
    have hch := hw.chained
    rw [hwr] at hch
    refine fresh_between (fun e he => hw.follows e ?_) (isChain_append.mp hch).2.1 (.inl hr) hc
    rw [hwr]
    exact mem_append_right _ (mem_cons_of_mem _ he)

/-! ## A run

The first install on a platform whose effects do what they are asked. -/

/-- What is installed. -/
structure Site where
  active : Option UnitId
  layoutOperations : Nat
  launcher : Bool
  loaded : Bool
  running : Option UnitId
  autostart : Bool

/-- The layout and the launcher show the active unit. -/
def Site.state (x : Site) : PlatformState where
  layoutUnit := if 0 < x.layoutOperations then x.active else none
  launcherUnit := if x.launcher then x.active else none
  loaded := x.loaded
  runningUnit := x.running
  autostartEnabled := x.autostart

/-- The launcher file is there at the candidate's checkpoints, from its own on. -/
def Site.exact (x : Site) (checkpoint : PlatformCheckpoint) (index : Nat) : Bool :=
  index == x.layoutOperations && x.launcher ==
    (checkpoint matches .candidateLauncher | .candidateActive | .candidateManager
      | .candidateAutostart | .candidateRuntime | .priorActiveRestored)

/-- A transaction with one layout operation. -/
def Site.prepared (prior target : PlatformState) : PreparedPlatformTransaction where
  record := ⟨.linux, 1, [0]⟩
  transitions :=
    { priorUnloaded := { prior with loaded := false, runningUnit := none }
      candidateManager :=
        { target with runningUnit := none, autostartEnabled := prior.autostartEnabled }
      candidateAutostart := { target with runningUnit := none }
      priorManager := { prior with runningUnit := none }
      priorAutostart := { prior with runningUnit := none } }
  layoutOperationCount := 1

/-- The platform. -/
def trial : Answering Site where
  call
    | .inspect, x => (.ok x.state, x)
    | .prepareTransaction _ prior target, x => (.ok (Site.prepared prior.platform target), x)
    | .matchesExactState checkpoint _ index _ _, x => (.ok (x.exact checkpoint index), x)
    | .captureCandidateOwnerReceipt .., x => (.ok ⟨.linux, 1, [0]⟩, x)
    | .installLauncher _ unit _, x => (.ok (), { x with launcher := unit.isSome })
    | .installLayoutOperation .., x =>
      (.ok (), { x with layoutOperations := x.layoutOperations + 1 })
    | .reloadManager expected _, x => (.ok (), { x with loaded := expected.loaded })
    | .restoreAutostart expected _, x => (.ok (), { x with autostart := expected.autostartEnabled })
    | .restoreRuntime expected _ _, x =>
      (.ok (), { x with loaded := expected.loaded, running := expected.runningUnit })
    | .validateTransactionPlan .., x => (.ok (), x)
    | .preflightAuthority .., x => (.ok (), x)
    | .waitForGuardRelease .., x => (.ok (), x)
    | .waitForNewerOwner .., x => (.ok (), x)
    | .stopUnjournaledRuntime _, x => (.ok x.running.isSome, { x with running := none })
    | .matchesExactStateExceptRuntime checkpoint _ index _, x =>
      (.ok (x.exact checkpoint index), x)
    | .matchesUntouchedPrior prior _ _, x => (.ok (x.state == prior), x)
  switched unit x := { x with active := unit }

/-- Its inspections are truthful. -/
def trialLifecycle : LifecyclePlatform trial.platform where
  state := Site.state
  inspect x seen x' h := Except.ok.inj (Prod.mk.inj h).1
  observer call x answer x' hcall h := by
    cases call <;> first | exact congrArg Site.state (Prod.mk.inj h).2 | cases hcall
  takeRestoredRelease _ _ _ h := by rw [h.2]
  takeForcedStop _ _ _ h := by rw [h.2]

/-- Nothing is installed. -/
def trialStart : World Site := ⟨⟨none, 0, false, false, none, false⟩, none, none, [], [], none⟩

/-- The request. -/
def trialRequest : InstallRequest := ⟨benchJournal.transactionId, benchUnit, .enabledAndRunning⟩

/-- The world after the install. -/
def trialEnd : World Site :=
  ((Session.install trialRequest).program.run.runWith trial.handler trialStart).2

/-- It commits, with the candidate in place and its owner proven. -/
theorem crash_safe_trial : (lifecycle trial.platform).Reachable trialStart ∧
    trialEnd.active = some benchUnit ∧ trialEnd.site.state.runningUnit = some benchUnit ∧
    ∃ journal, trialEnd.journal = some journal ∧ journal.candidateUnit = benchUnit ∧
      trialEnd.written.getLast?.map Write.journal = some journal ∧
      journal.disposition = .committed ∧ trialEnd.active = some benchUnit ∧
      trialEnd.site.state = journal.targetPlatform ∧ trialEnd.proof = some journal.ownerProof := by
  have hs : (lifecycle trial.platform).Reachable trialStart :=
    .init ⟨rfl, fun journal hj => nomatch (hj : none = some journal)⟩
  have hr := trial.session_run (.install trialRequest) trialStart
  have hc : ((Session.install trialRequest).program.run.runWith trial.handler trialStart).1 =
      .ok (some (.committed benchUnit)) := by decide +kernel
  exact ⟨hs, by decide +kernel, by decide +kernel, (crash_safe trialLifecycle hs).1 _ _ _ hr⟩

end Hypercolor.Install
