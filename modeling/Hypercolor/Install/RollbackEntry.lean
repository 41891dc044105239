import Hypercolor.Install.CrashSafety

/-!
# Entering rollback

Where a failed forward step enters rollback. What the coordinator saw is the state the chosen rollback
action starts from, and from there each action ends where the next one starts, down to the prior
state (**`rollback_entry_sound`**). The forward actions and the rollback actions go by different
checkpoints, and it is the ones that name one state that make this so: the candidate launcher is the
prior active unit restored, the full candidate layout is the prior launcher restored, and the
unloaded prior is the prior layout restored.

At a layout checkpoint the layout unit is not part of the state: the platform answers for the exact
operations instead (`ExactLayout`).
-/

namespace Hypercolor.Install

open Lib Attempt List Checkpoints

variable {X : Type} {P : InstallPlatform X} {L : LifecyclePlatform P} {w : World X}
  {j : InstallJournalV1} {seen : InstallationState} {a entry : InstallAction}
  {tg before after : Target}

/-! ## The ends of an action -/

/-- The states an action goes between; `commit` and `finishRollback` leave the state they find. -/
def actionEnds (journal : InstallJournalV1) : InstallAction → Option (Target × Target)
  | .installCandidateLayout => some (layoutTargets journal true)
  | .restorePriorLayout => some (layoutTargets journal false)
  | action => (Transition.forAction journal action).toOption.map fun t =>
    (⟨t.before, t.beforeCheckpoint, journal.layoutOperationIndex⟩,
      ⟨t.after, t.afterCheckpoint, journal.layoutOperationIndex⟩)

/-- The end of a turn of `drive_rollback`: the rollback action after `action`, with the layout index
it runs at. -/
def afterRollback (journal : InstallJournalV1) (action : InstallAction) :
    Except InstallCoordinatorError (InstallAction × Nat) :=
  if action = .restorePriorLayout then
    if journal.layoutOperationIndex - 1 = 0 then
      (nextRollback action).map fun next => (next, journal.layoutOperationIndex - 1)
    else .ok (action, journal.layoutOperationIndex - 1)
  else (nextRollback action).map fun next => (next, journal.layoutOperationIndex)

/-- **From `action`, found at a state, to the prior**: each action ends where the next one starts. -/
inductive Descends : InstallJournalV1 → InstallAction → InstallationState → Prop
  | prior (journal : InstallJournalV1) :
    Descends journal .finishRollback (new journal).prior
  | step {journal : InstallJournalV1} {action next : InstallAction} {index : Nat}
    {before after : Target} {state : InstallationState} :
    actionEnds journal action = some (before, after) → state = before.state →
    afterRollback journal action = .ok (next, index) →
    Descends { journal with layoutOperationIndex := index } next after.state →
    Descends journal action state

/-- The inspected state is the target's; at a layout checkpoint its layout unit is not looked at. -/
structure Target.Holds (target : Target) (seen : InstallationState) : Prop where
  active : seen.activeUnit = target.state.activeUnit
  platform : ∃ unit, seen.platform = { target.state.platform with layoutUnit := unit } ∧
    (target.checkpoint.isLayout = false → unit = target.state.platform.layoutUnit)

/-! ## States with two names -/

/-- Unloading the prior keeps its units. -/
lemma InstallJournalV1.Sound.priorUnloaded (h : j.Sound) :
    j.transitionStates.priorUnloaded.layoutUnit = j.priorPlatform.layoutUnit ∧
      j.transitionStates.priorUnloaded.launcherUnit = j.priorPlatform.launcherUnit := by
  have hs := h.transitions
  simp only [PlatformTransitionStates.validate, check_eq_ok, failIf_eq_ok, Bool.or_eq_false_iff,
    bne_eq_false_iff_eq] at hs
  grind

lemma candidateLayout_eq (h : j.Sound) : (new j).candidateLayout = (new j).priorLauncherRestored := by
  simp [new, ← h.priorUnloaded.2]

lemma priorUnloaded_eq (h : j.Sound) : (new j).priorUnloaded = (new j).priorLayoutRestored := by
  simp [new, ← h.priorUnloaded.1, ← h.priorUnloaded.2]

/-! ## Down to the prior -/

/-- Once the layout is restored, whatever its index. -/
lemma descends_reloadPriorManager : Descends j .reloadPriorManager (new j).priorLayoutRestored :=
  .step rfl rfl rfl (.step rfl rfl rfl (.step rfl rfl rfl (.step rfl rfl rfl (.prior _))))

/-- From an unfinished layout: one operation is undone at a time. -/
lemma descends_layout {i : Nat} (hp : 0 < i) (hl : i < j.layoutOperationCount) :
    Descends { j with layoutOperationIndex := i } .restorePriorLayout (new j).priorLayoutRestored := by
  induction i with
  | zero => exact absurd hp (Nat.lt_irrefl 0)
  | succ i ih =>
    have he : actionEnds { j with layoutOperationIndex := i + 1 } .restorePriorLayout =
        some (⟨(new j).priorLayoutRestored, .priorLayoutRestored, i + 1⟩,
          ⟨(new j).priorLayoutRestored, .priorLayoutRestored, i⟩) := by
      simp only [actionEnds, layoutTargets, Bool.false_eq_true, ite_false, if_neg hl.ne]
      rfl
    rcases Nat.eq_zero_or_pos i with rfl | hindex
    · exact .step he rfl rfl descends_reloadPriorManager
    · have hn : afterRollback { j with layoutOperationIndex := i + 1 }
          .restorePriorLayout = .ok (.restorePriorLayout, i) := by
        simp [afterRollback, hindex.ne']
      exact .step he rfl hn (ih hindex (by omega))

section

variable (h : j.Sound) (hindex : j.layoutOperationIndex = j.layoutOperationCount)
include h hindex

/-- From the full layout. -/
lemma descends_fullLayout : Descends j .restorePriorLayout (new j).priorLauncherRestored := by
  have hp := h.count_pos
  have he : actionEnds j .restorePriorLayout =
      some (⟨(new j).priorLauncherRestored, .priorLauncherRestored, j.layoutOperationIndex⟩,
        ⟨(new j).priorLayoutRestored, .priorLayoutRestored,
          j.layoutOperationIndex - 1⟩) := by
    simp only [actionEnds, layoutTargets, Bool.false_eq_true, ite_false, if_pos hindex]
  by_cases hon : j.layoutOperationIndex - 1 = 0
  · have hn : afterRollback j .restorePriorLayout =
        .ok (.reloadPriorManager, j.layoutOperationIndex - 1) := by
      simp [afterRollback, hon, nextRollback, Except.map]
    exact .step he rfl hn descends_reloadPriorManager
  · have hn : afterRollback j .restorePriorLayout =
        .ok (.restorePriorLayout, j.layoutOperationIndex - 1) := by
      simp [afterRollback, hon]
    exact .step he rfl hn (descends_layout (by omega) (by omega))

/-- From the candidate's own states. -/
lemma descends_restorePriorLauncher : Descends j .restorePriorLauncher (new j).priorActiveRestored :=
  .step rfl rfl rfl (descends_fullLayout h hindex)

lemma descends_proveCandidateGuardReleased :
    Descends j .proveCandidateGuardReleased (new j).candidateActive :=
  .step rfl rfl rfl (.step rfl rfl rfl (descends_restorePriorLauncher h hindex))

lemma descends_unloadCandidateManager : Descends j .unloadCandidateManager (new j).candidateManager :=
  .step rfl rfl rfl (descends_proveCandidateGuardReleased h hindex)

end

/-! ## What was seen, and what is chosen -/

/-- The exact-state test of this journal's record proves the layout: a checkpoint only at its layout
index, and the layout unit once every operation is done. -/
structure ExactLayout (L : LifecyclePlatform P) (journal : InstallJournalV1) : Prop where
  index : JournalExact P journal
  complete : ∀ expected receipt x x', P.call (.matchesExactState .candidateLayout expected
    journal.layoutOperationCount journal.platformRecord receipt) x (.ok true) x' →
      (L.state x).layoutUnit = expected.layoutUnit

/-- The inspection matched this target. -/
structure Recognised (journal : InstallJournalV1) (seen : InstallationState) (target : Target) :
    Prop where
  holds : target.Holds seen
  requires : target.checkpoint.requires journal.layoutOperationCount target.index
  complete : target.checkpoint = .candidateLayout → target.index = journal.layoutOperationCount →
    seen.platform.layoutUnit = target.state.platform.layoutUnit

/-- **The entry starts from what was seen**, and leads to the prior. -/
def StartsFrom (journal : InstallJournalV1) (entry : InstallAction) (seen : InstallationState) : Prop :=
  ∃ state, Descends journal entry state ∧ (entry = .finishRollback ∧ seen = state ∨ ∃ before after,
      actionEnds journal entry = some (before, after) ∧ before.state = state ∧
        before.index = journal.layoutOperationIndex ∧ before.Holds seen)

lemma Target.Holds.eq (h : tg.Holds seen) (hl : tg.checkpoint.isLayout = false) : seen = tg.state := by
  obtain ⟨⟨activeUnit, platform⟩, point, index⟩ := tg
  obtain ⟨seenUnit, seenPlatform⟩ := seen
  obtain ⟨unit, hp, hu⟩ := h.platform
  have ha : seenUnit = activeUnit := h.active
  have hs : seenPlatform = platform := by rw [hu hl] at hp; exact hp
  rw [ha, hs]

lemma Target.holds_self (h : seen = tg.state) : tg.Holds seen :=
  ⟨congrArg _ h, _, congrArg _ h, fun _ => rfl⟩

/-- An entry at an action that starts from a state the target is another name of. -/
lemma starts_at (he : actionEnds j entry = some (before, after))
    (hindex : before.index = j.layoutOperationIndex) (hs : seen = before.state)
    (hd : Descends j entry before.state) : StartsFrom j entry seen :=
  ⟨_, hd, .inr ⟨before, after, he, rfl, hindex, Target.holds_self hs⟩⟩

/-- The layout, as far as it is installed, is the layout as far as it is still to be restored. -/
lemma starts_restorePriorLayout (h : j.Sound) (hpo : 0 < j.layoutOperationIndex)
    (hs : Recognised j seen ⟨(new j).candidateLayout, .candidateLayout,
      j.layoutOperationIndex⟩) : StartsFrom j .restorePriorLayout seen := by
  obtain ⟨unit, hp, -⟩ := hs.holds.platform
  by_cases hf : j.layoutOperationIndex = j.layoutOperationCount
  · have hu : unit = (new j).candidateLayout.platform.layoutUnit := by
      rw [← hs.complete rfl hf, hp]
    have hst : seen = (new j).priorLauncherRestored := by
      have hec : (⟨(new j).candidateLayout, .candidateLauncher, 0⟩ :
          Target).Holds seen := ⟨hs.holds.active, unit, hp, fun _ => hu⟩
      rw [← candidateLayout_eq h]
      exact hec.eq rfl
    have he : actionEnds j .restorePriorLayout =
        some (⟨(new j).priorLauncherRestored, .priorLauncherRestored,
          j.layoutOperationIndex⟩, (layoutTargets j false).2) := by
      simp only [actionEnds, layoutTargets, Bool.false_eq_true, ite_false, if_pos hf]
    exact starts_at he rfl hst (descends_fullLayout h hf)
  · have hl : j.layoutOperationIndex < j.layoutOperationCount :=
      Nat.lt_of_le_of_ne h.index_le hf
    have he : actionEnds j .restorePriorLayout = some (⟨(new j).priorLayoutRestored, .priorLayoutRestored,
          j.layoutOperationIndex⟩, (layoutTargets j false).2) := by
      simp only [actionEnds, layoutTargets, Bool.false_eq_true, ite_false, if_neg hf]
    refine ⟨_, descends_layout hpo hl, .inr ⟨_, _, he, rfl, rfl, ?_⟩⟩
    refine ⟨hs.holds.active, unit, ?_, nofun⟩
    rw [hp, ← priorUnloaded_eq h]
    rfl

/-- **Every entry starts from the state it is chosen for.** -/
theorem starts_of_entry (h : j.Sound) (he : (tg, entry) ∈ rollbackEntries j)
    (hs : Recognised j seen tg) : StartsFrom j entry seen := by
  have hindex := hs.requires
  simp only [rollbackEntries, mem_append, mem_cons, not_mem_nil, or_false, Prod.mk.injEq] at he
  obtain ((⟨rfl, rfl⟩ | ⟨rfl, rfl⟩ | ⟨rfl, rfl⟩ | ⟨rfl, rfl⟩ | ⟨rfl, rfl⟩) | hl) |
    ⟨rfl, rfl⟩ | ⟨rfl, rfl⟩ := he
  · exact starts_at rfl rfl (hs.holds.eq rfl)
      (.step rfl rfl rfl (.step rfl rfl rfl (descends_unloadCandidateManager h hindex)))
  · exact starts_at rfl rfl (hs.holds.eq rfl)
      (.step rfl rfl rfl (descends_unloadCandidateManager h hindex))
  · exact starts_at rfl rfl (hs.holds.eq rfl) (descends_unloadCandidateManager h hindex)
  · exact starts_at rfl rfl (hs.holds.eq rfl) (descends_proveCandidateGuardReleased h hindex)
  · exact starts_at rfl rfl (hs.holds.eq rfl) (descends_restorePriorLauncher h hindex)
  · split at hl
    · next hp =>
      obtain ⟨rfl, rfl⟩ := Prod.mk.inj (mem_singleton.mp hl)
      exact starts_restorePriorLayout h hp hs
    · exact absurd hl not_mem_nil
  · exact starts_at rfl rfl ((hs.holds.eq rfl).trans (priorUnloaded_eq h)) descends_reloadPriorManager
  · exact ⟨_, .prior j, .inl ⟨rfl, hs.holds.eq rfl⟩⟩

lemma checkpoints_at {i : Nat} : new { j with layoutOperationIndex := i } = new j := rfl

/-- The entry of a layout operation that is not done. -/
def layoutEntry (journal : InstallJournalV1) : InstallAction :=
  if journal.layoutOperationIndex = 0 then .reloadPriorManager else .restorePriorLayout

lemma layoutEntry_before : ((layoutTargets j true).1, layoutEntry j) ∈ rollbackEntries j := by
  by_cases hz : j.layoutOperationIndex = 0
  · simp [rollbackEntries, layoutTargets, layoutEntry, hz]
  · simp [rollbackEntries, layoutTargets, layoutEntry, hz, Nat.pos_of_ne_zero hz]

lemma layoutEntry_after : ((layoutTargets j true).2, InstallAction.restorePriorLayout) ∈
    rollbackEntries { j with layoutOperationIndex := j.layoutOperationIndex + 1 } := by
  simp [rollbackEntries, layoutTargets, checkpoints_at]

/-- **No end of a forward action is without an entry.** -/
theorem entry_of_end (h : AtAction j .forward a)
    (he : actionEnds j a = some (before, after)) (hen : tg = before ∨ tg = after) :
    ∃ entry, (tg, entry) ∈ rollbackEntries { j with layoutOperationIndex := tg.index } := by
  by_cases hl : a = .installCandidateLayout
  · subst hl
    have hp : layoutTargets j true = (before, after) := Option.some.inj he
    obtain ⟨rfl, rfl⟩ : (layoutTargets j true).1 = before ∧
        (layoutTargets j true).2 = after := Prod.mk.inj hp
    obtain rfl | rfl := hen
    · have hindex : (layoutTargets j true).1.index = j.layoutOperationIndex := by
        simp only [layoutTargets, ite_true]
        split <;> rfl
      rw [hindex]
      exact ⟨_, layoutEntry_before⟩
    · exact ⟨_, layoutEntry_after⟩
  · have hc := h.fits.cursor
    have hpo := h.valid.sound.count_pos
    have hf : a.isForward := h.fits.action
    cases a <;> cases he <;> obtain rfl | rfl := hen
    all_goals
      simp only [rollbackEntries, checkpoints_at]
      simp_all [InstallJournalV1.layoutCursorMatchesAction, InstallAction.isForward]

/-! ## Runs -/

/-- Whatever the platform does and wherever it is cut, a result is like this. -/
abbrev Ensures {ε α : Type} (P : InstallPlatform X) (x : Coord ε α) (R : α → World X → Prop)
    (w : World X) : Prop :=
  x.Safe (World.step P) (fun _ => True) R (fun _ _ => True) w

section

variable {ε ε' α β : Type} {x : Coord ε α} {Q : α → World X → Prop} {R : β → World X → Prop}

lemma Ensures.bind {f : α → Coord ε β} (hx : Ensures P x Q w)
    (hf : ∀ a t, Q a t → Ensures P (f a) R t) : Ensures P (x >>= f) R w :=
  safe_bind.mpr (hx.mono hf fun _ _ h => h)

lemma Ensures.skip {f : α → Coord ε β} (hf : ∀ a t, Ensures P (f a) R t) : Ensures P (x >>= f) R w :=
  safe_bind.mpr (Program.safe_of_forall (fun _ => trivial) fun r t => by
    rcases r with e | a
    · trivial
    · exact hf a t)

lemma Ensures.pure {a : α} (h : Q a w) : Ensures P (pure a : Coord ε α) Q w := safe_pure.mpr h

lemma Ensures.ite {c : Prop} [Decidable c] {x y : Coord ε α} (hx : c → Ensures P x Q w)
    (hy : ¬c → Ensures P y Q w) : Ensures P (if c then x else y) Q w := by
  split
  · next h => exact hx h
  · next h => exact hy h

/-- After an outcome of which only the success is known. -/
lemma Ensures.outcome {f : Except ε α → Coord ε' β} (hx : Ensures P x Q w)
    (hok : ∀ a t, Q a t → Ensures P (f (.ok a)) R t)
    (he : ∀ e t, Ensures P (f (.error e)) R t) : Ensures P (outcome x >>= f) R w :=
  safe_bind.mpr (safe_outcome.mpr (hx.mono hok fun e t _ => he e t))

end

/-- An entry is chosen: the installation shows a state that was recognised as the entry's. -/
def Chosen (L : LifecyclePlatform P) (journal : InstallJournalV1) (entry : InstallAction)
    (t : World X) : Prop :=
  ∃ seen target, Shows L seen t ∧ (target, entry) ∈ rollbackEntries journal ∧
      Recognised journal seen target

lemma ensures_inspect : Ensures P inspectState (Shows L) w :=
  (safe_inspect fun _ _ => trivial).mono (fun _ _ h => h.2) fun _ _ _ => trivial

/-- What the coordinator itself compares. -/
lemma holds_of_compared
    (hn : ¬ (seen.activeUnit != tg.state.activeUnit || !(if tg.checkpoint.isLayout then
        seen.platform.launcherUnit == tg.state.platform.launcherUnit
          && seen.platform.loaded == tg.state.platform.loaded
          && seen.platform.runningUnit == tg.state.platform.runningUnit
          && seen.platform.autostartEnabled == tg.state.platform.autostartEnabled
        else seen.platform == tg.state.platform))) : tg.Holds seen := by
  simp only [Bool.or_eq_true, bne_iff_ne, ne_eq, not_or, Decidable.not_not] at hn
  obtain ⟨ha, hp⟩ := hn
  by_cases hl : tg.checkpoint.isLayout
  · rw [if_pos hl] at hp
    simp only [Bool.not_eq_eq_eq_not, Bool.not_true, Bool.not_eq_false, Bool.and_eq_true,
      beq_iff_eq] at hp
    obtain ⟨⟨⟨hln, hld⟩, hr⟩, hau⟩ := hp
    refine ⟨ha, seen.platform.layoutUnit, ?_, fun h => absurd hl (by simp [h])⟩
    dsimp only
    rw [← hln, ← hld, ← hr, ← hau]
  · rw [if_neg hl] at hp
    have hs : seen.platform = tg.state.platform := by simpa using hp
    exact ⟨ha, _, hs, fun _ => rfl⟩

lemma ensures_matchesTarget (he : ExactLayout L j) (hs : Shows L seen w) :
    Ensures P (matchesTarget j seen tg) (fun mt t => Shows L seen t ∧ (mt → Recognised j seen tg)) w := by
  refine Ensures.ite (fun _ => ⟨hs, Bool.noConfusion⟩) fun hn => ?_
  have hh : tg.Holds seen := holds_of_compared hn
  refine safe_mapErr.mpr (safe_bind.mpr (safe_ask.mpr fun an t hB => ⟨trivial, ?_⟩))
  have ht : Shows L seen t := (step_observes (c := .platform (.matchesExactState ..)) rfl hB).shows hs
  rcases an with e | mt
  · trivial
  · refine ⟨ht, fun hm => ?_⟩
    obtain rfl : mt = true := hm
    have hr := he.index _ _ _ _ _ ⟨w, t, hB⟩ rfl
    obtain ⟨x, hc, -⟩ := hB
    refine ⟨hh, hr, fun hch hindex => ?_⟩
    rw [hch, hindex] at hc
    rw [← hs.platform]
    exact he.complete _ _ _ _ hc

lemma ensures_firstMatch (he : ExactLayout L j) (es : List (Target × InstallAction))
    (hs : Shows L seen w) :
    Ensures P (firstMatch j seen es) (fun fd t => Shows L seen t ∧
      ∀ entry, fd = some entry → ∃ tg, (tg, entry) ∈ es ∧ Recognised j seen tg) w := by
  induction es generalizing w with
  | nil => exact ⟨hs, nofun⟩
  | cons head rest ih =>
    refine (ensures_matchesTarget he hs).bind fun mt t ht => ?_
    split
    · next hm =>
      refine ⟨ht.1, ?_⟩
      rintro _ ⟨⟩
      exact ⟨head.1, mem_cons_self, ht.2 hm⟩
    · refine (ih ht.1).mono (fun fd u hu => ⟨hu.1, fun entry h => ?_⟩) fun _ _ h => h
      obtain ⟨tg, hme, hse⟩ := hu.2 entry h
      exact ⟨tg, mem_cons_of_mem _ hme, hse⟩

lemma ensures_entryDrift {R : InstallAction → World X → Prop} : Ensures P (entryDrift j a seen) R w :=
  .skip fun _ _ => trivial

lemma ensures_rollbackEntryAction (he : ExactLayout L j) :
    Ensures P (rollbackEntryAction j a) (Chosen L j) w := by
  refine (ensures_inspect (L := L)).bind fun seen t hs => ?_
  refine (ensures_firstMatch he _ hs).bind ?_
  rintro (_ | entry) u ⟨hu, hf⟩
  · dsimp only
    split
    · exact ensures_entryDrift
    · refine .skip fun stopped v => ?_
      split
      · refine (ensures_inspect (L := L)).bind fun again x hx => ?_
        refine (ensures_firstMatch he _ hx).bind ?_
        rintro (_ | entry) y ⟨hy, hf'⟩
        · exact ensures_entryDrift
        · obtain ⟨tg, hm, hse⟩ := hf' entry rfl
          exact ⟨again, tg, hy, hm, hse⟩
      · exact ensures_entryDrift
  · obtain ⟨tg, hm, hse⟩ := hf entry rfl
    exact ⟨seen, tg, hu, hm, hse⟩

/-! ## Taking it up -/

/-- Two journals of one plan, at one layout index. -/
structure SameLayout (journal next : InstallJournalV1) : Prop where
  checkpoints : new next = new journal
  count : next.layoutOperationCount = journal.layoutOperationCount
  index : next.layoutOperationIndex = journal.layoutOperationIndex

lemma SameLayout.trans {a b c : InstallJournalV1} (h : SameLayout a b) (h' : SameLayout b c) :
    SameLayout a c :=
  ⟨h'.checkpoints.trans h.checkpoints, h'.count.trans h.count, h'.index.trans h.index⟩

lemma Captured.sameLayout {cap : InstallJournalV1} (h : Captured j cap) : SameLayout j cap := by
  obtain rfl | ⟨rc, -, -, rfl⟩ := h.same_or
  iterate 2 exact ⟨rfl, rfl, rfl⟩

lemma sameLayout_forced {forced : Option UnitId} : SameLayout j (j.withForcedStop forced) := by
  rcases forced with _ | unit
  · exact ⟨rfl, rfl, rfl⟩
  · simp only [InstallJournalV1.withForcedStop]
    split
    iterate 2 exact ⟨rfl, rfl, rfl⟩

lemma Chosen.of_same {nx : InstallJournalV1} {t : World X} (h : Chosen L j entry t)
    (hsa : SameLayout j nx) : Chosen L nx entry t := by
  obtain ⟨seen, tg, hs, hm, hse⟩ := h
  refine ⟨seen, tg, hs, ?_, hse.holds, ?_, fun hc hi => ?_⟩
  · unfold rollbackEntries at hm ⊢
    rwa [hsa.checkpoints, hsa.index]
  · rw [hsa.count]
    exact hse.requires
  · exact hse.complete hc (hi.trans hsa.count)

/-- Only the journal on the disk changes. -/
lemma Chosen.of_shows {t u : World X} (h : Chosen L j entry t)
    (hsh : ∀ s, Shows L s t → Shows L s u) : Chosen L j entry u := by
  obtain ⟨seen, tg, hs, hm, hse⟩ := h
  exact ⟨seen, tg, hsh seen hs, hm, hse⟩

/-- What a journal that has just been turned to rollback says. -/
def Turned (L : LifecyclePlatform P) (next : InstallJournalV1) (t : World X) : Prop :=
  ∃ entry, next.nextAction = some entry ∧ next.Valid ∧ Chosen L next entry t

/-- The journal a step turns to rollback. -/
def ForwardStep.Turns (L : LifecyclePlatform P) (step : ForwardStep) (t : World X) : Prop :=
  ∀ next, step = .rollback next → Turned L next t

/-- The chosen entry is persisted with the state it was chosen for still there. -/
lemma ensures_failTo {fl : String} (h : Chosen L j entry w) :
    Ensures P (failTo j fl entry) (ForwardStep.Turns L) w := by
  refine safe_bind.mpr (safe_bind.mpr (safe_ask.mpr ?_))
  rintro an t ⟨rfl, rfl⟩
  refine ⟨trivial, safe_mapErr.mpr (safe_ofExcept.mpr ?_)⟩
  split
  · next advanced ha =>
    obtain ⟨rfl, -⟩ := InstallJournalV1.advance_eq_ok ha
    refine safe_bind.mpr (safe_bind.mpr (safe_ask.mpr fun forced u hB => ⟨trivial, ?_⟩))
    have hu := step_observes (L := L) (c := .takeForcedStop) trivial hB
    refine safe_bind.mpr (safe_mapErr.mpr (safe_bind.mpr (safe_mapErr.mpr (safe_ofExcept.mpr ?_))))
    split
    · next hv =>
      refine safe_bind.mpr (safe_ask.mpr fun an v hB => ⟨trivial, safe_ofExcept.mpr ?_⟩)
      split
      · rintro _ ⟨⟩
        refine ⟨entry, ?_, InstallJournalV1.validate_eq_ok.mp hv, ?_⟩
        · rcases forced with _ | unit
          · rfl
          · simp only [InstallJournalV1.withForcedStop]
            split
            · rfl
            · rfl
        · have hsa : SameLayout j ({ j with failure := some fl }.advanced
              .rollback (some entry)) := ⟨rfl, rfl, rfl⟩
          refine (h.of_same (hsa.trans sameLayout_forced)).of_shows fun s hs => ?_
          have hs' : Shows L s u := hu.shows ⟨hs.active, hs.platform⟩
          obtain rfl | ⟨-, rfl⟩ := hB
          · exact ⟨hs'.active, hs'.platform⟩
          · exact hs'
      · trivial
    · trivial
  · trivial

/-- Where entering rollback has chosen an action. -/
def EntersWith (L : LifecyclePlatform P) (r : InstallJournalV1 × RollbackEntry) (t : World X) : Prop :=
  ∀ next entry, r = (next, .action entry) → Chosen L next entry t

lemma ensures_capture : Ensures P (captureCandidateOwnerReceipt j)
    (fun cap t => Untouched L w t ∧ Captured j cap) w :=
  (Within.safe (J := Untouched L w) (captureCandidateOwnerReceipt_within observing_observes j)
    (fun _ _ _ _ hc hB hJ => ⟨trivial, hJ.trans (step_observes hc hB)⟩) (fun _ _ => trivial)
    .rfl).mono (fun _ _ h => h.symm) fun _ _ _ => trivial

lemma ensures_enterRollbackOnce (he : ExactLayout L j) {retry : InstallCoordinatorError →
      Coord InstallCoordinatorError (InstallJournalV1 × RollbackEntry)}
    (hr : ∀ e t, Ensures P (retry e) (EntersWith L) t) :
    Ensures P (enterRollbackOnce j a retry) (EntersWith L) w := by
  refine (ensures_rollbackEntryAction he).outcome (fun entry t ht => ?_) fun e t => ?_
  · dsimp only
    split
    · rintro _ _ ⟨⟩
      exact ht
    · refine (ensures_capture (L := L)).outcome (fun cap u hu => .pure ?_) fun e u => ?_
      · rintro _ _ ⟨⟩
        exact (ht.of_same hu.2.sameLayout).of_shows fun s hs => hu.1.shows hs
      · rcases e with err | err | dt
        · exact hr err u
        · trivial
        · trivial
  · rcases e with _ | _ | _ | _ | _ | _ | ⟨fl, before, after, actual⟩ | _ | _ | _ | _
    case stateDrift =>
      dsimp only
      split
      · refine .skip fun seen u => .skip fun dt v => ?_
        rcases dt with _ | dt
        · trivial
        · exact .pure fun _ _ h => by cases h
      · trivial
    all_goals trivial

lemma ensures_enterRollback (he : ExactLayout L j) (ats : Nat) :
    Ensures P (enterRollback j a ats) (EntersWith L) w := by
  induction ats generalizing w with
  | zero => exact ensures_enterRollbackOnce he fun _ _ => trivial
  | succ ats ih => exact ensures_enterRollbackOnce he fun _ _ => ih

/-- What is left of a failed layout operation is where its entry starts. -/
lemma ensures_layoutProgress (he : ExactLayout L j) :
    Ensures P (reconcileForwardLayoutProgressAfterError j)
      (fun next t => Chosen L next (layoutEntry next) t) w := by
  refine (ensures_inspect (L := L)).bind fun seen t hs => ?_
  refine (ensures_matchesTarget he hs).bind fun matched u hu => ?_
  split
  · next h =>
    have hse := hu.2 h
    exact ⟨seen, _, hu.1, layoutEntry_after, hse.holds, hse.requires, hse.complete⟩
  · refine (ensures_matchesTarget he hu.1).bind fun matched v hv => ?_
    split
    · next h => exact ⟨seen, _, hv.1, layoutEntry_before, hv.2 h⟩
    · trivial

lemma ensures_forwardTo : Ensures P (forwardTo j a) (ForwardStep.Turns L) w :=
  .skip fun _ _ => .skip fun _ _ => .pure fun _ h => nomatch h

lemma ensures_forwardLayoutStep (he : ExactLayout L j) :
    Ensures P (forwardLayoutStep j) (ForwardStep.Turns L) w := by
  refine .skip fun r t => ?_
  rcases r with (e | e | dt) | ⟨⟩
  · exact (ensures_layoutProgress he).bind fun nx u hu => ensures_failTo hu
  · trivial
  · trivial
  · exact .skip fun nx u => ensures_forwardTo

lemma ensures_forwardActionStep (he : ExactLayout L j) :
    Ensures P (forwardActionStep j a) (ForwardStep.Turns L) w := by
  refine .skip fun r t => ?_
  rcases r with (e | e | dt) | nx
  · refine (ensures_enterRollback he _).bind ?_
    rintro ⟨nx, entry | dt⟩ u hu
    · exact ensures_failTo (hu nx entry rfl)
    · exact .skip fun _ _ => .pure fun _ h => nomatch h
  · trivial
  · exact .skip fun _ _ => .pure fun _ h => nomatch h
  · exact .skip fun _ _ => ensures_forwardTo

/-- One turn of `drive_forward`. -/
lemma ensures_forwardStep (he : ExactLayout L j) : Ensures P (forwardStep j) (ForwardStep.Turns L) w := by
  unfold forwardStep
  split
  · trivial
  · split
    · exact .skip fun _ _ => .skip fun _ _ => .pure fun _ h => nomatch h
    · split
      · exact ensures_forwardLayoutStep he
      · exact ensures_forwardActionStep he

/-- **Rollback entry soundness.** Both ends of every forward action are states a rollback enters at;
and whenever a turn of a valid journal turns it to rollback, what the installation then shows is the
state the chosen action starts from, at the layout index chosen with it, with each action from there
ending where the next one starts, down to the prior. -/
theorem rollback_entry_sound (L : LifecyclePlatform P) (hexact : ExactLayout L journal)
    (h : AtAction journal .forward action) :
    (∀ before after, actionEnds journal action = some (before, after) →
      ∀ target, target = before ∨ target = after → ∃ entry,
        (target, entry) ∈ rollbackEntries { journal with layoutOperationIndex := target.index }) ∧
    ∀ w next t, (forwardStep journal).run.Exec (World.step P) w (some (.ok (.rollback next))) t →
      ∃ entry seen, next.nextAction = some entry ∧ Shows L seen t ∧ StartsFrom next entry seen := by
  refine ⟨fun before after he target => entry_of_end h he, fun w next t hr => ?_⟩
  have ht := (Program.Safe.exec hr trivial (ensures_forwardStep hexact)).2 _ rfl
  obtain ⟨entry, hn, hv, seen, target, hs, hm, hse⟩ := ht next rfl
  exact ⟨entry, seen, hn, hs, starts_of_entry hv.sound hm hse⟩

/-! ## A candidate that is never proven -/

/-- The candidate runs, and its owner is to be proven. -/
def provingJournal : InstallJournalV1 :=
  { benchJournal with nextAction := some .proveCandidate, candidateOwnerReceipt := some ⟨.linux, 1, [0]⟩ }

/-- A platform that never proves it. -/
def unproven : Answering Unit where
  call
    | .waitForNewerOwner .., _ => (.error ⟨"no newer owner"⟩, ())
    | call, _ => (benchReply .linux call, ())
  switched _ _ := ()

def unprovenLifecycle : LifecyclePlatform unproven.platform where
  state _ := benchJournal.targetPlatform
  inspect _ _ _ h := Except.ok.inj (Prod.mk.inj h).1
  observer _ _ _ _ _ _ := rfl
  takeRestoredRelease _ _ _ _ := rfl
  takeForcedStop _ _ _ _ := rfl

lemma unproven_exact {point : PlatformCheckpoint} {exp : PlatformState} {i : Nat}
    {rec : PlatformTransactionRecord} {rc : Option PlatformOwnerReceipt}
    (h : unproven.platform.call (.matchesExactState point exp i rec rc) ()
      (.ok true) ()) : point = .candidateRuntime ∧ i = 1 := by
  have hm : (point == .candidateRuntime && i == 1) := (Except.ok.inj (Prod.mk.inj h).1).symm
  simpa using hm

lemma unproven_exactLayout : ExactLayout unprovenLifecycle provingJournal where
  index := by
    rintro point exp i rc _ ⟨w, t, x, hc, -⟩ rfl
    obtain ⟨rfl, rfl⟩ := unproven_exact hc
    exact rfl
  complete _ _ _ _ h := absurd (unproven_exact h).1 nofun

/-- The world before. -/
def unprovenStart : World Unit := ⟨(), some benchUnit, some provingJournal, [], [], none⟩

/-- The journal that a step hands to the rollback. -/
def rolledBack : Except InstallCoordinatorError ForwardStep → Option InstallJournalV1
  | .ok (.rollback next) => some next
  | _ => none

/-- It goes back by unloading the runtime it is seen to have. -/
theorem rollback_entry_sound_unproven : ∃ next t,
    (forwardStep provingJournal).run.Exec (World.step unproven.platform) unprovenStart
      (some (.ok (.rollback next))) t ∧ ∃ entry seen, next.nextAction = some entry ∧
        Shows unprovenLifecycle seen t ∧ StartsFrom next entry seen := by
  have ha : AtAction provingJournal .forward .proveCandidate :=
    ⟨InstallJournalV1.validate_eq_ok.mp (by decide +kernel), rfl, rfl⟩
  have hr := Program.exec_runWith (S := calls) (B := World.step unproven.platform)
    unproven.handler_step (forwardStep provingJournal).run unprovenStart
  have ht : (rolledBack
      ((forwardStep provingJournal).run.runWith unproven.handler unprovenStart).1).isSome := by
    decide +kernel
  unfold rolledBack at ht
  split at ht
  · next next hn =>
    rw [hn] at hr
    exact ⟨next, _, hr, (rollback_entry_sound unprovenLifecycle unproven_exactLayout ha).2 _ _ _ hr⟩
  · cases ht

end Hypercolor.Install
