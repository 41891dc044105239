import Hypercolor.Install.World

/-!
# What reconciliation may do

Everything between two journals, from inspection to the choice of a rollback entry, makes quiet calls
only: no journal is advanced or written in between. Stated with `Attempt.Within`, so that the same
facts serve under every behaviour of the platform:

* `Calm`: a quiet program, of whatever result;
* **`captureCandidateOwnerReceipt_within`**, **`enterRollback_within`**: what the programs that return
  a changed journal return.
-/

namespace Hypercolor.Install

open Lib Attempt List Option Within InstallJournalV1

/-- Not the model's own out-of-fuel error. -/
def InstallCoordinatorError.Ordinary (e : InstallCoordinatorError) : Prop := e ≠ .exhausted

/-- The error in a step error is ordinary, and the transaction is abandoned only under `A`. -/
def StepError.Ordinary (A : Prop) : StepError → Prop
  | .effect error | .fatal error => error.Ordinary
  | .abandon _ => A

/-- A program of quiet calls, of whatever result, whose failures satisfy `E`. -/
def Calm {ε α : Type} (K : Contract calls) (E : ε → Prop) (x : Coord ε α) : Prop :=
  x.Within K (fun _ => True) E

/-- Quiet calls are allowed. -/
def AllowsQuiet (K : Contract calls) : Prop := ∀ c : InstallCall, c.quiet → K.allowed c

/-- Observations are allowed. -/
def AllowsObserving (K : Contract calls) : Prop := ∀ c : InstallCall, c.observes → K.allowed c

lemma AllowsQuiet.observing {K : Contract calls} (hK : AllowsQuiet K) : AllowsObserving K :=
  fun c hc => hK c hc.quiet

section

variable {K : Contract calls} {ε ε' α β : Type} {E : ε → Prop}

namespace Calm

lemma pure {a : α} : Calm K E (pure a : Coord ε α) := trivial

lemma throw {e : ε} (h : E e) : Calm K E (throw e : Coord ε α) := h

lemma ofExcept {r : Except ε α} (h : ∀ e, r = .error e → E e) :
    Calm K E (Attempt.ofExcept r : Coord ε α) := by
  rcases r with e | a
  · exact h e rfl
  · trivial

lemma bind {x : Coord ε α} {f : α → Coord ε β} (hx : Calm K E x)
    (hf : ∀ a, Calm K E (f a)) : Calm K E (x >>= f) :=
  Within.bind (hx.mono (fun a _ => hf a) (fun _ => id))

/-- A quiet program before one with a known result. -/
lemma then_within {Q : β → Prop} {x : Coord ε α} {f : α → Coord ε β} (hx : Calm K E x)
    (hf : ∀ a, (f a).Within K Q E) : (x >>= f).Within K Q E :=
  Within.bind (hx.mono (fun a _ => hf a) (fun _ => id))

lemma mapErr {E' : ε' → Prop} {f : ε → ε'} {x : Coord ε α} (hx : Calm K E x)
    (h : ∀ e, E e → E' (f e)) : Calm K E' (mapErr f x) :=
  Within.mapErr (hx.mono (fun _ => id) h)

lemma fatal {A : Prop} {x : Coord InstallCoordinatorError α}
    (hx : Calm K InstallCoordinatorError.Ordinary x) :
    Calm K (StepError.Ordinary A) (Attempt.mapErr StepError.fatal x) :=
  hx.mapErr fun _ => id

lemma effect {A : Prop} {x : Coord InstallCoordinatorError α}
    (hx : Calm K InstallCoordinatorError.Ordinary x) :
    Calm K (StepError.Ordinary A) (Attempt.mapErr StepError.effect x) :=
  hx.mapErr fun _ => id

lemma ite {c : Prop} [Decidable c] {x y : Coord ε α} (hx : Calm K E x) (hy : Calm K E y) :
    Calm K E (if c then x else y) :=
  Within.ite (fun _ => hx) fun _ => hy

end Calm

end

variable {K : Contract calls}

lemma calm_perform {cl : PlatformCall} (h : K.allowed (.platform cl)) :
    Calm K (fun _ => True) (perform cl) :=
  bind (within_ask.mpr ⟨h, fun rp _ => by rcases rp with _ | _ <;> trivial⟩)

lemma calm_access {cl : StoreCall} (h : K.allowed (.store cl)) : Calm K (fun _ => True) (access cl) :=
  bind (within_ask.mpr ⟨h, fun rp _ => by rcases rp with _ | _ <;> trivial⟩)

/-- A check of the coordinator's own. -/
lemma calm_check {α : Type} {r : Except InstallModelError α} : Calm K InstallCoordinatorError.Ordinary
      (mapErr InstallCoordinatorError.model (Attempt.ofExcept r) : Coord _ α) :=
  (Calm.ofExcept fun _ _ => trivial).mapErr (E := fun _ => True) fun _ _ => nofun

/-! ## Inspection -/

section Observing

variable (hO : AllowsObserving K)
include hO

lemma calm_inspectState : Calm K InstallCoordinatorError.Ordinary inspectState := by
  refine ((calm_access (hO (.store .activeUnit) trivial)).mapErr fun _ _ => nofun).bind
    fun active => ?_
  refine ((calm_perform (hO (.platform .inspect) rfl)).mapErr fun _ _ => nofun).bind
    fun pf => ?_
  exact calm_check.bind fun _ => Calm.pure

lemma calm_matchesCheckpointAt (actual exp : InstallationState)
    (point : PlatformCheckpoint) (i : Nat) (rec : PlatformTransactionRecord)
    (rc : Option PlatformOwnerReceipt) : Calm K InstallCoordinatorError.Ordinary
      (matchesCheckpointAt actual exp point i rec rc) :=
  Calm.ite Calm.pure ((calm_perform (hO (.platform (.matchesExactState ..)) rfl)).mapErr
    fun _ _ => nofun)

lemma calm_matchesTarget (j : InstallJournalV1) (actual : InstallationState) (t : Target) :
    Calm K InstallCoordinatorError.Ordinary (matchesTarget j actual t) :=
  calm_matchesCheckpointAt hO _ _ _ _ _ _

lemma calm_loadJournal : Calm K (fun _ => True) loadJournal := by
  refine (calm_access (hO (.store .readJournal) trivial)).bind fun loaded => ?_
  rcases loaded with _ | j
  · exact Calm.pure
  · refine Calm.bind ?_ fun _ => Calm.pure
    exact (Calm.ofExcept fun _ _ => trivial).mapErr (E := fun _ => True) fun _ _ => trivial

/-- A prepared journal is a valid first one, and the platform has accepted its plan. -/
lemma prepareWithLock_within {R : PlatformTransactionRecord → Nat → Prop}
    (hp : ∀ prior target transitions count record,
      (perform (.validateTransactionPlan prior target transitions count record)).Within K
        (fun _ => R record count) (fun _ => True)) (rq : InstallRequest) :
    (prepareWithLock rq).Within K (fun j => j.Valid ∧ j.Fresh ∧
        R j.platformRecord j.layoutOperationCount) InstallCoordinatorError.Ordinary := by
  refine ((calm_loadJournal hO).mapErr fun _ _ => nofun).then_within fun loaded => ?_
  refine ite (fun _ => nofun) fun _ => ?_
  refine ((calm_access (hO (.store .activeUnit) trivial)).mapErr fun _ _ => nofun).then_within
    fun priorActiveUnit => ?_
  refine ((calm_perform (hO (.platform .inspect) rfl)).mapErr fun _ _ => nofun).then_within
    fun priorPlatform => ?_
  refine calm_check.then_within fun _ => ?_
  refine ((calm_perform (hO (.platform (.prepareTransaction ..)) rfl)).mapErr
    fun _ _ => nofun).then_within fun prepared => ?_
  refine calm_check.then_within fun _ => calm_check.then_within fun _ => ?_
  refine seq (mapErr ((hp _ _ _ _ _).mono (fun _ => id) fun _ _ => nofun))
    fun _ ha => ?_
  refine mapErr (within_ofExcept.mpr ?_)
  split
  · next j hn =>
    obtain ⟨hv, hf⟩ := new_valid hn
    refine ⟨hv, hf, ?_⟩
    simp only [new, check_eq_ok] at hn
    obtain ⟨-, -, -, -, ⟨⟩⟩ := hn
    exact ha
  · rintro ⟨⟩

end Observing

variable (hK : AllowsQuiet K)
include hK

lemma calm_matchesExceptRuntime (actual exp : InstallationState)
    (point : PlatformCheckpoint) (i : Nat) (rec : PlatformTransactionRecord) :
    Calm K InstallCoordinatorError.Ordinary (matchesExceptRuntime actual exp point i rec) :=
  Calm.ite Calm.pure ((calm_perform (hK (.platform _) trivial)).mapErr fun _ _ => nofun)

variable (j : InstallJournalV1)

lemma calm_requireState (a : InstallAction) (before : InstallationState) (after : Target) :
    Calm K InstallCoordinatorError.Ordinary (requireState j a before after) := by
  refine (calm_inspectState hK.observing).bind fun actual => ?_
  refine (calm_matchesTarget hK.observing _ _ _).bind fun mt => ?_
  exact Calm.ite Calm.pure (Calm.throw nofun)

lemma calm_reachable (actual : InstallationState) (targets : List Target) :
    Calm K InstallCoordinatorError.Ordinary (reachable j actual targets) := by
  induction targets with
  | nil => exact Calm.pure
  | cons t rest ih =>
    refine Calm.ite ((calm_matchesExceptRuntime hK _ _ _ _ _).bind fun mt => ?_) ih
    exact Calm.ite Calm.pure ih

lemma calm_stopFirst (a : InstallAction) (actual : InstallationState) (targets : List Target) :
    Calm K InstallCoordinatorError.Ordinary (stopFirst j a actual targets) := by
  refine Calm.ite Calm.pure ((calm_reachable hK _ _ _).bind fun reached => ?_)
  exact Calm.ite ((calm_perform (hK (.platform _) trivial)).mapErr fun _ _ => nofun) Calm.pure

/-! ## Actions -/

lemma calm_observe (before after : Target) :
    Calm K InstallCoordinatorError.Ordinary (observe j before after) := by
  refine (calm_inspectState hK.observing).bind fun actual => ?_
  refine (calm_matchesTarget hK.observing _ _ _).bind fun beforeMatches => ?_
  exact (calm_matchesTarget hK.observing _ _ _).bind fun afterMatches => Calm.pure

lemma calm_observeOrStop (a : InstallAction)
    (before after : Target) (targets : List Target) : Calm K InstallCoordinatorError.Ordinary
      (observeOrStop j a before after targets) := by
  refine (calm_observe hK _ _ _).bind fun seen => Calm.ite Calm.pure ?_
  refine (calm_stopFirst hK _ _ _ _).bind fun stopped => ?_
  exact Calm.ite (calm_observe hK _ _ _) Calm.pure

/-- Where a transaction may still be abandoned. -/
structure Abandonable (journal : InstallJournalV1) : Prop where
  disposition : journal.disposition = .forward
  index : journal.layoutOperationIndex = 0
  receipt : journal.candidateOwnerReceipt = none

section

variable (j : InstallJournalV1)

lemma abandonment_within (a : InstallAction) (actual : InstallationState) :
    (abandonment j a actual).Within K
      (fun dt => dt.isSome → Abandonable j) InstallCoordinatorError.Ordinary := by
  unfold abandonment
  dsimp only
  split
  · exact nofun
  · next h =>
    simp only [Bool.or_eq_true, not_or, bne_iff_ne, ne_eq, Decidable.not_not,
      Bool.not_eq_true, isSome_eq_false_iff, isNone_iff_eq_none] at h
    obtain ⟨⟨⟨⟨⟨hf, -⟩, hi⟩, hr⟩, -⟩, -⟩ := h
    refine ((calm_perform (hK (.platform _) trivial)).mapErr fun _ _ => nofun).then_within
      fun untouched => ?_
    exact fun _ => ⟨hf, hi, hr⟩

lemma calm_applyEffect (a : InstallAction) (point : PlatformCheckpoint) (after : InstallationState) :
    Calm K InstallCoordinatorError.Ordinary (applyEffect j a point after) := by
  cases a
  all_goals first
    | exact Calm.throw nofun
    | exact (calm_perform (hK (.platform _) trivial)).mapErr fun _ _ => nofun
    | exact (calm_access (hK (.store (.setActive _)) trivial)).mapErr fun _ _ => nofun

lemma calm_reconcileLayoutOperation (installing : Bool) :
    Calm K (StepError.Ordinary False) (reconcileLayoutOperation j installing) := by
  refine Calm.ite (Calm.throw nofun) ?_
  refine ((calm_observeOrStop hK _ _ _ _ _).fatal).bind fun seen => ?_
  refine Calm.ite Calm.pure (Calm.ite (Calm.throw nofun) ?_)
  refine ((calm_perform (hK (.platform _) trivial)).mapErr fun _ _ => nofun).bind fun _ => ?_
  exact (calm_requireState hK _ _ _ _).fatal

variable {A : Prop} (a : InstallAction) (tr : Transition) (seen : Observation)

lemma calm_reconcileProof (proof : PlatformCall) :
    Calm K (StepError.Ordinary A) (reconcileProof j a tr seen proof) := by
  refine Calm.ite ?_ ?_
  · refine Calm.bind ?_ fun fl => Calm.throw ?_
    · exact Calm.ite (calm_matchesExceptRuntime hK _ _ _ _ _).fatal Calm.pure
    · split <;> exact nofun
  · refine ((calm_perform (hK (.platform _) trivial)).mapErr fun _ _ => nofun).bind fun _ => ?_
    exact (calm_requireState hK _ _ _ _).fatal

lemma calm_reconcileMutation : Calm K (StepError.Ordinary A) (reconcileMutation j a tr seen) := by
  refine Calm.ite Calm.pure (Calm.ite (Calm.throw nofun) ?_)
  refine ((calm_applyEffect hK _ _ _ _).effect).bind fun _ => ?_
  exact (calm_requireState hK _ _ _ _).fatal

end

omit hK in
lemma forAction_ordinary {j : InstallJournalV1} {a : InstallAction}
    {e : InstallCoordinatorError} (h : Transition.forAction j a = .error e) : e.Ordinary := by
  cases a <;> cases h <;> exact nofun

/-- Reconciling an action is quiet, and abandons only where that is possible. -/
lemma calm_reconcileAction (j : InstallJournalV1) (a : InstallAction) :
    Calm K (StepError.Ordinary (Abandonable j)) (reconcileAction j a) := by
  refine Calm.bind (Calm.ofExcept fun e h => forAction_ordinary h).fatal fun tr => ?_
  refine (calm_observeOrStop hK _ _ _ _ _).fatal.bind fun seen => ?_
  refine seq (Q := fun abandoned : Option String => abandoned.isSome →
    Abandonable j) ?_ fun abandoned ha => ?_
  · split
    · exact mapErr ((abandonment_within hK _ _ _).mono (fun _ => id) fun _ => id)
    · exact nofun
  · rcases abandoned with _ | dt
    · rcases tr with ⟨before, after, beforeCheckpoint, afterCheckpoint, kind⟩
      cases kind
      · exact calm_reconcileMutation hK _ _ _ _
      all_goals exact calm_reconcileProof hK _ _ _ _ _
    · exact ha rfl

/-! ## Owner receipts -/

/-- A journal with the candidate's owner bound, when it has one to bind. -/
structure Captured (journal captured : InstallJournalV1) : Prop where
  same_or : captured = journal ∨ ∃ receipt : PlatformOwnerReceipt, receipt.validate = .ok () ∧
    journal.targetPlatform.runningUnit.isSome ∧
    captured = { journal with candidateOwnerReceipt := some receipt }
  bound : journal.targetPlatform.runningUnit.isSome →
    captured.candidateOwnerReceipt.isSome

omit hK in
theorem captureCandidateOwnerReceipt_within (hO : AllowsObserving K) (j : InstallJournalV1) :
    (captureCandidateOwnerReceipt j).Within K (Captured j) (StepError.Ordinary False) := by
  unfold captureCandidateOwnerReceipt
  split
  · next h =>
    refine ⟨.inl rfl, fun hr => ?_⟩
    simpa [isSome_iff_ne_none.mp hr] using h
  · next h =>
    simp only [Bool.or_eq_true, isNone_iff_eq_none, not_or, isSome_iff_ne_none,
      ne_eq, Decidable.not_not] at h
    refine (calm_inspectState hO).fatal.then_within fun actual => ?_
    refine (calm_matchesCheckpointAt hO _ _ _ _ _ _).fatal.then_within fun mt => ?_
    split
    · have hc := calm_perform (hO (.platform (.captureCandidateOwnerReceipt
        j.targetPlatform j.platformRecord)) rfl)
      refine Calm.then_within (hc.mapErr fun _ _ => nofun) fun rc => ?_
      refine seq (Q := fun _ => PlatformOwnerReceipt.validate rc = .ok ()) ?_
        fun _ hv => ?_
      · rcases hv : PlatformOwnerReceipt.validate rc with e | ⟨⟩
        · exact nofun
        · exact rfl
      · exact ⟨.inr ⟨rc, hv, isSome_iff_ne_none.mpr h.1, rfl⟩, fun _ => rfl⟩
    · exact nofun

/-! ## Rollback entries -/

/-- The layout index a checkpoint is reached at: the first, any, or the last. -/
def PlatformCheckpoint.requires (count index : Nat) : PlatformCheckpoint → Prop
  | .priorOriginal | .priorUnloaded | .priorManager | .priorAutostart | .priorRestored => index = 0
  | .candidateLayout | .priorLayoutRestored => index ≤ count
  | .candidateLauncher | .candidateActive | .candidateManager | .candidateAutostart
  | .candidateRuntime | .priorActiveRestored | .priorLauncherRestored => index = count

/-- The exact-state test for a record is true of a checkpoint at its layout index only. -/
def ExactAnswers (K : Contract calls) (record : PlatformTransactionRecord) (count : Nat) : Prop :=
  ∀ checkpoint expected index receipt answer,
    K.answers (.platform (.matchesExactState checkpoint expected index record receipt)) answer →
    answer = .ok true → checkpoint.requires count index

/-- A rollback may enter here: the action is one, and the cursor is where it asks. -/
structure Enters (journal : InstallJournalV1) (action : InstallAction) : Prop where
  rollback : action.isRollback
  cursor : layoutCursorMatchesAction journal.layoutOperationCount
    journal.layoutOperationIndex .rollback (some action)

omit hK in
lemma enters_of_requires {j : InstallJournalV1} {t : Target} {a : InstallAction}
    (h : (t, a) ∈ rollbackEntries j) (hr : t.checkpoint.requires j.layoutOperationCount t.index) :
    Enters j a := by
  simp only [rollbackEntries, mem_append, mem_cons, not_mem_nil, or_false, Prod.mk.injEq] at h
  rcases h with ((h | h | h | h | h) | h) | h | h
  case inl.inr =>
    split at h
    · next hp =>
      obtain ⟨rfl, rfl⟩ := Prod.mk.injEq .. ▸ mem_singleton.mp h
      exact ⟨rfl, by simpa [layoutCursorMatchesAction] using hp⟩
    · exact absurd h not_mem_nil
  all_goals
    obtain ⟨rfl, rfl⟩ := h
    exact ⟨rfl, by simpa [layoutCursorMatchesAction, PlatformCheckpoint.requires] using hr⟩

section

/-! `A` stands for an exact-state test that is exact; without it only the failures are known. -/

variable {j : InstallJournalV1} {A : Prop}
  (hexact : A → ExactAnswers K j.platformRecord j.layoutOperationCount)
include hexact

variable (actual : InstallationState)

lemma matchesTarget_within (t : Target) : (matchesTarget j actual t).Within K (fun mt => mt = true → A →
        t.checkpoint.requires j.layoutOperationCount t.index) InstallCoordinatorError.Ordinary := by
  refine ite (fun _ => within_pure.mpr Bool.noConfusion) fun _ => ?_
  refine mapErr (bind (within_ask.mpr ⟨hK (.platform _) trivial, fun an han => ?_⟩))
  rcases an with e | mt
  · exact nofun
  · rintro rfl ha
    exact hexact ha _ _ _ _ _ han rfl

lemma firstMatch_within (es : List (Target × InstallAction)) :
    (firstMatch j actual es).Within K (fun fd => ∀ a, fd = some a → ∃ t, (t, a) ∈ es ∧
        (A → t.checkpoint.requires j.layoutOperationCount t.index)) InstallCoordinatorError.Ordinary := by
  induction es with
  | nil => exact nofun
  | cons e rest ih =>
    obtain ⟨t, a⟩ := e
    refine seq (matchesTarget_within hK hexact actual t) fun mt hm => ?_
    split
    · next h =>
      rintro _ ⟨⟩
      exact ⟨t, mem_cons_self, hm h⟩
    · refine ih.mono (fun fd hf a' h => ?_) fun _ h => h
      obtain ⟨t', hme, hr⟩ := hf a' h
      exact ⟨t', mem_cons_of_mem _ hme, hr⟩

lemma rollbackEntryFor_within : (rollbackEntryFor j actual).Within K
      (fun fd => ∀ a, fd = some a → A → Enters j a) InstallCoordinatorError.Ordinary := by
  refine (firstMatch_within hK hexact actual _).mono (fun fd h a hf => ?_) fun _ => id
  obtain ⟨t, hm, hr⟩ := h a hf
  exact fun ha => enters_of_requires hm (hr ha)

omit hK hexact in
lemma entryDrift_within (fl : InstallAction) (actual : InstallationState)
    {Q : InstallAction → Prop} :
        (entryDrift j fl actual).Within K Q InstallCoordinatorError.Ordinary := by
  refine seq (Q := fun _ => True) (Calm.ofExcept fun e h => forAction_ordinary h) fun _ _ => ?_
  exact nofun

lemma rollbackEntryAction_within (fl : InstallAction) :
    (rollbackEntryAction j fl).Within K (fun a => A → Enters j a) InstallCoordinatorError.Ordinary := by
  refine (calm_inspectState hK.observing).then_within fun actual => ?_
  refine seq (rollbackEntryFor_within hK hexact actual) fun fd hf => ?_
  rcases fd with _ | a
  · dsimp only
    split
    · exact entryDrift_within _ _
    · refine (calm_stopFirst hK _ _ _ _).then_within fun stopped => ?_
      split
      · refine (calm_inspectState hK.observing).then_within fun again => ?_
        refine seq (rollbackEntryFor_within hK hexact again) fun fd hf => ?_
        rcases fd with _ | a
        · exact entryDrift_within _ _
        · exact hf a rfl
      · exact entryDrift_within _ _
  · exact hf a rfl

/-- What a rollback is entered with. -/
def Entered (journal : InstallJournalV1) : InstallJournalV1 × RollbackEntry → Prop
  | (entered, .action action) => Enters journal action ∧
      (entered = journal ∧ action ≠ .unloadCandidateRuntime ∨ Captured journal entered)
  | (entered, .abandon _) => entered = journal ∧ Abandonable journal

lemma enterRollbackOnce_within (fl : InstallAction) {retry : InstallCoordinatorError →
      Coord InstallCoordinatorError (InstallJournalV1 × RollbackEntry)} (hr : ∀ e, e.Ordinary →
      (retry e).Within K (fun r => A → Entered j r) InstallCoordinatorError.Ordinary) :
    (enterRollbackOnce j fl retry).Within K (fun r => A → Entered j r)
      InstallCoordinatorError.Ordinary := by
  refine bind (outcome ((rollbackEntryAction_within hK hexact fl).mono (fun nx hen => ?_) fun e he => ?_))
  · dsimp only
    split
    · next hn => exact fun ha => ⟨hen ha, .inl ⟨rfl, hn⟩⟩
    · refine bind (outcome ((captureCandidateOwnerReceipt_within hK.observing j).mono
        (fun cap hc ha => ⟨hen ha, .inr hc⟩) fun e he => ?_))
      rcases e with err | err | dt
      · exact hr err he
      · exact he
      · exact nofun
  · rcases e with _ | _ | _ | _ | _ | _ | ⟨a, before, after, actual⟩ | _ | _ | _ | _
    case stateDrift =>
      dsimp only
      split
      · refine (calm_inspectState hK.observing).then_within fun seen => ?_
        refine seq (abandonment_within hK _ _ _) fun dt hd => ?_
        rcases dt with _ | dt
        · exact nofun
        · exact fun _ => ⟨rfl, hd rfl⟩
      · exact nofun
    all_goals exact he

/-- **Entering rollback.** -/
theorem enterRollback_within (fl : InstallAction) (ats : Nat) :
    (enterRollback j fl ats).Within K (fun r => A → Entered j r) InstallCoordinatorError.Ordinary := by
  induction ats with
  | zero => exact enterRollbackOnce_within hK hexact fl fun e he => he
  | succ ats ih => exact enterRollbackOnce_within hK hexact fl fun _ _ => ih

end

variable (j : InstallJournalV1)

/-- What a failed layout operation left done. -/
lemma reconcileForwardLayoutProgressAfterError_within :
    (reconcileForwardLayoutProgressAfterError j).Within K (fun progressed => progressed = j ∨
        progressed = { j with layoutOperationIndex := j.layoutOperationIndex + 1 })
      InstallCoordinatorError.Ordinary := by
  refine (calm_inspectState hK.observing).then_within fun actual => ?_
  refine (calm_matchesTarget hK.observing _ _ _).then_within fun after => ?_
  split
  · exact .inr rfl
  · refine (calm_matchesTarget hK.observing _ _ _).then_within fun before => ?_
    split
    · exact .inl rfl
    · exact nofun

/-- Reconciling a forward action, with the owner bound at the one that starts the candidate. -/
lemma reconcileForward_within (a : InstallAction) : (reconcileForward j a).Within K
      (fun reconciled => a ≠ .restoreCandidateRuntime ∧ reconciled = j ∨
        a = .restoreCandidateRuntime ∧ Captured j reconciled) (StepError.Ordinary (Abandonable j)) := by
  refine (calm_reconcileAction hK j a).then_within fun _ => ?_
  split
  · next h =>
    refine (captureCandidateOwnerReceipt_within hK.observing j).mono (fun _ hc => .inr ⟨h, hc⟩)
      fun e he => ?_
    rcases e with err | err | dt
    · exact he
    · exact he
    · exact he.elim
  · next h => exact .inl ⟨h, rfl⟩

lemma calm_priorRuntimeLost : Calm K InstallCoordinatorError.Ordinary (priorRuntimeLost j) := by
  refine Calm.ite Calm.pure ((calm_inspectState hK.observing).bind fun actual => ?_)
  exact calm_matchesTarget hK.observing _ _ _

end Hypercolor.Install
