import Hypercolor.Scenes.Activation

/-!
# The transition plan

`activate` plans a transition to the scene it pushes, and `deactivate_current` drops the plan.
`delete` does not, and a scene that is pushed below the active one is planned for as well.

**`plan_coherent`**: along every run, a plan leads to the active scene and both its scenes are there,
as long as

* a scene that is activated with a transition becomes the active one;
* no scene of the plan is deleted;

and a run leaves these states with the first step that does otherwise.
-/

set_option linter.unusedSectionVars false

namespace Hypercolor.Scenes.SceneManager

open Lib List Option AList StackEntry

variable {F X : Type} [Scalar F] [DecidableEq X] [Literals X]

/-- The plan, if there is one, leads to the active scene, and both its scenes are there. -/
def PlanCoherent (m : SceneManager F X) : Prop :=
  ∀ plan, m.transitionPlan = some plan → m.activeSceneId = some plan.toScene ∧
    plan.fromScene ∈ m.scenes ∧ plan.toScene ∈ m.scenes

/-- When an operation leaves it so. -/
def Leads (m : SceneManager F X) : Op F X → Prop
  | .activate id spec now => ∀ scene, m.scenes.lookup id = some scene →
      0 < (spec.getD scene.transition).durationMs → ∀ top, m.priorityStack.head? = some top →
          top.sceneId = scene.id ∨ top.priority < scene.priority ∨
            top.priority = scene.priority ∧ top.enteredAt < now
  | .delete id => id ≠ .default → id ∈ m.scenes → ∀ plan, m.transitionPlan = some plan →
      plan.fromScene ≠ id ∧ plan.toScene ≠ id
  | _ => True

/-- Operations from a new manager, with or without a default scene. -/
def operating : Machine (SceneManager F X) (Op F X) where
  init m := m = new ∨ ∃ zoneId layout now, m = withDefaultLayout zoneId layout now
  step m op m' := m' = m.apply op

/-- Those that leave the plan coherent. -/
def planning : Machine (SceneManager F X) (Op F X) where
  init := operating.init
  step m op m' := operating.step m op m' ∧ m.Leads op

/-! ## The first entry -/

/-- Which entry is first after a push: the old one, unless the new one comes strictly before it. -/
lemma head?_pushStack {top : StackEntry} {rest : List StackEntry}
    (hs : (top :: rest).Pairwise before) (id : SceneId) (pr now : Nat) :
    (pushStack (top :: rest) id pr now).head? =
      some (if top.before ⟨id, pr, now⟩ then top else ⟨id, pr, now⟩) := by
  rw [pushStack, cons_append, insertionSort_cons]
  rcases hl : insertionSort before (rest ++ [⟨id, pr, now⟩]) with _ | ⟨nx, l⟩
  · have hle := congrArg length hl
    simp at hle
  have hm : nx ∈ rest ++ [⟨id, pr, now⟩] := by
    rw [← mem_insertionSort before, hl]
    exact mem_cons_self
  rw [hl, orderedInsert_cons]
  rcases mem_append.mp hm with hr | hne
  · -- an old entry is the first of the others, so the top stays
    have hb : top.before nx := rel_of_pairwise_cons hs hr
    have hn : nx.before ⟨id, pr, now⟩ := by
      have hp : (nx :: l).Pairwise before := by
        rw [← hl]
        exact pairwise_insertionSort _ _
      have hla : (⟨id, pr, now⟩ : StackEntry) ∈ nx :: l := by
        rw [← hl, mem_insertionSort]
        simp
      rcases mem_cons.mp hla with he | hl'
      · rw [he]
        exact .inr ⟨rfl, le_rfl⟩
      · exact rel_of_pairwise_cons hp hl'
    rw [if_pos hb, if_pos (Trans.trans hb hn)]
    rfl
  · rw [mem_singleton.mp hne]
    split_ifs <;> rfl

/-! ## One step -/

/-- What every operation keeps. -/
structure Ordered (m : SceneManager F X) : Prop where
  owned : Owned m
  sorted : m.priorityStack.Pairwise before

variable {m m' : SceneManager F X}

lemma Steady.mem (h : Steady m m') (id : SceneId) : id ∈ m'.scenes ↔ id ∈ m.scenes := by
  have hs := congrArg isSome (h.priority id)
  rw [isSome_map, isSome_map] at hs
  rw [← lookup_isSome, ← lookup_isSome, hs]

lemma planCoherent_of_same (hm : m.PlanCoherent) (hst : m'.priorityStack = m.priorityStack)
    (hp : m'.transitionPlan = m.transitionPlan) (hs : ∀ id ∈ m.scenes, id ∈ m'.scenes) :
    m'.PlanCoherent := by
  intro plan h
  obtain ⟨ha, hf, ht⟩ := hm plan (hp ▸ h)
  refine ⟨?_, hs _ hf, hs _ ht⟩
  rw [activeSceneId, hst]
  exact ha

lemma planCoherent_of_steady (hm : m.PlanCoherent) (h : Steady m m') : m'.PlanCoherent :=
  planCoherent_of_same hm h.stack h.plan fun id => (h.mem id).mpr

lemma create_same (m : SceneManager F X) (sc : Scene F X) :
    (m.apply (.create sc)).priorityStack = m.priorityStack ∧
      (m.apply (.create sc)).transitionPlan = m.transitionPlan ∧
      ∀ id ∈ m.scenes, id ∈ (m.apply (.create sc)).scenes := by
  simp only [apply, create]
  split_ifs
  iterate 2 exact ⟨rfl, rfl, fun _ => id⟩
  · exact ⟨rfl, rfl, fun id h => (mem_insert _).mpr (.inr h)⟩

lemma refreshIf_same (m : SceneManager F X) (cond : Bool) :
    (m.refreshIf cond).priorityStack = m.priorityStack ∧
      (m.refreshIf cond).transitionPlan = m.transitionPlan ∧ (m.refreshIf cond).scenes = m.scenes := by
  unfold refreshIf
  split <;> exact ⟨rfl, rfl, rfl⟩

lemma update_same (m : SceneManager F X) (sc : Scene F X) :
    (m.apply (.update sc)).priorityStack = m.priorityStack ∧
      (m.apply (.update sc)).transitionPlan = m.transitionPlan ∧
      ∀ id ∈ m.scenes, id ∈ (m.apply (.update sc)).scenes := by
  simp only [apply, update]
  split
  · exact ⟨rfl, rfl, fun _ => id⟩
  · split_ifs
    iterate 3 exact ⟨rfl, rfl, fun _ => id⟩
    · obtain ⟨hs, hp, hsc⟩ := refreshIf_same (m.putScene sc.id sc) (m.activeSceneId = some sc.id)
      refine ⟨hs, hp, fun id h => ?_⟩
      rw [SceneManager.after, hsc]
      exact (mem_insert _).mpr (.inr h)

lemma planCoherent_delete (hm : m.PlanCoherent) (id : SceneId) :
    (m.apply (.delete id)).PlanCoherent ↔ m.Leads (.delete id) := by
  simp only [apply, delete, Leads]
  split_ifs with hd hmi
  · exact iff_of_true hm fun hne => absurd hd hne
  · refine iff_of_true hm fun _ hme => ?_
    rw [isNone_iff_eq_none, lookup_eq_none] at hmi
    exact absurd hme hmi
  · have hme : id ∈ m.scenes := by
      rw [isNone_iff_eq_none, lookup_eq_none, not_not] at hmi
      exact hmi
    constructor
    · intro h _ _ plan hp
      obtain ⟨-, hf, hto⟩ := h plan hp
      exact ⟨(mem_erase.mp hf).1, (mem_erase.mp hto).1⟩
    · intro h plan hp
      obtain ⟨ha, hf, hto⟩ := hm plan hp
      obtain ⟨hf', hto'⟩ := h hd hme plan hp
      refine ⟨?_, mem_erase.mpr ⟨hf', hf⟩, mem_erase.mpr ⟨hto', hto⟩⟩
      -- the active scene is not the deleted one, so its entry stays first
      obtain ⟨top, ht, hn⟩ := map_eq_some_iff.mp ha
      obtain ⟨rest, hs⟩ := head?_eq_some_iff.mp ht
      simp [SceneManager.after, refreshResolvedZones, activeSceneId, removeStack, hs, hn, hto']

lemma planCoherent_deactivateCurrent (hm : m.PlanCoherent) : m.deactivateCurrent.PlanCoherent := by
  by_cases hd : m.AtDefault
  · rw [deactivateCurrent_of_atDefault hd]
    exact hm
  · rcases hs : m.priorityStack with _ | ⟨top, rest⟩
    · have hr : m.deactivateCurrent = m.refreshResolvedZones := by
        refine (if_neg hd).trans ?_
        simp only [hs]
      rw [hr]
      exact hm
    · rw [deactivateCurrent_of_cons hd hs]
      rintro plan ⟨⟩

/-- What a successful activation leaves of the plan and the stack. -/
lemma activate_same (m : SceneManager F X) {id : SceneId} {sc : Scene F X}
    (hs : m.scenes.lookup id = some sc) (spec : Option (TransitionSpec X)) (now : Nat) :
    (m.apply (.activate id spec now)).scenes = m.scenes ∧
    (m.apply (.activate id spec now)).priorityStack = pushStack m.priorityStack sc.id sc.priority now ∧
    (m.apply (.activate id spec now)).transitionPlan = m.activeSceneId.bind fun fromId =>
      if 0 < (spec.getD sc.transition).durationMs then
        some ⟨saturatingSucc m.transitionEpoch, fromId, sc.id, spec.getD sc.transition⟩
      else none := by
  rw [apply, activate, hs]
  rcases m.activeSceneId with _ | fromId
  · exact ⟨rfl, rfl, rfl⟩
  · dsimp only [bind_some]
    split_ifs <;> exact ⟨rfl, rfl, rfl⟩

lemma planCoherent_activate (hor : Ordered m) (hm : m.PlanCoherent) (id : SceneId)
    (spec : Option (TransitionSpec X)) (now : Nat) :
    (m.apply (.activate id spec now)).PlanCoherent ↔ m.Leads (.activate id spec now) := by
  rcases hsc : m.scenes.lookup id with _ | sc
  · have hsa : m.apply (.activate id spec now) = m := by
      simp [apply, activate, SceneManager.after, hsc]
    rw [hsa]
    refine iff_of_true hm fun sc h => ?_
    cases hsc.symm.trans h
  · obtain ⟨hss, hst, hp⟩ := activate_same m hsc spec now
    have hi : sc.id ∈ m.scenes := by
      rw [hor.owned.keys id sc hsc, ← lookup_isSome, hsc]
      rfl
    have hl : m.Leads (.activate id spec now) ↔
        (0 < (spec.getD sc.transition).durationMs → ∀ top, m.priorityStack.head? = some top →
          top.sceneId = sc.id ∨ top.priority < sc.priority ∨
            top.priority = sc.priority ∧ top.enteredAt < now) := by
      refine ⟨fun h => h sc hsc, fun h o hoh => ?_⟩
      cases hsc.symm.trans hoh
      exact h
    have hno : (m.apply (.activate id spec now)).activeSceneId =
        (pushStack m.priorityStack sc.id sc.priority now).head?.map sceneId := by
      rw [activeSceneId, hst]
    rw [hl, PlanCoherent, hp, hno, hss]
    rcases hold : m.priorityStack with _ | ⟨top, rest⟩
    · have hn : m.activeSceneId = none := by simp [activeSceneId, hold]
      simp [hn]
    · have ha : m.activeSceneId = some top.sceneId := by simp [activeSceneId, hold]
      have hme : top.sceneId ∈ m.scenes := hor.owned.stack top (by simp [hold])
      have hs := hor.sorted
      rw [hold] at hs
      rw [head?_pushStack hs, ha]
      by_cases hd : 0 < (spec.getD sc.transition).durationMs
      · simp only [bind_some, hd, if_true, some.injEq, forall_eq', hme, hi,
          and_true, map_some, head?_cons, forall_const]
        by_cases hb : top.before ⟨sc.id, sc.priority, now⟩
        · rw [if_pos hb]
          simp only [before] at hb
          refine ⟨.inl, fun h => ?_⟩
          rcases h with h | h | h
          · exact h
          · omega
          · omega
        · rw [if_neg hb]
          simp only [before] at hb
          exact iff_of_true rfl (.inr (by omega))
      · simp [hd]

/-- From a coherent plan, these are the steps to coherent plans. -/
lemma planCoherent_apply_iff (hor : Ordered m) (hm : m.PlanCoherent) (op : Op F X) :
    (m.apply op).PlanCoherent ↔ m.Leads op := by
  cases op with
  | create sc =>
    obtain ⟨hs, hp, hsc⟩ := create_same m sc
    exact iff_of_true (planCoherent_of_same hm hs hp hsc) trivial
  | update sc =>
    obtain ⟨hs, hp, hsc⟩ := update_same m sc
    exact iff_of_true (planCoherent_of_same hm hs hp hsc) trivial
  | delete id => exact planCoherent_delete hm id
  | activate id spec now => exact planCoherent_activate hor hm id spec now
  | deactivateCurrent => exact iff_of_true (planCoherent_deactivateCurrent hm) trivial
  | _ => exact iff_of_true (planCoherent_of_steady hm (steady_apply m _ rfl)) trivial

lemma Ordered.of_steady (h : Ordered m) (hs : Steady m m') : m'.priorityStack.Pairwise before := by
  rw [hs.stack]
  exact h.sorted

lemma Ordered.apply (h : Ordered m) (op : Op F X) : Ordered (m.apply op) := by
  refine ⟨h.owned.apply op, ?_⟩
  cases op with
  | create sc => exact (create_same m sc).1 ▸ h.sorted
  | update sc => exact (update_same m sc).1 ▸ h.sorted
  | delete id =>
    simp only [SceneManager.apply, delete]
    split_ifs
    · exact h.sorted
    · exact h.sorted
    · exact h.sorted.filter _
  | activate id spec now =>
    rcases hsc : m.scenes.lookup id with _ | sc
    · simp only [SceneManager.apply, activate, hsc, SceneManager.after]
      exact h.sorted
    · rw [(activate_same m hsc spec now).2.1]
      exact sorted_pushStack _ _ _ _
  | deactivateCurrent =>
    rw [SceneManager.apply, deactivateCurrent]
    split_ifs
    · exact h.sorted
    · split
      · exact h.sorted
      · rename_i hst
        have hs := h.sorted
        rw [hst] at hs
        exact hs.of_cons
  | _ => exact h.of_steady (steady_apply m _ rfl)

/-- **The plan is coherent.** -/
theorem plan_coherent {m : SceneManager F X} (h : planning.Reachable m) :
    m.PlanCoherent ∧ ∀ op, (m.apply op).PlanCoherent ↔ m.Leads op := by
  have hm : Ordered m ∧ m.PlanCoherent := by
    refine h.invariant (I := fun m => Ordered m ∧ m.PlanCoherent) (fun s hs => ?_)
      fun s op t hs hst => ?_
    · rcases hs with rfl | ⟨zoneId, layout, now, rfl⟩
      · exact ⟨⟨Owned.new, .nil⟩, nofun⟩
      · exact ⟨⟨Owned.new.installDefaultScene zoneId layout now, pairwise_singleton _ _⟩,
          nofun⟩
    · obtain ⟨rfl, hl⟩ := hst
      exact ⟨hs.1.apply op, (planCoherent_apply_iff hs.1 hs.2 op).mpr hl⟩
  exact ⟨hm.2, planCoherent_apply_iff hm.1 hm.2⟩

/-! ## Two runs -/

/-- A manager with its default scene and a lamp. -/
def oneLamp (priority : Nat) : SceneManager ℚ Unit :=
  bedroom.manager.apply (.create (lamp 1 priority))

/-- A plan, by its two scenes. -/
def planned (m : SceneManager ℚ Unit) : Option (SceneId × SceneId) :=
  m.transitionPlan.map fun plan => (plan.fromScene, plan.toScene)

/-- Activating the lamp plans a transition to it, and it is active. -/
theorem plan_coherent_lamp : ((oneLamp 50).apply (.activate ⟨1⟩ none 1)).PlanCoherent ∧
    planned ((oneLamp 50).apply (.activate ⟨1⟩ none 1)) = some (.default, ⟨1⟩) := by
  have hc : planning.Reachable (oneLamp 50) :=
    .step (e := .create (lamp 1 50)) (.init (.inr ⟨_, _, _, rfl⟩)) ⟨rfl, trivial⟩
  have ht : (oneLamp 50).priorityStack.head? = some ⟨.default, 0, 0⟩ := by decide +kernel
  have hl : ((oneLamp 50).scenes.lookup ⟨1⟩).map Scene.priority = some 50 := by decide +kernel
  refine ⟨(plan_coherent hc).2 _ |>.mpr fun scene hs _ top ht' => ?_, by decide +kernel⟩
  cases ht.symm.trans ht'
  rw [hs] at hl
  rw [some.inj hl]
  exact .inr (.inl (by decide))

/-- With the lamp deleted its plan stays, and a lamp activated below the active one is planned for
though it is not active. -/
theorem plan_left_behind :
    (operating.Reachable (((oneLamp 50).apply (.activate ⟨1⟩ none 1)).apply (.delete ⟨1⟩)) ∧
      ¬ (((oneLamp 50).apply (.activate ⟨1⟩ none 1)).apply (.delete ⟨1⟩)).PlanCoherent) ∧
    operating.Reachable ((((oneLamp 50).apply (.create (lamp 2 75))).apply
        (.activate ⟨2⟩ none 1)).apply (.activate ⟨1⟩ none 2)) ∧
      ¬ ((((oneLamp 50).apply (.create (lamp 2 75))).apply (.activate ⟨2⟩ none 1)).apply
        (.activate ⟨1⟩ none 2)).PlanCoherent := by
  have hc : operating.Reachable (oneLamp 50) :=
    .step (e := .create (lamp 1 50)) (.init (.inr ⟨_, _, _, rfl⟩)) rfl
  refine ⟨⟨.step (e := .delete ⟨1⟩) (.step (e := .activate ⟨1⟩ none 1) hc rfl) rfl,
    fun h => ?_⟩, .step (e := .activate ⟨1⟩ none 2) (.step (e := .activate ⟨2⟩ none 1) (.step
      (e := .create (lamp 2 75)) hc rfl) rfl) rfl, fun h => ?_⟩
  · have hp : planned (((oneLamp 50).apply (.activate ⟨1⟩ none 1)).apply (.delete ⟨1⟩)) =
        some (.default, ⟨1⟩) := by decide +kernel
    have ha : (((oneLamp 50).apply (.activate ⟨1⟩ none 1)).apply
        (.delete ⟨1⟩)).activeSceneId = some .default := by decide +kernel
    obtain ⟨plan, hs, hsc⟩ := map_eq_some_iff.mp hp
    have ht := (h plan hs).1
    rw [ha, (Prod.mk.inj hsc).2] at ht
    cases ht
  · have hp : planned ((((oneLamp 50).apply (.create (lamp 2 75))).apply
        (.activate ⟨2⟩ none 1)).apply (.activate ⟨1⟩ none 2)) = some (⟨2⟩, ⟨1⟩) := by
      decide +kernel
    have ha : ((((oneLamp 50).apply (.create (lamp 2 75))).apply
        (.activate ⟨2⟩ none 1)).apply (.activate ⟨1⟩ none 2)).activeSceneId = some ⟨2⟩ := by
      decide +kernel
    obtain ⟨plan, hs, hsc⟩ := map_eq_some_iff.mp hp
    have ht := (h plan hs).1
    rw [ha, (Prod.mk.inj hsc).2] at ht
    cases ht

end Hypercolor.Scenes.SceneManager
