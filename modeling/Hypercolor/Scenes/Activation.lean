import Hypercolor.Scenes.Stack

/-!
# Which scene is active

`pushStack` appends an entry and sorts by priority and instant, so which scene is active is decided
by a list that every activation, deactivation and deletion edits. What it should be is said by the
history alone: of the scenes activated and not deactivated or deleted since, with the most recent
first, the active one is the first of the highest priority (`Winner`).

**`active_arbitrated`**: along every run whose clock does not go back, that scene is the active one,
there is one, and every entry of the stack names a scene that is there, as long as

* no scene is activated at the instant of an entry of its priority (the sort leaves the older one
  first);
* no scene is deactivated that is on the stack twice, because it was activated twice (the older entry
  stays);
* no update changes the priority of a scene on the stack (its entry keeps the old one).

`steady_apply` says once that every other operation leaves the stack, the transition plan and the
priorities alone.
-/

set_option linter.unusedSectionVars false

namespace Hypercolor.Scenes.SceneManager

open Lib List AList StackEntry

variable {F X : Type} [Scalar F] [DecidableEq X] [Literals X]

/-- The priority of a scene. -/
def priorityOf (m : SceneManager F X) (id : SceneId) : Nat :=
  ((m.scenes.lookup id).map Scene.priority).getD 0

/-! ## The other operations -/

/-- The stack, the plan, the scenes and their priorities are the same. -/
structure Steady (m m' : SceneManager F X) : Prop where
  stack : m'.priorityStack = m.priorityStack
  plan : m'.transitionPlan = m.transitionPlan
  priority : ∀ id, (m'.scenes.lookup id).map Scene.priority =
    (m.scenes.lookup id).map Scene.priority

variable {id : SceneId} {sc : Scene F X} {m m' : SceneManager F X}

/-- **Every other operation** leaves the stack, the plan and the priorities alone. -/
theorem steady_apply (m : SceneManager F X) (op : Op F X) (hop : op.activates = false) :
    Steady m (m.apply op) := by
  have hr := rests_apply m op hop
  refine ⟨hr.stack, hr.plan, fun id => ?_⟩
  have hf := congrArg (Option.map Prod.snd) (hr.filing id)
  rwa [Option.map_map, Option.map_map] at hf

/-! ## The history -/

/-- The instant an operation reads, or else the last one read. -/
def Op.clock (clock : Nat) : Op F X → Nat
  | .activate _ _ now => now
  | _ => clock

/-- The manager is at the default scene alone, where `deactivate_current` does nothing. -/
def AtDefault (m : SceneManager F X) : Prop :=
  m.priorityStack.length = 1 ∧ m.activeSceneId = some .default

instance (m : SceneManager F X) : Decidable m.AtDefault :=
  inferInstanceAs (Decidable (m.priorityStack.length = 1 ∧ m.activeSceneId = some .default))

/-- The scenes activated and not deactivated or deleted since, the most recent first. -/
def activatedAfter (m : SceneManager F X) (activated : List SceneId) : Op F X → List SceneId
  | .activate id _ _ =>
    if (m.scenes.lookup id).isSome then id :: activated.filter (· ≠ id) else activated
  | .delete id =>
    if id = .default ∨ (m.scenes.lookup id).isNone then activated else activated.filter (· ≠ id)
  | .deactivateCurrent =>
    if m.AtDefault then activated else activated.filter fun id => m.activeSceneId ≠ some id
  | _ => activated

/-- A manager with its history. -/
structure Watched (F X : Type) where
  manager : SceneManager F X
  activated : List SceneId
  clock : Nat

/-- An operation and what it adds to the history. -/
def Watched.after (w : Watched F X) (op : Op F X) : Watched F X :=
  ⟨w.manager.apply op, w.manager.activatedAfter w.activated op, op.clock w.clock⟩

/-- A new manager with its default scene. -/
def Watched.new (zoneId : ZoneId) (layout : SpatialLayout F X) (now : Nat) : Watched F X :=
  ⟨withDefaultLayout zoneId layout now, [.default], now⟩

/-- Operations one after another, under a clock that does not go back. -/
def watching : Machine (Watched F X) (Op F X) where
  init w := ∃ zoneId layout now, w = .new zoneId layout now
  step w op w' := w.clock ≤ op.clock w.clock ∧ w' = w.after op

/-- The most recently activated one among those of the highest priority. -/
structure Winner (m : SceneManager F X) (activated : List SceneId) (id : SceneId) : Prop where
  first : ∃ later earlier, activated = later ++ id :: earlier ∧
    (∀ other ∈ later, m.priorityOf other < m.priorityOf id) ∧
    ∀ other ∈ earlier, m.priorityOf other ≤ m.priorityOf id

/-- The right scene is active. -/
structure Watched.Arbitrated (w : Watched F X) : Prop where
  named : ∀ entry ∈ w.manager.priorityStack, entry.sceneId ∈ w.manager.scenes
  active : w.manager.activeScene.isSome
  winner : ∃ id, w.manager.activeSceneId = some id ∧ Winner w.manager w.activated id

/-- When an operation leaves the arbitration right. -/
def Orderly (m : SceneManager F X) : Op F X → Prop
  | .activate id _ now => ∀ scene, m.scenes.lookup id = some scene →
      ∀ entry ∈ m.priorityStack, entry.priority = scene.priority → entry.enteredAt < now
  | .update scene => ∀ existing, m.scenes.lookup scene.id = some existing →
      existing.kind = scene.kind → (scene.id = .default → scene.name = existing.name) →
        scene.validate = [] → (∃ entry ∈ m.priorityStack, entry.sceneId = scene.id) →
          scene.priority = existing.priority
  | .deactivateCurrent => ¬ m.AtDefault → ∀ entry rest, m.priorityStack = entry :: rest →
      ∀ other ∈ rest, other.sceneId ≠ entry.sceneId
  | _ => True

/-- The steps that do. -/
def arbitrating : Machine (Watched F X) (Op F X) where
  init := watching.init
  step w op w' := watching.step w op w' ∧ w.manager.Orderly op

/-! ## The stack and the history -/

/-- **The invariant.** -/
structure Watched.Coherent (w : Watched F X) : Prop where
  owned : Owned w.manager
  sorted : w.manager.priorityStack.Pairwise before
  current : ∀ entry ∈ w.manager.priorityStack, entry.priority = w.manager.priorityOf entry.sceneId
  past : ∀ entry ∈ w.manager.priorityStack, entry.enteredAt ≤ w.clock
  history : ∀ id, id ∈ w.activated ↔ ∃ entry ∈ w.manager.priorityStack, entry.sceneId = id
  order : w.activated.Pairwise fun later earlier =>
    w.manager.priorityOf later = w.manager.priorityOf earlier →
      ∃ entry ∈ w.manager.priorityStack, entry.sceneId = later ∧
        ∀ other ∈ w.manager.priorityStack, other.sceneId = earlier →
          other.enteredAt < entry.enteredAt
  base : ∃ entry ∈ w.manager.priorityStack, entry.sceneId = .default ∧ entry.priority = 0 ∧
    ∀ other ∈ w.manager.priorityStack, entry.before other → other = entry

namespace Watched.Coherent

variable {w : Watched F X}

/-- From the invariant to the property. -/
theorem arbitrated (h : w.Coherent) : w.Arbitrated := by
  obtain ⟨base, hba, -⟩ := h.base
  rcases hs : w.manager.priorityStack with _ | ⟨top, rest⟩
  · simp [hs] at hba
  have ht : top ∈ w.manager.priorityStack := by simp [hs]
  have ha : w.manager.activeSceneId = some top.sceneId := by simp [activeSceneId, hs]
  refine ⟨h.owned.stack, ?_, top.sceneId, ha, ?_⟩
  · rw [activeScene, ha]
    exact lookup_isSome.mpr (h.owned.stack top ht)
  -- the first entry comes before every other one
  have hb : ∀ e ∈ w.manager.priorityStack, e = top ∨ top.before e := by
    intro e he
    have hsr := h.sorted
    rw [hs] at he hsr
    rcases mem_cons.mp he with rfl | hr
    · exact .inl rfl
    · exact .inr (rel_of_pairwise_cons hsr hr)
  have hle : ∀ id ∈ w.activated, w.manager.priorityOf id ≤ w.manager.priorityOf top.sceneId := by
    intro id hi
    obtain ⟨e, he, rfl⟩ := (h.history id).mp hi
    rw [← h.current e he, ← h.current top ht]
    rcases hb e he with rfl | hlt | ⟨heq, -⟩
    · exact le_rfl
    · exact hlt.le
    · exact heq.ge
  obtain ⟨lt, earlier, hsp⟩ := append_of_mem ((h.history _).mpr ⟨top, ht, rfl⟩)
  refine ⟨lt, earlier, hsp, fun o hoh => ?_, fun o hoh => hle o ?_⟩
  · refine lt_of_le_of_ne (hle o ?_) fun heq => ?_
    · simp [hsp, hoh]
    · have hor := h.order
      rw [hsp] at hor
      obtain ⟨e, he, rfl, hl⟩ := (pairwise_append.mp hor).2.2 o hoh _ mem_cons_self heq
      have hlt := hl top ht rfl
      rcases hb e he with rfl | hlt' | ⟨-, hg⟩
      · omega
      · rw [h.current e he, h.current top ht] at hlt'
        omega
      · omega
  · simp [hsp, hoh]

end Watched.Coherent

variable {now : Nat}

lemma mem_pushStack {stack : List StackEntry} {pr : Nat} {e : StackEntry} :
    e ∈ pushStack stack id pr now ↔ e ∈ stack ∨ e = ⟨id, pr, now⟩ := by
  simp [pushStack]

instance : Std.Total before where
  total a b := by
    unfold before
    omega

instance : IsTrans StackEntry before where
  trans a b c hab hbc := by
    unfold before at *
    omega

lemma sorted_pushStack (stack : List StackEntry) (id : SceneId) (pr now : Nat) :
    (pushStack stack id pr now).Pairwise before :=
  pairwise_insertionSort _ _

variable {top : StackEntry} {rest : List StackEntry}

namespace Watched.Coherent

variable {w : Watched F X}

/-- An operation that leaves the stack and the priorities on it alone. -/
theorem keep (h : w.Coherent) (how : Owned m') (hs : m'.priorityStack = w.manager.priorityStack)
    (hp : ∀ e ∈ w.manager.priorityStack, m'.priorityOf e.sceneId =
      w.manager.priorityOf e.sceneId) : Coherent ⟨m', w.activated, w.clock⟩ := by
  refine ⟨how, ?_, ?_, ?_, ?_, ?_, ?_⟩
  · rw [hs]
    exact h.sorted
  · intro e hen
    rw [hs] at hen
    exact (h.current e hen).trans (hp e hen).symm
  · rw [hs]
    exact h.past
  · rw [hs]
    exact h.history
  · refine h.order.imp_of_mem fun {lt ea} hla hea hor heq => ?_
    obtain ⟨_, hl, rfl⟩ := (h.history lt).mp hla
    obtain ⟨_, he, rfl⟩ := (h.history ea).mp hea
    rw [hs]
    exact hor ((hp _ hl).symm.trans (heq.trans (hp _ he)))
  · rw [hs]
    exact h.base

/-- Activating a scene that is there. -/
theorem push (h : w.Coherent) (hsc : w.manager.scenes.lookup sc.id = some sc)
    (hoe : Owned m') (hss : m'.scenes = w.manager.scenes)
    (hs : m'.priorityStack = pushStack w.manager.priorityStack sc.id sc.priority now) (hc : w.clock ≤ now)
    (ha : ∀ e ∈ w.manager.priorityStack, e.priority = sc.priority → e.enteredAt
      < now) : Coherent ⟨m', sc.id :: w.activated.filter (· ≠ sc.id), now⟩ := by
  have hp : ∀ id, m'.priorityOf id = w.manager.priorityOf id := fun id => by
    rw [priorityOf, priorityOf, hss]
  have how : w.manager.priorityOf sc.id = sc.priority := by simp [priorityOf, hsc]
  refine ⟨hoe, ?_, ?_, ?_, ?_, ?_, ?_⟩
  · rw [hs]
    exact sorted_pushStack _ _ _ _
  · intro e he
    rw [hp]
    rw [hs, mem_pushStack] at he
    rcases he with he | rfl
    · exact h.current e he
    · exact how.symm
  · intro e he
    rw [hs, mem_pushStack] at he
    rcases he with he | rfl
    · exact (h.past e he).trans hc
    · exact le_rfl
  · intro id
    simp only [hs, mem_pushStack, mem_cons, mem_filter, h.history id]
    by_cases hi : id = sc.id
    · subst hi
      exact iff_of_true (.inl rfl) ⟨_, .inr rfl, rfl⟩
    · simp only [hi, false_or, ne_eq, not_false_iff, decide_true, and_true]
      constructor
      · rintro ⟨e, he, rfl⟩
        exact ⟨e, .inl he, rfl⟩
      · rintro ⟨e, he | rfl, hn⟩
        · exact ⟨e, he, hn⟩
        · exact absurd hn.symm hi
  · simp only [hp, hs]
    refine pairwise_cons.mpr ⟨fun ea hea heq => ?_, ?_⟩
    · -- the new entry is the latest of its priority
      refine ⟨_, mem_pushStack.mpr (.inr rfl), rfl, fun o hoh hn => ?_⟩
      obtain ⟨-, hne⟩ := mem_filter.mp hea
      rcases mem_pushStack.mp hoh with hoh | rfl
      · refine ha o hoh ?_
        rw [h.current o hoh, hn, ← heq, how]
      · exact absurd hn.symm (of_decide_eq_true hne)
    · refine (h.order.filter _).imp_of_mem fun {lt ea} _ hea hor heq => ?_
      obtain ⟨e, he, hn, hl⟩ := hor heq
      refine ⟨e, mem_pushStack.mpr (.inl he), hn, fun o hoh hn' => ?_⟩
      obtain ⟨-, hne⟩ := mem_filter.mp hea
      rcases mem_pushStack.mp hoh with hoh | rfl
      · exact hl o hoh hn'
      · exact absurd hn'.symm (of_decide_eq_true hne)
  · obtain ⟨base, hb, hn, hz, hl⟩ := h.base
    simp only [hs]
    refine ⟨base, mem_pushStack.mpr (.inl hb), hn, hz, fun o hoh hbe => ?_⟩
    rcases mem_pushStack.mp hoh with hoh | rfl
    · exact hl o hoh hbe
    · have hlt := ha base hb
      simp only [before] at hbe
      omega

/-- Dropping every entry of a scene that is not the default one. -/
lemma drop (h : w.Coherent) (hi : id ≠ .default) (how : Owned m')
    (hp : ∀ o, o ≠ id → m'.priorityOf o = w.manager.priorityOf o)
    (hs : m'.priorityStack = removeStack w.manager.priorityStack id) :
    Coherent ⟨m', w.activated.filter (· ≠ id), w.clock⟩ := by
  have hm : ∀ e, e ∈ removeStack w.manager.priorityStack id ↔
      e ∈ w.manager.priorityStack ∧ e.sceneId ≠ id := by
    simp [removeStack]
  refine ⟨how, ?_, ?_, ?_, ?_, ?_, ?_⟩
  · rw [hs]
    exact h.sorted.filter _
  · intro e hen
    obtain ⟨hen, hne⟩ := (hm e).mp (hs ▸ hen)
    exact (h.current e hen).trans (hp _ hne).symm
  · intro e hen
    exact h.past e ((hm e).mp (hs ▸ hen)).1
  · intro o
    simp only [hs, hm, mem_filter, h.history o, decide_eq_true_eq]
    constructor
    · rintro ⟨⟨e, hen, rfl⟩, hne⟩
      exact ⟨e, ⟨hen, hne⟩, rfl⟩
    · rintro ⟨e, ⟨hen, hne⟩, rfl⟩
      exact ⟨⟨e, hen, rfl⟩, hne⟩
  · refine (h.order.filter _).imp_of_mem fun {lt ea} hlt hea hor heq => ?_
    have hl := of_decide_eq_true (mem_filter.mp hlt).2
    have he := of_decide_eq_true (mem_filter.mp hea).2
    rw [hp lt hl, hp ea he] at heq
    obtain ⟨e, hen, hn, hla⟩ := hor heq
    simp only [hs, hm]
    refine ⟨e, ⟨hen, hn ▸ hl⟩, hn, fun o hoh => hla o hoh.1⟩
  · obtain ⟨base, hb, hn, hz, hla⟩ := h.base
    simp only [hs, hm]
    exact ⟨base, ⟨hb, hn ▸ hi.symm⟩, hn, hz, fun o hoh => hla o hoh.1⟩

/-- Deactivating a scene that is on the stack once. -/
lemma pop (h : w.Coherent) (hst : w.manager.priorityStack = top :: rest)
    (hsi : ∀ o ∈ rest, o.sceneId ≠ top.sceneId) (hno : ¬ w.manager.AtDefault) :
    top.sceneId ≠ .default ∧ rest = removeStack w.manager.priorityStack top.sceneId := by
  constructor
  · intro hd
    obtain ⟨base, hb, hn, -, hl⟩ := h.base
    have hs := h.sorted
    rw [hst] at hb hl hs
    rcases mem_cons.mp hb with rfl | hr
    · -- everything below the base is the base, so there is nothing below it
      have hr : rest = [] := by
        refine eq_nil_iff_forall_not_mem.mpr fun o hoh => ?_
        have he := hl o (mem_cons_of_mem _ hoh) (rel_of_pairwise_cons hs hoh)
        exact hsi o hoh (congrArg _ he)
      refine hno ⟨?_, ?_⟩
      · simp [hst, hr]
      · simp [activeSceneId, hst, hn]
    · exact hsi base hr (hn.trans hd.symm)
  · rw [hst, removeStack, filter_cons_of_neg (by simp)]
    exact (filter_eq_self.mpr fun o hoh => decide_eq_true (hsi o hoh)).symm

end Watched.Coherent

/-! ## Runs -/

lemma coherent_new (z : ZoneId) (l : SpatialLayout F X) (now : Nat) : (Watched.new z l now).Coherent := by
  have hs : (Watched.new z l now).manager.priorityStack = [⟨.default, 0, now⟩] := rfl
  refine ⟨Owned.new.installDefaultScene z l now, ?_, ?_, ?_, ?_, ?_, ?_⟩
  · simp [hs]
  · intro e he
    rw [hs, mem_singleton] at he
    subst he
    rfl
  · intro e he
    rw [hs, mem_singleton] at he
    subst he
    exact le_rfl
  · intro id
    simp only [hs, mem_singleton, exists_eq_left]
    exact ⟨fun h => (mem_singleton.mp h).symm, fun h => mem_singleton.mpr h.symm⟩
  · exact pairwise_singleton _ _
  · exact ⟨⟨.default, 0, now⟩, by simp [hs]⟩

lemma deactivateCurrent_of_atDefault (h : m.AtDefault) : m.deactivateCurrent = m := if_pos h

/-- What deactivating the first entry leaves. -/
lemma deactivateCurrent_of_cons (h : ¬ m.AtDefault) (hs : m.priorityStack = top :: rest) :
    m.deactivateCurrent = { m with
        priorityStack := rest
        transitionPlan := none
        activationHistory := m.activationHistory.filter (· ≠ top.sceneId)
      }.refreshResolvedZones := by
  refine (if_neg h).trans ?_
  simp only [hs]

variable (m : SceneManager F X)

lemma priorityOf_putScene_ne {o : SceneId} (sc : Scene F X)
    (h : o ≠ id) : (m.putScene id sc).priorityOf o = m.priorityOf o := by
  simp [priorityOf, putScene, lookup_insert_ne h]

lemma refreshIf_priorityStack (cond : Bool) : (m.refreshIf cond).priorityStack = m.priorityStack := by
  unfold refreshIf
  split <;> rfl

lemma refreshIf_priorityOf (cond : Bool) (id : SceneId) :
    (m.refreshIf cond).priorityOf id = m.priorityOf id := by
  unfold refreshIf
  split <;> rfl

namespace Watched.Coherent

variable {w : Watched F X}

section

variable (h : w.Coherent)
include h

lemma create (sc : Scene F X) : (w.after (.create sc)).Coherent := by
  refine h.keep (h.owned.apply (.create sc)) ?_ fun e he => ?_
  · simp only [apply, SceneManager.create]
    split_ifs <;> rfl
  · simp only [apply, SceneManager.create]
    split_ifs with hn
    · rfl
    · rfl
    · refine priorityOf_putScene_ne _ _ fun heq => ?_
      rw [← heq] at hn
      exact hn (lookup_isSome.mpr (h.owned.stack e he))

theorem update (hop : w.manager.Orderly (.update sc)) : (w.after (.update sc)).Coherent := by
  refine h.keep (h.owned.apply (.update sc)) ?_ fun e hen => ?_
  · simp only [apply, SceneManager.update]
    split
    · rfl
    · split_ifs
      · rfl
      · rfl
      · rfl
      · exact refreshIf_priorityStack _ _
  · simp only [apply, SceneManager.update]
    split
    · rfl
    · rename_i ex he
      split_ifs with hk hn hv
      · rfl
      · rfl
      · rfl
      · rw [SceneManager.after, refreshIf_priorityOf]
        by_cases heq : e.sceneId = sc.id
        · have hs := hop ex he (not_not.mp hk) (fun hd => by_contra fun hne => hn ⟨hd, hne⟩)
              (not_not.mp hv)
            ⟨e, hen, heq⟩
          rw [show e.sceneId = sc.id from heq]
          simp [priorityOf, putScene, he, hs]
        · exact priorityOf_putScene_ne _ _ heq

theorem delete (id : SceneId) : (w.after (.delete id)).Coherent := by
  have how := h.owned.apply (.delete id)
  by_cases hr : id = .default ∨ (w.manager.scenes.lookup id).isNone
  · have hs : w.manager.apply (.delete id) = w.manager := by
      rw [apply, SceneManager.delete]
      split_ifs with hd hm
      · rfl
      · rfl
      · simp [hd, hm] at hr
    rw [Watched.after, hs, activatedAfter, if_pos hr]
    exact h
  · obtain ⟨hd, hf⟩ := not_or.mp hr
    rw [Watched.after, activatedAfter, if_neg hr]
    refine h.drop hd how (fun o hn => ?_) ?_
    all_goals
      rw [apply, SceneManager.delete, if_neg hd, if_neg hf]
    · simp [priorityOf, SceneManager.after, refreshResolvedZones, lookup_erase_ne hn]
    · rfl

theorem activate {spec : Option (TransitionSpec X)} (hc : w.clock ≤ now)
    (hop : w.manager.Orderly (.activate id spec now)) : (w.after (.activate id spec now)).Coherent := by
  have how := h.owned.apply (.activate id spec now)
  rcases hs : w.manager.scenes.lookup id with _ | sc
  · have ha : w.after (.activate id spec now) = ⟨w.manager, w.activated, now⟩ := by
      simp [Watched.after, Op.clock, apply, activatedAfter, SceneManager.activate, SceneManager.after, hs]
    rw [ha]
    exact ⟨h.owned, h.sorted, h.current, fun e he => (h.past e he).trans hc, h.history, h.order, h.base⟩
  · obtain rfl : sc.id = id := h.owned.keys id sc hs
    have hac : w.manager.activatedAfter w.activated (.activate sc.id spec now) =
        sc.id :: w.activated.filter (· ≠ sc.id) := by
      simp [activatedAfter, hs]
    rw [Watched.after, hac]
    refine h.push hs how ?_ ?_ hc (hop sc hs)
    all_goals
      simp only [apply, SceneManager.activate, hs, SceneManager.after, refreshResolvedZones]
    · split
      · split_ifs <;> rfl
      · rfl
    · rfl

lemma deactivateCurrent (hop : w.manager.Orderly .deactivateCurrent) :
    (w.after .deactivateCurrent).Coherent := by
  have how := h.owned.apply .deactivateCurrent
  by_cases hd : w.manager.AtDefault
  · have ha : w.after .deactivateCurrent = w := by
      simp only [Watched.after, Op.clock, apply, activatedAfter, if_pos hd,
        deactivateCurrent_of_atDefault hd]
    rw [ha]
    exact h
  · obtain ⟨base, hb, -⟩ := h.base
    rcases hs : w.manager.priorityStack with _ | ⟨top, rest⟩
    · simp [hs] at hb
    obtain ⟨hn, hr⟩ := h.pop hs (hop hd top rest hs) hd
    have hac : w.manager.activatedAfter w.activated .deactivateCurrent =
        w.activated.filter (· ≠ top.sceneId) := by
      simp only [activatedAfter, if_neg hd, activeSceneId, hs, head?_cons, Option.map_some]
      simp [eq_comm]
    rw [Watched.after, hac]
    refine h.drop hn how ?_ ?_
    all_goals
      rw [apply, deactivateCurrent_of_cons hd hs]
    · exact fun _ _ => rfl
    · exact hr

/-- **One step.** -/
theorem step {op : Op F X} (hc : w.clock ≤ op.clock w.clock) (hop : w.manager.Orderly op) :
    (w.after op).Coherent := by
  by_cases ha : op.activates
  · cases op with
    | create sc => exact h.create sc
    | update sc => exact h.update hop
    | delete id => exact h.delete id
    | activate id spec now => exact h.activate hc hop
    | deactivateCurrent => exact h.deactivateCurrent hop
    | _ => cases ha
  · rw [Bool.not_eq_true] at ha
    have hs := steady_apply w.manager op ha
    have haf : w.after op = ⟨w.manager.apply op, w.activated, w.clock⟩ := by
      cases op <;> first | rfl | cases ha
    rw [haf]
    refine h.keep (h.owned.apply op) hs.stack fun e _ => ?_
    rw [priorityOf, priorityOf, hs.priority]

end

end Watched.Coherent

/-- **The right scene is active.** -/
theorem active_arbitrated {w : Watched F X} (h : arbitrating.Reachable w) : w.Arbitrated := by
  have hc : w.Coherent := by
    refine h.invariant (fun s hs => ?_) fun s op t hs hst => ?_
    · obtain ⟨zoneId, layout, now, rfl⟩ := hs
      exact coherent_new zoneId layout now
    · obtain ⟨⟨hcl, rfl⟩, hop⟩ := hst
      exact hs.step hcl hop
  exact hc.arbitrated

/-! ## Runs of a bedroom -/

/-- A scene with nothing in it. -/
def lamp (uuid priority : Nat) : Scene ℚ Unit where
  id := ⟨uuid⟩
  name := "Lamp"
  zones := []
  zonesRevision := 0
  transition := ⟨1000, ()⟩
  priority := priority
  unassignedBehavior := .off
  layoutId := none
  activationBrightness := none
  kind := .named
  mutationMode := .live

/-- A new manager, at instant 0. -/
def bedroom : Watched ℚ Unit := .new ⟨1⟩ ⟨(), 640, 480, [], ()⟩ 0

/-- Two lamps of one priority, the second activated after the first. -/
def twoLamps : Watched ℚ Unit :=
  (((bedroom.after (.create (lamp 1 50))).after (.create (lamp 2 50))).after
    (.activate ⟨1⟩ none 1)).after (.activate ⟨2⟩ none 2)

/-- Deactivating the second brings the first back. -/
theorem active_arbitrated_lamps : (twoLamps.after .deactivateCurrent).Arbitrated ∧
    twoLamps.manager.activeSceneId = some ⟨2⟩ ∧
    (twoLamps.after .deactivateCurrent).manager.activeSceneId = some ⟨1⟩ := by
  have hf : ∀ entry ∈ ((bedroom.after (.create (lamp 1 50))).after
      (.create (lamp 2 50))).manager.priorityStack, entry.enteredAt < 1 := by decide +kernel
  have hs : ∀ entry ∈ (((bedroom.after (.create (lamp 1 50))).after
      (.create (lamp 2 50))).after (.activate ⟨1⟩ none 1)).manager.priorityStack,
      entry.enteredAt < 2 := by decide +kernel
  have hst : twoLamps.manager.priorityStack =
      [⟨⟨2⟩, 50, 2⟩, ⟨⟨1⟩, 50, 1⟩, ⟨.default, 0, 0⟩] := by decide +kernel
  have hr : arbitrating.Reachable (twoLamps.after .deactivateCurrent) := by
    refine .step (e := .deactivateCurrent) (.step (e := .activate ⟨2⟩ none 2) (.step
      (e := .activate ⟨1⟩ none 1) (.step (e := .create (lamp 2 50)) (.step
        (e := .create (lamp 1 50)) (.init ⟨_, _, _, rfl⟩)
        ⟨⟨le_rfl, rfl⟩, trivial⟩) ⟨⟨le_rfl, rfl⟩, trivial⟩)
        ⟨⟨by decide, rfl⟩, fun _ _ entry he _ => hf entry he⟩)
        ⟨⟨by decide, rfl⟩, fun _ _ entry he _ => hs entry he⟩)
        ⟨⟨le_rfl, rfl⟩, fun _ entry rest hc => ?_⟩
    cases hst.symm.trans hc
    decide
  exact ⟨active_arbitrated hr, by decide +kernel, by decide +kernel⟩

/-- A lamp of the default scene's priority, activated at its instant, and two deactivations. -/
def sameInstant : Watched ℚ Unit :=
  (((bedroom.after (.create (lamp 1 0))).after (.activate ⟨1⟩ none 0)).after
    .deactivateCurrent).after .deactivateCurrent

/-- A lamp activated twice and deactivated once. -/
def activatedTwice : Watched ℚ Unit :=
  (((bedroom.after (.create (lamp 1 50))).after (.activate ⟨1⟩ none 1)).after
    (.activate ⟨1⟩ none 2)).after .deactivateCurrent

/-- In the first run no scene is active in the end; in the second the lamp still is, though only the
default scene was activated and not deactivated. -/
theorem arbitration_lost : (watching.Reachable sameInstant ∧ sameInstant.manager.activeSceneId = none ∧
      ¬ sameInstant.Arbitrated) ∧
    watching.Reachable activatedTwice ∧ activatedTwice.activated = [.default] ∧
      activatedTwice.manager.activeSceneId = some ⟨1⟩ ∧ ¬ activatedTwice.Arbitrated := by
  have hn : sameInstant.manager.activeSceneId = none := by decide +kernel
  have hli : activatedTwice.activated = [.default] := by decide +kernel
  have hl : activatedTwice.manager.activeSceneId = some ⟨1⟩ := by decide +kernel
  refine ⟨⟨?_, hn, fun h => ?_⟩, ?_, hli, hl, fun h => ?_⟩
  · exact .step (e := .deactivateCurrent) (.step (e := .deactivateCurrent) (.step
      (e := .activate ⟨1⟩ none 0) (.step (e := .create (lamp 1 0)) (.init ⟨_, _, _, rfl⟩)
        ⟨le_rfl, rfl⟩) ⟨by decide, rfl⟩) ⟨le_rfl, rfl⟩) ⟨le_rfl, rfl⟩
  · obtain ⟨id, ⟨⟩, -⟩ := h.winner
  · exact .step (e := .deactivateCurrent) (.step (e := .activate ⟨1⟩ none 2) (.step
      (e := .activate ⟨1⟩ none 1) (.step (e := .create (lamp 1 50)) (.init ⟨_, _, _, rfl⟩)
        ⟨le_rfl, rfl⟩) ⟨by decide, rfl⟩) ⟨by decide, rfl⟩) ⟨le_rfl, rfl⟩
  · obtain ⟨id, ha, later, earlier, hs, -⟩ := h.winner
    rw [hl] at ha
    cases ha
    have hm : (⟨1⟩ : SceneId) ∈ activatedTwice.activated := by simp [hs]
    cases mem_singleton.mp hm

end Hypercolor.Scenes.SceneManager
