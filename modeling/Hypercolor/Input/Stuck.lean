import Hypercolor.Input.OneControl

/-!
# Keys that stay stuck

Replaying what was delivered to a consumer is to give, after every resolution, the controls that a
selected source is recorded as observing. The frame is collected source by source and delivered in
the order of capture times: where a control changes hands between sources within one frame, the
edge that decides in one order need not decide in the other.

* **`held_as_observed`**: in every run whose resolutions settle, the replay gives what is observed,
  and removing the consumer releases each of it once.
* **`settles_iff`**: a resolution that starts well ends well if and only if it settles.
* **`handed_over_stays_stuck`**: a run that leaves a key held that nobody observes.
-/

namespace Hypercolor.Input

open Lib List ConsumerRouteState RouterSession InteractionRouteSource Finset ControlView
    InteractionControl

/-! ## The selection -/

namespace Routing

variable {nowMs : Nat} {r : Routing} {own : SourceIncarnation}

@[simp] theorem selectedOrder_setSource (state : ConsumerSourceState) :
    (r.setSource own state).state.selectedOrder = r.state.selectedOrder := rfl

@[simp] theorem selectedOrder_change : r.change.state.selectedOrder = r.state.selectedOrder := rfl

/-- Turns that keep the selection. -/
lemma selectedOrder_foldl {α : Type} {step : Routing → α → Routing}
    (hs : ∀ r a, (step r a).state.selectedOrder = r.state.selectedOrder) (l : List α)
    (r : Routing) : (l.foldl step r).state.selectedOrder = r.state.selectedOrder := by
  induction l generalizing r with
  | nil => rfl
  | cons a l ih => rw [foldl_cons, ih, hs]

variable (r : Routing)

lemma selectedOrder_routeEvent (e : TimedInputEvent) :
    (r.routeEvent own e).state.selectedOrder = r.state.selectedOrder := by
  unfold routeEvent
  dsimp only
  split
  · rfl
  · split
    · rfl
    · split
      · split <;> rfl
      · split
        · rfl
        · split <;> rfl
        · split <;> simp [invalid]

lemma selectedOrder_readPublication (src : InteractionRouteSource) :
    (r.readPublication nowMs src).state.selectedOrder = r.state.selectedOrder := by
  unfold readPublication
  dsimp only
  split
  · rfl
  · split
    · rw [resetSourceAfterLoss, recorded_lookup]
      simp
      rfl
    · exact selectedOrder_foldl selectedOrder_routeEvent _ _

lemma selectedOrder_dropMissing (control : InteractionControl) :
    (r.dropMissing nowMs own control).state.selectedOrder = r.state.selectedOrder := by
  unfold dropMissing
  dsimp only
  split <;> simp

lemma selectedOrder_quarantineHeld (control : InteractionControl) :
    (r.quarantineHeld own control).state.selectedOrder = r.state.selectedOrder := by
  unfold quarantineHeld
  dsimp only
  split <;> rfl

lemma selectedOrder_reconcileSnapshot (own : SourceIncarnation) :
    (r.reconcileSnapshot nowMs own).state.selectedOrder = r.state.selectedOrder := by
  have hp := selectedOrder_foldl (@selectedOrder_dropMissing nowMs own) (r.state.source own).missing r
  unfold reconcileSnapshot
  dsimp only
  split
  · exact hp
  · exact (selectedOrder_foldl selectedOrder_quarantineHeld _ _).trans hp

end Routing

namespace ConsumerRouteState

variable {state : ConsumerRouteState} {policy : InteractionRoutePolicy}
  {selected : List InteractionRouteSource} {nowMs : Nat} {control : InteractionControl}

lemma selectedOrder_resolveInto : (state.resolveInto policy selected nowMs).1.selectedOrder =
      selected.map incarnation := by
  refine (Routing.selectedOrder_foldl Routing.selectedOrder_reconcileSnapshot _ _).trans ?_
  refine (Routing.selectedOrder_foldl Routing.selectedOrder_readPublication _ _).trans ?_
  unfold reroute
  by_cases hc : state.routeChanged policy (selected.map incarnation)
  · rw [if_pos hc]
  · rw [if_neg hc]
    simp [routeChanged] at hc
    exact hc.2

/-- What is delivered are the collected events in the order of their places. -/
lemma events_resolveInto : (state.resolveInto policy selected nowMs).2.interaction.batch.events =
    stableSortEvents (state.collect policy selected nowMs).events := rfl

/-- Some selected source is recorded as observing a control. -/
def Observes (state : ConsumerRouteState) (control : InteractionControl) : Prop :=
  ∃ own ∈ state.selectedOrder, control ∈ (state.source own).observed

/-! ## Releasing everything -/

/-- The turns of `release_all`: one release for each control. -/
lemma releases_spec (nowMs : Nat) (es : List (InteractionControl × TimedInputEvent))
    (hp : ∀ e ∈ es, eventControl e.2 = some (e.1, .pressed))
    (rl : Finset InteractionControl) (evs : List TimedInputEvent) :
    ∃ cs : List InteractionControl, cs.Nodup ∧
      (∀ control, control ∈ cs ↔ control ∈ es.map Prod.fst ∧ control ∉ rl) ∧
      ∃ more : List TimedInputEvent, (es.foldl (fun (rl, evs) e =>
          if e.1 ∈ rl then (rl, evs)
          else (insert e.1 rl, evs ++ [syntheticRelease e.2 nowMs])) (rl, evs)).2 = evs ++ more ∧
        more.map controlEdge = cs.map fun control => some (control, false) := by
  induction es generalizing rl evs with
  | nil => exact ⟨[], nodup_nil, by simp, [], by simp, rfl⟩
  | cons e es ih =>
    have ih := ih fun e hen => hp e (mem_cons_of_mem _ hen)
    rw [foldl_cons]
    by_cases hr : e.1 ∈ rl
    · obtain ⟨cs, hn, hm, more, hmo, he⟩ := ih rl evs
      dsimp only
      rw [if_pos hr]
      refine ⟨cs, hn, fun control => ?_, more, hmo, he⟩
      grind
    · obtain ⟨cs, hn, hm, more, hmo, he⟩ := ih (insert e.1 rl) (evs ++ [syntheticRelease e.2 nowMs])
      dsimp only
      rw [if_neg hr]
      have hev := eventControl_syntheticRelease (hp e mem_cons_self) nowMs
      refine ⟨e.1 :: cs, ?_, fun control => ?_, syntheticRelease e.2 nowMs :: more, ?_, ?_⟩
      · refine nodup_cons.mpr ⟨fun hm' => ?_, hn⟩
        exact ((hm _).mp hm').2 (mem_insert_self _ _)
      · grind
      · rw [hmo, append_assoc, singleton_append]
      · rw [List.map_cons, List.map_cons, he]
        simp [controlEdge, hev]

/-- **Removing a consumer** releases each observed control once. -/
theorem releaseAll_spec (hpr : ∀ own, (state.source own).Pressed) (nowMs : Nat) :
    ∃ cs : List InteractionControl, cs.Nodup ∧
      (∀ control, control ∈ cs ↔ ∃ own, control ∈ (state.source own).observed) ∧
      (state.releaseAll nowMs).map controlEdge = cs.map fun control => some (control, false) := by
  have hen : ∀ e, e ∈ ((state.sourceStates.ordered SourceIncarnation.rank).flatMap
      fun e => e.2.observed.ordered rank) ↔
        ∃ own, (state.source own).observed.lookup e.1 = some e.2 := by
    rintro ⟨control, press⟩
    rw [mem_flatMap]
    constructor
    · rintro ⟨⟨own, src⟩, hs, he⟩
      refine ⟨own, ?_⟩
      rw [source, Table.mem_ordered.mp hs]
      exact Table.mem_ordered.mp he
    · rintro ⟨own, he⟩
      unfold source at he
      cases hl : state.sourceStates.lookup own with
      | none =>
        rw [hl] at he
        cases he
      | some src =>
        rw [hl] at he
        exact ⟨(own, src), Table.mem_ordered.mpr hl, Table.mem_ordered.mpr he⟩
  obtain ⟨cs, hn, hme, more, hm, hed⟩ := releases_spec nowMs
    ((state.sourceStates.ordered SourceIncarnation.rank).flatMap
      fun e => e.2.observed.ordered rank)
    (fun e he => by
      obtain ⟨own, hl⟩ := (hen e).mp he
      exact hpr own _ _ hl) ∅ []
  refine ⟨cs, hn, fun control => ?_, ?_⟩
  · rw [hme, List.mem_map]
    constructor
    · rintro ⟨⟨e, he, rfl⟩, -⟩
      obtain ⟨own, hl⟩ := (hen e).mp he
      exact ⟨own, Table.mem_of_lookup hl⟩
    · rintro ⟨own, hob⟩
      obtain ⟨press, hp⟩ := Table.exists_lookup hob
      exact ⟨⟨(control, press), (hen _).mpr ⟨own, hp⟩, rfl⟩, notMem_empty _⟩
  · rw [releaseAll, hm]
    exact hed

end ConsumerRouteState

/-! ## Runs -/

/-- A resolution settles: for every control, of the edges collected the one that is delivered last
says what the one collected last says. -/
def Settles (consumer : ConsumerIncarnation) (session : RouterSession)
    (request : InteractionRouteRequest) (selected : List InteractionRouteSource) (nowMs : Nat) : Prop :=
  ∀ control, (frame control (session.state consumer) request.policy selected nowMs).tally.Settled

/-- **Where nobody leaves, nothing is lost and the sources publish in the order of capture times**, a
resolution settles. -/
theorem ControlView.Chronological.settles {consumer : ConsumerIncarnation} {session : RouterSession}
    {rq : InteractionRouteRequest} {sel : List InteractionRouteSource} {nowMs : Nat}
    (h : Chronological (session.state consumer) sel nowMs) : Settles consumer session rq sel nowMs :=
  fun _ => settled_frame_of_chronological h

/-- Replaying what was delivered gives what is observed. -/
def HeldAsObserved (consumer : ConsumerIncarnation) (session : RouterSession) : Prop :=
  ∀ control, control ∈ replay controlEdge ∅ session.delivered ↔ (session.state consumer).Observes control

/-- What every run keeps: observed controls were pressed, and only selected sources observe. -/
structure Routed (state : ConsumerRouteState) : Prop where
  pressed : ∀ own, (state.source own).Pressed
  selected : ∀ own, own ∉ state.selectedOrder → state.source own = .attach

namespace Routed

variable {state : ConsumerRouteState}

lemma default : Routed default := ⟨fun _ => ConsumerSourceState.pressed_attach, fun _ _ => rfl⟩

lemma observes_iff (h : Routed state) {control : InteractionControl} :
    state.Observes control ↔ ∃ own, control ∈ (state.source own).observed := by
  refine ⟨fun ⟨own, _, hob⟩ => ⟨own, hob⟩, fun ⟨own, hob⟩ => ⟨own, ?_, hob⟩⟩
  by_contra hs
  rw [h.selected own hs] at hob
  exact AList.notMem_empty control hob

lemma resolveInto (h : Routed state) (policy : InteractionRoutePolicy)
    {selected : List InteractionRouteSource} (nowMs : Nat) (hse : (selected.map incarnation).Nodup) :
    Routed (state.resolveInto policy selected nowMs).1 where
  pressed own := by
    rw [source_resolveInto]
    by_cases hm : own ∈ selected.map incarnation
    · obtain ⟨source, hsr, rfl⟩ := mem_map.mp hm
      rw [source_collect_of_mem hse hsr]
      exact ((h.pressed _).read source).reconcile
    · rw [source_collect_of_notMem hm]
      split
      · exact ConsumerSourceState.pressed_attach
      · exact h.pressed own
  selected own hm := by
    rw [selectedOrder_resolveInto] at hm
    rw [source_resolveInto, source_collect_of_notMem hm]
    split
    · rfl
    · rename_i hc
      refine h.selected own ?_
      have hs : state.selectedOrder = selected.map incarnation := by
        simp [routeChanged] at hc
        exact hc.2
      rw [hs]
      exact hm

end Routed

variable {consumer : ConsumerIncarnation} {session : RouterSession}

/-- **Where a resolution settles** is where it ends well. -/
theorem settles_iff (hr : Routed (session.state consumer))
    (hh : HeldAsObserved consumer session) (rq : InteractionRouteRequest)
    (ss : List InteractionRouteSource) (nowMs : Nat) : HeldAsObserved consumer
        (session.perform consumer (.resolve consumer rq ss nowMs)) ↔
      Settles consumer session rq (selectSources rq ss) nowMs := by
  have hs := nodup_selectSources rq ss
  have hn := hr.resolveInto rq.policy nowMs hs
  refine forall_congr' fun control => ?_
  have hst := Sees.start control hr.pressed
  have hf := @sees_frame nowMs _ control rq.policy _ hr.pressed hs
  have hc := current_frame control (session.state consumer) rq.policy (selectSources rq ss) nowMs
  have hb : decide (control ∈ replay controlEdge ∅ session.delivered) =
      decide ((start control (session.state consumer)).tally.holders ≠ ∅) := by
    rw [decide_eq_decide, hh control, hr.observes_iff, ← nonempty_iff_ne_empty]
    exact exists_congr fun own => (hst.observes own).symm
  have ha : ((session.state consumer).resolveInto rq.policy
      (selectSources rq ss) nowMs).1.Observes control ↔ (frame control (session.state consumer) rq.policy
          (selectSources rq ss) nowMs).tally.holders ≠ ∅ := by
    rw [hn.observes_iff, ← nonempty_iff_ne_empty]
    exact exists_congr fun own => (hf.observes own).symm
  rw [delivered_resolve, state_resolve, replay_append, mem_replay, ha,
    events_resolveInto, edgesOf_stableSortEvents, ← hf.edges,
    getLast?_map, hb]
  refine Iff.trans ?_ (Tally.settled_iff hc)
  exact (Bool.eq_iff_iff.trans (iff_congr Iff.rfl decide_eq_true_iff)).symm

/-- Removing the consumer releases what is left, each control once. -/
def ReleasesObserved (consumer : ConsumerIncarnation) (session : RouterSession) : Prop :=
  ∀ nowMs, ∃ controls : List InteractionControl, controls.Nodup ∧
    (∀ control, control ∈ controls ↔ (session.state consumer).Observes control) ∧
    (session.router.removeConsumer consumer nowMs).2.map controlEdge =
      controls.map fun control => some (control, false)

lemma Routed.releases (h : Routed (session.state consumer)) : ReleasesObserved consumer session := by
  intro nowMs
  obtain ⟨cs, hn, hm, he⟩ := releaseAll_spec h.pressed nowMs
  refine ⟨cs, hn, fun control => (hm control).trans h.observes_iff.symm, ?_⟩
  rw [← he, InteractionRouter.removeConsumer, state]
  cases session.router.consumers.lookup consumer <;> rfl

/-- What every run whose resolutions settle keeps. -/
structure Followed (consumer : ConsumerIncarnation) (session : RouterSession) : Prop where
  routed : Routed (session.state consumer)
  held : HeldAsObserved consumer session

/-- What other consumers do does not matter. -/
lemma Followed.congr (h : Followed consumer session) {nx : RouterSession}
    (hl : nx.router.consumers.lookup consumer = session.router.consumers.lookup consumer)
    (hd : nx.delivered = session.delivered) : Followed consumer nx := by
  have hs : nx.state consumer = session.state consumer := by
    rw [state, hl]
    rfl
  refine ⟨hs ▸ h.routed, fun control => ?_⟩
  rw [hs, hd]
  exact h.held control

/-- Removing the consumer leaves nothing held. -/
lemma Followed.remove (h : Followed consumer session) (nowMs : Nat) :
    Followed consumer (session.perform consumer (.remove consumer nowMs)) := by
  obtain ⟨cs, hn, hm, hed⟩ := h.routed.releases nowMs
  have hd : (session.perform consumer (.remove consumer nowMs)).delivered =
      session.delivered ++ (session.router.removeConsumer consumer nowMs).2 := by
    simp [perform]
  have he := Tells.endAll hed hn fun control hc =>
    (h.held control).mpr ((hm control).mp hc)
  refine ⟨by rw [state_remove]; exact .default, fun control => ?_⟩
  rw [hd, replay_append, he.replay, state_remove, mem_sdiff, mem_toFinset, hm, h.held]
  refine iff_of_false (fun hm => hm.2 hm.1) ?_
  rintro ⟨own, hs, -⟩
  exact not_mem_nil hs

lemma followed_reachable
    (h : ((consumption consumer).restrict (AtResolutions consumer (Settles consumer))).Reachable
      session) : Followed consumer session := by
  refine h.invariant ?_ ?_
  · rintro session rfl
    refine ⟨.default, fun control => ?_⟩
    refine iff_of_false (notMem_empty control) ?_
    rintro ⟨own, hs, -⟩
    exact not_mem_nil hs
  · rintro session op nx hf ⟨rfl, hse⟩
    cases op with
    | resolve o rq ss nowMs =>
      by_cases hoh : o = consumer
      · subst hoh
        refine ⟨?_, (settles_iff hf.routed hf.held ..).mpr (hse rfl)⟩
        rw [state_resolve]
        exact hf.routed.resolveInto _ _ (nodup_selectSources rq ss)
      · obtain ⟨hl, hd, -⟩ :=
          session.perform_resolve_of_ne hoh rq ss nowMs
        exact hf.congr hl hd
    | remove o nowMs =>
      by_cases hoh : o = consumer
      · subst hoh
        exact hf.remove nowMs
      · obtain ⟨hl, hd, -⟩ := session.perform_remove_of_ne hoh nowMs
        exact hf.congr hl hd

/-- **What is delivered tells what is observed**, in every run whose resolutions settle, and removing
the consumer releases the rest. -/
theorem held_as_observed
    (h : ((consumption consumer).restrict (AtResolutions consumer (Settles consumer))).Reachable
      session) : HeldAsObserved consumer session ∧ ReleasesObserved consumer session :=
  ⟨(followed_reachable h).held, (followed_reachable h).routed.releases⟩

/-- A resolution in which the host source publishes the press of `b`. -/
def pressB : RouterOp := .resolve 0 ⟨.host, none⟩ [pressedLater] 20

/-- `a` is held from the start and `b` pressed: `b` is what is observed and what is released. -/
theorem held_as_observed_pressed :
    let session := RouterSession.perform 0 (RouterSession.perform 0 ⟨⟨∅⟩, [], []⟩ attachHolding) pressB
    HeldAsObserved 0 session ∧ ReleasesObserved 0 session := by
  refine held_as_observed (.step (e := pressB) (.step (e := attachHolding) (.init rfl)
    ⟨rfl, fun _ => Chronological.settles ⟨?_, ?_, ?_, ?_⟩⟩)
    ⟨rfl, fun _ => Chronological.settles ⟨?_, ?_, ?_, ?_⟩⟩)
  · decide +kernel
  · decide +kernel
  · decide +kernel
  · exact fun control => .nil
  · decide +kernel
  · decide +kernel
  · decide +kernel
  · intro control
    by_cases hc : control = .key "b"
    · subst hc
      decide +kernel
    · have hn : places control [keyEdge "b" .pressed 15 1] = [] := by
        simp [places, keyEdge, eventControl, Ne.symm hc]
      exact hn ▸ .nil

/-! ## A key that stays stuck -/

/-- A browser source that answers every read alike. -/
def browserSource (value : Nat) (read : InteractionRouteRead) : InteractionRouteSource :=
  ⟨⟨.browser, value⟩, .browser, 1, fun _ => read, fun _ => read⟩

/-- Host and browser, merged. -/
def resolveMerged (host browser : InteractionRouteRead) (nowMs : Nat) : RouterOp :=
  .resolve 0 ⟨.merge, some ⟨.browser, 0⟩⟩ [hostSource 0 host, browserSource 0 browser] nowMs

/-- `a` is pressed in the browser, then released there, pressed on the host and released there, the
last three between two resolutions. -/
def handedOver : List RouterOp :=
  let nothing := answering (holdingKeys [] 1) []
  [ resolveMerged nothing nothing 5,
    resolveMerged nothing (answering (holdingKeys ["a"] 2) [keyEdge "a" .pressed 10 1]) 20,
    resolveMerged (answering (holdingKeys [] 3) [keyEdge "a" .pressed 30 1, keyEdge "a" .released 40 2])
      (answering (holdingKeys [] 3) [keyEdge "a" .released 25 2]) 50 ]

/-- **A stuck key**: nobody observes `a`, the replay holds it, and nothing releases it. -/
theorem handed_over_stays_stuck :
    ∃ session, (consumption 0).Reachable session ∧ ¬ HeldAsObserved 0 session ∧
      key "a" ∈ replay controlEdge ∅ session.delivered ∧ (session.router.removeConsumer 0 60).2 = [] := by
  have hr : (consumption 0).Reachable (handedOver.foldl (perform 0) ⟨⟨∅⟩, [], []⟩) := by
    have hf : ∀ (ops : List RouterOp) session, (consumption 0).Reachable session →
        (consumption 0).Reachable (ops.foldl (perform 0) session) := by
      intro ops
      induction ops with
      | nil => exact fun _ => id
      | cons op ops ih => exact fun session h => ih _ (h.step (e := op) rfl)
    exact hf handedOver _ (.init rfl)
  have hh : key "a" ∈ replay controlEdge ∅
      (handedOver.foldl (perform 0) ⟨⟨∅⟩, [], []⟩).delivered := by decide +kernel
  refine ⟨_, hr, fun hfo => ?_, hh, by decide +kernel⟩
  obtain ⟨own, hs, hob⟩ := (hfo (.key "a")).mp hh
  revert own
  decide +kernel

end Hypercolor.Input
