import Hypercolor.Input.Routing
import Hypercolor.Lib.Local

/-!
# One source at a time

Every turn of a resolution touches the state of one source, and what it does to it depends on that
state and on what the slot answered alone: `ConsumerSourceState.read` and `.reconcile`. Other
sources only decide whether a release is collected.

* **`source_collect`**: after a frame, a selected source has been read and reconciled once, and any
  other source is as good as absent.
-/

namespace Hypercolor.Input

open Lib List InteractionRouteSource Routing ConsumerSourceState ConsumerRouteState

/-! ## A source on its own -/

namespace ConsumerSourceState

variable (state : ConsumerSourceState)

/-- `route_event`, for the source of the event. -/
def route (event : TimedInputEvent) : ConsumerSourceState :=
  if event.repeatCount = 0 then state
  else match eventControl event with
    | none => state
    | some (control, edge) =>
      if control ∈ state.quarantined then
        if edge = .released then
          { state with quarantined := state.quarantined.erase control }
        else state
      else match edge with
        | .pressed => { state with observed := state.observed.insert control event }
        | .repeated => state
        | .released =>
          if control ∈ state.observed then
            { state with observed := state.observed.erase control }
          else state

/-- Where a read starts: the cursor moves on. -/
def advance (source : InteractionRouteSource) : ConsumerSourceState :=
  { state with transientDelta := default, cursor := (source.read state.cursor).events.nextCursor }

/-- `read_selected_publications`, for the source read. -/
def read (state : ConsumerSourceState) (source : InteractionRouteSource) : ConsumerSourceState :=
  let publication := source.read state.cursor
  if state.cursor = u64Max then
    { { state.advance source with
        latestSnapshot := publication.snapshot
        interactionTransients := publication.interactionTransients }.replaceQuarantineFromSnapshot
      with lastInteractionGeneration := publication.snapshot.map InteractionData.generation }
  else if 0 < publication.events.dropped then
    let recovery := source.recovery u64Max
    let recovered := { state.advance source with
      cursor := recovery.events.nextCursor
      latestSnapshot := recovery.snapshot }.applyInteractionTransients
        recovery.interactionTransients
    { recovered with observed := ∅ }.replaceQuarantineFromSnapshot
  else
    publication.captured.foldl route ({ state.advance source with
      latestSnapshot := publication.snapshot }.applyInteractionTransients
        publication.interactionTransients)

def dropMissing (control : InteractionControl) : ConsumerSourceState :=
  match state.observed.lookup control with
  | none => state
  | some _ => { state with observed := state.observed.erase control }

def quarantineHeld (control : InteractionControl) : ConsumerSourceState :=
  if control ∉ state.observed ∧ control ∉ state.quarantined then
    { state with quarantined := insert control state.quarantined }
  else state

def forgetSnapshot : ConsumerSourceState :=
  { state with lastInteractionGeneration := none, quarantined := ∅ }

def applySnapshot (snapshot : InteractionData) : ConsumerSourceState :=
  { (snapshotControls snapshot).foldl quarantineHeld state with
    lastInteractionGeneration := some snapshot.generation }

/-- `reconcile_snapshots`, for the source reconciled. -/
def reconcile : ConsumerSourceState :=
  let pruned := state.missing.foldl dropMissing state
  match state.latestSnapshot with
  | none => pruned.forgetSnapshot
  | some snapshot => pruned.applySnapshot snapshot

end ConsumerSourceState

/-! ## Turns are local -/

namespace Routing

variable {nowMs : Nat} {r : Routing} {inc o : SourceIncarnation}

section

variable (r : Routing)

variable (inc o : SourceIncarnation)

@[simp] theorem source_setSource (st : ConsumerSourceState) : (r.setSource inc st).state.source o =
      if o = inc then st else r.state.source o := by
  simp only [setSource, source, Table.lookup_insert_if]
  split <;> rfl

@[simp] theorem source_removeSource : (r.removeSource inc).state.source o =
      if o = inc then .attach else r.state.source o := by
  simp only [removeSource, source, Table.lookup_erase_if]
  split <;> rfl

@[simp] theorem source_push (e : TimedInputEvent) : (r.push e).state.source o = r.state.source o := rfl

@[simp] theorem source_change : r.change.state.source o = r.state.source o := rfl

@[simp] theorem source_invalid : r.invalid.state.source o = r.state.source o := rfl

@[simp] theorem source_recordTransientDelta (delta : InteractionTransientTotals) :
    (r.recordTransientDelta delta).state.source o = r.state.source o := rfl

@[simp] theorem pushRelease_state (c : InteractionControl) (e : TimedInputEvent) :
    (r.pushRelease c e).state = r.state := by
  unfold pushRelease
  split <;> rfl

@[simp] theorem synthesizeRemovedSource_state (st : ConsumerSourceState) :
    (r.synthesizeRemovedSource nowMs st).state = r.state := by
  unfold synthesizeRemovedSource
  induction st.observed.ordered InteractionControl.rank generalizing r with
  | nil => rfl
  | cons e es ih => rw [foldl_cons, ih, pushRelease_state]

lemma source_departSource : (r.departSource nowMs inc).state.source o =
      if o = inc then .attach else r.state.source o := by
  unfold departSource
  split
  · rename_i ha
    by_cases hoh : o = inc
    · subst hoh
      simp [source, ha]
    · simp [hoh]
  · simp

@[simp] theorem source_arriveSource : (r.arriveSource inc).state.source o = r.state.source o := by
  unfold arriveSource
  split
  · rfl
  · rename_i ha
    rw [source_setSource]
    split
    · subst o
      rw [source, AList.lookup_eq_none.mpr ha]
      rfl
    · rfl

end

lemma source_arrivals (sel : List SourceIncarnation) (r : Routing) :
    (sel.foldl arriveSource r).state.source o = r.state.source o := by
  induction sel generalizing r with
  | nil => rfl
  | cons inc sel ih => rw [foldl_cons, ih, source_arriveSource]

lemma source_departures (rm : List SourceIncarnation) (r : Routing) :
    (rm.foldl (departSource nowMs) r).state.source o =
      if o ∈ rm then .attach else r.state.source o := by
  induction rm generalizing r with
  | nil => simp
  | cons inc rm ih =>
    rw [foldl_cons, ih, source_departSource]
    by_cases hoh : o = inc <;> simp [hoh]

/-- Whoever is not selected is gone. -/
lemma source_transitionSources (r : Routing) (sel : List SourceIncarnation) :
    (r.transitionSources nowMs sel).state.source o =
      if o ∈ sel then r.state.source o else .attach := by
  unfold transitionSources
  rw [source_arrivals, source_departures]
  by_cases hoh : o ∈ sel
  · simp [hoh]
  · cases h : r.state.sourceStates.lookup o with
    | none => simp [source, h]
    | some st =>
      have hm : o ∈ (r.state.sourceStates.ordered SourceIncarnation.rank).map Prod.fst :=
        mem_map.mpr ⟨(o, st), Table.mem_ordered.mpr h, rfl⟩
      simp [hoh, hm]

lemma source_routeEvent (r : Routing) (inc o : SourceIncarnation)
    (e : TimedInputEvent) : (r.routeEvent inc e).state.source o =
      if o = inc then (r.state.source o).route e
      else r.state.source o := by
  unfold routeEvent route
  by_cases hr : e.repeatCount = 0
  · simp [hr]
  rw [if_neg hr, if_neg hr]
  cases hc : eventControl e with
  | none => simp
  | some edge =>
    obtain ⟨c, edge⟩ := edge
    dsimp only
    by_cases hoh : o = inc
    · subst hoh
      by_cases hq : c ∈ (r.state.source o).quarantined
      · rw [if_pos hq, if_pos hq]
        split <;> simp
      · rw [if_neg hq, if_neg hq]
        cases edge with
        | pressed => simp
        | repeated | released =>
          dsimp only
          split <;> simp
    · by_cases hq : c ∈ (r.state.source inc).quarantined
      · rw [if_pos hq]
        split <;> simp [hoh]
      · rw [if_neg hq]
        cases edge with
        | pressed => simp [hoh]
        | repeated =>
          dsimp only
          split <;> simp
        | released =>
          dsimp only
          split <;> simp [hoh]

lemma source_routeEvents (cap : List TimedInputEvent) (r : Routing) (inc o : SourceIncarnation) :
    (cap.foldl (routeEvent inc) r).state.source o =
      if o = inc then cap.foldl route (r.state.source o)
      else r.state.source o := by
  induction cap generalizing r with
  | nil => simp
  | cons e cap ih =>
    rw [foldl_cons, ih, source_routeEvent]
    split <;> rfl

lemma recorded_lookup (r : Routing) (inc : SourceIncarnation)
    (st : ConsumerSourceState) (delta : InteractionTransientTotals) :
    ((r.setSource inc st).recordTransientDelta delta).state.sourceStates.lookup inc = some st :=
  AList.lookup_insert _

lemma source_resetSourceAfterLoss {st : ConsumerSourceState}
    (h : r.state.sourceStates.lookup inc = some st) (o : SourceIncarnation) :
    (r.resetSourceAfterLoss nowMs inc).state.source o =
      if o = inc then { st with observed := ∅ }.replaceQuarantineFromSnapshot
      else r.state.source o := by
  rw [resetSourceAfterLoss, h]
  by_cases hoh : o = inc <;> simp [hoh]

/-- **A read is local.** -/
theorem source_readPublication (r : Routing) (src : InteractionRouteSource)
    (o : SourceIncarnation) : (r.readPublication nowMs src).state.source o =
      if o = src.incarnation then (r.state.source o).read src
      else r.state.source o := by
  unfold readPublication ConsumerSourceState.read
  by_cases hoh : o = src.incarnation
  · subst hoh
    dsimp only
    rw [if_pos rfl]
    split
    · rw [source_setSource, if_pos rfl]
      rfl
    · split
      · refine (source_resetSourceAfterLoss (recorded_lookup ..) _).trans ?_
        rw [if_pos rfl]
        rfl
      · rw [source_routeEvents, if_pos rfl, source_recordTransientDelta, source_setSource, if_pos rfl]
        rfl
  · dsimp only
    split
    · rw [source_setSource, if_neg hoh]
    · split
      · refine (source_resetSourceAfterLoss (recorded_lookup ..) _).trans ?_
        rw [if_neg hoh, source_recordTransientDelta, source_setSource, if_neg hoh]
        rfl
      · rw [source_routeEvents, if_neg hoh, source_recordTransientDelta, source_setSource, if_neg hoh]

section

variable (r : Routing) (inc : SourceIncarnation) (c : InteractionControl) (o : SourceIncarnation)

lemma source_dropMissing : (r.dropMissing nowMs inc c).state.source o =
      if o = inc then (r.state.source o).dropMissing c
      else r.state.source o := by
  unfold dropMissing ConsumerSourceState.dropMissing
  by_cases hoh : o = inc
  · subst hoh
    rw [if_pos rfl]
    split
    · rename_i hn
      simp [hn]
    · rename_i hs
      simp [hs]
  · dsimp only
    rw [if_neg hoh]
    split
    · rfl
    · simp [hoh]

lemma source_quarantineHeld : (r.quarantineHeld inc c).state.source o =
      if o = inc then (r.state.source o).quarantineHeld c
      else r.state.source o := by
  unfold quarantineHeld ConsumerSourceState.quarantineHeld
  by_cases hoh : o = inc
  · subst hoh
    dsimp only
    split <;> simp_all
  · dsimp only
    split
    · simp [hoh]
    · rfl

end

/-- Turns that all work on one source. -/
lemma source_foldl {step : Routing → InteractionControl → Routing}
    {own : ConsumerSourceState → InteractionControl → ConsumerSourceState}
    (hs : ∀ r c o, (step r c).state.source o =
      if o = inc then own (r.state.source o) c else r.state.source o)
    (cs : List InteractionControl) (r : Routing) (o : SourceIncarnation) :
    (cs.foldl step r).state.source o =
      if o = inc then cs.foldl own (r.state.source o)
      else r.state.source o := by
  induction cs generalizing r with
  | nil => simp
  | cons c cs ih =>
    rw [foldl_cons, ih, hs]
    split <;> rfl

section

variable (r : Routing) (inc o : SourceIncarnation)

lemma source_forgetSnapshot : (r.forgetSnapshot inc).state.source o =
      if o = inc then (r.state.source o).forgetSnapshot
      else r.state.source o := by
  refine (source_setSource ..).trans ?_
  by_cases hoh : o = inc
  · subst hoh
    rfl
  · rw [if_neg hoh, if_neg hoh]

lemma source_applySnapshot (snap : InteractionData) : (r.applySnapshot inc snap).state.source o =
      if o = inc then (r.state.source o).applySnapshot snap
      else r.state.source o := by
  have hh := source_foldl (fun r c o => source_quarantineHeld r inc c o)
    (snapshotControls snap) { r with changed := r.changed ||
      (r.state.source inc).lastInteractionGeneration ≠ some snap.generation }
  refine (source_setSource ..).trans ?_
  rw [hh, hh]
  by_cases hoh : o = inc
  · subst hoh
    rw [if_pos rfl, if_pos rfl, if_pos rfl]
    rfl
  · rw [if_neg hoh, if_neg hoh, if_neg hoh]

/-- **Reconciling is local.** -/
theorem source_reconcileSnapshot : (r.reconcileSnapshot nowMs inc).state.source o =
      if o = inc then (r.state.source o).reconcile else r.state.source o := by
  have hp := source_foldl (fun r c o => @source_dropMissing nowMs r inc c o)
      (r.state.source inc).missing r
  rw [reconcileSnapshot]
  by_cases hoh : o = inc
  · subst hoh
    rw [if_pos rfl, reconcile]
    rcases (r.state.source o).latestSnapshot with _ | snap
    · dsimp only
      rw [source_forgetSnapshot, if_pos rfl, hp, if_pos rfl]
    · dsimp only
      rw [source_applySnapshot, if_pos rfl, hp, if_pos rfl]
  · rw [if_neg hoh]
    split
    · rw [source_forgetSnapshot, if_neg hoh, hp, if_neg hoh]
    · rw [source_applySnapshot, if_neg hoh, hp, if_neg hoh]

end

end Routing

/-! ## A whole frame -/

variable {sel : List InteractionRouteSource}

/-- Selecting a class keeps every source at most once. -/
lemma nodup_selectClass (sourceClass : InteractionRouteSourceClass) (ss : List InteractionRouteSource)
    (h : (sel.map incarnation).Nodup) : ((selectClass sourceClass ss sel).map incarnation).Nodup := by
  unfold selectClass
  induction ss generalizing sel with
  | nil => exact h
  | cons src ss ih =>
    rw [foldl_cons]
    refine ih ?_
    split
    · rename_i hn
      rw [map_append, nodup_append_comm]
      refine nodup_cons.mpr ⟨fun hm => hn.2 ?_, h⟩
      obtain ⟨chosen, hc, he⟩ := mem_map.mp hm
      exact any_eq_true.mpr ⟨chosen, hc, decide_eq_true he⟩
    · exact h

variable (rq : InteractionRouteRequest) (ss : List InteractionRouteSource)

lemma nodup_selectBrowser (h : (sel.map incarnation).Nodup) :
    ((selectBrowser rq ss sel).map incarnation).Nodup := by
  unfold selectBrowser
  split
  · exact h
  · split
    · exact h
    · split
      · exact h
      · rename_i hn
        rw [map_append, nodup_append_comm]
        refine nodup_cons.mpr ⟨fun hm => hn ?_, h⟩
        obtain ⟨chosen, hc, he⟩ := mem_map.mp hm
        exact any_eq_true.mpr ⟨chosen, hc, decide_eq_true he⟩

lemma nodup_selectSources : ((selectSources rq ss).map incarnation).Nodup := by
  have hn : (([] : List InteractionRouteSource).map incarnation).Nodup := nodup_nil
  unfold selectSources
  dsimp only
  split <;> split
  · exact nodup_selectClass _ _ (nodup_selectBrowser _ _ (nodup_selectClass _ _ hn))
  · exact nodup_selectClass _ _ (nodup_selectClass _ _ hn)
  · exact nodup_selectBrowser _ _ hn
  · exact hn

namespace ConsumerRouteState

variable {st : ConsumerRouteState} {pol : InteractionRoutePolicy} {nowMs : Nat}

lemma source_reroute (st : ConsumerRouteState) (pol : InteractionRoutePolicy)
    (sel : List SourceIncarnation) (nowMs : Nat) (inc : SourceIncarnation) :
    (st.reroute pol sel nowMs).state.source inc =
      if st.routeChanged pol sel ∧ inc ∉ sel then .attach
      else st.source inc := by
  unfold reroute
  by_cases hc : st.routeChanged pol sel
  · rw [if_pos hc]
    refine Eq.trans (source_transitionSources _ _) ?_
    by_cases hs : inc ∈ sel
    · rw [if_pos hs, if_neg fun h => h.2 hs]
      rfl
    · rw [if_neg hs, if_pos ⟨hc, hs⟩]
  · simp [hc]

/-- The state of every source in the middle of a resolution. -/
def view (r : Routing) (incarnation : SourceIncarnation) : ConsumerSourceState :=
  r.state.source incarnation

/-- **A frame**, for a source that is selected. -/
theorem source_collect_of_mem (hs : (sel.map incarnation).Nodup)
    {src : InteractionRouteSource} (hsr : src ∈ sel) :
    (st.collect pol sel nowMs).state.source src.incarnation =
      ((st.source src.incarnation).read src).reconcile := by
  have hm : src.incarnation ∈ sel.map incarnation := mem_map_of_mem hsr
  have hr := @foldl_local_of_mem _ _ _ _ _ (readPublication nowMs) view
    incarnation (fun src st => st.read src)
    source_readPublication _ hs _ hsr
    (st.reroute pol (sel.map incarnation) nowMs)
  have hre := @foldl_local_of_mem _ _ _ _ _ (reconcileSnapshot nowMs) view id
    (fun _ st => st.reconcile) source_reconcileSnapshot
    (sel.map incarnation) (by simpa using hs) _ hm
    (sel.foldl (readPublication nowMs) (st.reroute pol (sel.map incarnation) nowMs))
  refine Eq.trans hre (congrArg reconcile (Eq.trans hr ?_))
  refine congrArg (fun st => read st src) ?_
  refine Eq.trans (source_reroute ..) ?_
  simp [hm]

/-- **A frame**, for a source that is not. -/
theorem source_collect_of_notMem {inc : SourceIncarnation} (h : inc ∉ sel.map incarnation) :
    (st.collect pol sel nowMs).state.source inc =
      if st.routeChanged pol (sel.map incarnation) then .attach
      else st.source inc := by
  have hr := @foldl_local_of_notMem _ _ _ _ _ (readPublication nowMs) view
    incarnation (fun src st => st.read src)
    source_readPublication _ _ h
    (st.reroute pol (sel.map incarnation) nowMs)
  have hre := @foldl_local_of_notMem _ _ _ _ _ (reconcileSnapshot nowMs) view id
    (fun _ st => st.reconcile) source_reconcileSnapshot
    (sel.map incarnation) inc (by simpa using h)
    (sel.foldl (readPublication nowMs) (st.reroute pol (sel.map incarnation) nowMs))
  refine Eq.trans hre (Eq.trans hr (Eq.trans (source_reroute ..) ?_))
  simp [h]

end ConsumerRouteState

end Hypercolor.Input
