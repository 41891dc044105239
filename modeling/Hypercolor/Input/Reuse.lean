import Hypercolor.Input.Holds

/-!
# Reuse keys

The key of a routed interaction carries a generation that advances with every resolution that
changes something or delivers an event. A resolution after one that delivered events, which itself
brings nothing, keeps the generation: its key is the one of the delivery, its events are none.

**`reuse_keys_sound`**: equal keys mean equal interactions in every run in which a resolution that
brings nothing (`QuietFrame`) only follows one that delivered no events and no motion. What keeps
the generation is exactly a quiet resolution (`quiet_of_not_bumped`), and a quiet one leaves what is
observed alone.
-/

namespace Hypercolor.Input

open Lib List Routing InteractionRouteSource ConsumerSourceState ConsumerRouteState

/-! ## Quiet turns -/

variable {e : TimedInputEvent} {src : InteractionRouteSource}

namespace ConsumerSourceState

/-- An event the consumer of a source does not get to see. -/
def IgnoresEvent (state : ConsumerSourceState) (event : TimedInputEvent) : Prop :=
  event.repeatCount = 0 ∨ ∃ edge, eventControl event = some edge ∧
    (edge.1 ∈ state.quarantined ∨ edge.2 ≠ .pressed ∧ edge.1 ∉ state.observed)

/-- Events the consumer of a source does not get to see. -/
def Ignores : ConsumerSourceState → List TimedInputEvent → Prop
  | _, [] => True
  | state, event :: events => state.IgnoresEvent event ∧ (state.route event).Ignores events

/-- A read that brings nothing: no loss, no motion and no count, and no event that is seen. -/
def QuietRead (state : ConsumerSourceState) (source : InteractionRouteSource) : Prop :=
  let publication := source.read state.cursor
  state.cursor = u64Max ∨ publication.events.dropped = 0 ∧
    publication.interactionTransients.deltaSince state.interactionTransients = default ∧
      state.Ignores publication.captured

/-- A snapshot that brings nothing: it holds what is observed, what else it holds is quarantined,
and its generation is known. -/
structure QuietSnapshot (state : ConsumerSourceState) : Prop where
  known : state.latestSnapshot.map InteractionData.generation = state.lastInteractionGeneration
  observed : ∀ control ∈ state.observed, state.holds control
  held : ∀ control, state.holds control → control ∈ state.observed ∨ control ∈ state.quarantined
  absent : state.latestSnapshot = none → state.quarantined = ∅

variable {st : ConsumerSourceState}

/-- An ignored event leaves what is observed alone. -/
lemma observed_route_of_ignores (h : st.IgnoresEvent e) : (st.route e).observed = st.observed := by
  unfold route
  rcases h with hr | ⟨⟨c, edge⟩, hc, hs⟩
  · rw [if_pos hr]
  · split
    · rfl
    · rw [hc]
      dsimp only
      rcases hs with hq | ⟨he, hob⟩
      · rw [if_pos hq]
        split <;> rfl
      · split
        · split <;> rfl
        · cases edge with
          | pressed => exact absurd rfl he
          | repeated | released => rfl

lemma observed_routes_of_ignores (cap : List TimedInputEvent) (h : st.Ignores cap) :
    (cap.foldl route st).observed = st.observed := by
  induction cap generalizing st with
  | nil => rfl
  | cons e cap ih =>
    rw [foldl_cons, ih h.2, observed_route_of_ignores h.1]

/-- What is ignored depends on what is observed and quarantined alone. -/
lemma ignores_congr {cap : List TimedInputEvent} (h : st.Ignores cap)
    {o : ConsumerSourceState} (hob : o.observed = st.observed)
    (hq : o.quarantined = st.quarantined) : o.Ignores cap := by
  induction cap generalizing st o with
  | nil => trivial
  | cons e cap ih =>
    have hi : o.IgnoresEvent e := by
      unfold IgnoresEvent
      rw [hob, hq]
      exact h.1
    refine ⟨hi, ih h.2 ?_ ?_⟩
    · rw [observed_route_of_ignores hi, observed_route_of_ignores h.1, hob]
    · ext control
      rw [mem_quarantined_route, mem_quarantined_route, hq]

/-- **A quiet frame** leaves what is observed alone and shows no motion. -/
theorem observed_of_quiet (hre : st.QuietRead src) (hs : (st.read src).QuietSnapshot) :
    (st.read src).reconcile.observed = st.observed ∧
        (st.read src).reconcile.transientDelta = default := by
  have hm : (st.read src).missing = [] := by
    refine eq_nil_iff_forall_not_mem.mpr fun c hme => ?_
    obtain ⟨hob, hh⟩ := mem_missing.mp hme
    exact hh (hs.observed c hob)
  have hr : (st.read src).reconcile.observed = (st.read src).observed ∧
      (st.read src).reconcile.transientDelta = (st.read src).transientDelta := by
    unfold reconcile
    rw [hm]
    dsimp only [foldl_nil]
    split
    · exact ⟨rfl, rfl⟩
    · rename_i snap _
      obtain ⟨q, hf, -⟩ := foldl_quarantineHeld (snapshotControls snap) (st.read src)
      rw [applySnapshot, hf]
      exact ⟨rfl, rfl⟩
  rw [hr.1, hr.2]
  unfold read
  rcases hre with ha | ⟨hdr, hd, hi⟩
  · rw [if_pos ha]
    exact ⟨rfl, rfl⟩
  · split
    · exact ⟨rfl, rfl⟩
    · rw [if_neg (by omega)]
      refine ⟨observed_routes_of_ignores _ (ignores_congr hi rfl rfl), ?_⟩
      obtain ⟨obs, q, hrt⟩ := routes_frame (src.read st.cursor).captured
        ({ st.advance src with latestSnapshot :=
            (src.read st.cursor).snapshot }.applyInteractionTransients
            (src.read st.cursor).interactionTransients)
      rw [hrt]
      exact hd

end ConsumerSourceState

/-! ## What does not change anything is quiet -/

namespace Routing

variable {nowMs : Nat} {r : Routing} {inc : SourceIncarnation}

@[simp] theorem changed_push (r : Routing) (e : TimedInputEvent) : (r.push e).changed = r.changed := rfl

@[simp] theorem changed_change (r : Routing) : r.change.changed := rfl

@[simp] theorem changed_setSource (r : Routing) (st : ConsumerSourceState) :
    (r.setSource inc st).changed = r.changed := rfl

@[simp] theorem changed_invalid (r : Routing) : r.invalid.changed = r.changed := rfl

/-- An event that changes nothing is ignored. -/
lemma ignores_of_routeEvent (h : (r.routeEvent inc e).changed = false) :
    r.changed = false ∧ (r.state.source inc).IgnoresEvent e := by
  unfold routeEvent at h
  unfold ConsumerSourceState.IgnoresEvent
  by_cases hr : e.repeatCount = 0
  · rw [if_pos hr] at h
    exact ⟨h, .inl hr⟩
  rw [if_neg hr] at h
  cases hc : eventControl e with
  | none => simp [hc] at h
  | some edge =>
    obtain ⟨c, edge⟩ := edge
    rw [hc] at h
    dsimp only at h
    by_cases hq : c ∈ (r.state.source inc).quarantined
    · rw [if_pos hq] at h
      refine ⟨?_, .inr ⟨_, rfl, .inl hq⟩⟩
      split at h
      · exact h
      · exact h
    · rw [if_neg hq] at h
      cases edge with
      | pressed => simp at h
      | repeated | released =>
        dsimp only at h
        split at h
        · simp at h
        · rename_i hob
          exact ⟨h, .inr ⟨_, rfl, .inr ⟨nofun, hob⟩⟩⟩

lemma ignores_of_routeEvents (cap : List TimedInputEvent)
    (h : (cap.foldl (routeEvent inc) r).changed = false) :
    r.changed = false ∧ (r.state.source inc).Ignores cap := by
  induction cap generalizing r with
  | nil => exact ⟨h, trivial⟩
  | cons e cap ih =>
    obtain ⟨hn, hre⟩ := ih h
    obtain ⟨hr, he⟩ := ignores_of_routeEvent hn
    rw [source_routeEvent, if_pos rfl] at hre
    exact ⟨hr, he, hre⟩

/-- **A read that changes nothing is quiet.** -/
theorem quiet_of_readPublication (h : (r.readPublication nowMs src).changed = false) :
    r.changed = false ∧ (r.state.source src.incarnation).QuietRead src := by
  unfold readPublication at h
  dsimp only at h
  split at h
  · rename_i ha
    exact ⟨h, .inl ha⟩
  · split at h
    · simp at h
    · obtain ⟨hre, hi⟩ := ignores_of_routeEvents _ h
      obtain ⟨hr, hd⟩ := Bool.or_eq_false_iff.mp hre
      rw [source_recordTransientDelta, source_setSource, if_pos rfl] at hi
      refine ⟨hr, .inr ⟨by omega, ?_, ?_⟩⟩
      · exact of_not_not (of_decide_eq_false hd)
      · exact ignores_congr hi rfl rfl

/-- A control that is dropped changes something. -/
lemma unobserved_of_dropMissing {c : InteractionControl}
    (h : (r.dropMissing nowMs inc c).changed = false) :
    r.changed = false ∧ c ∉ (r.state.source inc).observed := by
  unfold dropMissing at h
  dsimp only at h
  split at h
  · rename_i hn
    exact ⟨h, AList.lookup_eq_none.mp hn⟩
  · simp at h

lemma changed_dropMissings (cs : List InteractionControl)
    (h : (cs.foldl (dropMissing nowMs inc) r).changed = false) : r.changed = false ∧
      ∀ c ∈ cs.head?, c ∉ (r.state.source inc).observed := by
  induction cs generalizing r with
  | nil => exact ⟨h, nofun⟩
  | cons f cs ih =>
    obtain ⟨hr, hf⟩ := unobserved_of_dropMissing (ih h).1
    refine ⟨hr, fun c hc => ?_⟩
    obtain rfl := Option.mem_some_iff.mp hc
    exact hf

/-- A held control that is quarantined anew changes something. -/
lemma known_of_quarantineHelds (cs : List InteractionControl)
    (h : (cs.foldl (quarantineHeld inc) r).changed = false) :
    r.changed = false ∧ ∀ c ∈ cs, c ∈ (r.state.source inc).observed ∨
      c ∈ (r.state.source inc).quarantined := by
  induction cs generalizing r with
  | nil => exact ⟨h, nofun⟩
  | cons f cs ih =>
    obtain ⟨hn, hr⟩ := ih h
    unfold quarantineHeld at hn hr
    dsimp only at hn hr
    split at hn
    · simp at hn
    · rename_i hk
      rw [if_neg hk] at hr
      refine ⟨hn, fun c hc => ?_⟩
      rcases mem_cons.mp hc with rfl | hc
      · tauto
      · exact hr c hc

/-- **A reconciliation that changes nothing is quiet.** -/
theorem quiet_of_reconcileSnapshot (h : (r.reconcileSnapshot nowMs inc).changed = false) :
    r.changed = false ∧ (r.state.source inc).QuietSnapshot := by
  have hp : ∀ r' : Routing, r' = (r.state.source inc).missing.foldl
      (dropMissing nowMs inc) r → r'.changed = false →
        r.changed = false ∧ (r.state.source inc).missing = [] := by
    rintro _ rfl hc
    obtain ⟨hr, hfs⟩ := changed_dropMissings _ hc
    refine ⟨hr, head?_eq_none_iff.mp (Option.eq_none_iff_forall_not_mem.mpr fun c hhe => ?_)⟩
    exact hfs c hhe (mem_missing.mp (mem_of_mem_head? hhe)).1
  have hob : (r.state.source inc).missing = [] →
      ∀ c ∈ (r.state.source inc).observed, (r.state.source inc).holds c := by
    intro hm c hct
    by_contra hh
    exact not_mem_nil (hm ▸ mem_missing.mpr ⟨hct, hh⟩)
  unfold reconcileSnapshot at h
  dsimp only at h
  split at h
  · rename_i hs
    have hf := h
    simp only [forgetSnapshot, Bool.or_eq_false_iff] at hf
    obtain ⟨hr, hm⟩ := hp _ rfl hf.1.1
    rw [hm, foldl_nil] at hf
    refine ⟨hr, ?_, hob hm, ?_, fun _ => ?_⟩
    · rw [hs]
      exact (Option.isSome_eq_false_iff.mp hf.1.2 |> Option.isNone_iff_eq_none.mp).symm
    · intro c hh
      rw [holds, hs] at hh
      cases hh
    · exact of_not_not (of_decide_eq_false hf.2)
  · rename_i snap hs
    obtain ⟨hfl, hk⟩ := known_of_quarantineHelds _ h
    obtain ⟨hc, hg⟩ := Bool.or_eq_false_iff.mp hfl
    obtain ⟨hr, hm⟩ := hp _ rfl hc
    rw [hm, foldl_nil] at hk hg
    refine ⟨hr, ?_, hob hm, ?_, fun ha => ?_⟩
    · rw [hs]
      exact (of_not_not (of_decide_eq_false hg)).symm
    · intro c hh
      obtain ⟨o, hoh, hhl⟩ := holds_iff.mp hh
      rw [hs] at hoh
      obtain rfl := Option.some_inj.mp hoh
      exact hk c (snapshotHolds_iff.mp hhl)
    · rw [hs] at ha
      cases ha

end Routing

/-! ## Quiet frames -/

namespace Routing

variable {nowMs : Nat} {inc : SourceIncarnation}

/-- The generation of the output, which nothing but the end of a resolution advances. -/
def generation (r : Routing) : Nat := r.state.outputGeneration

@[simp] theorem generation_pushRelease (r : Routing) (c : InteractionControl)
    (e : TimedInputEvent) : (r.pushRelease c e).generation = r.generation := by
  rw [generation, pushRelease_state, generation]

lemma generation_foldl {α : Type} {step : Routing → α → Routing}
    (hs : ∀ r a, (step r a).generation = r.generation) (l : List α) (r : Routing) :
    (l.foldl step r).generation = r.generation := by
  induction l generalizing r with
  | nil => rfl
  | cons a l ih => rw [foldl_cons, ih, hs]

lemma generation_routeEvent (r : Routing) (e : TimedInputEvent) :
    (r.routeEvent inc e).generation = r.generation := by
  unfold routeEvent
  split
  · rfl
  · split
    · rfl
    · dsimp only
      split
      · split <;> rfl
      · split
        · rfl
        · split <;> rfl
        · split
          · exact generation_pushRelease _ _ _
          · rfl

variable (r : Routing) (inc : SourceIncarnation)

lemma generation_departSource : (r.departSource nowMs inc).generation = r.generation := by
  unfold departSource
  split
  · rfl
  · rw [generation, synthesizeRemovedSource_state]
    rfl

lemma generation_arriveSource : (r.arriveSource inc).generation = r.generation := by
  unfold arriveSource
  split <;> rfl

lemma generation_readPublication (r : Routing) (src : InteractionRouteSource) :
    (r.readPublication nowMs src).generation = r.generation := by
  unfold readPublication
  dsimp only
  split
  · rfl
  · split
    · unfold resetSourceAfterLoss
      split
      · rfl
      · change (synthesizeRemovedSource _ _ _).generation = _
        rw [generation, synthesizeRemovedSource_state]
        rfl
    · rw [generation_foldl generation_routeEvent]
      rfl

lemma generation_reconcileSnapshot : (r.reconcileSnapshot nowMs inc).generation = r.generation := by
  have hd : ∀ (r : Routing) (c : InteractionControl),
      (r.dropMissing nowMs inc c).generation = r.generation := by
    intro r c
    unfold dropMissing
    dsimp only
    split
    · rfl
    · exact generation_pushRelease _ _ _
  have hq : ∀ (r : Routing) (c : InteractionControl),
      (r.quarantineHeld inc c).generation = r.generation := by
    intro r c
    unfold quarantineHeld
    dsimp only
    split <;> rfl
  unfold reconcileSnapshot
  dsimp only
  split
  · exact generation_foldl hd _ r
  · exact (generation_foldl hq _ _).trans (generation_foldl hd _ r)

end Routing

/-- A resolution that brings nothing. -/
def QuietFrame (state : ConsumerRouteState) (policy : InteractionRoutePolicy)
    (selected : List InteractionRouteSource) : Prop :=
  state.routeChanged policy (selected.map InteractionRouteSource.incarnation) = false ∧
    ∀ source ∈ selected, (state.source source.incarnation).QuietRead source ∧
      ((state.source source.incarnation).read source).QuietSnapshot

namespace ConsumerRouteState

variable {st : ConsumerRouteState} {pol : InteractionRoutePolicy}
  {selected : List InteractionRouteSource} {nowMs : Nat}

lemma generation_collect : (st.collect pol selected nowMs).state.outputGeneration =
    st.outputGeneration := by
  have hr : ∀ sel, (st.reroute pol sel nowMs).generation = st.outputGeneration := by
    intro sel
    unfold reroute
    split
    · exact (generation_foldl generation_arriveSource _ _).trans
        (generation_foldl generation_departSource _ _)
    · rfl
  exact (generation_foldl generation_reconcileSnapshot _ _).trans
    ((generation_foldl generation_readPublication _ _).trans (hr _))

/-- Whether a resolution advances the generation. -/
def bumped (state : ConsumerRouteState) (policy : InteractionRoutePolicy)
    (selected : List InteractionRouteSource) (nowMs : Nat) : Bool :=
  state.routeChanged policy (selected.map InteractionRouteSource.incarnation) ||
    (state.collect policy selected nowMs).changed || (state.collect policy selected nowMs).events ≠ []

lemma generation_resolveInto : (st.resolveInto pol selected nowMs).1.outputGeneration =
      if st.bumped pol selected nowMs then st.outputGeneration + 1
      else st.outputGeneration := by
  have hg := @generation_collect st pol selected nowMs
  unfold resolveInto bumped
  dsimp only
  rw [hg]

/-- **What keeps the generation is quiet.** -/
theorem quiet_of_not_bumped (hse : (selected.map incarnation).Nodup)
    (h : st.bumped pol selected nowMs = false) :
    QuietFrame st pol selected ∧ (st.collect pol selected nowMs).events = [] := by
  obtain ⟨hf, he⟩ := Bool.or_eq_false_iff.mp h
  obtain ⟨hrt, hc⟩ := Bool.or_eq_false_iff.mp hf
  obtain ⟨hre, hrc⟩ := @foldl_local_forall _ _ _ _ _ (reconcileSnapshot nowMs) view
    id (fun _ st => st.reconcile) (fun r => r.changed = false)
    (fun _ st => st.QuietSnapshot) source_reconcileSnapshot
    (fun r inc hc => quiet_of_reconcileSnapshot hc)
    (selected.map incarnation) (by simpa using hse) _ hc
  obtain ⟨-, hrd⟩ := @foldl_local_forall _ _ _ _ _ (readPublication nowMs) view
    incarnation (fun src st => st.read src)
    (fun r => r.changed = false) (fun src st => st.QuietRead src)
    source_readPublication
    (fun r src hc => quiet_of_readPublication hc) selected hse _ hre
  have hr : ∀ inc, view (st.reroute pol (selected.map incarnation) nowMs) inc = st.source inc := by
    intro inc
    refine (source_reroute ..).trans (if_neg fun hg => ?_)
    rw [hrt] at hg
    exact Bool.false_ne_true hg.1
  refine ⟨⟨hrt, fun src hs => ⟨?_, ?_⟩⟩, of_not_not (of_decide_eq_false he)⟩
  · rw [← hr]
    exact hrd src hs
  · have hl := @foldl_local_of_mem _ _ _ _ _ (readPublication nowMs) view
      incarnation (fun src st => st.read src)
      source_readPublication _ hse _ hs
      (st.reroute pol (selected.map incarnation) nowMs)
    have hq := hrc _ (mem_map_of_mem hs)
    rw [← hr, ← hl]
    exact hq

/-- **A quiet resolution** leaves what is observed alone, and nothing moves. -/
theorem observed_of_quietFrame (hse : (selected.map incarnation).Nodup)
    (h : QuietFrame st pol selected) (inc : SourceIncarnation) :
    ((st.resolveInto pol selected nowMs).1.source inc).observed = (st.source inc).observed ∧
      (inc ∈ selected.map incarnation →
          ((st.resolveInto pol selected nowMs).1.source inc).transientDelta =
          default) := by
  rw [source_resolveInto]
  by_cases hm : inc ∈ selected.map incarnation
  · obtain ⟨src, hs, rfl⟩ := mem_map.mp hm
    obtain ⟨hr, hsn⟩ := h.2 src hs
    obtain ⟨hob, hd⟩ := observed_of_quiet hr hsn
    rw [source_collect_of_mem hse hs]
    exact ⟨hob, fun _ => hd⟩
  · rw [source_collect_of_notMem hm, h.1]
    exact ⟨rfl, fun hm' => absurd hm' hm⟩

end ConsumerRouteState

/-! ## What an interaction shows -/

namespace InteractionData

variable (interaction : InteractionData)

/-- An interaction without its count of dropped events. -/
def routed : InteractionData :=
  { interaction with batch := { interaction.batch with droppedEvents := 0 } }

/-- An interaction that carries no events and no motion. -/
def Still : Prop :=
  interaction.batch.events = [] ∧ interaction.batch.motion = default ∧
    interaction.batch.windowSecs = some 0

instance (interaction : InteractionData) : Decidable interaction.Still :=
  inferInstanceAs (Decidable (_ ∧ _ ∧ _))

/-- The part of an interaction that is held. -/
def heldPart : InteractionData where
  keyboard := ⟨interaction.keyboard.pressedKeys, []⟩
  mouse := interaction.mouse
  device := interaction.device
  batch := default
  generation := 0

end InteractionData

open InteractionData

/-- What a source adds to the held part depends on what it observes and its snapshot. -/
lemma heldPart_addSource {ia o : InteractionData} {st st' : ConsumerSourceState}
    (h : ia.heldPart = o.heldPart) (hob : st.observed = st'.observed)
    (hs : st.latestSnapshot = st'.latestSnapshot) :
    (addSource ia st).heldPart = (addSource o st').heldPart := by
  have hk : ia.keyboard.pressedKeys = o.keyboard.pressedKeys := congrArg (·.keyboard.pressedKeys) h
  have hm : ia.mouse = o.mouse := congrArg (·.mouse) h
  have hd : ia.device = o.device := congrArg (·.device) h
  unfold addSource
  rw [hs]
  split
  · exact h
  · simp only [heldPart, hob, hk, hm, hd]

lemma heldPart_addSources {κ : Type} (src src' : κ → ConsumerSourceState) (sel : List κ)
    {ia o : InteractionData} (h : ia.heldPart = o.heldPart)
    (hs : ∀ k ∈ sel, (src k).observed = (src' k).observed ∧
      (src k).latestSnapshot = (src' k).latestSnapshot) : ((sel.map src).foldl addSource ia).heldPart =
      ((sel.map src').foldl addSource o).heldPart := by
  induction sel generalizing ia o with
  | nil => exact h
  | cons k sel ih =>
    obtain ⟨hob, hsn⟩ := hs k mem_cons_self
    exact ih (heldPart_addSource h hob hsn)
      fun k hk => hs k (mem_cons_of_mem _ hk)

/-- Sources add no recent key, no scrolling and no events. -/
lemma addSources_frame (states : List ConsumerSourceState) (ia : InteractionData) :
    (states.foldl addSource ia).keyboard.recentKeys = ia.keyboard.recentKeys ∧
      (states.foldl addSource ia).batch.scroll = ia.batch.scroll := by
  induction states generalizing ia with
  | nil => exact ⟨rfl, rfl⟩
  | cons st states ih =>
    have hs : (addSource ia st).keyboard.recentKeys = ia.keyboard.recentKeys ∧
        (addSource ia st).batch.scroll = ia.batch.scroll := by
      unfold addSource
      split <;> exact ⟨rfl, rfl⟩
    rw [foldl_cons, (ih _).1, (ih _).2, hs.1, hs.2]
    exact ⟨rfl, rfl⟩

/-- Without motion in the sources the interaction has none. -/
lemma addSources_motionless (states : List ConsumerSourceState)
    (h : ∀ st ∈ states, st.transientDelta = default) {ia : InteractionData}
    (hmo : ia.batch.motion = default) (hw : ia.batch.windowSecs = some 0) :
    (states.foldl addSource ia).batch.motion = default ∧
      (states.foldl addSource ia).batch.windowSecs = some 0 := by
  induction states generalizing ia with
  | nil => exact ⟨hmo, hw⟩
  | cons st states ih =>
    have hd := h st mem_cons_self
    have hs : (addSource ia st).batch.motion = default ∧ (addSource ia st).batch.windowSecs = some 0 := by
      unfold addSource
      split
      · exact ⟨hmo, hw⟩
      · simp only [hmo, hw, hd]
        decide +kernel
    exact ih (fun st hm => h st (mem_cons_of_mem _ hm)) hs.1 hs.2

/-- The held sources of a state, before the events. -/
def heldSources (state : ConsumerRouteState) (selection : List SourceIncarnation) : InteractionData :=
  let held := (selection.map state.source).foldl addSource default
  { held with mouse := { held.mouse with down := held.mouse.buttons ≠ [] } }

/-- Without events an interaction is what its sources hold. -/
lemma buildInteraction_nil (st : ConsumerRouteState) (sel : List SourceIncarnation) :
    st.buildInteraction sel [] = { heldSources st sel with
        batch := { (heldSources st sel).batch with events := [] } } := rfl

/-- **A still interaction** shows the held part alone. -/
theorem routed_of_still {st : ConsumerRouteState} {sel : List SourceIncarnation}
    {es : List TimedInputEvent} {ia : InteractionData} {g droppedEvents : Nat}
    (hi : ia = { st.buildInteraction sel es with
      generation := g
      batch := { (st.buildInteraction sel es).batch with droppedEvents } }) (hst : ia.Still) : ia.routed =
      { (heldSources st sel).heldPart with generation := g } := by
  have he : es = [] := by
    have := hst.1
    rw [hi] at this
    exact this
  subst he
  obtain ⟨-, hm, hw⟩ := hst
  rw [hi, buildInteraction_nil] at hm hw
  rw [hi, buildInteraction_nil]
  obtain ⟨hr, hs⟩ := addSources_frame (sel.map st.source) default
  have hr : (heldSources st sel).keyboard.recentKeys = [] := hr
  have hs : (heldSources st sel).batch.scroll = default := hs
  have hm : (heldSources st sel).batch.motion = default := hm
  have hw : (heldSources st sel).batch.windowSecs = some 0 := hw
  simp only [routed, heldPart, hs, hm, hw, ← hr]
  rfl

/-! ## Runs -/

/-- Snapshots by source and generation: equal generations of one source mean equal snapshots. -/
abbrev Snapshots := SourceIncarnation → Nat → InteractionData

/-- A source publishes these snapshots. -/
def InteractionRouteSource.Publishes (world : Snapshots) (source : InteractionRouteSource) : Prop :=
  ∀ cursor snapshot, ((source.read cursor).snapshot = some snapshot ∨
    (source.recovery cursor).snapshot = some snapshot) →
      snapshot = world source.incarnation snapshot.generation

/-- The snapshots a consumer keeps are these. -/
def Versioned (world : Snapshots) (state : ConsumerRouteState) : Prop :=
  ∀ incarnation snapshot, (state.source incarnation).latestSnapshot = some snapshot →
    snapshot = world incarnation snapshot.generation

/-- The condition on a resolution: one that brings nothing follows one that carried no events and no
motion. The sources publish the snapshots of the world. -/
def SilentFrame (consumer : ConsumerIncarnation) (world : Snapshots) (session : RouterSession)
    (request : InteractionRouteRequest) (selected : List InteractionRouteSource) (_ : Nat) : Prop :=
  (∀ source ∈ selected, source.Publishes world) ∧
    (QuietFrame (session.state consumer) request.policy selected →
      ∀ last ∈ session.outputs.getLast?, last.interaction.Still)

lemma ConsumerSourceState.latestSnapshot_frame (st : ConsumerSourceState) (src : InteractionRouteSource) :
    (st.read src).reconcile.latestSnapshot = (src.read st.cursor).snapshot ∨
      (st.read src).reconcile.latestSnapshot = (src.recovery u64Max).snapshot := by
  obtain ⟨obs, quarantined, hr, -⟩ := (st.read src).reconcile_spec
  rw [hr]
  change (st.read src).latestSnapshot = _ ∨ (st.read src).latestSnapshot = _
  unfold read
  dsimp only
  split
  · exact .inl rfl
  · split
    · exact .inr rfl
    · obtain ⟨obs, quarantined, hrt⟩ := routes_frame (src.read st.cursor).captured
        ({ st.advance src with latestSnapshot :=
            (src.read st.cursor).snapshot }.applyInteractionTransients
            (src.read st.cursor).interactionTransients)
      rw [hrt]
      exact .inl rfl

variable {world : Snapshots}

variable {pol : InteractionRoutePolicy} {selected : List InteractionRouteSource} {nowMs : Nat}

lemma Versioned.resolveInto {st : ConsumerRouteState} (h : Versioned world st)
    (hse : (selected.map incarnation).Nodup) (hp : ∀ src ∈ selected, src.Publishes world) :
    Versioned world (st.resolveInto pol selected nowMs).1 := by
  intro inc snap hs
  rw [source_resolveInto] at hs
  by_cases hm : inc ∈ selected.map incarnation
  · obtain ⟨src, hsr, rfl⟩ := mem_map.mp hm
    rw [source_collect_of_mem hse hsr] at hs
    rcases latestSnapshot_frame (st.source src.incarnation) src with
      hr | hre
    · exact hp src hsr _ snap (.inl (hr.symm.trans hs))
    · exact hp src hsr _ snap (.inr (hre.symm.trans hs))
  · rw [source_collect_of_notMem hm] at hs
    split at hs
    · cases hs
    · exact h inc snap hs

/-- What is known of an output of a consumer in this state: the state it was built from, which has
observed the same since where the generation is still the same. -/
structure Recorded (world : Snapshots) (state : ConsumerRouteState) (output : RoutedInteraction) :
    Prop where
  built : ∃ (past : ConsumerRouteState) (selection : List SourceIncarnation)
    (events : List TimedInputEvent) (droppedEvents : Nat),
    output.interaction = { past.buildInteraction selection events with
      generation := output.reuseKey.outputGeneration
      batch := { (past.buildInteraction selection events).batch with droppedEvents } } ∧
    output.reuseKey.sources.map (fun source => (source.incarnation, source.interactionGeneration)) =
      selection.map (fun incarnation => (incarnation,
        (past.source incarnation).latestSnapshot.map InteractionData.generation)) ∧
    Versioned world past ∧
    (output.reuseKey.outputGeneration = state.outputGeneration →
      ∀ incarnation, (past.source incarnation).observed = (state.source incarnation).observed)
  generation : output.reuseKey.outputGeneration ≤ state.outputGeneration

/-- The outputs of a consumer, told apart by their keys. -/
structure KeysTell (consumer : ConsumerIncarnation) (world : Snapshots) (session : RouterSession) :
    Prop where
  versioned : Versioned world (session.state consumer)
  recorded : ∀ output ∈ session.outputs, Recorded world (session.state consumer) output
  still : ∀ output ∈ session.outputs,
    output.reuseKey.outputGeneration = (session.state consumer).outputGeneration →
      output.interaction.Still ∨ session.outputs.getLast? = some output
  tells : session.outputs.Pairwise fun earlier later =>
    earlier.reuseKey = later.reuseKey → earlier.interaction.routed = later.interaction.routed

/-- A recorded output stays recorded. -/
lemma Recorded.resolveInto {st : ConsumerRouteState} {o : RoutedInteraction}
    (h : Recorded world st o) (hse : (selected.map incarnation).Nodup) :
    Recorded world (st.resolveInto pol selected nowMs).1 o := by
  obtain ⟨⟨past, sel, events, droppedEvents, hi, hs, hv, hob⟩, hg⟩ := h
  have hn := @ConsumerRouteState.generation_resolveInto st pol selected nowMs
  refine ⟨⟨past, sel, events, droppedEvents, hi, hs, hv, ?_⟩, ?_⟩
  · intro hsa inc
    cases hb : st.bumped pol selected nowMs with
    | true =>
      rw [hb, if_pos rfl] at hn
      omega
    | false =>
      rw [hb, if_neg Bool.false_ne_true] at hn
      have hq := (quiet_of_not_bumped hse hb).1
      rw [hob (hsa.trans hn) inc, (observed_of_quietFrame hse hq inc).1]
  · rw [hn]
    split <;> omega

variable {st : ConsumerRouteState} {pol : InteractionRoutePolicy}
  {selected : List InteractionRouteSource} {nowMs : Nat}

/-- What a resolution returns is recorded. -/
lemma recorded_resolveInto (h : Versioned world (st.resolveInto pol selected nowMs).1) :
    Recorded world (st.resolveInto pol selected nowMs).1 (st.resolveInto pol selected nowMs).2 where
  built := by
    refine ⟨_, selected.map incarnation, _, _, rfl, ?_, h, fun _ _ => rfl⟩
    change map _ (map _ selected) = _
    rw [map_map, map_map]
    rfl
  generation := le_rfl

/-- **Equal keys mean equal interactions** for two recorded outputs of the generation the consumer
is at. -/
lemma Recorded.routed_eq {st : ConsumerRouteState} {ea lt : RoutedInteraction}
    (he : Recorded world st ea) (hl : Recorded world st lt) (hky : ea.reuseKey = lt.reuseKey)
    (hge : lt.reuseKey.outputGeneration = st.outputGeneration)
    (hst : ea.interaction.Still) (hst' : lt.interaction.Still) :
    ea.interaction.routed = lt.interaction.routed := by
  obtain ⟨past, selection, events, dropped, hi, hsr, hv, hob⟩ := he.built
  obtain ⟨past', selection', events', dropped', hi', hsr', hv', hob'⟩ := hl.built
  rw [routed_of_still hi hst, routed_of_still hi' hst', hky]
  rw [hky, hsr'] at hsr
  have hse : selection' = selection := by
    have := congrArg (map Prod.fst) hsr
    simpa [map_map, Function.comp_def] using this
  subst hse
  have hg : ∀ inc ∈ selection', (past'.source inc).latestSnapshot.map InteractionData.generation =
        (past.source inc).latestSnapshot.map InteractionData.generation := by
    intro inc hm
    exact (Prod.mk.inj (map_inj_left.mp hsr inc hm)).2
  have hh := heldPart_addSources past.source past'.source selection' (rfl : heldPart default = _)
    fun inc hm => ⟨?_, ?_⟩
  · have hke : (heldSources past selection').heldPart = (heldSources past' selection').heldPart := by
      have hmo := congrArg (·.mouse) hh
      have hk := congrArg (·.keyboard) hh
      have hd := congrArg (·.device) hh
      simp only [heldPart] at hmo hk hd
      simp only [heldSources, heldPart, hmo, hk, hd]
    rw [hke]
  · rw [hob (hky ▸ hge) inc, hob' hge inc]
  · have hsa := hg inc hm
    cases hs : (past.source inc).latestSnapshot with
    | none =>
      rw [hs] at hsa
      exact (Option.map_eq_none_iff.mp hsa).symm
    | some snap =>
      rw [hs] at hsa
      obtain ⟨snap', hs', hgn⟩ := Option.map_eq_some_iff.mp hsa
      rw [hs', hv _ _ hs, hv' _ _ hs', hgn]

/-- What keeps the generation is still. -/
lemma still_resolveInto (hse : (selected.map incarnation).Nodup)
    (h : st.bumped pol selected nowMs = false) :
    (st.resolveInto pol selected nowMs).2.interaction.Still := by
  obtain ⟨hq, he⟩ := quiet_of_not_bumped hse h
  have hs : stableSortEvents (st.collect pol selected nowMs).events = [] := by
    rw [he]
    rfl
  obtain ⟨hm, hw⟩ := addSources_motionless ((selected.map incarnation).map
      (st.resolveInto pol selected nowMs).1.source)
    (by
      intro src hsr
      obtain ⟨inc, hme, rfl⟩ := mem_map.mp hsr
      exact (observed_of_quietFrame hse hq inc).2 hme)
    (rfl : (default : InteractionData).batch.motion = default) rfl
  have hb : (st.resolveInto pol selected nowMs).2.interaction.batch =
      { ((st.resolveInto pol selected nowMs).1.buildInteraction
          (selected.map incarnation) []).batch with
        droppedEvents :=
          (st.resolveInto pol selected nowMs).2.interaction.batch.droppedEvents } := by
    rw [← hs]
    rfl
  rw [Still, hb]
  exact ⟨rfl, hm, hw⟩

variable {co : ConsumerIncarnation} {ss : RouterSession}

/-- **One resolution** that meets the condition. -/
theorem KeysTell.resolve (h : KeysTell co world ss) {rq : InteractionRouteRequest}
    {srcs : List InteractionRouteSource}
        (hsi : SilentFrame co world ss rq (selectSources rq srcs) nowMs) :
    KeysTell co world (ss.perform co (.resolve co rq srcs nowMs)) := by
  obtain ⟨hp, hsi⟩ := hsi
  have hse := nodup_selectSources rq srcs
  have hst := @RouterSession.state_resolve co ss rq srcs nowMs
  have hout := @RouterSession.outputs_resolve co ss rq srcs nowMs
  generalize selectSources rq srcs = selected at *
  obtain ⟨hv, hr, hs, ht⟩ := h
  generalize ss.state co = st at *
  have hg := @ConsumerRouteState.generation_resolveInto st rq.policy selected nowMs
  have hn := @recorded_resolveInto _ _ rq.policy _ nowMs (hv.resolveInto hse hp)
  -- an output of the generation reached now is still, and so is this one
  have hk : ∀ o ∈ ss.outputs, o.reuseKey.outputGeneration =
      (st.resolveInto rq.policy selected nowMs).1.outputGeneration → o.interaction.Still ∧
          (st.resolveInto rq.policy selected nowMs).2.interaction.Still := by
    intro o hou hsa
    have hle := (hr o hou).generation
    cases hb : st.bumped rq.policy selected nowMs with
    | true =>
      rw [hb, if_pos rfl] at hg
      omega
    | false =>
      rw [hb, if_neg Bool.false_ne_true] at hg
      have hq := (quiet_of_not_bumped hse hb).1
      refine ⟨?_, still_resolveInto hse hb⟩
      rcases hs o hou (hsa.trans hg) with hs | hl
      · exact hs
      · exact hsi hq o hl
  constructor
  · rw [hst]
    exact hv.resolveInto hse hp
  · rw [hst, hout]
    intro o hou
    rcases mem_append.mp hou with hou | hou
    · exact (hr o hou).resolveInto hse
    · obtain rfl := mem_singleton.mp hou
      exact hn
  · rw [hst, hout]
    intro o hou hsa
    rcases mem_append.mp hou with hou | hou
    · exact .inl (hk o hou hsa).1
    · obtain rfl := mem_singleton.mp hou
      exact .inr getLast?_concat
  · rw [hout, pairwise_append]
    refine ⟨ht, pairwise_singleton _ _, fun o hou ls hl hke => ?_⟩
    obtain rfl := mem_singleton.mp hl
    obtain ⟨hs, hs'⟩ := hk o hou (congrArg InteractionRouteReuseKey.outputGeneration hke)
    exact ((hr o hou).resolveInto hse).routed_eq hn hke rfl hs hs'

/-- What leaves the state and the outputs of a consumer alone leaves the keys alone. -/
lemma KeysTell.congr {nx : RouterSession} (h : KeysTell co world ss)
    (hst : nx.router.consumers.lookup co = ss.router.consumers.lookup co)
    (hou : nx.outputs = ss.outputs) : KeysTell co world nx := by
  have hst : nx.state co = ss.state co := by
    rw [RouterSession.state, hst]
    rfl
  obtain ⟨hv, hr, hs, ht⟩ := h
  constructor
  · rwa [hst]
  · rwa [hst, hou]
  · rwa [hst, hou]
  · rwa [hou]

/-- A consumer that has resolved nothing has no keys. -/
lemma keysTell_fresh (hs : ss.state co = default) (hou : ss.outputs = []) : KeysTell co world ss := by
  constructor
  · rw [hs]
    rintro inc snap ⟨⟩
  · rw [hou]
    exact forall_mem_nil _
  · rw [hou]
    exact forall_mem_nil _
  · rw [hou]
    exact .nil

/-- **Reuse keys are sound** in every run whose resolutions meet the condition. -/
theorem reuse_keys_sound {consumer : ConsumerIncarnation} {world : Snapshots}
    {session : RouterSession} (h : ((consumption consumer).restrict
      (AtResolutions consumer (SilentFrame consumer world))).Reachable session) :
    session.outputs.Pairwise fun earlier later => earlier.reuseKey = later.reuseKey →
        earlier.interaction.routed = later.interaction.routed := by
  suffices KeysTell consumer world session from this.tells
  refine h.invariant ?_ ?_
  · rintro session rfl
    exact keysTell_fresh rfl rfl
  · rintro session op next hs ⟨rfl, hc⟩
    cases op with
    | resolve other request sources nowMs =>
      by_cases hoh : other = consumer
      · subst hoh
        exact hs.resolve (hc rfl)
      · obtain ⟨hl, -, hou⟩ := session.perform_resolve_of_ne hoh request sources nowMs
        exact hs.congr hl hou
    | remove other nowMs =>
      by_cases hoh : other = consumer
      · subst hoh
        exact keysTell_fresh (RouterSession.state_remove nowMs) (by simp [RouterSession.perform])
      · obtain ⟨hl, -, hou⟩ := RouterSession.perform_remove_of_ne hoh nowMs
        exact hs.congr hl hou

/-- A resolution of the host source. -/
def resolveHost (read : InteractionRouteRead) (nowMs : Nat) : RouterOp :=
  .resolve 0 ⟨.host, none⟩ [hostSource 0 read] nowMs

lemma publishes_hostSource {read : InteractionRouteRead}
    (h : ∀ snap ∈ read.snapshot, snap = world ⟨.host, 0⟩ snap.generation) :
    ∀ src ∈ selectSources ⟨.host, none⟩ [hostSource 0 read], src.Publishes world := by
  change ∀ src ∈ [hostSource 0 read], _
  simp only [mem_singleton, forall_eq]
  rintro cur snap (hs | hs)
  · exact h snap hs
  · exact h snap hs

/-- The host source holds nothing in generation 0 and `a` in every later one. -/
def holdingA : Snapshots :=
  fun _ generation => holdingKeys (if generation = 0 then [] else ["a"]) generation

/-- The press of `a` is delivered, and the resolution after it has the same key and no event. -/
theorem delivery_shares_key : ∃ session, ((consumption 0).restrict (AtResolutions 0 fun _ _ selected _ =>
      ∀ source ∈ selected, source.Publishes holdingA)).Reachable session ∧
    ¬ session.outputs.Pairwise fun earlier later => earlier.reuseKey = later.reuseKey →
      earlier.interaction.routed = later.interaction.routed := by
  let attach := resolveHost (answering (holdingKeys [] 0) []) 10
  let press := resolveHost (answering (holdingKeys ["a"] 1) [keyEdge "a" .pressed 15 0]) 20
  let quiet := resolveHost (answering (holdingKeys ["a"] 1) []) 30
  refine ⟨_, .step (e := quiet) (.step (e := press) (.step (e := attach) (.init rfl)
    ⟨rfl, fun _ => publishes_hostSource ?_⟩) ⟨rfl, fun _ => publishes_hostSource ?_⟩)
    ⟨rfl, fun _ => publishes_hostSource ?_⟩, ?_⟩
  all_goals decide +kernel

/-- Two resolutions that bring nothing share their key. -/
theorem reuse_keys_sound_idle :
    let attach := resolveHost (answering (holdingKeys ["a"] 1) []) 10
    let quiet := resolveHost (answering (holdingKeys ["a"] 1) []) 20
    (RouterSession.perform 0 (RouterSession.perform 0 ⟨⟨∅⟩, [], []⟩ attach) quiet).outputs.Pairwise
      fun earlier later => earlier.reuseKey = later.reuseKey →
        earlier.interaction.routed = later.interaction.routed := by
  intro attach quiet
  refine @reuse_keys_sound _ holdingA _ (.step (e := quiet) (.step (e := attach) (.init rfl)
    ⟨rfl, fun _ => ⟨publishes_hostSource ?_, fun _ last hl => ?_⟩⟩)
    ⟨rfl, fun _ => ⟨publishes_hostSource ?_, fun _ => ?_⟩⟩)
  · decide +kernel
  · exact absurd hl (Option.not_mem_none last)
  · decide +kernel
  · decide +kernel

end Hypercolor.Input
